/-! Characters outside the alphabet are skipped, and padding that fills up a group of four ends the text. -/

set_option autoImplicit false

namespace FeatureFlags.Text.Base64

def digit? (c : Char) : Option Nat :=
  if 'A' ≤ c ∧ c ≤ 'Z' then some (c.toNat - 'A'.toNat)
  else if 'a' ≤ c ∧ c ≤ 'z' then some (c.toNat - 'a'.toNat + 26)
  else if c.isDigit then some (c.toNat - '0'.toNat + 52)
  else if c = '+' then some 62
  else if c = '/' then some 63
  else none

def groupBytes : List Nat → Option (List UInt8)
  | [] => some []
  | [a, b] => some [UInt8.ofNat (a * 4 + b / 16)]
  | [a, b, c] => some [UInt8.ofNat (a * 4 + b / 16), UInt8.ofNat (b % 16 * 16 + c / 4)]
  | [a, b, c, d] =>
      some [UInt8.ofNat (a * 4 + b / 16), UInt8.ofNat (b % 16 * 16 + c / 4),
        UInt8.ofNat (c % 4 * 64 + d)]
  | _ => none

-- Reads groups; `group` holds the digits of the open one, and `pads` counts the padding after them.
def decodeFrom? (group : List Nat) (pads : Nat) : List Char → Option (List UInt8)
  | [] => if group.isEmpty then some [] else none
  | c :: rest =>
      if c = '=' then
        if group.length < 2 then decodeFrom? group pads rest
        else if 4 ≤ group.length + pads + 1 then groupBytes group
        else decodeFrom? group (pads + 1) rest
      else match digit? c with
        | none => decodeFrom? group pads rest
        | some digit =>
            let group := group ++ [digit]
            if group.length = 4 then do
              let bytes ← groupBytes group
              let more ← decodeFrom? [] 0 rest
              some (bytes ++ more)
            else decodeFrom? group 0 rest

def decode? (text : String) : Option (List UInt8) := decodeFrom? [] 0 text.toList

end FeatureFlags.Text.Base64
