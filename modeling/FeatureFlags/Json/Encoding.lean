import FeatureFlags.Json.Reader

/-! A byte order mark decides the encoding; without one, the zero bytes among the first four do. Half of a
surrogate pair on its own is accepted in every encoding and replaced. -/

set_option autoImplicit false

namespace FeatureFlags.Json

abbrev Bytes := List UInt8

inductive Encoding where
  | utf8
  | utf16 (bigEndian : Bool)
  | utf32 (bigEndian : Bool)
deriving DecidableEq, Repr

namespace Encoding

def detect (bytes : Bytes) : Encoding × Bytes :=
  match bytes with
  | 0x00 :: 0x00 :: 0xfe :: 0xff :: rest => (.utf32 true, rest)
  | 0xff :: 0xfe :: 0x00 :: 0x00 :: rest => (.utf32 false, rest)
  | 0xfe :: 0xff :: rest => (.utf16 true, rest)
  | 0xff :: 0xfe :: rest => (.utf16 false, rest)
  | 0xef :: 0xbb :: 0xbf :: rest => (.utf8, rest)
  | a :: b :: c :: d :: _ =>
      if a = 0 then (if b = 0 then .utf32 true else .utf16 true, bytes)
      else if b = 0 then (if c = 0 ∧ d = 0 then .utf32 false else .utf16 false, bytes)
      else (.utf8, bytes)
  | [a, b] =>
      if a = 0 then (.utf16 true, bytes) else if b = 0 then (.utf16 false, bytes) else (.utf8, bytes)
  | _ => (.utf8, bytes)

def isTail (byte : UInt8) : Bool := 0x80 ≤ byte && byte < 0xc0

def tailBits (byte : UInt8) : Nat := byte.toNat - 0x80

def decodeUtf8? : Bytes → Option (List Char)
  | [] => some []
  | a :: rest =>
      if a < 0x80 then (decodeUtf8? rest).map (Char.ofNat a.toNat :: ·)
      else match rest with
        | b :: rest =>
            if 0xc2 ≤ a ∧ a < 0xe0 ∧ isTail b then
              (decodeUtf8? rest).map (Char.ofNat ((a.toNat - 0xc0) * 0x40 + tailBits b) :: ·)
            else match rest with
              | c :: rest =>
                  if 0xe0 ≤ a ∧ a < 0xf0 ∧ isTail b ∧ isTail c ∧ (a ≠ 0xe0 ∨ 0xa0 ≤ b) then
                    (decodeUtf8? rest).map (Reader.charOfCode
                      ((a.toNat - 0xe0) * 0x1000 + tailBits b * 0x40 + tailBits c) :: ·)
                  else match rest with
                    | d :: rest =>
                        if 0xf0 ≤ a ∧ a < 0xf5 ∧ isTail b ∧ isTail c ∧ isTail d ∧
                            (a ≠ 0xf0 ∨ 0x90 ≤ b) ∧ (a ≠ 0xf4 ∨ b < 0x90) then
                          (decodeUtf8? rest).map (Char.ofNat ((a.toNat - 0xf0) * 0x40000 +
                            tailBits b * 0x1000 + tailBits c * 0x40 + tailBits d) :: ·)
                        else none
                    | [] => none
              | [] => none
        | [] => none

def words16? (bigEndian : Bool) : Bytes → Option (List Nat)
  | [] => some []
  | a :: b :: rest =>
      let word := if bigEndian then a.toNat * 0x100 + b.toNat else b.toNat * 0x100 + a.toNat
      (words16? bigEndian rest).map (word :: ·)
  | [_] => none

def decodeWords16 (words : List Nat) : List Char :=
  (Text.Surrogate.joinPairs words).map Reader.charOfCode

def decodeUtf32? (bigEndian : Bool) : Bytes → Option (List Char)
  | [] => some []
  | a :: b :: c :: d :: rest =>
      let high := if bigEndian then a.toNat * 0x100 + b.toNat else d.toNat * 0x100 + c.toNat
      let low := if bigEndian then c.toNat * 0x100 + d.toNat else b.toNat * 0x100 + a.toNat
      let code := high * 0x10000 + low
      if code < 0x110000 then (decodeUtf32? bigEndian rest).map (Reader.charOfCode code :: ·)
      else none
  | _ => none

def decode? : Encoding → Bytes → Option (List Char)
  | .utf8, bytes => decodeUtf8? bytes
  | .utf16 bigEndian, bytes => (words16? bigEndian bytes).map decodeWords16
  | .utf32 bigEndian, bytes => decodeUtf32? bigEndian bytes

end Encoding

def parseBytes (bytes : Bytes) : Except ReadError Json :=
  let (encoding, content) := Encoding.detect bytes
  match encoding.decode? content with
  | some chars => parse (String.ofList chars)
  | none => .error .encoding

end FeatureFlags.Json
