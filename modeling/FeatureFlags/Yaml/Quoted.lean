import FeatureFlags.Text.Digits
import FeatureFlags.Yaml.Failure
import FeatureFlags.Yaml.Line

/-! Between single quotes a quote is written twice; between double quotes a backslash begins an escape, which
may give a code that is no character. -/

set_option autoImplicit false

namespace FeatureFlags.Yaml.Quoted

def single : Char := '\x27'

def double : Char := '\x22'

def foldGap (gap : List Char) : List Char :=
  let breaks := Line.breaks gap
  if breaks.isEmpty then gap else Line.fold breaks

def takeGap (rest : List Char) : Except Failure (List Char × List Char) :=
  let gap := rest.takeWhile isGap
  let after := rest.dropWhile isGap
  if Line.holdsMark (gap ++ after.take 4) then .error .malformed else .ok (gap, after)

def readSingle : Nat → List Char → List Char → Except Failure (List Char × List Char)
  | 0, _, _ => .error .malformed
  | fuel + 1, read, rest => match rest with
    | [] => .error .malformed
    | c :: after =>
        if c = single then
          if after.head? = some single then readSingle fuel (c :: read) (after.drop 1)
          else .ok (read.reverse, after)
        else if isGap c then do
          let (gap, after) ← takeGap rest
          readSingle fuel ((foldGap gap).reverse ++ read) after
        else readSingle fuel (c :: read) after

def escapes : List (Char × Nat) :=
  [('0', 0x0), ('a', 0x7), ('b', 0x8), ('t', 0x9), ('\t', 0x9), ('n', 0xa), ('v', 0xb), ('f', 0xc),
   ('r', 0xd), ('e', 0x1b), (' ', 0x20), (double, 0x22), ('\\', 0x5c), ('/', 0x2f), ('N', 0x85),
   ('_', 0xa0), ('L', 0x2028), ('P', 0x2029)]

def escapeWidth? : Char → Option Nat
  | 'x' => some 2
  | 'u' => some 4
  | 'U' => some 8
  | _ => none

def checkCode (code : Nat) : Except Failure Nat :=
  if code < 0x110000 then .ok code
  else if code < 0x80000000 then .error (.defective .noSuchCharacter)
  else .error (.defective .codeTooLarge)

def readEscape (mark : Char) (rest : List Char) : Except Failure (Nat × List Char) :=
  match escapes.lookup mark, escapeWidth? mark with
  | some code, _ => .ok (code, rest)
  | none, some width =>
      let digits := rest.take width
      if digits.length = width ∧ digits.all (Text.isDigitIn 16) then do
        let code ← checkCode (Text.valueIn 16 digits)
        .ok (code, rest.drop width)
      else .error .malformed
  | none, none => .error .malformed

def readDouble : Nat → List Nat → List Char → Except Failure (List Nat × List Char)
  | 0, _, _ => .error .malformed
  | fuel + 1, codes, rest => match rest with
    | [] => .error .malformed
    | c :: after =>
        if c = double then .ok (codes.reverse, after)
        else if isGap c then do
          let (gap, after) ← takeGap rest
          readDouble fuel ((foldGap gap).reverse.map Char.toNat ++ codes) after
        else if c = '\\' then match after with
          | [] => .error .malformed
          | mark :: more =>
              if isBreak mark then do
                let (gap, more) ← takeGap after
                readDouble fuel (((Line.breaks gap).drop 1).reverse.map Char.toNat ++ codes) more
              else do
                let (code, more) ← readEscape mark more
                readDouble fuel (code :: codes) more
        else readDouble fuel (c.toNat :: codes) after

def textOfCodes (codes : List Nat) : Option String :=
  if codes.all fun code => code.isValidChar then some (String.ofList (codes.map Char.ofNat)) else none

def isQuote (c : Char) : Bool := c == single || c == double

def read (quote : Char) (rest : List Char) : Except Failure (Option String × List Char) :=
  let fuel := rest.length + 1
  if quote = single then
    (readSingle fuel [] rest).map fun (chars, rest) => (some (String.ofList chars), rest)
  else (readDouble fuel [] rest).map fun (codes, rest) => (textOfCodes codes, rest)

end FeatureFlags.Yaml.Quoted
