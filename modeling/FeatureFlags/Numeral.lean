import FeatureFlags.Double
import FeatureFlags.Text.Blank
import FeatureFlags.Text.DecimalDigit

/-! `looksNumeric` is the shape that makes a text count as a number in a comparison; `toDouble?` and `toInt?`
know more forms. The shape allows more blanks around a number than reading does. -/

set_option autoImplicit false

namespace FeatureFlags.Numeral

def dropSign : List Char → List Char
  | '+' :: rest => rest
  | '-' :: rest => rest
  | chars => chars

def trim (blank : Char → Bool) (chars : List Char) : List Char :=
  ((chars.dropWhile blank).reverse.dropWhile blank).reverse

def isExponent (digit : Char → Bool) : List Char → Bool
  | [] => true
  | mark :: rest =>
      (mark == 'e' || mark == 'E') && !(dropSign rest).isEmpty && (dropSign rest).all digit

def isUnsigned (digit : Char → Bool) (chars : List Char) : Bool :=
  let whole := chars.takeWhile digit
  match chars.dropWhile digit with
  | '.' :: rest =>
      !(whole.isEmpty && (rest.takeWhile digit).isEmpty) && isExponent digit (rest.dropWhile digit)
  | rest => !whole.isEmpty && isExponent digit rest

def looksNumeric (text : String) : Bool :=
  isUnsigned Text.isDigit (dropSign (trim Text.isBlank text.toList))

def plainChar? (c : Char) : Option Char :=
  if c.toNat < 0x7f then some c
  else if Text.isBlank c then some ' '
  else (Text.digitValue? c).map Nat.digitChar

def isPadding (c : Char) : Bool :=
  c == ' ' || c == '\t' || c == '\n' || c == '\r' || c == '\x0b' || c == '\x0c'

def plainChars? (text : String) : Option (List Char) :=
  (text.toList.mapM plainChar?).map (trim isPadding)

-- Drops underscores; each has to stand between two digits.
def ungroup? (before : Bool) : List Char → Option (List Char)
  | [] => some []
  | '_' :: next :: rest =>
      if before && next.isDigit then ungroup? false (next :: rest) else none
  | c :: rest => if c = '_' then none else (ungroup? c.isDigit rest).map (c :: ·)

def natOfDigits (digits : List Char) : Nat :=
  digits.foldl (fun total c => total * 10 + (c.toNat - '0'.toNat)) 0

def isNegative : List Char → Bool
  | '-' :: _ => true
  | _ => false

def exponentOf : List Char → Int
  | [] => 0
  | _ :: rest =>
      let value : Int := natOfDigits (dropSign rest)
      if isNegative rest then -value else value

def decimalValue (negative : Bool) (chars : List Char) : Double :=
  let whole := chars.takeWhile Char.isDigit
  match chars.dropWhile Char.isDigit with
  | '.' :: rest =>
      let fraction := rest.takeWhile Char.isDigit
      Double.ofDecimal negative (natOfDigits (whole ++ fraction))
        (exponentOf (rest.dropWhile Char.isDigit) - fraction.length)
  | rest => Double.ofDecimal negative (natOfDigits whole) (exponentOf rest)

def specialValue? (negative : Bool) (chars : List Char) : Option Double :=
  let word := String.ofList (chars.map Char.toLower)
  if word = "inf" ∨ word = "infinity" then some (.infinite negative)
  else if word = "nan" then some .nan
  else none

def plainDouble? (chars : List Char) : Option Double :=
  let unsigned := dropSign chars
  if isUnsigned Char.isDigit unsigned then some (decimalValue (isNegative chars) unsigned)
  else specialValue? (isNegative chars) unsigned

def toDouble? (text : String) : Option Double := do
  let padded ← plainChars? text
  let chars ← ungroup? false padded
  plainDouble? chars

-- An integer is read only up to this many digits.
def digitLimit : Nat := 4300

inductive IntError where
  | notAnInteger
  | tooManyDigits (count : Nat)

def toInt? (text : String) : Except IntError Int :=
  match (plainChars? text).bind fun padded => ungroup? false padded with
  | none => .error .notAnInteger
  | some chars =>
      let digits := dropSign chars
      if digits.isEmpty || !digits.all Char.isDigit then .error .notAnInteger
      else if digitLimit < digits.length then .error (.tooManyDigits digits.length)
      else
        let value : Int := natOfDigits digits
        .ok (if isNegative chars then -value else value)

end FeatureFlags.Numeral
