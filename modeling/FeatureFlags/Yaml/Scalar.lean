import FeatureFlags.Numeral
import FeatureFlags.Text.Base64
import FeatureFlags.Text.Digits
import FeatureFlags.Yaml
import FeatureFlags.Yaml.Failure
import FeatureFlags.Yaml.Tag
import FeatureFlags.Yaml.Timestamp

/-! The form of a plain scalar gives its tag, and the tag says how to read the text. A tag that is written out
may ask for a reading that the text does not have. -/

set_option autoImplicit false

namespace FeatureFlags.Yaml.Scalar

/-! Forms -/

def nullWords : List String := ["", "~", "null", "Null", "NULL"]

def trueWords : List String :=
  ["yes", "Yes", "YES", "true", "True", "TRUE", "on", "On", "ON"]

def falseWords : List String :=
  ["no", "No", "NO", "false", "False", "FALSE", "off", "Off", "OFF"]

def infinityWords : List String := [".inf", ".Inf", ".INF"]

def nanWords : List String := [".nan", ".NaN", ".NAN"]

def isSign (c : Char) : Bool := c == '+' || c == '-'

def isGroup (base : Nat) (digits : List Char) : Bool :=
  digits.all fun c => Text.isDigitIn base c || c == '_'

def isDigits : List Char → Bool
  | [] => false
  | c :: rest => c.isDigit && isGroup 10 rest

def colonParts : List Char → List (List Char)
  | [] => [[]]
  | c :: rest =>
      if c = ':' then [] :: colonParts rest
      else match colonParts rest with
        | [] => [[c]]
        | part :: parts => (c :: part) :: parts

def isSixtieth : List Char → Bool
  | [c] => c.isDigit
  | [c, d] => '0' ≤ c && c ≤ '5' && d.isDigit
  | _ => false

def isNatural : List Char → Bool
  | ['0'] => true
  | '0' :: 'b' :: digits => !digits.isEmpty && isGroup 2 digits
  | '0' :: 'x' :: digits => !digits.isEmpty && isGroup 16 digits
  | '0' :: digits => isGroup 8 digits
  | digits => match colonParts digits with
    | whole :: parts => isDigits whole && parts.all isSixtieth
    | [] => false

def isExponent : List Char → Bool
  | [] => true
  | mark :: rest =>
      (mark == 'e' || mark == 'E') && rest.head?.any isSign && !(rest.drop 1).isEmpty &&
        (rest.drop 1).all Char.isDigit

def isDecimal (chars : List Char) : Bool :=
  let unsigned := Numeral.dropSign chars
  let whole := unsigned.takeWhile (· != '.')
  match unsigned.dropWhile (· != '.') with
  | [] => false
  | _ :: after =>
      let fraction := after.takeWhile fun c => c.isDigit || c == '_'
      let exponent := after.dropWhile fun c => c.isDigit || c == '_'
      match colonParts whole with
      | [[]] => !chars.head?.any isSign && isDigits fraction && isExponent exponent
      | [whole] => isDigits whole && isExponent exponent
      | first :: parts => isDigits first && parts.all isSixtieth && exponent.isEmpty
      | [] => false

def isFloat (text : String) : Bool :=
  infinityWords.contains (String.ofList (Numeral.dropSign text.toList)) || nanWords.contains text ||
    isDecimal text.toList

def isTimestamp (text : String) : Bool :=
  (Timestamp.ofChars? text.toList).any fun timestamp =>
    timestamp.clock.isSome || text.length == 10

-- The text without a line feed at its end, unless it is no more than that.
def dropFinalBreak (text : String) : String :=
  match text.toList.reverse with
  | '\n' :: c :: rest => String.ofList (c :: rest).reverse
  | _ => text

def formTag (text : String) : Tag :=
  let text := dropFinalBreak text
  if nullWords.contains text then .null
  else if trueWords.contains text || falseWords.contains text then .bool
  else if text = "<<" then .merge
  else if text = "=" then .default
  else if isFloat text then .float
  else if isNatural (Numeral.dropSign text.toList) then .int
  else if isTimestamp text then .timestamp
  else .text

/-! Values -/

abbrev Reading := Except Failure

def fail {α : Type} (defect : Defect) : Reading α := .error (.defective defect)

def baseMark? : Nat → Option Char
  | 2 => some 'b'
  | 8 => some 'o'
  | 16 => some 'x'
  | _ => none

def dropBase (base : Nat) : List Char → List Char
  | '0' :: mark :: rest => if some mark.toLower = baseMark? base then rest else '0' :: mark :: rest
  | chars => chars

def readIntegerIn (base : Nat) (chars : List Char) : Reading Int :=
  match Numeral.plainChars? (String.ofList chars) with
  | none => fail .notANumber
  | some plain =>
      let digits := dropBase base (Numeral.dropSign plain)
      if digits.isEmpty || !digits.all (Text.isDigitIn base) then fail .notANumber
      else if base = 10 ∧ Numeral.digitLimit < digits.length then fail .tooManyDigits
      else
        let value : Int := Text.valueIn base digits
        .ok (if Numeral.isNegative plain then -value else value)

def splitSign (chars : List Char) : Reading (Bool × List Char) :=
  if chars.isEmpty then fail .emptyNumber
  else .ok (Numeral.isNegative chars, Numeral.dropSign chars)

def readNatural (chars : List Char) : Reading Int :=
  match chars with
  | [] => fail .emptyNumber
  | '0' :: 'b' :: digits => readIntegerIn 2 digits
  | '0' :: 'x' :: digits => readIntegerIn 16 digits
  | '0' :: _ => readIntegerIn 8 chars
  | _ => do
      let parts ← (colonParts chars).mapM (readIntegerIn 10)
      return parts.foldl (fun total part => total * 60 + part) 0

def readInteger (text : String) : Reading Int := do
  let (negative, digits) ← splitSign (text.toList.filter (· != '_'))
  let value ← readNatural digits
  return if negative then -value else value

def readPlace (chars : List Char) : Reading Double :=
  match Numeral.toDouble? (String.ofList chars) with
  | some value => .ok value
  | none => fail .notANumber

-- The sum of places in base sixty, the lowest first; each sum is rounded.
def addPlaces (weight : Nat) (total : Double) : List Double → Reading Double
  | [] => .ok total
  | place :: rest => match Double.ofInt? weight with
    | none => fail .tooManyPlaces
    | some scale => addPlaces (weight * 60) (total.add (place.mul scale)) rest

def readDouble (text : String) : Reading Double := do
  let chars := (text.toList.filter (· != '_')).map Char.toLower
  let (negative, digits) ← splitSign chars
  let value ←
    if digits = ['.', 'i', 'n', 'f'] then pure (.infinite false)
    else if digits = ['.', 'n', 'a', 'n'] then pure .nan
    else match colonParts digits with
      | [_] => readPlace digits
      | parts => do addPlaces 1 .zero (← parts.mapM readPlace).reverse
  return if negative then value.neg else value

def readBool (text : String) : Reading Bool :=
  let word := String.ofList (text.toList.map Char.toLower)
  if trueWords.contains word then .ok true
  else if falseWords.contains word then .ok false
  else fail .noSuchWord

def readTimestamp (text : String) : Reading Unit :=
  match Timestamp.ofChars? (dropFinalBreak text).toList with
  | none => fail .notADate
  | some timestamp => if timestamp.isReal then .ok () else fail .noSuchDate

def readBinary (text : String) : Reading (Option String) :=
  if text.toList.all fun c => c.toNat < 0x80 then
    match Text.Base64.decode? text with
    | some decoded => .ok (String.fromUTF8? ⟨decoded.toArray⟩)
    | none => .error .malformed
  else .error .malformed

def replacement : String := "\ufffd"

def value (tag : Tag) (content : Option String) : Reading Yaml :=
  let written := content.getD replacement
  match tag with
  | .null => .ok .null
  | .text => .ok (content.elim .foreign .text)
  | .bool => (readBool written).map .bool
  | .int => (readInteger written).map fun value => .num (.int value)
  | .float => (readDouble written).map fun value => .num (.float value)
  | .timestamp => (readTimestamp written).map fun _ => .foreign
  | .binary => (readBinary written).map .bytes
  | _ => .error .malformed

end FeatureFlags.Yaml.Scalar
