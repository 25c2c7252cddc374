import FeatureFlags.Json
import FeatureFlags.Numeral
import FeatureFlags.Text.Digits
import FeatureFlags.Text.Surrogate

/-! Beyond the standard, `NaN`, `Infinity` and `-Infinity` are numbers, and half of a surrogate pair on its
own is read as the replacement character. Of repeated keys the last one counts. -/

set_option autoImplicit false

namespace FeatureFlags.Json

inductive ReadError where
  | malformed
  | encoding
  | tooManyDigits
deriving DecidableEq, Repr

namespace Reader

def isSpace (c : Char) : Bool := c == ' ' || c == '\t' || c == '\n' || c == '\r'

def skipSpace (chars : List Char) : List Char := chars.dropWhile isSpace

def code? (digits : List Char) : Option Nat :=
  if digits.all (Text.isDigitIn 16) then some (Text.valueIn 16 digits) else none

def charOfCode (code : Nat) : Char :=
  if Text.Surrogate.isHigh code || Text.Surrogate.isLow code then '\ufffd' else Char.ofNat code

def shortEscape? : Char → Option Char
  | '\\' => some '\\'
  | '/' => some '/'
  | 'b' => some '\x08'
  | 'f' => some '\x0c'
  | 'n' => some '\n'
  | 'r' => some '\r'
  | 't' => some '\t'
  | c => if c = '\x22' then some c else none

def readString (read : List Char) : List Char → Except ReadError (String × List Char)
  | '\\' :: 'u' :: a :: b :: c :: d :: rest =>
      match code? [a, b, c, d], rest with
      | none, _ => .error .malformed
      | some high, '\\' :: 'u' :: e :: f :: g :: h :: tail =>
          match Text.Surrogate.isHigh high, code? [e, f, g, h] with
          | true, some low =>
              if Text.Surrogate.isLow low then
                readString (charOfCode (Text.Surrogate.join high low) :: read) tail
              else readString (charOfCode high :: read) ('\\' :: 'u' :: e :: f :: g :: h :: tail)
          | _, _ => readString (charOfCode high :: read) ('\\' :: 'u' :: e :: f :: g :: h :: tail)
      | some code, rest => readString (charOfCode code :: read) rest
  | '\\' :: c :: rest =>
      match shortEscape? c with
      | some escaped => readString (escaped :: read) rest
      | none => .error .malformed
  | c :: rest =>
      if c = '\x22' then .ok (String.ofList read.reverse, rest)
      else if c.toNat < 0x20 ∨ c = '\\' then .error .malformed
      else readString (c :: read) rest
  | [] => .error .malformed

def splitFraction : List Char → List Char × List Char
  | '.' :: rest =>
      let digits := rest.takeWhile Char.isDigit
      if digits.isEmpty then ([], '.' :: rest) else (digits, rest.dropWhile Char.isDigit)
  | rest => ([], rest)

def splitExponent : List Char → List Char × List Char
  | mark :: rest =>
      let unsigned := Numeral.dropSign rest
      let digits := unsigned.takeWhile Char.isDigit
      if (mark = 'e' ∨ mark = 'E') ∧ digits ≠ [] then
        (mark :: rest.take (rest.length - unsigned.length) ++ digits,
          unsigned.dropWhile Char.isDigit)
      else ([], mark :: rest)
  | [] => ([], [])

def splitWhole : List Char → List Char × List Char
  | '0' :: rest => (['0'], rest)
  | chars => (chars.takeWhile Char.isDigit, chars.dropWhile Char.isDigit)

def readNumber (negative : Bool) (chars : List Char) : Except ReadError (Json × List Char) :=
  let (whole, afterWhole) := splitWhole chars
  let (fraction, afterFraction) := splitFraction afterWhole
  let (exponent, rest) := splitExponent afterFraction
  if whole.isEmpty then .error .malformed
  else if fraction.isEmpty && exponent.isEmpty then
    if Numeral.digitLimit < whole.length then .error .tooManyDigits
    else
      let value : Int := Numeral.natOfDigits whole
      .ok (.int (if negative then -value else value), rest)
  else
    .ok (.num (.float (Double.ofDecimal negative (Numeral.natOfDigits (whole ++ fraction))
      (Numeral.exponentOf exponent - fraction.length))), rest)

def words : List (List Char × Json) :=
  [("null".toList, .null), ("true".toList, .bool true), ("false".toList, .bool false),
   ("NaN".toList, .num (.float .nan)), ("Infinity".toList, .num (.float (.infinite false))),
   ("-Infinity".toList, .num (.float (.infinite true)))]

def readScalar (chars : List Char) : Except ReadError (Json × List Char) :=
  match words.find? fun (word, _) => word.isPrefixOf chars with
  | some (word, value) => .ok (value, chars.drop word.length)
  | none => match chars with
    | '-' :: rest => readNumber true rest
    | chars => readNumber false chars

def readKey : List Char → Except ReadError (String × List Char)
  | c :: rest => do
      if c ≠ '\x22' then throw .malformed
      let (key, afterKey) ← readString [] rest
      match skipSpace afterKey with
      | ':' :: afterColon => return (key, skipSpace afterColon)
      | _ => throw .malformed
  | [] => .error .malformed

mutual
def readValue : Nat → List Char → Except ReadError (Json × List Char)
  | 0, _ => .error .malformed
  | fuel + 1, chars => match chars with
    | [] => .error .malformed
    | '[' :: rest => match skipSpace rest with
      | ']' :: after => .ok (.arr [], after)
      | items => readItems fuel [] items
    | c :: rest =>
        if c = '\x7b' then match skipSpace rest with
          | [] => .error .malformed
          | next :: after =>
              if next = '\x7d' then .ok (.obj [], after) else readFields fuel [] (next :: after)
        else if c = '\x22' then do
          let (text, after) ← readString [] rest
          return (.str text, after)
        else readScalar (c :: rest)
def readItems : Nat → List Json → List Char → Except ReadError (Json × List Char)
  | 0, _, _ => .error .malformed
  | fuel + 1, read, chars => do
      let (item, after) ← readValue fuel chars
      match skipSpace after with
      | ',' :: rest => readItems fuel (item :: read) (skipSpace rest)
      | ']' :: rest => return (.arr (item :: read).reverse, rest)
      | _ => throw .malformed
def readFields : Nat → Fields → List Char → Except ReadError (Json × List Char)
  | 0, _, _ => .error .malformed
  | fuel + 1, read, chars => do
      let (key, afterKey) ← readKey chars
      let (value, after) ← readValue fuel afterKey
      let fields := Fields.set key value read
      match skipSpace after with
      | [] => throw .malformed
      | c :: rest =>
          if c = ',' then readFields fuel fields (skipSpace rest)
          else if c = '\x7d' then return (.obj fields, rest)
          else throw .malformed
end

end Reader

def parse (text : String) : Except ReadError Json := do
  let chars := text.toList
  let (value, rest) ← Reader.readValue (2 * chars.length + 2) (Reader.skipSpace chars)
  if (Reader.skipSpace rest).isEmpty then return value else throw .malformed

end FeatureFlags.Json
