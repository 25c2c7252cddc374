import FeatureFlags.Json.Text
import FeatureFlags.Numeral

/-! Values taken as numbers. Booleans are 0 and 1, texts are read, and doubles lose their fraction when an
integer is wanted. -/

set_option autoImplicit false

namespace FeatureFlags.Json

inductive NumberKind where
  | double
  | integer
deriving DecidableEq, Repr

inductive ConversionError where
  | unreadable (wanted : NumberKind) (text : String)
  | wrongType (wanted : NumberKind) (type : String)
  | notANumber
  | tooManyDigits (count : Nat)
  -- An integer that no double comes near, or an infinite double taken as an integer.
  | tooLarge (wanted : NumberKind)
deriving DecidableEq, Repr

namespace ConversionError

def message : ConversionError → String
  | .unreadable .double text => "could not convert string to float: " ++ Text.quoted text
  | .unreadable .integer text =>
      "invalid literal for int() with base 10: " ++ Text.quoted text
  | .wrongType .double type =>
      "float() argument must be a string or a real number, not '" ++ type ++ "'"
  | .wrongType .integer type =>
      "int() argument must be a string, a bytes-like object or a real number, not '" ++ type ++ "'"
  | .notANumber => "cannot convert float NaN to integer"
  | .tooManyDigits count =>
      "Exceeds the limit (4300 digits) for integer string conversion: value has " ++
        toString count ++ " digits; use sys.set_int_max_str_digits() to increase the limit"
  | .tooLarge .double => "int too large to convert to float"
  | .tooLarge .integer => "cannot convert float infinity to integer"

end ConversionError

def typeWord : Json → String
  | .null => "NoneType"
  | .bool _ => "bool"
  | .num (.int _) => "int"
  | .num (.float _) => "float"
  | .str _ => "str"
  | .arr _ => "list"
  | .obj _ => "dict"

def toDouble (json : Json) : Except ConversionError Double :=
  match json, json.asNumber? with
  | _, some number => match number.toDouble? with
    | some value => .ok value
    | none => .error (.tooLarge .double)
  | .str text, none => match Numeral.toDouble? text with
    | some value => .ok value
    | none => .error (.unreadable .double text)
  | other, none => .error (.wrongType .double other.typeWord)

def integerOf : Number → Except ConversionError Int
  | .int value => .ok value
  | .float .nan => .error .notANumber
  | .float value => match value.truncate? with
    | some whole => .ok whole
    | none => .error (.tooLarge .integer)

def toInteger (json : Json) : Except ConversionError Int :=
  match json, json.asNumber? with
  | _, some number => integerOf number
  | .str text, none => match Numeral.toInt? text with
    | .ok value => .ok value
    | .error .notAnInteger => .error (.unreadable .integer text)
    | .error (.tooManyDigits count) => .error (.tooManyDigits count)
  | other, none => .error (.wrongType .integer other.typeWord)

end FeatureFlags.Json
