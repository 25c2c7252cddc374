import FeatureFlags.Log
import FeatureFlags.Numeral
import FeatureFlags.Yaml

/-! Numbers and booleans of a setting may also be written as texts, and 0 and 1 are booleans. Null fits
nowhere. -/

set_option autoImplicit false

namespace FeatureFlags.Config.Field

def text? : Yaml → Option String
  | .text value => some value
  | .bytes content => content
  | _ => none

def isPadding (c : Char) : Bool := Text.isBlank c && !(0x1c ≤ c.toNat && c.toNat ≤ 0x1f)

def ungroup? (chars : List Char) : Option (List Char) :=
  let beside := (chars.zip (chars.drop 1)).any fun (a, b) => a == '_' && b == '_'
  if chars.head? == some '_' || chars.getLast? == some '_' || beside then none
  else some (chars.filter (· != '_'))

def readDouble? (text : String) : Option Double :=
  match Numeral.plainDouble? (Numeral.trim isPadding text.toList) with
  | some value => some value
  | none => (ungroup? text.toList).bind Numeral.plainDouble?

def double? : Yaml → Option Double
  | .bool value => Double.ofInt? (if value then 1 else 0)
  | .num value => value.toDouble?
  | value => (text? value).bind readDouble?

def duration? (value : Yaml) : Option Double := (double? value).filter Double.zero.le

def limit? (value : Yaml) : Option Double := (double? value).filter Double.zero.lt

def trueWords : List String := ["1", "on", "t", "true", "y", "yes"]

def falseWords : List String := ["0", "off", "f", "false", "n", "no"]

def readFlag? (text : String) : Option Bool :=
  let word := String.ofList (text.toList.map Char.toLower)
  if trueWords.contains word then some true
  else if falseWords.contains word then some false
  else none

def flag? : Yaml → Option Bool
  | .bool value => some value
  | .num value =>
      if value.same (.int 1) then some true else if value.same (.int 0) then some false else none
  | value => (text? value).bind readFlag?

def format? : Yaml → Option LogFormat
  | .text value => [LogFormat.json, .text].find? fun format => format.name == value
  | _ => none

end FeatureFlags.Config.Field
