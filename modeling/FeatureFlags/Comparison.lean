import FeatureFlags.Numeral
import FeatureFlags.Operand
import FeatureFlags.Pattern.Reader
import FeatureFlags.Pattern.Search

/-! Numbers and texts that look like numbers compare as doubles, other scalars by their plain texts. A missing
side counts as zero beside a number and as the empty text otherwise. -/

set_option autoImplicit false

namespace FeatureFlags

inductive ConditionError where
  | integerTooLarge
  | unreadableNumber (text : String)
  | pattern (error : Pattern.ReadError)
deriving DecidableEq, Repr

abbrev Checked (α : Type) := Except ConditionError α

def textOrder (a b : String) : Ordering := if a < b then .lt else if b < a then .gt else .eq

namespace Operand

def looksNumeric : Operand → Bool
  | .value (.num _) => true
  | .value (.str text) => Numeral.looksNumeric text
  | _ => false

def isNumber : Operand → Bool
  | .value (.num _) => true
  | _ => false

def isBool : Operand → Bool
  | .value (.bool _) => true
  | _ => false

def isScalar : Operand → Bool
  | .value (.bool _) | .value (.num _) | .value (.str _) => true
  | _ => false

def toDouble : Operand → Checked Double
  | .value (.num number) => match number.toDouble? with
    | some double => .ok double
    | none => .error .integerTooLarge
  | .value (.str text) => match Numeral.toDouble? text with
    | some double => .ok double
    | none => .error (.unreadableNumber text)
  | _ => .ok .zero

def plainText : Operand → String
  | .value json => json.plainText
  | _ => ""

def compare (a b : Operand) : Checked (Option Ordering) :=
  let numericA := a.looksNumeric || a.isAbsent && b.looksNumeric
  let numericB := b.looksNumeric || b.isAbsent && a.looksNumeric
  if numericA && numericB then do
    let x ← a.toDouble
    let y ← b.toDouble
    return some (x.order y)
  else if (a.isAbsent || a.isScalar) && (b.isAbsent || b.isScalar) then
    return some (textOrder a.plainText b.plainText)
  else return none

def equalsLiteral (literal actual : Operand) : Checked Bool :=
  match literal, actual with
  | .value .null, .missing => return true
  | _, .missing => return false
  | .value (.bool a), .value (.bool b) => return a == b
  | literal, actual =>
      if literal.isBool || actual.isBool then return false
      else if (literal.isNumber || actual.isNumber) && literal.looksNumeric && actual.looksNumeric
      then do
        let x ← literal.toDouble
        let y ← actual.toDouble
        return x.same y
      else match literal, actual with
        | .value a, .value b => return a.same b
        | _, _ => return false

def isIn (values : List Json) (actual : Operand) : Checked Bool :=
  if actual.isAbsent then return false
  else match actual with
    | .value (.arr items) =>
        items.anyM fun item => values.anyM fun wanted => equalsLiteral (.value wanted) (.value item)
    | actual => values.anyM fun wanted => equalsLiteral (.value wanted) actual

def matchesPattern (pattern actual : Operand) : Checked Bool :=
  match pattern with
  | .value (.str text) =>
      if actual.isScalar then match Pattern.read text with
        | .ok pattern => return pattern.search actual.plainText
        | .error .malformed => return false
        | .error failure => throw (.pattern failure)
      else return false
  | _ => return false

end Operand
end FeatureFlags
