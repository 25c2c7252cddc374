import FeatureFlags.Json.Text

/-! `Operand.path` follows a dotted path and stays missing from the first segment that is no key. -/

set_option autoImplicit false

namespace FeatureFlags

inductive Operand where
  | missing
  | value (json : Json)
  -- A value of no JSON type.
  | foreign
deriving Inhabited

namespace Operand

def isAbsent : Operand → Bool
  | .missing => true
  | .value .null => true
  | _ => false

def typeName : Operand → String
  | .missing | .value .null => "null"
  | .value (.bool _) => "boolean"
  | .value (.num _) => "number"
  | .value (.str _) => "string"
  | .value (.arr _) => "array"
  | .value (.obj _) => "object"
  | .foreign => "unknown"

def field (operand : Operand) (key : String) : Operand :=
  match operand with
  | .value (.obj fields) => match Fields.get? fields key with
    | some found => .value found
    | none => .missing
  | _ => .missing

end Operand

def pathSegments : List Char → List (List Char)
  | [] => [[]]
  | c :: rest =>
      if c = '.' then [] :: pathSegments rest
      else match pathSegments rest with
        | [] => [[c]]
        | segment :: segments => (c :: segment) :: segments

def Operand.path (operand : Operand) (path : String) : Operand :=
  (pathSegments path.toList).foldl (fun reached segment => reached.field (String.ofList segment)) operand

end FeatureFlags
