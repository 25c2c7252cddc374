import FeatureFlags.Json

/-! Values taken as maps. Of a list of pairs the last pair of a key counts. A key that is no text can never be
looked up and is left out. -/

set_option autoImplicit false

namespace FeatureFlags.Json

inductive MappingError where
  | wrongType
  | wrongLength
deriving DecidableEq, Repr

-- The members of a text are its characters, those of an object its keys.
def pair : Json → Except MappingError (Json × Json)
  | .arr [key, value] => .ok (key, value)
  | .str text => match text.toList with
    | [key, value] => .ok (.str key.toString, .str value.toString)
    | _ => .error .wrongLength
  | .obj [(key, _), (value, _)] => .ok (.str key, .str value)
  | .arr _ | .obj _ => .error .wrongLength
  | _ => .error .wrongType

def addPair (fields : Fields) (item : Json) : Except MappingError Fields := do
  match ← pair item with
  | (.str key, value) => return Fields.set key value fields
  | (.arr _, _) | (.obj _, _) => throw .wrongType
  | _ => return fields

def toFields : Json → Except MappingError Fields
  | .obj fields => .ok fields
  | .arr items => items.foldlM addPair []
  | .str text => if text.isEmpty then .ok [] else .error .wrongLength
  | _ => .error .wrongType

def toFieldsOrEmpty (json : Json) : Except MappingError Fields :=
  if json.truthy then json.toFields else .ok []

end FeatureFlags.Json
