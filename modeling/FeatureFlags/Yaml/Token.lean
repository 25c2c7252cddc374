import FeatureFlags.Yaml.Property

/-! Block lists and block maps have their bounds as tokens, which the text shows by indentation only. -/

set_option autoImplicit false

namespace FeatureFlags.Yaml

inductive Token where
  | directive (directive : Directive)
  | documentStart
  | documentEnd
  | blockListStart
  | blockMapStart
  | blockEnd
  | flowListStart
  | flowListEnd
  | flowMapStart
  | flowMapEnd
  | comma
  | item
  | key
  | value
  | aliasOf (name : String)
  | anchor (name : String)
  | tag (tag : WrittenTag)
  -- A scalar; it has no text if it holds a code that is no character.
  | scalar (plain : Bool) (text : Option String)
  | broken (failure : Failure)
deriving DecidableEq, Repr

def Token.isBroken : Token → Bool
  | .broken _ => true
  | _ => false

end FeatureFlags.Yaml
