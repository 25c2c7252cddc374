set_option autoImplicit false

namespace FeatureFlags.Yaml

inductive Defect where
  | noSuchDate
  | notADate
  | notANumber
  | emptyNumber
  | tooManyDigits
  | tooManyPlaces
  | noSuchWord
  | noSuchCharacter
  | codeTooLarge
  | tooDeep
deriving DecidableEq, Repr

inductive Failure where
  | malformed
  -- The text keeps the rules so far, but a value in it does not exist.
  | defective (defect : Defect)
deriving DecidableEq, Repr

end FeatureFlags.Yaml
