import FeatureFlags.Proofs.Feature.Reading
import FeatureFlags.Proofs.Number.Value

/-! Reading a definition ends in a feature or in an error that is reported, unless a number of a rule is an
integer that is too large for a double, or the hash version is infinite. -/

set_option autoImplicit false

namespace FeatureFlags

namespace Json

inductive Oversized : Json → NumberKind → Prop where
  | integer (value : Int) (large : Double.ofInt? value = none) : Oversized (.num (.int value)) .double
  | infinite (negative : Bool) : Oversized (.num (.float (.infinite negative))) .integer

theorem boolean_has_double (value : Bool) : (Double.ofInt? (if value then 1 else 0)).isSome := by
  have zero : (Double.ofInt? 0).isSome := by decide +kernel
  have one : (Double.ofInt? 1).isSome := by decide +kernel
  cases value with
  | false => exact zero
  | true => exact one

theorem to_double_number (json : Json) (number : Number) (held : json.asNumber? = some number) :
    json.toDouble = match number.toDouble? with
      | some value => .ok value
      | none => .error (.tooLarge .double) := by
  unfold toDouble
  split
  · rename_i other same
    cases held.symm.trans same
    rfl
  · rename_i absent
    cases held.symm.trans absent
  · rename_i absent
    cases held.symm.trans absent

theorem number_without_double (json : Json) (number : Number) (held : json.asNumber? = some number)
    (unread : number.toDouble? = none) : json.Oversized .double := by
  obtain ⟨value, rfl, large⟩ := Number.int_of_unread number unread
  cases json with
  | num number =>
      cases held
      exact .integer value large
  | bool flag =>
      have same : (if flag then 1 else 0) = value := Number.int.inj (Option.some.inj held)
      have small := boolean_has_double flag
      rw [same, large] at small
      cases small
  | null | str _ | arr _ | obj _ => cases held

theorem to_double_too_large (json : Json) (wanted : NumberKind) :
    json.toDouble = .error (.tooLarge wanted) ↔ wanted = .double ∧ json.Oversized .double := by
  constructor
  · intro failed
    cases held : json.asNumber? with
    | some number =>
        rw [to_double_number json number held] at failed
        cases read : number.toDouble? with
        | none =>
            rw [read] at failed
            cases failed
            exact ⟨rfl, number_without_double json number held read⟩
        | some double =>
            rw [read] at failed
            cases failed
    | none =>
        cases json with
        | str text => cases read : Numeral.toDouble? text <;> simp [toDouble, asNumber?, read] at failed
        | bool _ | num _ => cases held
        | null | arr _ | obj _ => simp [toDouble, asNumber?] at failed
  · rintro ⟨rfl, large⟩
    cases large with
    | integer value large => rw [to_double_number _ (.int value) rfl, Number.toDouble?, large]

theorem to_integer_too_large (json : Json) (wanted : NumberKind) :
    json.toInteger = .error (.tooLarge wanted) ↔ wanted = .integer ∧ json.Oversized .integer := by
  constructor
  · intro failed
    cases json with
    | num number =>
        cases number with
        | int value => cases failed
        | float double =>
            cases double with
            | nan | finite _ _ => cases failed
            | infinite negative =>
                cases failed
                exact ⟨rfl, .infinite negative⟩
    | str text =>
        cases read : Numeral.toInt? text with
        | ok value => simp [toInteger, asNumber?, read] at failed
        | error failure => cases failure <;> simp [toInteger, asNumber?, read] at failed
    | bool _ | null | arr _ | obj _ => cases failed
  · rintro ⟨rfl, large⟩
    cases large with
    | infinite negative => rfl

end Json

namespace Rule

inductive Oversized (fields : Fields) : Json.NumberKind → Prop where
  | range (low high bound : Json) (held : fields.getD "range" = .arr [low, high]) (bounds : bound = low ∨ bound = high)
      (large : bound.Oversized .double) : Oversized fields .double
  | coverage (large : (fields.getD "coverage").Oversized .double) : Oversized fields .double
  | hashVersion (large : (fields.getD "hashVersion").Oversized .integer) : Oversized fields .integer

theorem read_range_error (json : Json) (failure : Json.ConversionError) (failed : readRange json = .error failure) :
    ∃ low high bound, json = .arr [low, high] ∧ (bound = low ∨ bound = high) ∧ bound.toDouble = .error failure := by
  rw [readRange.eq_def] at failed
  split at failed
  · rename_i low high
    simp only [bind_error_iff] at failed
    rcases failed with first | ⟨_, _, second | ⟨_, _, done⟩⟩
    · exact ⟨low, high, low, rfl, .inl rfl, first⟩
    · exact ⟨low, high, high, rfl, .inr rfl, second⟩
    · cases done
  · cases failed

theorem read_range_fails (low high bound : Json) (failure : Json.ConversionError) (bounds : bound = low ∨ bound = high)
    (failed : bound.toDouble = .error failure) (range : Option (Double × Double)) :
    readRange (.arr [low, high]) ≠ .ok range := by
  intro read
  simp only [readRange, bind_ok_iff] at read
  obtain ⟨first, firstRead, second, secondRead, _⟩ := read
  rcases bounds with rfl | rfl
  · cases failed.symm.trans firstRead
  · cases failed.symm.trans secondRead

theorem read_optional_error {α : Type} (convert : Json → Except Json.ConversionError α) (json : Json)
    (failure : Json.ConversionError) (failed : readOptional convert json = .error failure) :
    convert json = .error failure := by
  cases json with
  | null => cases failed
  | bool _ | num _ | str _ | arr _ | obj _ =>
      change Except.map some _ = _ at failed
      cases converted : convert _ with
      | ok value =>
          rw [converted] at failed
          cases failed
      | error other =>
          rw [converted] at failed
          cases failed
          rfl

theorem read_optional_fails {α : Type} (convert : Json → Except Json.ConversionError α) (json : Json)
    (failure : Json.ConversionError) (held : json ≠ .null) (failed : convert json = .error failure) (value : Option α) :
    readOptional convert json ≠ .ok value := by
  intro read
  cases json with
  | null => exact held rfl
  | bool _ | num _ | str _ | arr _ | obj _ =>
      change Except.map some _ = _ at read
      rw [failed] at read
      cases read

theorem of_fields_too_large (fields : Fields) (wanted : Json.NumberKind)
    (failed : Rule.ofFields fields = .error (.conversion (.tooLarge wanted))) : Oversized fields wanted := by
  simp only [of_fields_eq, bind_error_iff, map_error_error_iff] at failed
  rcases failed with ⟨_, range, same⟩ | ⟨_, _, prerequisites | ⟨_, _, ⟨_, coverage, same⟩ | ⟨_, _, ⟨_, version, same⟩ | ⟨_, _, done⟩⟩⟩⟩
  · cases same
    obtain ⟨low, high, bound, held, bounds, failed⟩ := read_range_error _ _ range
    obtain ⟨rfl, large⟩ := (Json.to_double_too_large bound wanted).mp failed
    exact .range low high bound held bounds large
  · rw [readPrerequisites.eq_def] at prerequisites
    split at prerequisites <;> cases prerequisites
  · cases same
    obtain ⟨rfl, large⟩ := (Json.to_double_too_large _ wanted).mp (read_optional_error _ _ _ coverage)
    exact .coverage large
  · cases same
    obtain ⟨rfl, large⟩ := (Json.to_integer_too_large _ wanted).mp (read_optional_error _ _ _ version)
    exact .hashVersion large
  · cases done

theorem oversized_unread (fields : Fields) (wanted : Json.NumberKind) (oversized : Oversized fields wanted) (rule : Rule) :
    Rule.ofFields fields ≠ .ok rule := by
  intro done
  have read := (of_fields_iff fields rule).mp done
  have nonNull (json : Json) (kind : Json.NumberKind) (large : json.Oversized kind) : json ≠ .null := by
    rintro rfl
    cases large
  cases oversized with
  | range low high bound held bounds large =>
      have failed := (Json.to_double_too_large bound .double).mpr ⟨rfl, large⟩
      exact read_range_fails low high bound _ bounds failed _ (held ▸ read.range)
  | coverage large =>
      have failed := (Json.to_double_too_large _ .double).mpr ⟨rfl, large⟩
      exact read_optional_fails _ _ _ (nonNull _ _ large) failed _ read.coverage
  | hashVersion large =>
      have failed := (Json.to_integer_too_large _ .integer).mpr ⟨rfl, large⟩
      exact read_optional_fails _ _ _ (nonNull _ _ large) failed _ read.hashVersion

end Rule

theorem FeatureError.of_rule_error_too_large (id : String) (error : RuleError) (wanted : Json.NumberKind)
    (same : FeatureError.ofRuleError id error = .tooLarge wanted) : error = .conversion (.tooLarge wanted) := by
  rw [ofRuleError.eq_def] at same
  split at same
  · cases same
    rfl
  · cases same

namespace Feature

inductive Oversized : Json → Json.NumberKind → Prop where
  | rule (fields : Fields) (objects : List Fields) (object : Fields) (wanted : Json.NumberKind)
      (listed : (fields.getD "rules").objects? = some objects) (among : object ∈ objects)
      (oversized : Rule.Oversized object wanted) : Oversized (.obj fields) wanted

theorem of_json_too_large (id : String) (json : Json) (wanted : Json.NumberKind)
    (failed : Feature.ofJson id json = .error (.tooLarge wanted)) : Oversized json wanted := by
  generalize caused : FeatureError.tooLarge wanted = error at failed
  cases of_json_refused id json error failed with
  | notAnObject | rulesNotObjects => cases caused
  | rule fields objects object error whole listed among refused =>
      subst whole
      have same := FeatureError.of_rule_error_too_large id error wanted caused.symm
      exact .rule fields objects object wanted listed among (Rule.of_fields_too_large object wanted (same ▸ refused))

theorem oversized_unread (id : String) (json : Json) (wanted : Json.NumberKind) (oversized : Oversized json wanted)
    (feature : Feature) : Feature.ofJson id json ≠ .ok feature := by
  intro done
  obtain ⟨fields, objects, rfl, read⟩ := (of_json_iff id json feature).mp done
  cases oversized with
  | rule _ others object wanted listed among oversized =>
      obtain rfl := Option.some.inj (listed.symm.trans read.listed)
      obtain ⟨rule, _, read⟩ := map_m_item Rule.ofFields others feature.rules read.rules object among
      exact Rule.oversized_unread object wanted oversized rule read

end Feature
end FeatureFlags
