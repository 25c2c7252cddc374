import FeatureFlags.Proofs.Feature.Definitions
import FeatureFlags.Proofs.Feature.Reading
import FeatureFlags.Proofs.Json.Fields
import FeatureFlags.Proofs.Json.Part

set_option autoImplicit false

namespace FeatureFlags

theorem Json.objects_items (items : List Json) (objects : List Fields)
    (listed : (items.mapM fun item => match item with | .obj fields => some fields | _ => none) = some objects) :
    ∀ object ∈ objects, Json.obj object ∈ items := by
  induction items generalizing objects with
  | nil =>
      cases listed
      simp
  | cons item rest ih =>
      rw [List.mapM_cons] at listed
      obtain ⟨first, isObject, rest⟩ := Option.bind_eq_some_iff.mp listed
      obtain ⟨others, later, same⟩ := Option.bind_eq_some_iff.mp rest
      cases same
      cases item with
      | obj fields =>
          cases isObject
          refine List.forall_mem_cons.mpr ⟨List.mem_cons_self, fun object among => ?_⟩
          exact List.mem_cons_of_mem _ (ih others later object among)
      | null | bool _ | num _ | str _ | arr _ => cases isObject

namespace Fields

variable {fields : Fields} {key : String}

theorem part_of_get {value : Json} (found : fields.get? key = some value) : Json.Part value (.obj fields) :=
  .single ⟨key, mem_of_get found⟩

theorem part_of_truthy {value : Json} (held : (fields.getD key).truthy? = some value) : Json.Part value (.obj fields) := by
  rw [getD] at held
  cases found : fields.get? key with
  | none =>
      rw [found] at held
      cases held
  | some part =>
      rw [found, Json.truthy?] at held
      split at held
      · cases held
        exact part_of_get found
      · cases held

theorem part_of_objects {objects : List Fields} (listed : (fields.getD key).objects? = some objects) (object : Fields)
    (among : object ∈ objects) : Json.Part (.obj object) (.obj fields) := by
  rw [Json.objects?.eq_def] at listed
  split at listed
  · rename_i truthy
    have held := part_of_truthy (if_pos truthy : (fields.getD key).truthy? = _)
    split at listed
    · rename_i items same
      rw [same] at held
      have item : Json.Child (.obj object) (.arr items) := Json.objects_items items objects listed object among
      exact .trans (.single item) held
    · cases listed
  · cases listed
    cases among

end Fields

theorem FeatureSet.accepted_feature {definitions : Fields} {features : FeatureSet}
    (accepted : FeatureSet.ofDefinitions (Definition.ofFields definitions) = .ok features) {id : String} {feature : Feature}
    (defined : features.get? id = some feature) :
    ∃ entry ∈ definitions, Feature.ofJson entry.1 entry.2 = .ok feature := by
  obtain ⟨read, decoded, holds⟩ := (of_definitions_iff _ features).mp accepted
  have last := (holds.last id).symm.trans defined
  have member : feature ∈ read := List.mem_reverse.mp (List.mem_of_find?_eq_some last)
  obtain ⟨definition, among, done⟩ := map_m_result _ _ _ decoded feature member
  obtain ⟨entry, entryAmong, rfl⟩ := List.mem_map.mp among
  exact ⟨entry, entryAmong, done⟩

end FeatureFlags
