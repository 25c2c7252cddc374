import FeatureFlags.Json
import Mathlib.Data.List.Perm.Basic
import Mathlib.Data.List.Perm.Subperm

set_option autoImplicit false

namespace FeatureFlags

def Json.single (key : String) (value : Json) : Json := .obj [(key, value)]

namespace Fields

theorem get_cons (key : String) (value : Json) (rest : Fields) (wanted : String) :
    Fields.get? ((key, value) :: rest) wanted = if wanted = key then some value else rest.get? wanted := by
  by_cases same : wanted = key
  · simp [get?, same]
  · simp [get?, List.lookup_cons, same, beq_eq_false_iff_ne.mpr same]

theorem mem_of_get {fields : Fields} {key : String} {value : Json} (found : fields.get? key = some value) :
    (key, value) ∈ fields := by
  obtain ⟨before, after, same, _⟩ := List.lookup_eq_some_iff.mp found
  simp [same]

theorem get_eq_none_iff (fields : Fields) (key : String) : fields.get? key = none ↔ key ∉ fields.keys := by
  rw [get?, List.lookup_eq_none_iff, keys, List.mem_map]
  constructor
  · rintro absent ⟨field, member, rfl⟩
    simpa using absent field member
  · intro absent field member
    simpa using fun same : key = field.1 => absent ⟨field, member, same.symm⟩

theorem get_eq_some_iff {fields : Fields} (distinct : fields.keys.Nodup) (key : String) (value : Json) :
    fields.get? key = some value ↔ (key, value) ∈ fields := by
  refine ⟨mem_of_get, fun member => ?_⟩
  induction fields with
  | nil => simp at member
  | cons field rest ih =>
      obtain ⟨other, first⟩ := field
      obtain ⟨absent, distinct⟩ := List.nodup_cons.mp distinct
      rw [get_cons]
      rcases List.mem_cons.mp member with same | later
      · cases same
        rw [if_pos rfl]
      · have different : key ≠ other := by
          intro same
          exact absent (List.mem_map.mpr ⟨(key, value), later, same⟩)
        rw [if_neg different, ih distinct later]

theorem get_perm {fields others : Fields} (distinct : fields.keys.Nodup) (perm : fields.Perm others) (key : String) :
    fields.get? key = others.get? key := by
  have distinctOthers : others.keys.Nodup := (perm.map Prod.fst).nodup distinct
  apply Option.ext
  intro value
  rw [get_eq_some_iff distinct, get_eq_some_iff distinctOthers, perm.mem_iff]

theorem keys_perm {fields others : Fields} (distinct : fields.keys.Nodup) (included : fields.keys ⊆ others.keys)
    (lengths : fields.length = others.length) : fields.keys.Perm others.keys := by
  apply (List.subperm_of_subset distinct included).perm_of_length_le
  simp [keys, lengths]

end Fields
end FeatureFlags
