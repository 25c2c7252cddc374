import FeatureFlags.Client
import Mathlib.Data.List.Induction

/-! Definitions are read in order, one that cannot be read refuses them all, and the set holds the last
feature of each id, in the order in which ids come first. -/

set_option autoImplicit false

namespace FeatureFlags

theorem erase_dups_concat (ids : List String) (id : String) :
    (ids ++ [id]).eraseDups = if id ∈ ids then ids.eraseDups else ids.eraseDups ++ [id] := by
  rw [List.eraseDups_append]
  by_cases known : id ∈ ids <;> simp [List.removeAll, known, List.eraseDups_cons]

theorem erase_dups_nodup (ids : List String) : ids.eraseDups.Nodup := by
  induction ids using List.reverseRecOn with
  | nil => simp
  | append_singleton ids id ih =>
      rw [erase_dups_concat]
      by_cases known : id ∈ ids
      · rwa [if_pos known]
      · rw [if_neg known]
        refine List.nodup_append.mpr ⟨ih, by simp, fun other member last final same => ?_⟩
        rw [same, List.mem_singleton.mp final] at member
        exact known (List.mem_eraseDups.mp member)

namespace FeatureSet

theorem get_cons (id : String) (feature : Feature) (rest : FeatureSet) (other : String) :
    FeatureSet.get? ((id, feature) :: rest) other = if other = id then some feature else rest.get? other := by
  rw [FeatureSet.get?, List.lookup_cons]
  by_cases same : other = id
  · simp [same]
  · simp [same, beq_eq_false_iff_ne.mpr same, FeatureSet.get?]

theorem get_set (id : String) (feature : Feature) (features : FeatureSet) (other : String) :
    (FeatureSet.set id feature features).get? other = if other = id then some feature else features.get? other := by
  induction features with
  | nil => exact FeatureSet.get_cons id feature [] other
  | cons entry rest ih =>
      obtain ⟨key, old⟩ := entry
      by_cases replaced : key = id
      · subst key
        rw [FeatureSet.set, if_pos rfl, FeatureSet.get_cons, FeatureSet.get_cons]
        by_cases same : other = id <;> simp [same]
      · rw [FeatureSet.set, if_neg replaced, FeatureSet.get_cons, FeatureSet.get_cons, ih]
        by_cases here : other = key
        · simp [here, replaced]
        · simp [here]

theorem ids_set (id : String) (feature : Feature) (features : FeatureSet) :
    (FeatureSet.set id feature features).ids = if id ∈ features.ids then features.ids else features.ids ++ [id] := by
  induction features with
  | nil => rfl
  | cons entry rest ih =>
      obtain ⟨key, old⟩ := entry
      by_cases replaced : key = id
      · simp [FeatureSet.set, replaced, ids]
      · rw [FeatureSet.set, if_neg replaced]
        change key :: (FeatureSet.set id feature rest).ids = _
        rw [ih]
        by_cases known : id ∈ FeatureSet.ids rest <;> simp_all [FeatureSet.ids, Ne.symm replaced]

theorem eq_of_get {features others : FeatureSet} (ids : features.ids = others.ids) (distinct : features.ids.Nodup)
    (same : ∀ id ∈ features.ids, features.get? id = others.get? id) : features = others := by
  induction features generalizing others with
  | nil => exact (List.map_eq_nil_iff.mp ids.symm).symm
  | cons entry rest ih =>
      obtain ⟨id, feature⟩ := entry
      cases others with
      | nil => cases ids
      | cons other others =>
          obtain ⟨key, found⟩ := other
          obtain ⟨first, later⟩ := List.cons.inj ids
          obtain ⟨absent, distinct⟩ := List.nodup_cons.mp distinct
          cases first
          have equal := same id List.mem_cons_self
          rw [get_cons, get_cons, if_pos rfl, if_pos rfl] at equal
          have rests : rest = others := by
            refine ih later distinct fun other member => ?_
            have different : other ≠ id := fun same => absent (same ▸ member)
            have kept := same other (List.mem_cons_of_mem _ member)
            rwa [get_cons, get_cons, if_neg different, if_neg different] at kept
          rw [Option.some.inj equal, rests]

def add (features : FeatureSet) (feature : Feature) : FeatureSet := FeatureSet.set feature.id feature features

structure Holds (features : FeatureSet) (read : List Feature) : Prop where
  ids : features.ids = (read.map Feature.id).eraseDups
  last : ∀ id, features.get? id = read.reverse.find? fun feature => feature.id == id

def KeyedById (features : FeatureSet) : Prop := ∀ entry ∈ features, entry.2.id = entry.1

theorem holds_nil : Holds [] [] := ⟨rfl, fun _ => rfl⟩

theorem holds_add {features : FeatureSet} {read : List Feature} (holds : features.Holds read) (feature : Feature) :
    (add features feature).Holds (read ++ [feature]) := by
  refine ⟨?_, fun id => ?_⟩
  · rw [add, ids_set, holds.ids, List.map_append]
    simp only [List.mem_eraseDups]
    exact (erase_dups_concat _ _).symm
  · rw [add, get_set, holds.last, List.reverse_append]
    by_cases same : id = feature.id
    · simp [same]
    · simp [same, Ne.symm same]

theorem holds_unique {features others : FeatureSet} {read : List Feature} (holds : features.Holds read)
    (held : others.Holds read) : features = others :=
  eq_of_get (holds.ids.trans held.ids.symm) (holds.ids ▸ erase_dups_nodup _) fun id _ =>
    (holds.last id).trans (held.last id).symm

theorem keyed_nil : KeyedById [] := by simp [KeyedById]

theorem keyed_add {features : FeatureSet} (keyed : features.KeyedById) (feature : Feature) :
    (add features feature).KeyedById := by
  rw [add]
  induction features with
  | nil => simp [KeyedById, FeatureSet.set]
  | cons entry rest ih =>
      obtain ⟨own, later⟩ := List.forall_mem_cons.mp keyed
      rw [FeatureSet.set]
      split
      · exact List.forall_mem_cons.mpr ⟨rfl, later⟩
      · exact List.forall_mem_cons.mpr ⟨own, ih later⟩

end FeatureSet

theorem Feature.of_json_id (id : String) (json : Json) (feature : Feature) (read : Feature.ofJson id json = .ok feature) :
    feature.id = id := by
  cases json with
  | obj fields =>
      rw [ofJson, ofFields] at read
      split at read
      · cases read
      · rename_i objects _
        cases rules : (objects.mapM Rule.ofFields).mapError (FeatureError.ofRuleError id) with
        | error error => simp [rules] at read
        | ok rules =>
            rw [rules] at read
            cases read
            rfl
  | null | bool _ | num _ | str _ | arr _ => cases read

def Definition.decode : String × Definition → Except FeatureError Feature
  | (id, .raw json) => Feature.ofJson id json
  | (_, .read feature) => .ok feature

namespace FeatureSet

def readInto (features : FeatureSet) (entry : String × Definition) : Except FeatureError FeatureSet :=
  match entry.2 with
  | .raw json => do return features.set entry.1 (← Feature.ofJson entry.1 json)
  | .read feature => return features.set feature.id feature

theorem read_into_eq (features : FeatureSet) (entry : String × Definition) :
    readInto features entry = (Definition.decode entry).map features.add := by
  obtain ⟨id, definition⟩ := entry
  cases definition with
  | read feature => rfl
  | raw json =>
      simp only [readInto, Definition.decode]
      cases read : Feature.ofJson id json with
      | error error => rfl
      | ok feature =>
          have own := Feature.of_json_id id json feature read
          subst own
          rfl

theorem of_definitions_eq (definitions : List (String × Definition)) :
    FeatureSet.ofDefinitions definitions = (definitions.mapM Definition.decode).map fun read => read.foldl add [] := by
  change definitions.foldlM readInto [] = _
  generalize ([] : FeatureSet) = features
  induction definitions generalizing features with
  | nil => rfl
  | cons entry rest ih =>
      rw [List.foldlM_cons, List.mapM_cons, read_into_eq]
      cases Definition.decode entry with
      | error error => rfl
      | ok feature =>
          refine (ih (add features feature)).trans ?_
          cases rest.mapM Definition.decode <;> rfl

theorem holds_added (read : List Feature) : (read.foldl add []).Holds read := by
  induction read using List.reverseRecOn with
  | nil => exact holds_nil
  | append_singleton read feature ih =>
      rw [List.foldl_append]
      exact holds_add ih feature

theorem of_definitions_iff (definitions : List (String × Definition)) (features : FeatureSet) :
    FeatureSet.ofDefinitions definitions = .ok features ↔
      ∃ read, definitions.mapM Definition.decode = .ok read ∧ features.Holds read := by
  rw [of_definitions_eq]
  cases definitions.mapM Definition.decode with
  | error error => exact ⟨fun same => (by cases same), fun ⟨read, same, _⟩ => (by cases same)⟩
  | ok read =>
      constructor
      · intro same
        cases same
        exact ⟨read, rfl, holds_added read⟩
      · rintro ⟨other, same, holds⟩
        cases same
        exact congrArg Except.ok (holds_unique (holds_added read) holds)

theorem of_definitions_keyed (definitions : List (String × Definition)) (features : FeatureSet)
    (read : FeatureSet.ofDefinitions definitions = .ok features) : features.KeyedById := by
  rw [of_definitions_eq] at read
  cases decoded : definitions.mapM Definition.decode with
  | error error =>
      rw [decoded] at read
      cases read
  | ok added =>
      rw [decoded] at read
      cases read
      exact List.foldlRecOn added add keyed_nil fun _ keyed feature _ => keyed_add keyed feature

end FeatureSet
end FeatureFlags
