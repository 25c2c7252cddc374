import FeatureFlags.Proofs.Condition.Loops

/-! A condition sees of the attributes what its paths lead to, and nothing else. Keys deeper in the value of a
path are looked up in what that path leads to. -/

set_option autoImplicit false

namespace FeatureFlags.Condition

def Combinator.Names (key : String) : Prop := ∃ combinator : Combinator, combinator.name = key

theorem Combinator.mem_every (combinator : Combinator) : combinator ∈ every := by
  cases combinator <;> simp [every]

instance (key : String) : Decidable (Combinator.Names key) :=
  decidable_of_iff (∃ combinator ∈ Combinator.every, combinator.name = key)
    ⟨fun ⟨combinator, _, same⟩ => ⟨combinator, same⟩, fun ⟨combinator, same⟩ => ⟨combinator, combinator.mem_every, same⟩⟩

theorem leading_none_iff (fields : Fields) : leading? fields = none ↔ ∀ path ∈ fields.keys, ¬ Combinator.Names path := by
  simp only [leading?, List.findSome?_eq_none_iff, Option.map_eq_none_iff, Fields.get_eq_none_iff]
  constructor
  · rintro absent path member ⟨combinator, rfl⟩
    exact absent combinator combinator.mem_every member
  · intro plain combinator _ member
    exact plain combinator.name member ⟨combinator, rfl⟩

theorem matches_plain_paths {fields : Fields} (plain : ∀ path ∈ fields.keys, ¬ Combinator.Names path) (attributes : Operand) :
    matchesAttributes (.obj fields) attributes =
      fields.allM fun (path, value) => matchesValue value (attributes.path path) := by
  rw [matches_attributes_obj, (leading_none_iff fields).mpr plain]

theorem matches_single_path {path : String} (plain : ¬ Combinator.Names path) (value : Json) (attributes : Operand) :
    matchesAttributes (.single path value) attributes = matchesValue value (attributes.path path) := by
  have keys : ∀ key ∈ Fields.keys [(path, value)], ¬ Combinator.Names key := by simpa [Fields.keys] using plain
  rw [Json.single, matches_plain_paths keys, all_m_singleton]

def Combinator.conditions : Combinator → Json → List Json
  | .not, operand => [operand]
  | .or, operand | .nor, operand | .and, operand => (joined? operand).getD []

inductive Path : Json → String → Prop where
  | key (fields : Fields) (path : String) (value : Json) (plain : leading? fields = none)
      (member : (path, value) ∈ fields) : Path (.obj fields) path
  | joined (fields : Fields) (combinator : Combinator) (operand condition : Json) (path : String)
      (leads : leading? fields = some (combinator, operand)) (among : condition ∈ combinator.conditions operand)
      (inner : Path condition path) : Path (.obj fields) path

theorem conditions_part {combinator : Combinator} {operand condition : Json}
    (among : condition ∈ combinator.conditions operand) : Json.Part condition operand := by
  cases combinator with
  | not =>
      rw [List.mem_singleton.mp among]
  | or | nor | and =>
      simp only [Combinator.conditions] at among
      cases joined : joined? operand with
      | none => simp [joined] at among
      | some conditions =>
          rw [joined, Option.getD_some] at among
          exact joined_part joined among

theorem all_congr {α : Type} {holds other : α → Verdict} {members : List α}
    (same : ∀ member ∈ members, holds member = other member) : members.allM holds = members.allM other := by
  induction members with
  | nil => rfl
  | cons member rest ih =>
      obtain ⟨here, later⟩ := List.forall_mem_cons.mp same
      rw [List.allM_cons, List.allM_cons, here, ih later]

theorem any_congr {α : Type} {holds other : α → Verdict} {members : List α}
    (same : ∀ member ∈ members, holds member = other member) : members.anyM holds = members.anyM other := by
  induction members with
  | nil => rfl
  | cons member rest ih =>
      obtain ⟨here, later⟩ := List.forall_mem_cons.mp same
      rw [List.anyM_cons, List.anyM_cons, here, ih later]

section

variable {operand : Json} {first second : Operand}

theorem any_of_congr (same : ∀ condition ∈ (joined? operand).getD [],
    matchesAttributes condition first = matchesAttributes condition second) : anyOf operand first = anyOf operand second := by
  rw [anyOf, anyOf]
  cases joined : joined? operand with
  | none => rfl
  | some conditions =>
      rw [joined, Option.getD_some] at same
      cases conditions with
      | nil => rfl
      | cons condition rest => exact any_congr same

theorem all_of_congr (same : ∀ condition ∈ (joined? operand).getD [],
    matchesAttributes condition first = matchesAttributes condition second) : allOf operand first = allOf operand second := by
  rw [allOf, allOf]
  cases joined : joined? operand with
  | none => rfl
  | some conditions =>
      rw [joined, Option.getD_some] at same
      exact all_congr same

theorem combinator_congr (combinator : Combinator) (same : ∀ condition ∈ combinator.conditions operand,
    matchesAttributes condition first = matchesAttributes condition second) :
    combinator.verdict operand first = combinator.verdict operand second := by
  cases combinator with
  | or => exact any_of_congr same
  | nor => simp only [Combinator.verdict, any_of_congr same]
  | and => exact all_of_congr same
  | not => simp only [Combinator.verdict, same operand List.mem_cons_self]

end

-- Induction on the condition. A combinator hands the attributes on as they are, a map of paths only follows
-- its keys.
theorem verdict_of_paths (condition : Json) (first second : Operand)
    (same : ∀ path, Path condition path → first.path path = second.path path) :
    matchesAttributes condition first = matchesAttributes condition second := by
  induction condition using Json.induction_inside with
  | step condition ih =>
      cases condition with
      | obj fields =>
          rw [matches_attributes_obj, matches_attributes_obj]
          cases leads : leading? fields with
          | none =>
              refine all_congr fun (path, value) member => ?_
              exact congrArg (matchesValue value) (same path (.key fields path value leads member))
          | some found =>
              obtain ⟨combinator, operand⟩ := found
              refine combinator_congr combinator fun condition among => ?_
              have inside : Json.Inside condition (.obj fields) :=
                .trans_right (conditions_part among) (Json.inside_field (leading_field leads))
              refine ih condition inside fun path inner => ?_
              exact same path (.joined fields combinator operand condition path leads among inner)
      | null | bool _ | num _ | str _ | arr _ => rfl

end FeatureFlags.Condition
