import FeatureFlags.Json
import Mathlib.Logic.Relation

/-! What is inside a value is smaller, so a property holds of all values if it holds of each value whenever it
holds of all that is inside it. -/

set_option autoImplicit false

namespace FeatureFlags.Json

def Child (child : Json) : Json → Prop
  | .arr items => child ∈ items
  | .obj fields => ∃ key, (key, child) ∈ fields
  | _ => False

abbrev Inside : Json → Json → Prop := Relation.TransGen Child

abbrev Part : Json → Json → Prop := Relation.ReflTransGen Child

theorem child_smaller (child whole : Json) (held : Child child whole) : sizeOf child < sizeOf whole := by
  cases whole with
  | arr items =>
      have smaller := List.sizeOf_lt_of_mem (show child ∈ items from held)
      simp only [arr.sizeOf_spec]
      omega
  | obj fields =>
      obtain ⟨key, member⟩ := held
      have smaller := List.sizeOf_lt_of_mem member
      simp only [obj.sizeOf_spec]
      simp only [Prod.mk.sizeOf_spec] at smaller
      omega
  | null | bool _ | num _ | str _ => exact held.elim

theorem inside_well_founded : WellFounded Inside :=
  (Subrelation.wf (fun {child whole} held => child_smaller child whole held) (measure sizeOf).wf).transGen

theorem induction_inside {motive : Json → Prop}
    (step : ∀ whole, (∀ part, Inside part whole → motive part) → motive whole) (json : Json) : motive json :=
  inside_well_founded.induction json step

theorem inside_item {item : Json} {items : List Json} (member : item ∈ items) : Inside item (.arr items) :=
  .single member

theorem inside_field {key : String} {value : Json} {fields : Fields} (member : (key, value) ∈ fields) :
    Inside value (.obj fields) :=
  .single ⟨key, member⟩

theorem part_leaf {part leaf : Json} (childless : ∀ child, ¬ Child child leaf) (held : Part part leaf) : part = leaf := by
  rcases Relation.ReflTransGen.cases_tail held with same | ⟨child, _, impossible⟩
  · exact same.symm
  · exact absurd impossible (childless child)

theorem part_num {part : Json} {number : Number} (held : Part part (.num number)) : part = .num number :=
  part_leaf (fun _ child => child) held

theorem distinct_items {items : List Json} (distinct : DistinctItems items) : ∀ item ∈ items, item.DistinctKeys := by
  induction items with
  | nil => simp
  | cons item rest ih => exact List.forall_mem_cons.mpr ⟨distinct.1, ih distinct.2⟩

theorem distinct_fields {fields : Fields} (distinct : DistinctFields fields) :
    ∀ field ∈ fields, field.2.DistinctKeys := by
  induction fields with
  | nil => simp
  | cons field rest ih => exact List.forall_mem_cons.mpr ⟨distinct.1, ih distinct.2⟩

theorem distinct_child {child whole : Json} (distinct : whole.DistinctKeys) (held : Child child whole) :
    child.DistinctKeys := by
  cases whole with
  | arr items => exact distinct_items distinct child held
  | obj fields =>
      obtain ⟨key, member⟩ := held
      exact distinct_fields distinct.2 (key, child) member
  | null | bool _ | num _ | str _ => exact held.elim

end FeatureFlags.Json
