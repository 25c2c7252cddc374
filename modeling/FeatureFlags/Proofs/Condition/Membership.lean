import FeatureFlags.Proofs.Condition.Boolean
import FeatureFlags.Proofs.Condition.Failure

/-! What is missing is in no list, though a literal null matches it. Elsewhere a list of scalars may be
written as alternatives, and the membership of an array as that of one of its items. -/

set_option autoImplicit false

namespace FeatureFlags.Condition

theorem silent_any {α : Type} (holds : α → Checked Bool) (members : List α) :
    (Traced.silent (members.anyM holds) : Verdict) = members.anyM fun member => Traced.silent (holds member) := by
  induction members with
  | nil => rfl
  | cons member rest ih =>
      rw [List.anyM_cons, List.anyM_cons, ← ih]
      cases holds member with
      | error failure => rfl
      | ok held => cases held <;> rfl

theorem any_none {α : Type} {holds : α → Verdict} {members : List α}
    (none : ∀ member ∈ members, holds member = pure false) : members.anyM holds = pure false := by
  induction members with
  | nil => rfl
  | cons member rest ih =>
      obtain ⟨first, later⟩ := List.forall_mem_cons.mp none
      rw [List.anyM_cons, first, ih later]
      rfl

theorem matches_in (values : List Json) (actual : Operand) :
    matchesOperator "$in" actual (.value (.arr values)) = Traced.silent (Operand.isIn values actual) :=
  matches_alone .isIn (by simp) actual (.value (.arr values))

theorem scalar_literal {value : Json} (scalar : (Operand.value value).isScalar) : isLiteral value := by
  cases value with
  | bool _ | num _ | str _ => rfl
  | null | arr _ | obj _ => cases scalar

theorem scalar_unmatched {value : Json} (scalar : (Operand.value value).isScalar) {actual : Operand} (absent : actual.isAbsent) :
    matchesValue value actual = pure false := by
  cases value with
  | bool _ | num _ | str _ => rcases Operand.absent_cases absent with rfl | rfl <;> rfl
  | null | arr _ | obj _ => cases scalar

theorem array_in {values : List Json} (literals : ∀ value ∈ values, isLiteral value) (items : List Json) :
    matchesOperator "$in" (.value (.arr items)) (.value (.arr values)) =
      items.anyM fun item => values.anyM fun value => matchesValue value (.value item) := by
  rw [matches_in]
  change Traced.silent (items.anyM fun item => values.anyM fun value => Operand.equalsLiteral (.value value) (.value item)) = _
  simp only [silent_any]
  refine any_congr fun item _ => any_congr fun value among => ?_
  rw [matches_value_literal (literals value among)]

theorem present_in {values : List Json} (scalars : ∀ value ∈ values, (Operand.value value).isScalar) {actual : Operand}
    (single : ∀ items, actual ≠ .value (.arr items)) (present : ¬ actual.isAbsent) :
    matchesOperator "$in" actual (.value (.arr values)) = values.anyM fun value => matchesValue value actual := by
  have members : Operand.isIn values actual = values.anyM fun value => Operand.equalsLiteral (.value value) actual := by
    rw [Operand.isIn.eq_def, if_neg present]
    split
    · rename_i items
      exact absurd rfl (single items)
    · rfl
  rw [matches_in, members, silent_any]
  refine any_congr fun value among => ?_
  rw [matches_value_literal (scalar_literal (scalars value among))]

theorem single_in {values : List Json} (scalars : ∀ value ∈ values, (Operand.value value).isScalar) {actual : Operand}
    (single : ∀ items, actual ≠ .value (.arr items)) :
    matchesOperator "$in" actual (.value (.arr values)) = values.anyM fun value => matchesValue value actual := by
  by_cases absent : actual.isAbsent
  · have unmatched : (values.anyM fun value => matchesValue value actual) = pure false :=
      any_none fun value among => scalar_unmatched (scalars value among) absent
    rw [unmatched, matches_in, Operand.isIn.eq_def, if_pos absent]
    rfl
  · exact present_in scalars single absent

theorem matches_elem (items : List Json) (operand : Json) :
    matchesOperator "$elemMatch" (.value (.arr items)) (.value operand) = items.anyM (elementMatches operand) :=
  matches_named .elemMatch (.value (.arr items)) operand

theorem matches_elem_single {name : String} (marked : name.toList.head? = some '$') (items : List Json) (operand : Json) :
    matchesOperator "$elemMatch" (.value (.arr items)) (.value (.single name operand)) =
      items.anyM fun item => matchesOperator name (.value item) (.value operand) := by
  rw [matches_elem]
  refine any_congr fun item _ => ?_
  rw [elementMatches, if_pos (single_operators marked operand), matches_single_operator marked]

section

variable {values : List Json} (scalars : ∀ value ∈ values, (Operand.value value).isScalar) {path : String}
  (plain : ¬ Combinator.Names path) {attributes : Operand}

include scalars plain

theorem in_as_alternatives (nonempty : values ≠ []) (single : ∀ items, attributes.path path ≠ .value (.arr items)) :
    matchesAttributes (.single path (.single "$in" (.arr values))) attributes =
      matchesAttributes (.single "$or" (.arr (values.map (.single path)))) attributes := by
  have alternatives : values.map (Json.single path) ≠ [] := by simpa using nonempty
  rw [matches_single_path plain, matches_single_operator rfl, single_in scalars single, matches_or _ _ alternatives, any_map]
  exact any_congr fun value _ => (matches_single_path plain value attributes).symm

theorem in_as_element {items : List Json} (found : attributes.path path = .value (.arr items))
    (flat : ∀ item ∈ items, ∀ inner, item ≠ .arr inner) :
    matchesAttributes (.single path (.single "$in" (.arr values))) attributes =
      matchesAttributes (.single path (.single "$elemMatch" (.single "$in" (.arr values)))) attributes := by
  rw [matches_single_path plain, matches_single_path plain, found, matches_single_operator rfl, matches_single_operator rfl,
    matches_elem_single rfl, array_in fun value among => scalar_literal (scalars value among)]
  refine any_congr fun item among => ?_
  rw [single_in scalars fun inner same => flat item among inner (Operand.value.inj same)]

end

theorem not_in_list (values : List Json) (actual : Operand) :
    matchesOperator "$nin" actual (.value (.arr values)) =
      (do return !(← matchesOperator "$in" actual (.value (.arr values)))) := by
  have notIn : matchesOperator "$nin" actual (.value (.arr values)) =
      Traced.silent (do return !(← Operand.isIn values actual)) :=
    matches_alone .notIn (by simp) actual (.value (.arr values))
  rw [notIn, matches_in]
  cases Operand.isIn values actual <;> rfl

theorem in_no_list {expected : Operand} (other : ∀ values, expected ≠ .value (.arr values)) (actual : Operand) :
    matchesOperator "$in" actual expected = pure false ∧ matchesOperator "$nin" actual expected = pure false := by
  have isIn := matches_alone .isIn (by simp) actual expected
  have notIn := matches_alone .notIn (by simp) actual expected
  refine ⟨isIn.trans ?_, notIn.trans ?_⟩
  · rw [Operator.holds]
    · rfl
    · exact other
  · rw [Operator.holds]
    · rfl
    · exact other

theorem membership_matches :
    (∀ (values : List Json) (path : String) (attributes : Operand), values ≠ [] →
      (∀ value ∈ values, (Operand.value value).isScalar) → ¬ Combinator.Names path →
      ((∀ items, attributes.path path ≠ .value (.arr items)) →
        matchesAttributes (.single path (.single "$in" (.arr values))) attributes =
          matchesAttributes (.single "$or" (.arr (values.map (.single path)))) attributes) ∧
      ∀ items, attributes.path path = .value (.arr items) → (∀ item ∈ items, ∀ inner, item ≠ .arr inner) →
        matchesAttributes (.single path (.single "$in" (.arr values))) attributes =
          matchesAttributes (.single path (.single "$elemMatch" (.single "$in" (.arr values)))) attributes) ∧
    ∀ actual expected : Operand,
      (∀ values, expected = .value (.arr values) →
        matchesOperator "$nin" actual expected = (do return !(← matchesOperator "$in" actual expected))) ∧
      ((∀ values, expected ≠ .value (.arr values)) →
        matchesOperator "$in" actual expected = pure false ∧ matchesOperator "$nin" actual expected = pure false) := by
  refine ⟨fun values path attributes nonempty scalars plain => ⟨?_, ?_⟩, fun actual expected => ⟨?_, ?_⟩⟩
  · exact fun single => in_as_alternatives scalars plain nonempty single
  · exact fun items found flat => in_as_element scalars plain found flat
  · rintro values rfl
    exact not_in_list values actual
  · exact fun other => in_no_list other actual

def Basket.wanted : List Json := [.int 3, .bool true, .str "gift"]

def Basket.attributes : Operand :=
  .value (.obj [("quantity", .str "3.0"), ("tags", .arr [.null, .obj [("gift", .bool true)], .str "gift"])])

theorem membership_matches_basket :
    Basket.wanted ≠ [] ∧ (∀ value ∈ Basket.wanted, (Operand.value value).isScalar) ∧
    (matchesAttributes (.single "quantity" (.single "$in" (.arr Basket.wanted))) Basket.attributes).outcome = .ok true ∧
    matchesAttributes (.single "quantity" (.single "$in" (.arr Basket.wanted))) Basket.attributes =
      matchesAttributes (.single "$or" (.arr (Basket.wanted.map (.single "quantity")))) Basket.attributes ∧
    matchesAttributes (.single "tags" (.single "$in" (.arr Basket.wanted))) Basket.attributes =
      matchesAttributes (.single "tags" (.single "$elemMatch" (.single "$in" (.arr Basket.wanted)))) Basket.attributes ∧
    matchesOperator "$nin" .missing (.value (.arr Basket.wanted)) =
      (do return !(← matchesOperator "$in" .missing (.value (.arr Basket.wanted)))) ∧
    matchesOperator "$nin" (.value (.int 3)) .missing = pure false := by
  obtain ⟨paths, operators⟩ := membership_matches
  have nonempty : Basket.wanted ≠ [] := List.cons_ne_nil _ _
  have scalars : ∀ value ∈ Basket.wanted, (Operand.value value).isScalar := by decide
  have quantity := paths Basket.wanted "quantity" Basket.attributes nonempty scalars (by decide)
  have tags := paths Basket.wanted "tags" Basket.attributes nonempty scalars (by decide)
  refine ⟨nonempty, scalars, by decide +kernel, quantity.1 ?_, tags.2 _ rfl ?_, (operators .missing _).1 _ rfl,
    ((operators (.value (.int 3)) .missing).2 fun values => Operand.noConfusion).2⟩
  · intro items same
    cases same
  · simp

-- An array among the items is looked into by one of the two only.
example :
    (matchesOperator "$in" (.value (.arr [.arr [.int 3]])) (.value (.arr [.int 3]))).outcome = .ok false ∧
    (matchesOperator "$elemMatch" (.value (.arr [.arr [.int 3]])) (.value (.single "$in" (.arr [.int 3])))).outcome =
      .ok true := by decide +kernel

end FeatureFlags.Condition
