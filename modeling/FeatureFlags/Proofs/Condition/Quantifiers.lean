import FeatureFlags.Proofs.Condition.Membership

/-! `$all` asks for an item that matches, once for each of its members: with operators inside a member that is
`$elemMatch`, with a literal it is `$in`. `$elemMatch` asks for some item, and between two denials for every
one. -/

set_option autoImplicit false

namespace FeatureFlags.Condition

theorem matches_negation (operand : Json) (actual : Operand) :
    matchesOperator "$not" actual (.value operand) = (do return !(← matchesValue operand actual)) :=
  matches_named .negation actual operand

section

variable (items : List Json)

theorem matches_all (values : List Json) : matchesOperator "$all" (.value (.arr items)) (.value (.arr values)) =
    values.allM fun value => items.anyM fun item => matchesValue value (.value item) := by
  rw [← each_among_loop]
  exact matches_named .all (.value (.arr items)) (.arr values)

theorem all_as_elements {conditions : List Json} (operators : ∀ condition ∈ conditions, hasOperators condition) :
    matchesOperator "$all" (.value (.arr items)) (.value (.arr conditions)) =
      conditions.allM fun condition => matchesOperator "$elemMatch" (.value (.arr items)) (.value condition) := by
  rw [matches_all]
  refine all_congr fun condition among => ?_
  rw [matches_elem]
  refine any_congr fun item _ => ?_
  rw [elementMatches, if_pos (operators condition among)]

theorem all_as_members {literals : List Json} (leaves : ∀ literal ∈ literals, isLiteral literal) :
    matchesOperator "$all" (.value (.arr items)) (.value (.arr literals)) =
      literals.allM fun literal => matchesOperator "$in" (.value (.arr items)) (.value (.arr [literal])) := by
  rw [matches_all]
  refine all_congr fun literal among => ?_
  have leaf : ∀ value ∈ [literal], isLiteral value := by simpa using leaves literal among
  rw [array_in leaf]
  refine any_congr fun item _ => ?_
  rw [any_m_singleton]

theorem not_elem_not (condition : Json) :
    matchesValue (.single "$not" (.single "$elemMatch" (.single "$not" condition))) (.value (.arr items)) =
      items.allM fun item => matchesValue condition (.value item) := by
  rw [matches_single_operator rfl, matches_negation, matches_single_operator rfl, matches_elem_single rfl]
  simp only [matches_negation]
  exact not_any_not items fun item => matchesValue condition (.value item)

end

-- An evaluation that fails counts as one that does not hold, on both sides.
theorem quantifiers_agree (items : List Json) :
    (∀ conditions : List Json, (∀ condition ∈ conditions, hasOperators condition) →
      ((matchesOperator "$all" (.value (.arr items)) (.value (.arr conditions))).outcome = .ok true ↔
        ∀ condition ∈ conditions,
          (matchesOperator "$elemMatch" (.value (.arr items)) (.value condition)).outcome = .ok true)) ∧
    (∀ literals : List Json, (∀ literal ∈ literals, isLiteral literal) →
      ((matchesOperator "$all" (.value (.arr items)) (.value (.arr literals))).outcome = .ok true ↔
        ∀ literal ∈ literals,
          (matchesOperator "$in" (.value (.arr items)) (.value (.arr [literal]))).outcome = .ok true)) ∧
    ∀ condition : Json,
      (matchesValue (.single "$not" (.single "$elemMatch" (.single "$not" condition))) (.value (.arr items))).outcome =
        .ok true ↔ ∀ item ∈ items, (matchesValue condition (.value item)).outcome = .ok true := by
  refine ⟨fun conditions operators => ?_, fun literals leaves => ?_, fun condition => ?_⟩
  · rw [all_as_elements items operators, all_true_iff]
  · rw [all_as_members items leaves, all_true_iff]
  · rw [not_elem_not, all_true_iff]

def Readings.items : List Json := [.int 5, .str "7.0", .null]

def Readings.conditions : List Json :=
  [.obj [("$gt", .int 4), ("$lt", .int 6)], .single "$not" (.single "$type" (.str "number"))]

def Readings.literals : List Json := [.int 7, .null]

theorem quantifiers_agree_readings :
    (∀ condition ∈ Readings.conditions, hasOperators condition) ∧ (∀ literal ∈ Readings.literals, isLiteral literal) ∧
    (∀ condition ∈ Readings.conditions,
      (matchesOperator "$elemMatch" (.value (.arr Readings.items)) (.value condition)).outcome = .ok true) ∧
    (∀ literal ∈ Readings.literals,
      (matchesOperator "$in" (.value (.arr Readings.items)) (.value (.arr [literal]))).outcome = .ok true) ∧
    ∀ item ∈ Readings.items, (matchesValue (.single "$not" (.single "$eq" (.int 6))) (.value item)).outcome = .ok true := by
  obtain ⟨elements, members, every⟩ := quantifiers_agree Readings.items
  have operators : ∀ condition ∈ Readings.conditions, hasOperators condition := by decide
  have leaves : ∀ literal ∈ Readings.literals, isLiteral literal := by decide
  refine ⟨operators, leaves, (elements _ operators).mp ?_, (members _ leaves).mp ?_, (every _).mp ?_⟩
  · decide +kernel
  · decide +kernel
  · decide +kernel

end FeatureFlags.Condition
