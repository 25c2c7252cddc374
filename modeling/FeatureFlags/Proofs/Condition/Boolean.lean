import FeatureFlags.Proofs.Condition.Paths

/-! Conditions as a Boolean algebra. Both sides of a law ask the same questions in the same order and end at
the same one, so their verdicts agree in failures and logs as well. -/

set_option autoImplicit false

namespace FeatureFlags.Condition

section

variable {α β : Type} (members : List α)

theorem not_not_verdict (verdict : Verdict) : (do return !(← (do return !(← verdict) : Verdict)) : Verdict) = verdict := by
  simp only [bind_assoc, pure_bind, Bool.not_not, bind_pure]

theorem not_any (holds : α → Verdict) :
    (do return !(← members.anyM holds) : Verdict) = members.allM fun member => do return !(← holds member) := by
  simp only [List.allM_eq_not_anyM_not, map_eq_pure_bind, not_not_verdict]

theorem not_any_not (holds : α → Verdict) :
    (do return !(← members.anyM fun member => do return !(← holds member)) : Verdict) = members.allM holds := by
  simp only [not_any, not_not_verdict]

theorem not_all_not (holds : α → Verdict) :
    (do return !(← members.allM fun member => do return !(← holds member)) : Verdict) = members.anyM holds := by
  rw [← not_any, not_not_verdict]

theorem any_map (write : α → β) (holds : β → Verdict) :
    (members.map write).anyM holds = members.anyM fun member => holds (write member) := by
  induction members with
  | nil => rfl
  | cons member rest ih => rw [List.map_cons, List.anyM_cons, List.anyM_cons, ih]

theorem all_map (write : α → β) (holds : β → Verdict) :
    (members.map write).allM holds = members.allM fun member => holds (write member) := by
  simp only [List.allM_eq_not_anyM_not, any_map]

end

theorem matches_single_combinator (combinator : Combinator) (operand : Json) (attributes : Operand) :
    matchesAttributes (.single combinator.name operand) attributes = combinator.verdict operand attributes := by
  rw [Json.single, matches_attributes_obj]
  cases combinator <;> rfl

section

variable {name : String} (marked : name.toList.head? = some '$') (operand : Json)

include marked

theorem single_operators : hasOperators (.single name operand) := by
  simp [Json.single, hasOperators, isOperatorObject, marked]

theorem matches_single_operator (actual : Operand) :
    matchesValue (.single name operand) actual = matchesOperator name actual (.value operand) := by
  rw [Json.single, matches_value_operators _ actual (single_operators marked operand), all_m_singleton]

end

section

variable (conditions : List Json) (attributes : Operand)

theorem matches_not (condition : Json) :
    matchesAttributes (.single "$not" condition) attributes = (do return !(← matchesAttributes condition attributes)) :=
  matches_single_combinator .not condition attributes

theorem matches_and : matchesAttributes (.single "$and" (.arr conditions)) attributes =
    conditions.allM fun condition => matchesAttributes condition attributes :=
  matches_single_combinator .and (.arr conditions) attributes

theorem matches_all_denied : matchesAttributes (.single "$and" (.arr (conditions.map (.single "$not")))) attributes =
    conditions.allM fun condition => do return !(← matchesAttributes condition attributes) := by
  simp only [matches_and, all_map, matches_not]

section

variable (nonempty : conditions ≠ [])

include nonempty

theorem any_of_items :
    anyOf (.arr conditions) attributes = conditions.anyM fun condition => matchesAttributes condition attributes := by
  cases conditions with
  | nil => exact absurd rfl nonempty
  | cons first rest => rfl

theorem matches_or : matchesAttributes (.single "$or" (.arr conditions)) attributes =
    conditions.anyM fun condition => matchesAttributes condition attributes := by
  rw [← any_of_items conditions attributes nonempty]
  exact matches_single_combinator .or (.arr conditions) attributes

theorem matches_nor : matchesAttributes (.single "$nor" (.arr conditions)) attributes =
    (do return !(← conditions.anyM fun condition => matchesAttributes condition attributes)) := by
  rw [← any_of_items conditions attributes nonempty]
  exact matches_single_combinator .nor (.arr conditions) attributes

theorem nor_conjoined : matchesAttributes (.single "$nor" (.arr conditions)) attributes =
    matchesAttributes (.single "$and" (.arr (conditions.map (.single "$not")))) attributes := by
  rw [matches_nor conditions attributes nonempty, matches_all_denied, not_any]

theorem or_conjoined : matchesAttributes (.single "$or" (.arr conditions)) attributes =
    matchesAttributes (.single "$not" (.single "$and" (.arr (conditions.map (.single "$not"))))) attributes := by
  rw [matches_or conditions attributes nonempty, matches_not, matches_all_denied, not_all_not]

end

end

-- The empty list of alternatives holds, and so does the empty conjunction: the denial of the one is that of the other.
example (attributes : Operand) : matchesAttributes (.single "$nor" (.arr [])) attributes =
    matchesAttributes (.single "$not" (.single "$and" (.arr []))) attributes := rfl

theorem fields_conjoined {fields : Fields} (plain : ∀ path ∈ fields.keys, ¬ Combinator.Names path) (attributes : Operand) :
    matchesAttributes (.obj fields) attributes =
      matchesAttributes (.single "$and" (.arr (fields.map fun (path, value) => .single path value))) attributes := by
  rw [matches_plain_paths plain, matches_and, all_map]
  refine all_congr fun (path, value) member => ?_
  exact (matches_single_path (plain path (List.mem_map.mpr ⟨(path, value), member, rfl⟩)) value attributes).symm

theorem operators_conjoined {path : String} (plain : ¬ Combinator.Names path) {operators : Fields}
    (marked : isOperatorObject operators) (attributes : Operand) :
    matchesAttributes (.single path (.obj operators)) attributes =
      matchesAttributes (.single "$and"
        (.arr (operators.map fun (name, operand) => .single path (.single name operand)))) attributes := by
  rw [matches_single_path plain, matches_value_operators _ _ marked, matches_and, all_map]
  refine all_congr fun (name, operand) member => ?_
  have own : name.toList.head? = some '$' := by
    simp only [isOperatorObject, Bool.and_eq_true, List.all_eq_true, beq_iff_eq] at marked
    exact marked.2 (name, operand) member
  rw [matches_single_path plain, matches_single_operator own]

theorem combinators_boolean (attributes : Operand) :
    (∀ conditions : List Json, conditions ≠ [] →
      matchesAttributes (.single "$nor" (.arr conditions)) attributes =
        matchesAttributes (.single "$and" (.arr (conditions.map (.single "$not")))) attributes ∧
      matchesAttributes (.single "$or" (.arr conditions)) attributes =
        matchesAttributes (.single "$not" (.single "$and" (.arr (conditions.map (.single "$not"))))) attributes) ∧
    (∀ fields : Fields, (∀ path ∈ fields.keys, ¬ Combinator.Names path) →
      matchesAttributes (.obj fields) attributes =
        matchesAttributes (.single "$and" (.arr (fields.map fun (path, value) => .single path value))) attributes) ∧
    ∀ (path : String) (operators : Fields), ¬ Combinator.Names path → isOperatorObject operators →
      matchesAttributes (.single path (.obj operators)) attributes =
        matchesAttributes (.single "$and"
          (.arr (operators.map fun (name, operand) => .single path (.single name operand)))) attributes := by
  refine ⟨fun conditions nonempty => ⟨?_, ?_⟩, fun fields plain => ?_, fun path operators plain marked => ?_⟩
  · exact nor_conjoined conditions attributes nonempty
  · exact or_conjoined conditions attributes nonempty
  · exact fields_conjoined plain attributes
  · exact operators_conjoined plain marked attributes

def Campaign.ages : Fields := [("$gte", .int 18), ("$lt", .int 65)]

def Campaign.fields : Fields := [("plan", .str "pro"), ("age", .obj Campaign.ages)]

def Campaign.conditions : List Json := [.single "plan" (.str "free"), .null, .obj Campaign.fields]

-- The age has a separator, and cannot be read.
def Campaign.attributes : Operand := .value (.obj [("plan", .str "pro"), ("age", .str "\x1c20")])

theorem combinators_boolean_campaign :
    Campaign.conditions ≠ [] ∧ (∀ path ∈ Campaign.fields.keys, ¬ Combinator.Names path) ∧
    isOperatorObject Campaign.ages ∧
    (matchesAttributes (.single "$nor" (.arr Campaign.conditions)) Campaign.attributes).outcome =
      .error (.unreadableNumber "\x1c20") ∧
    matchesAttributes (.single "$nor" (.arr Campaign.conditions)) Campaign.attributes =
      matchesAttributes (.single "$and" (.arr (Campaign.conditions.map (.single "$not")))) Campaign.attributes ∧
    matchesAttributes (.obj Campaign.fields) Campaign.attributes =
      matchesAttributes (.single "$and"
        (.arr [.single "plan" (.str "pro"), .single "age" (.obj Campaign.ages)])) Campaign.attributes ∧
    matchesAttributes (.single "age" (.obj Campaign.ages)) Campaign.attributes =
      matchesAttributes (.single "$and"
        (.arr [.single "age" (.single "$gte" (.int 18)), .single "age" (.single "$lt" (.int 65))])) Campaign.attributes := by
  obtain ⟨lists, maps, objects⟩ := combinators_boolean Campaign.attributes
  have nonempty : Campaign.conditions ≠ [] := List.cons_ne_nil _ _
  have plain : ∀ path ∈ Campaign.fields.keys, ¬ Combinator.Names path := by decide
  have marked : isOperatorObject Campaign.ages := by decide
  exact ⟨nonempty, plain, marked, by decide +kernel, (lists _ nonempty).1, maps _ plain,
    objects "age" _ (plain "age" (by decide)) marked⟩

end FeatureFlags.Condition
