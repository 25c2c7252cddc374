import FeatureFlags.Condition
import FeatureFlags.Proofs.Json.Fields
import FeatureFlags.Proofs.Json.Part

/-! A list of conditions, a map of paths, an object of operators and a container are matched by one loop each,
over the members in order, which ends at the first member that decides it. -/

set_option autoImplicit false

namespace FeatureFlags

theorem Operator.of_name (operator : Operator) : ofName? operator.name = some operator := by
  cases operator with
  | order relation | version relation => cases relation <;> decide
  | regex | isIn | notIn | isPresent | hasType | elemMatch | size | all | negation => decide

namespace Condition

theorem any_m_singleton {α : Type} (holds : α → Verdict) (member : α) : [member].anyM holds = holds member := by
  rw [List.anyM_cons]
  refine (bind_congr fun held => ?_).trans (bind_pure (holds member))
  cases held <;> rfl

theorem all_m_singleton {α : Type} (holds : α → Verdict) (member : α) : [member].allM holds = holds member := by
  rw [List.allM_cons]
  refine (bind_congr fun held => ?_).trans (bind_pure (holds member))
  cases held <;> rfl

theorem all_ends {α : Type} (holds : α → Verdict) (members : List α) :
    ((∀ member ∈ members, (holds member).outcome = .ok true) ∧ (members.allM holds).outcome = .ok true) ∨
      ∃ member ∈ members, (members.allM holds).outcome = (holds member).outcome ∧
        (holds member).outcome ≠ .ok true := by
  induction members with
  | nil => exact .inl ⟨by simp, rfl⟩
  | cons member rest ih =>
      rw [List.allM_cons, Traced.outcome_bind]
      cases ended : (holds member).outcome with
      | error failure => exact .inr ⟨member, List.mem_cons_self, ended.symm, by simp [ended]⟩
      | ok held =>
          cases held with
          | false => exact .inr ⟨member, List.mem_cons_self, ended.symm, by simp [ended]⟩
          | true =>
              rcases ih with ⟨hold, ends⟩ | ⟨first, among, ends, fails⟩
              · exact .inl ⟨List.forall_mem_cons.mpr ⟨ended, hold⟩, ends⟩
              · exact .inr ⟨first, List.mem_cons_of_mem _ among, ends, fails⟩

theorem any_ends {α : Type} (holds : α → Verdict) (members : List α) :
    ((∀ member ∈ members, (holds member).outcome = .ok false) ∧ (members.anyM holds).outcome = .ok false) ∨
      ∃ member ∈ members, (members.anyM holds).outcome = (holds member).outcome ∧
        (holds member).outcome ≠ .ok false := by
  induction members with
  | nil => exact .inl ⟨by simp, rfl⟩
  | cons member rest ih =>
      rw [List.anyM_cons, Traced.outcome_bind]
      cases ended : (holds member).outcome with
      | error failure => exact .inr ⟨member, List.mem_cons_self, ended.symm, by simp [ended]⟩
      | ok held =>
          cases held with
          | true => exact .inr ⟨member, List.mem_cons_self, ended.symm, by simp [ended]⟩
          | false =>
              rcases ih with ⟨fail, ends⟩ | ⟨first, among, ends, holds⟩
              · exact .inl ⟨List.forall_mem_cons.mpr ⟨ended, fail⟩, ends⟩
              · exact .inr ⟨first, List.mem_cons_of_mem _ among, ends, holds⟩

theorem all_true {α : Type} {holds : α → Verdict} {members : List α}
    (ended : (members.allM holds).outcome = .ok true) (member : α) (among : member ∈ members) :
    (holds member).outcome = .ok true := by
  rcases all_ends holds members with ⟨hold, _⟩ | ⟨first, _, ends, fails⟩
  · exact hold member among
  · exact absurd (ends.symm.trans ended) fails

theorem all_true_iff {α : Type} (holds : α → Verdict) (members : List α) :
    (members.allM holds).outcome = .ok true ↔ ∀ member ∈ members, (holds member).outcome = .ok true := by
  refine ⟨all_true, fun hold => ?_⟩
  rcases all_ends holds members with ⟨_, ends⟩ | ⟨member, among, _, fails⟩
  · exact ends
  · exact absurd (hold member among) fails

theorem all_false {α : Type} {holds : α → Verdict} {members : List α}
    (ended : (members.allM holds).outcome = .ok false) : ∃ member ∈ members, (holds member).outcome = .ok false := by
  rcases all_ends holds members with ⟨_, ends⟩ | ⟨first, among, ends, _⟩
  · cases ended.symm.trans ends
  · exact ⟨first, among, ends.symm.trans ended⟩

theorem any_true {α : Type} {holds : α → Verdict} {members : List α}
    (ended : (members.anyM holds).outcome = .ok true) : ∃ member ∈ members, (holds member).outcome = .ok true := by
  rcases any_ends holds members with ⟨_, ends⟩ | ⟨first, among, ends, _⟩
  · cases ended.symm.trans ends
  · exact ⟨first, among, ends.symm.trans ended⟩

theorem any_false {α : Type} {holds : α → Verdict} {members : List α}
    (ended : (members.anyM holds).outcome = .ok false) (member : α) (among : member ∈ members) :
    (holds member).outcome = .ok false := by
  rcases any_ends holds members with ⟨fail, _⟩ | ⟨first, _, ends, holds⟩
  · exact fail member among
  · exact absurd (ends.symm.trans ended) holds

theorem not_ends (verdict : Verdict) (holds : Bool) :
    (do return !(← verdict) : Verdict).outcome = .ok holds ↔ verdict.outcome = .ok (!holds) := by
  rw [Traced.outcome_bind]
  cases verdict.outcome with
  | error failure => exact ⟨fun same => (by cases same), fun same => (by cases same)⟩
  | ok held => cases held <;> cases holds <;> exact ⟨fun same => (by cases same <;> rfl), fun same => (by cases same <;> rfl)⟩

theorem matches_some_loop (conditions : List Json) (attributes : Operand) :
    matchesSome conditions attributes = conditions.anyM fun condition => matchesAttributes condition attributes := by
  induction conditions with
  | nil => rfl
  | cons condition rest ih => rw [matchesSome, List.anyM_cons, ih]

theorem matches_every_loop (conditions : List Json) (attributes : Operand) :
    matchesEvery conditions attributes = conditions.allM fun condition => matchesAttributes condition attributes := by
  induction conditions with
  | nil => rfl
  | cons condition rest ih => rw [matchesEvery, List.allM_cons, ih]

theorem matches_paths_loop (fields : Fields) (attributes : Operand) :
    matchesPaths fields attributes =
      fields.allM fun (path, value) => matchesValue value (attributes.path path) := by
  induction fields with
  | nil => rfl
  | cons field rest ih => rw [matchesPaths, List.allM_cons, ih]

theorem matches_items_loop (values items : List Json) :
    matchesItems values items =
      (values.zip items).allM fun (value, item) => matchesValue value (.value item) := by
  induction values generalizing items with
  | nil => cases items <;> rfl
  | cons value rest ih =>
      cases items with
      | nil => rfl
      | cons item items => rw [matchesItems, List.zip_cons_cons, List.allM_cons, ih]

def matchesField (others : Fields) (key : String) (value : Json) : Verdict :=
  match others.get? key with
  | some found => matchesValue value (.value found)
  | none => pure false

theorem matches_fields_loop (fields others : Fields) :
    matchesFields fields others = fields.allM fun (key, value) => matchesField others key value := by
  induction fields with
  | nil => rfl
  | cons field rest ih =>
      obtain ⟨key, value⟩ := field
      rw [matchesFields, List.allM_cons, ← ih]
      simp only [matchesField]
      cases others.get? key with
      | none => rfl
      | some found => rfl

theorem matches_operators_loop (fields : Fields) (actual : Operand) :
    matchesOperators fields actual =
      fields.allM fun (name, operand) => matchesOperator name actual (.value operand) := by
  induction fields with
  | nil => rfl
  | cons field rest ih =>
      rw [matchesOperators, List.allM_cons, ih]
      rfl

theorem each_among_loop (values items : List Json) :
    eachAmong values items =
      values.allM fun value => items.anyM fun item => matchesValue value (.value item) := by
  induction values with
  | nil => rfl
  | cons value rest ih => rw [eachAmong, List.allM_cons, ih]

def joined? : Json → Option (List Json)
  | .obj fields => some [.obj fields]
  | .arr items => some items
  | _ => none

theorem joined_part {operand condition : Json} {conditions : List Json} (joined : joined? operand = some conditions)
    (among : condition ∈ conditions) : Json.Part condition operand := by
  cases operand with
  | obj fields =>
      cases joined
      rw [List.mem_singleton.mp among]
  | arr items =>
      cases joined
      exact .single among
  | null | bool _ | num _ | str _ => cases joined

def anyOf (operand : Json) (attributes : Operand) : Verdict :=
  match joined? operand with
  | some [] => pure true
  | some conditions => conditions.anyM fun condition => matchesAttributes condition attributes
  | none => pure false

def allOf (operand : Json) (attributes : Operand) : Verdict :=
  match joined? operand with
  | some conditions => conditions.allM fun condition => matchesAttributes condition attributes
  | none => pure false

def Combinator.verdict (combinator : Combinator) (operand : Json) (attributes : Operand) : Verdict :=
  match combinator with
  | .or => anyOf operand attributes
  | .nor => do return !(← anyOf operand attributes)
  | .and => allOf operand attributes
  | .not => do return !(← matchesAttributes operand attributes)

theorem any_of_eq (operand : Json) (attributes : Operand) :
    (if isObject operand then matchesAttributes operand attributes else matchesAny operand attributes) =
      anyOf operand attributes := by
  cases operand with
  | obj fields =>
      change _ = [Json.obj fields].anyM fun condition => matchesAttributes condition attributes
      rw [any_m_singleton]
      rfl
  | arr items =>
      cases items with
      | nil => rfl
      | cons first others =>
          change matchesAny (.arr (first :: others)) attributes = List.anyM _ _
          rw [matchesAny, List.anyM_cons, matches_some_loop]
  | null | bool _ | num _ | str _ => rfl

theorem all_of_eq (operand : Json) (attributes : Operand) :
    (if isObject operand then matchesAttributes operand attributes else matchesAll operand attributes) =
      allOf operand attributes := by
  cases operand with
  | obj fields =>
      change _ = [Json.obj fields].allM fun condition => matchesAttributes condition attributes
      rw [all_m_singleton]
      rfl
  | arr items => exact matches_every_loop items attributes
  | null | bool _ | num _ | str _ => rfl

theorem combined_eq (fields : Fields) (combinator : Combinator) (attributes : Operand) :
    combined fields combinator attributes = match fields.get? combinator.name with
      | some operand => combinator.verdict operand attributes
      | none => pure false := by
  induction fields with
  | nil => rfl
  | cons field rest ih =>
      obtain ⟨key, operand⟩ := field
      rw [Fields.get_cons, combined.eq_def]
      by_cases same : combinator.name = key
      · simp only [if_pos same, if_neg (not_not_intro same.symm)]
        cases combinator with
        | or => exact any_of_eq operand attributes
        | nor =>
            simp only [Combinator.verdict, ← any_of_eq]
            cases isObject operand <;> rfl
        | and => exact all_of_eq operand attributes
        | not => rfl
      · simp only [if_neg same, if_pos (Ne.symm same), ih]

def leading? (fields : Fields) : Option (Combinator × Json) :=
  Combinator.every.findSome? fun combinator =>
    (fields.get? combinator.name).map fun operand => (combinator, operand)

theorem any_key_iff (fields : Fields) (name : String) :
    (fields.any fun (key, _) => key == name) = (fields.get? name).isSome := by
  induction fields with
  | nil => rfl
  | cons field rest ih =>
      obtain ⟨key, value⟩ := field
      rw [List.any_cons, Fields.get_cons, ih]
      by_cases same : name = key
      · simp [same]
      · simp [same, Ne.symm same]

theorem leading_eq (fields : Fields) :
    leading? fields = (combinatorOf? fields).bind fun combinator =>
      (fields.get? combinator.name).map fun operand => (combinator, operand) := by
  simp only [leading?, combinatorOf?, any_key_iff]
  induction Combinator.every with
  | nil => rfl
  | cons combinator rest ih =>
      rw [List.findSome?_cons, List.find?_cons, ih]
      cases found : fields.get? combinator.name with
      | none => rfl
      | some operand => simp [found]

theorem leading_field {fields : Fields} {combinator : Combinator} {operand : Json}
    (leads : leading? fields = some (combinator, operand)) : (combinator.name, operand) ∈ fields := by
  obtain ⟨found, _, held⟩ := List.exists_of_findSome?_eq_some leads
  obtain ⟨value, get, same⟩ := Option.map_eq_some_iff.mp held
  cases same
  exact Fields.mem_of_get get

theorem matches_attributes_obj (fields : Fields) (attributes : Operand) :
    matchesAttributes (.obj fields) attributes = match leading? fields with
      | some (combinator, operand) => combinator.verdict operand attributes
      | none => fields.allM fun (path, value) => matchesValue value (attributes.path path) := by
  rw [matchesAttributes, leading_eq]
  cases found : combinatorOf? fields with
  | none => exact matches_paths_loop fields attributes
  | some combinator =>
      have present : (fields.get? combinator.name).isSome := by
        unfold combinatorOf? at found
        simpa only [any_key_iff] using List.find?_some found
      obtain ⟨operand, held⟩ := Option.isSome_iff_exists.mp present
      simp only [combined_eq, held, Option.bind_some, Option.map_some]

-- What is matched neither item by item nor field by field.
def isLiteral : Json → Bool
  | .arr _ | .obj _ => false
  | _ => true

theorem matches_value_literal {literal : Json} (leaf : isLiteral literal) (actual : Operand) :
    matchesValue literal actual = Traced.silent (Operand.equalsLiteral (.value literal) actual) := by
  cases literal with
  | arr _ | obj _ => cases leaf
  | null | bool _ | num _ | str _ => rfl

theorem matches_value_operators (fields : Fields) (actual : Operand) (operators : isOperatorObject fields) :
    matchesValue (.obj fields) actual = fields.allM fun (name, operand) => matchesOperator name actual (.value operand) := by
  rw [matchesValue.eq_def]
  exact (if_pos operators).trans (matches_operators_loop fields actual)

def overFields (holds : Fields → Verdict) : Operand → Verdict
  | .value (.obj fields) => holds fields
  | _ => pure false

def overItems (holds : List Json → Verdict) : Operand → Verdict
  | .value (.arr items) => holds items
  | _ => pure false

theorem matches_value_obj (fields : Fields) (actual : Operand) (operators : ¬ isOperatorObject fields) :
    matchesValue (.obj fields) actual = overFields (fun others =>
      if fields.length = others.length then fields.allM fun (key, value) => matchesField others key value
      else pure false) actual := by
  simp only [← matches_fields_loop]
  rw [matchesValue.eq_def]
  exact if_neg operators

theorem matches_value_arr (values : List Json) (actual : Operand) :
    matchesValue (.arr values) actual = overItems (fun items =>
      if values.length = items.length then
        (values.zip items).allM fun (value, item) => matchesValue value (.value item)
      else pure false) actual := by
  simp only [← matches_items_loop]
  rfl

def elementMatches (operand item : Json) : Verdict :=
  if hasOperators operand then matchesValue operand (.value item) else matchesAttributes operand (.value item)

def operatorVerdict (actual : Operand) (operand : Json) : Operator → Verdict
  | .negation => do return !(← matchesValue operand actual)
  | .size => overItems (fun items => matchesValue operand (sizeOperand items)) actual
  | .elemMatch => overItems (fun items => items.anyM (elementMatches operand)) actual
  | .all => overItems (matchesAmong operand) actual
  | operator => Traced.silent (operator.holds actual (.value operand))

theorem matches_operator_eq (name : String) (actual : Operand) (operand : Json) :
    matchesOperator name actual (.value operand) = match Operator.ofName? name with
      | none => do
          Traced.note name
          return false
      | some operator => operatorVerdict actual operand operator := by
  simp only [matchesOperator, applyOperator]
  cases Operator.ofName? name with
  | none => rfl
  | some operator => cases operator <;> rfl

theorem matches_named (operator : Operator) (actual : Operand) (operand : Json) :
    matchesOperator operator.name actual (.value operand) = operatorVerdict actual operand operator := by
  rw [matches_operator_eq, Operator.of_name]

theorem matches_alone (operator : Operator) (alone : operator ∉ [.elemMatch, .size, .all, .negation])
    (actual expected : Operand) :
    matchesOperator operator.name actual expected = Traced.silent (operator.holds actual expected) := by
  cases expected with
  | value operand =>
      rw [matches_named]
      cases operator with
      | elemMatch | size | all | negation => simp at alone
      | order _ | version _ | regex | isIn | notIn | isPresent | hasType => rfl
  | missing | foreign =>
      simp only [matchesOperator, Operator.of_name]
      cases operator with
      | elemMatch | size | all | negation => simp at alone
      | order _ | version _ | regex | isIn | notIn | isPresent | hasType => rfl

end Condition
end FeatureFlags
