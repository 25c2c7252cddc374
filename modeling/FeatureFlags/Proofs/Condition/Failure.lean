import FeatureFlags.Proofs.Condition.Loops
import FeatureFlags.Proofs.Number.Reading
import FeatureFlags.Proofs.Number.Value

/-! Every failure of a condition comes from a number, a text or a list that the condition or the attributes
hold. -/

set_option autoImplicit false

namespace FeatureFlags

open Condition

variable {possible : ConditionError → Prop}

def Possible {α : Type} (possible : ConditionError → Prop) (checked : Checked α) : Prop :=
  ∀ failure, checked = .error failure → possible failure

namespace Possible

theorem ok {α : Type} (value : α) : Possible possible (.ok value) := fun _ same => (by cases same)

theorem bind {α β : Type} {first : Checked α} {next : α → Checked β} (starts : Possible possible first)
    (later : ∀ value, Possible possible (next value)) : Possible possible (first >>= next) := by
  cases first with
  | error failure => exact fun other same => starts other (by cases same; rfl)
  | ok value => exact later value

theorem any {α : Type} {holds : α → Checked Bool} {members : List α}
    (each : ∀ member ∈ members, Possible possible (holds member)) : Possible possible (members.anyM holds) := by
  induction members with
  | nil => exact ok false
  | cons member rest ih =>
      obtain ⟨first, later⟩ := List.forall_mem_cons.mp each
      rw [List.anyM_cons]
      refine bind first fun held => ?_
      cases held with
      | true => exact ok true
      | false => exact ih later

theorem all_loop {α : Type} {holds : α → Verdict} {members : List α}
    (each : ∀ member ∈ members, Possible possible (holds member).outcome) : Possible possible (members.allM holds).outcome := by
  rcases all_ends holds members with ⟨_, ends⟩ | ⟨member, among, ends, _⟩
  · rw [ends]
    exact ok true
  · rw [ends]
    exact each member among

theorem any_loop {α : Type} {holds : α → Verdict} {members : List α}
    (each : ∀ member ∈ members, Possible possible (holds member).outcome) : Possible possible (members.anyM holds).outcome := by
  rcases any_ends holds members with ⟨_, ends⟩ | ⟨member, among, ends, _⟩
  · rw [ends]
    exact ok false
  · rw [ends]
    exact each member among

theorem not {verdict : Verdict} (within : Possible possible verdict.outcome) :
    Possible possible (do return !(← verdict) : Verdict).outcome := by
  rw [Traced.outcome_bind]
  exact within.bind fun held => ok _

end Possible

def Operand.Reads (possible : ConditionError → Prop) (operand : Operand) : Prop :=
  operand.looksNumeric → Possible possible operand.toDouble

structure Json.Counts (possible : ConditionError → Prop) (json : Json) : Prop where
  numbers : ∀ part, Json.Part part json → (Operand.value part).Reads possible
  lengths : ∀ items, Json.Part (.arr items) json → (sizeOperand items).Reads possible

structure Json.Usable (possible : ConditionError → Prop) (condition : Json) : Prop where
  numbers : ∀ part, Json.Part part condition → (Operand.value part).Reads possible
  patterns : ∀ text failure, Json.Part (.str text) condition → Pattern.read text = .error failure →
    failure ≠ .malformed → possible (.pattern failure)

theorem Json.Counts.part {part json : Json} (counts : json.Counts possible) (held : Json.Part part json) :
    part.Counts possible :=
  ⟨fun inner inside => counts.numbers inner (inside.trans held), fun items inside => counts.lengths items (inside.trans held)⟩

theorem Json.Usable.part {part json : Json} (usable : json.Usable possible) (held : Json.Part part json) :
    part.Usable possible :=
  ⟨fun inner inside => usable.numbers inner (inside.trans held),
    fun text failure inside => usable.patterns text failure (inside.trans held)⟩

def Operand.Counts (possible : ConditionError → Prop) : Operand → Prop
  | .value json => json.Counts possible
  | _ => True

namespace Operand

theorem reads {operand : Operand} (counts : operand.Counts possible) : operand.Reads possible := by
  cases operand with
  | missing | foreign => exact fun _ => .ok _
  | value json => exact counts.numbers json .refl

theorem field_counts {operand : Operand} (counts : operand.Counts possible) (key : String) :
    (operand.field key).Counts possible := by
  rw [field.eq_def]
  split
  · rename_i fields
    split
    · rename_i found held
      exact Json.Counts.part counts (.single ⟨key, Fields.mem_of_get held⟩)
    · trivial
  · trivial

theorem path_counts {operand : Operand} (counts : operand.Counts possible) (path : String) :
    (operand.path path).Counts possible := by
  rw [Operand.path]
  exact List.foldlRecOn _ _ counts fun reached counts segment _ => field_counts counts (String.ofList segment)

theorem size_counts (items : List Json) (counts : (sizeOperand items).Reads possible) :
    (sizeOperand items).Counts possible := by
  refine ⟨fun part held => ?_, fun others held => ?_⟩
  · rw [Json.part_num held]
    exact counts
  · cases Json.part_num held

theorem absent_cases {operand : Operand} (absent : operand.isAbsent) : operand = .missing ∨ operand = .value .null := by
  cases operand with
  | missing => exact .inl rfl
  | foreign => cases absent
  | value json =>
      cases json with
      | null => exact .inr rfl
      | bool _ | num _ | str _ | arr _ | obj _ => cases absent

theorem absent_to_double {operand : Operand} (absent : operand.isAbsent) : operand.toDouble = .ok .zero := by
  rcases absent_cases absent with rfl | rfl <;> rfl

theorem numeric_possible {operand : Operand} (reads : operand.Reads possible) {other : Bool}
    (numeric : operand.looksNumeric || operand.isAbsent && other) : Possible possible operand.toDouble := by
  simp only [Bool.or_eq_true, Bool.and_eq_true] at numeric
  rcases numeric with looks | ⟨absent, _⟩
  · exact reads looks
  · rw [absent_to_double absent]
    exact .ok _

theorem compare_possible {a b : Operand} (first : a.Reads possible) (second : b.Reads possible) :
    Possible possible (compare a b) := by
  rw [compare]
  split
  · rename_i numeric
    simp only [Bool.and_eq_true] at numeric
    exact (numeric_possible first numeric.1).bind fun x => (numeric_possible second numeric.2).bind fun y => .ok _
  · split <;> exact .ok _

theorem equals_literal_possible {literal actual : Operand} (first : literal.Reads possible)
    (second : actual.Reads possible) : Possible possible (equalsLiteral literal actual) := by
  rw [equalsLiteral.eq_def]
  split
  · exact .ok _
  · exact .ok _
  · exact .ok _
  · split
    · exact .ok _
    · split
      · rename_i numeric
        simp only [Bool.and_eq_true] at numeric
        exact (first numeric.1.2).bind fun x => (second numeric.2).bind fun y => .ok _
      · split <;> exact .ok _

theorem is_in_possible {values : List Json} {actual : Operand} (usable : (Json.arr values).Usable possible)
    (counts : actual.Counts possible) : Possible possible (isIn values actual) := by
  have wanted : ∀ value ∈ values, (Operand.value value).Reads possible := fun value among =>
    usable.numbers value (.single among)
  rw [isIn.eq_def]
  split
  · exact .ok _
  · split
    · rename_i items
      refine .any fun item itemAmong => .any fun value among => ?_
      exact equals_literal_possible (wanted value among) (counts.numbers item (.single itemAmong))
    · exact .any fun value among => equals_literal_possible (wanted value among) (reads counts)

theorem pattern_possible {pattern : Json} (usable : pattern.Usable possible) (actual : Operand) :
    Possible possible (matchesPattern (.value pattern) actual) := by
  rw [matchesPattern.eq_def]
  split
  · rename_i text same
    cases same
    split
    · split
      · exact .ok _
      · exact .ok _
      · rename_i failure unexpected read
        intro raised same
        cases same
        exact usable.patterns text failure .refl read unexpected
    · exact .ok _
  · exact .ok _

end Operand

theorem Operator.holds_possible (operator : Operator) {actual : Operand} {operand : Json}
    (usable : operand.Usable possible) (counts : actual.Counts possible) :
    Possible possible (operator.holds actual (.value operand)) := by
  cases operator with
  | order relation =>
      exact (Operand.compare_possible (Operand.reads counts) (usable.numbers operand .refl)).bind fun _ => .ok _
  | regex => exact Operand.pattern_possible usable actual
  | isIn =>
      cases operand with
      | arr values => exact Operand.is_in_possible usable counts
      | null | bool _ | num _ | str _ | obj _ => exact .ok _
  | notIn =>
      cases operand with
      | arr values => exact (Operand.is_in_possible usable counts).bind fun _ => .ok _
      | null | bool _ | num _ | str _ | obj _ => exact .ok _
  | hasType => cases operand <;> exact .ok _
  | version _ | isPresent | elemMatch | size | all | negation => exact .ok _

namespace Condition

structure FailsWithin (possible : ConditionError → Prop) (condition : Json) : Prop where
  attributes : ∀ actual, actual.Counts possible → Possible possible (matchesAttributes condition actual).outcome
  value : ∀ actual, actual.Counts possible → Possible possible (matchesValue condition actual).outcome

theorem over_items_possible {holds : List Json → Verdict} {actual : Operand} (counts : actual.Counts possible)
    (each : ∀ items, (Json.arr items).Counts possible → Possible possible (holds items).outcome) :
    Possible possible (overItems holds actual).outcome := by
  rw [overItems.eq_def]
  split
  · exact each _ counts
  · exact .ok _

theorem items_possible {values : List Json} {actual : Operand} (each : ∀ items, actual = .value (.arr items) →
    ∀ value ∈ values, ∀ item ∈ items, Possible possible (matchesValue value (.value item)).outcome) :
    Possible possible (matchesValue (.arr values) actual).outcome := by
  rw [matches_value_arr, overItems.eq_def]
  split
  · rename_i items
    split
    · refine .all_loop fun (value, item) among => ?_
      obtain ⟨valueAmong, itemAmong⟩ := List.of_mem_zip among
      exact each items rfl value valueAmong item itemAmong
    · exact .ok _
  · exact .ok _

theorem fields_possible {fields : Fields} {actual : Operand} (operators : ¬ isOperatorObject fields)
    (each : ∀ others, actual = .value (.obj others) → ∀ key value found, (key, value) ∈ fields → (key, found) ∈ others →
      Possible possible (matchesValue value (.value found)).outcome) :
    Possible possible (matchesValue (.obj fields) actual).outcome := by
  rw [matches_value_obj fields actual operators, overFields.eq_def]
  split
  · rename_i others
    split
    · refine .all_loop fun (key, value) among => ?_
      simp only [matchesField]
      split
      · rename_i found held
        exact each others rfl key value found among (Fields.mem_of_get held)
      · exact .ok _
    · exact .ok _
  · exact .ok _

section

variable {operand : Json} (within : ∀ part, Json.Part part operand → FailsWithin possible part)
  (usable : operand.Usable possible) {actual : Operand} (counts : actual.Counts possible)

include within counts

theorem all_of_possible : Possible possible (allOf operand actual).outcome := by
  rw [allOf]
  split
  · rename_i conditions joined
    exact .all_loop fun condition among => (within condition (joined_part joined among)).attributes actual counts
  · exact .ok _

theorem any_of_possible : Possible possible (anyOf operand actual).outcome := by
  rw [anyOf]
  split
  · exact .ok _
  · rename_i conditions _ joined
    exact .any_loop fun condition among => (within condition (joined_part joined among)).attributes actual counts
  · exact .ok _

theorem combinator_possible (combinator : Combinator) : Possible possible (combinator.verdict operand actual).outcome := by
  cases combinator with
  | or => exact any_of_possible within counts
  | nor => exact (any_of_possible within counts).not
  | and => exact all_of_possible within counts
  | not => exact ((within operand .refl).attributes actual counts).not

omit counts in
theorem among_possible {items : List Json} (counts : (Json.arr items).Counts possible) :
    Possible possible (matchesAmong operand items).outcome := by
  cases operand with
  | arr values =>
      rw [matchesAmong, each_among_loop]
      refine .all_loop fun value among => .any_loop fun item itemAmong => ?_
      exact (within value (.single among)).value _ (counts.part (.single itemAmong))
  | null | bool _ | num _ | str _ | obj _ => exact .ok _

include usable

theorem operator_possible (name : String) : Possible possible (matchesOperator name actual (.value operand)).outcome := by
  have own := within operand .refl
  rw [matches_operator_eq]
  cases Operator.ofName? name with
  | none => exact .ok false
  | some operator =>
      cases operator with
      | negation => exact (own.value actual counts).not
      | size =>
          exact over_items_possible counts fun items counts =>
            own.value (sizeOperand items) (Operand.size_counts items (counts.lengths items .refl))
      | elemMatch =>
          refine over_items_possible counts fun items counts => .any_loop fun item among => ?_
          have itemCounts := counts.part (.single among)
          rw [elementMatches]
          split
          · exact own.value (.value item) itemCounts
          · exact own.attributes (.value item) itemCounts
      | all => exact over_items_possible counts fun items counts => among_possible within counts
      | order _ | version _ | regex | isIn | notIn | isPresent | hasType =>
          simp only [operatorVerdict, Traced.outcome_silent]
          exact Operator.holds_possible _ usable counts

end

section

variable {fields : Fields} (within : ∀ part, Json.Inside part (.obj fields) → FailsWithin possible part)
  (usable : (Json.obj fields).Usable possible) {actual : Operand} (counts : actual.Counts possible)

include within counts

theorem attributes_possible : Possible possible (matchesAttributes (.obj fields) actual).outcome := by
  rw [matches_attributes_obj]
  split
  · rename_i combinator operand leads
    have inside := Json.inside_field (leading_field leads)
    exact combinator_possible (fun part held => within part (.trans_right held inside)) counts combinator
  · exact .all_loop fun (path, value) among =>
      (within value (Json.inside_field among)).value _ (Operand.path_counts counts path)

include usable

theorem value_obj_possible : Possible possible (matchesValue (.obj fields) actual).outcome := by
  by_cases operators : isOperatorObject fields
  · rw [matches_value_operators fields actual operators]
    refine .all_loop fun (name, operand) among => ?_
    have inside := Json.inside_field among
    exact operator_possible (fun part held => within part (.trans_right held inside)) (usable.part (.single ⟨name, among⟩))
      counts name
  · refine fields_possible operators fun others same key value found own other => ?_
    subst same
    exact (within value (Json.inside_field own)).value _ (Json.Counts.part counts (.single ⟨key, other⟩))

end

theorem fails_within (condition : Json) (usable : condition.Usable possible) : FailsWithin possible condition := by
  induction condition using Json.induction_inside with
  | step condition ih =>
      have within : ∀ part, Json.Inside part condition → FailsWithin possible part := fun part inside =>
        ih part inside (usable.part inside.to_reflTransGen)
      have literal (actual : Operand) (counts : actual.Counts possible) :
          Possible possible (Operand.equalsLiteral (.value condition) actual) :=
        Operand.equals_literal_possible (usable.numbers condition .refl) (Operand.reads counts)
      cases condition with
      | obj fields =>
          exact ⟨fun _ counts => attributes_possible within counts, fun _ counts => value_obj_possible within usable counts⟩
      | arr values =>
          refine ⟨fun _ _ => .ok _, fun actual counts => items_possible fun items same value among item itemAmong => ?_⟩
          subst same
          exact (within value (.single among)).value _ (counts.part (.single itemAmong))
      | null | bool _ | num _ | str _ => exact ⟨fun _ _ => .ok _, literal⟩

end Condition

inductive ConditionError.Caused (condition attributes : Json) : ConditionError → Prop where
  | integer (value : Int) (held : Json.Part (.num (.int value)) condition ∨ Json.Part (.num (.int value)) attributes)
      (large : Double.ofInt? value = none) : Caused condition attributes .integerTooLarge
  | length (items : List Json) (held : Json.Part (.arr items) attributes) (large : Double.ofInt? items.length = none) :
      Caused condition attributes .integerTooLarge
  | text (text : String) (held : Json.Part (.str text) condition ∨ Json.Part (.str text) attributes)
      (numeric : Numeral.looksNumeric text) (separated : ∃ c ∈ text.toList, c ∈ Text.separators) :
      Caused condition attributes (.unreadableNumber text)
  | pattern (text : String) (failure : Pattern.ReadError) (held : Json.Part (.str text) condition)
      (read : Pattern.read text = .error failure) (unexpected : failure ≠ .malformed) :
      Caused condition attributes (.pattern failure)

theorem Operand.number_fails (number : Number) (failure : ConditionError)
    (failed : (Operand.value (.num number)).toDouble = .error failure) :
    failure = .integerTooLarge ∧ ∃ value, number = .int value ∧ Double.ofInt? value = none := by
  rw [toDouble] at failed
  cases read : number.toDouble? with
  | none =>
      rw [read] at failed
      exact ⟨(Except.error.inj failed).symm, number.int_of_unread read⟩
  | some double =>
      rw [read] at failed
      cases failed

theorem Operand.text_fails (text : String) (failure : ConditionError)
    (failed : (Operand.value (.str text)).toDouble = .error failure) :
    failure = .unreadableNumber text ∧ Numeral.toDouble? text = none := by
  rw [toDouble] at failed
  cases read : Numeral.toDouble? text with
  | none =>
      rw [read] at failed
      exact ⟨(Except.error.inj failed).symm, rfl⟩
  | some double =>
      rw [read] at failed
      cases failed

theorem part_reads (condition attributes part : Json) (held : Json.Part part condition ∨ Json.Part part attributes) :
    (Operand.value part).Reads (ConditionError.Caused condition attributes) := by
  intro numeric failure failed
  cases part with
  | num number =>
      obtain ⟨rfl, value, rfl, large⟩ := Operand.number_fails number failure failed
      exact .integer value held large
  | str text =>
      obtain ⟨rfl, unread⟩ := Operand.text_fails text failure failed
      exact .text text held numeric ((Numeral.numeric_unread_iff text numeric).mp unread)
  | null | bool _ | arr _ | obj _ => cases numeric

theorem length_reads (condition attributes : Json) (items : List Json) (held : Json.Part (.arr items) attributes) :
    (sizeOperand items).Reads (ConditionError.Caused condition attributes) := by
  intro _ failure failed
  obtain ⟨rfl, value, same, large⟩ := Operand.number_fails (.int items.length) failure failed
  cases same
  exact .length items held large

namespace Condition

theorem ends_or_caused (condition attributes : Json) :
    ((∃ holds, (matchesAttributes condition (.value attributes)).outcome = .ok holds) ∨
      ∃ failure, (matchesAttributes condition (.value attributes)).outcome = .error failure ∧
        failure.Caused condition attributes) ∧
    ∀ text, Numeral.looksNumeric text → (Numeral.toDouble? text = none ↔ ∃ c ∈ text.toList, c ∈ Text.separators) := by
  refine ⟨?_, Numeral.numeric_unread_iff⟩
  have usable : condition.Usable (ConditionError.Caused condition attributes) :=
    ⟨fun part held => part_reads condition attributes part (.inl held),
      fun text failure held read unexpected => .pattern text failure held read unexpected⟩
  have counts : attributes.Counts (ConditionError.Caused condition attributes) :=
    ⟨fun part held => part_reads condition attributes part (.inr held), length_reads condition attributes⟩
  cases ended : (matchesAttributes condition (.value attributes)).outcome with
  | ok holds => exact .inl ⟨holds, rfl⟩
  | error failure => exact .inr ⟨failure, rfl, (fails_within condition usable).attributes (.value attributes) counts failure ended⟩

theorem separated_number_fails :
    Numeral.looksNumeric "\x1c1" ∧ Numeral.toDouble? "\x1c1" = none ∧
      (matchesAttributes (.obj [("x", .obj [("$eq", .int 1)])]) (.value (.obj [("x", .str "\x1c1")]))).outcome =
        .error (.unreadableNumber "\x1c1") := by
  refine ⟨by decide +kernel, by decide +kernel, by decide +kernel⟩

end Condition
end FeatureFlags
