import FeatureFlags.Proofs.Condition.Failure
import FeatureFlags.Proofs.Condition.Operands
import FeatureFlags.Proofs.Number.Order
import FeatureFlags.Proofs.Text.Order

/-! Two operands are compared as doubles, as texts or not at all, in either order alike, and the two orders
give opposite answers. A missing operand is zero among quantities and the empty text among wordings. -/

set_option autoImplicit false

namespace FeatureFlags

def Numeral.Separated (text : String) : Prop := looksNumeric text ∧ ∃ c ∈ text.toList, c ∈ Text.separators

theorem Numeral.separated_iff (text : String) : Separated text ↔ looksNumeric text ∧ toDouble? text = none :=
  and_congr_right fun numeric => (numeric_unread_iff text numeric).symm

theorem text_order_swap (a b : String) : textOrder b a = (textOrder a b).swap := by
  rw [text_order_eq, text_order_eq]
  exact Std.OrientedOrd.eq_swap

theorem text_order_self (a : String) : textOrder a a = .eq := by
  rw [text_order_eq, Std.ReflOrd.compare_self]

theorem text_order_trans {a b c : String} (first : (textOrder a b).isLE) (second : (textOrder b c).isLE) :
    (textOrder a c).isLE := by
  rw [text_order_eq] at *
  exact Std.TransCmp.isLE_trans first second

namespace Relation

def mirror : Relation → Relation
  | .eq => .eq
  | .ne => .ne
  | .lt => .gt
  | .lte => .gte
  | .gt => .lt
  | .gte => .lte

theorem mirror_accepts (relation : Relation) (order : Ordering) :
    relation.mirror.accepts order.swap = relation.accepts order := by
  cases relation <;> cases order <;> rfl

end Relation

namespace Operand

inductive Unreadable : Operand → Prop where
  | integer (value : Int) (large : Double.ofInt? value = none) : Unreadable (.value (.num (.int value)))
  | text (text : String) (separated : Numeral.Separated text) : Unreadable (.value (.str text))

theorem unreadable_iff (a : Operand) : a.Unreadable ↔ a.looksNumeric ∧ ∃ failure, a.toDouble = .error failure := by
  constructor
  · intro unreadable
    cases unreadable with
    | integer value large => exact ⟨rfl, .integerTooLarge, by rw [toDouble, Number.toDouble?, large]⟩
    | text text separated =>
        obtain ⟨numeric, unread⟩ := (Numeral.separated_iff text).mp separated
        exact ⟨numeric, .unreadableNumber text, by rw [toDouble, unread]⟩
  · rintro ⟨numeric, failure, failed⟩
    cases a with
    | missing | foreign => cases numeric
    | value json =>
        cases json with
        | num number =>
            obtain ⟨_, value, rfl, large⟩ := number_fails number failure failed
            exact .integer value large
        | str text => exact .text text ((Numeral.separated_iff text).mpr ⟨numeric, (text_fails text failure failed).2⟩)
        | null | bool _ | arr _ | obj _ => cases numeric

def IsQuantity (a : Operand) : Prop := a.isAbsent ∨ a.looksNumeric

def IsWording (a : Operand) : Prop := a.isAbsent ∨ a.isScalar ∧ ¬ a.looksNumeric

def countsBeside (a b : Operand) : Bool := a.looksNumeric || a.isAbsent && b.looksNumeric

def isTextual (a : Operand) : Bool := a.isAbsent || a.isScalar

section

variable {a b : Operand}

theorem compare_eq (a b : Operand) : compare a b =
    if a.countsBeside b && b.countsBeside a then do return some ((← a.toDouble).order (← b.toDouble))
    else if a.isTextual && b.isTextual then return some (textOrder a.plainText b.plainText)
    else return none := rfl

theorem counts_of_quantity (numeric : a.looksNumeric) (quantity : b.IsQuantity) : a.countsBeside b && b.countsBeside a := by
  rcases quantity with absent | other
  · simp [countsBeside, numeric, absent]
  · simp [countsBeside, numeric, other]

theorem quantity_of_counts (counts : a.countsBeside b) : a.IsQuantity := by
  simp only [countsBeside, Bool.or_eq_true, Bool.and_eq_true] at counts
  rcases counts with numeric | ⟨absent, _⟩
  · exact .inr numeric
  · exact .inl absent

theorem not_numeric_of_absent (absent : a.isAbsent) : ¬ a.looksNumeric := by
  rcases absent_cases absent with rfl | rfl <;> exact Bool.false_ne_true

theorem absent_plain_text (absent : a.isAbsent) : a.plainText = "" := by
  rcases absent_cases absent with rfl | rfl <;> rfl

theorem IsWording.not_numeric (wording : a.IsWording) : ¬ a.looksNumeric := by
  rcases wording with absent | ⟨_, other⟩
  · exact not_numeric_of_absent absent
  · exact other

theorem IsWording.textual (wording : a.IsWording) : a.isTextual := by
  rcases wording with absent | ⟨scalar, _⟩
  · simp [isTextual, absent]
  · simp [isTextual, scalar]

theorem unreadable_of_fails (quantity : a.IsQuantity) {failure : ConditionError} (failed : a.toDouble = .error failure) :
    a.Unreadable := by
  rcases quantity with absent | numeric
  · cases (absent_to_double absent).symm.trans failed
  · exact (unreadable_iff a).mpr ⟨numeric, failure, failed⟩

inductive Mirrored : Checked (Option Ordering) → Checked (Option Ordering) → Prop where
  | answered (order : Option Ordering) : Mirrored (.ok order) (.ok (order.map Ordering.swap))
  | failed (failure other : ConditionError) : Mirrored (.error failure) (.error other)

theorem compare_mirrored (a b : Operand) : Mirrored (compare a b) (compare b a) := by
  rw [compare_eq a b, compare_eq b a, Bool.and_comm (b.countsBeside a), Bool.and_comm b.isTextual]
  by_cases numbers : a.countsBeside b && b.countsBeside a
  · rw [if_pos numbers, if_pos numbers]
    cases a.toDouble with
    | error failure => cases b.toDouble <;> exact .failed _ _
    | ok x =>
        cases b.toDouble with
        | error failure => exact .failed failure failure
        | ok y =>
            change Mirrored (.ok (some (x.order y))) (.ok (some (y.order x)))
            rw [Double.order_swap x y]
            exact .answered (some (x.order y))
  · rw [if_neg numbers, if_neg numbers]
    by_cases texts : a.isTextual && b.isTextual
    · rw [if_pos texts, if_pos texts, text_order_swap a.plainText]
      exact .answered (some _)
    · rw [if_neg texts, if_neg texts]
      exact .answered none

theorem compare_swap {order : Option Ordering} (compared : compare a b = .ok order) :
    compare b a = .ok (order.map Ordering.swap) := by
  have mirrored := compare_mirrored a b
  rw [compared] at mirrored
  generalize compare b a = back at mirrored ⊢
  cases mirrored with
  | answered _ => rfl

theorem compare_unreadable (unreadable : a.Unreadable) (quantity : b.IsQuantity) :
    ∃ failure, compare a b = .error failure := by
  obtain ⟨numeric, failure, failed⟩ := (unreadable_iff a).mp unreadable
  refine ⟨failure, ?_⟩
  rw [compare_eq, if_pos (counts_of_quantity numeric quantity), failed]
  rfl

theorem compare_fails {failure : ConditionError} (failed : compare a b = .error failure) :
    a.IsQuantity ∧ b.IsQuantity ∧ (a.Unreadable ∨ b.Unreadable) := by
  rw [compare_eq] at failed
  by_cases numbers : a.countsBeside b && b.countsBeside a
  · rw [if_pos numbers] at failed
    obtain ⟨first, second⟩ := Bool.and_eq_true_iff.mp numbers
    refine ⟨quantity_of_counts first, quantity_of_counts second, ?_⟩
    cases read : a.toDouble with
    | error failure => exact .inl (unreadable_of_fails (quantity_of_counts first) read)
    | ok x =>
        cases other : b.toDouble with
        | error failure => exact .inr (unreadable_of_fails (quantity_of_counts second) other)
        | ok y =>
            rw [read, other] at failed
            cases failed
  · rw [if_neg numbers] at failed
    by_cases texts : a.isTextual && b.isTextual
    · rw [if_pos texts] at failed
      cases failed
    · rw [if_neg texts] at failed
      cases failed

theorem compare_fails_iff (a b : Operand) : (∃ failure, compare a b = .error failure) ↔
    a.IsQuantity ∧ b.IsQuantity ∧ (a.Unreadable ∨ b.Unreadable) := by
  constructor
  · rintro ⟨failure, failed⟩
    exact compare_fails failed
  · rintro ⟨quantity, otherQuantity, unreadable | unreadable⟩
    · exact compare_unreadable unreadable otherQuantity
    · obtain ⟨failure, failed⟩ := compare_unreadable unreadable quantity
      cases ended : compare a b with
      | error other => exact ⟨other, rfl⟩
      | ok order => cases (compare_swap ended).symm.trans failed

theorem compare_separated {text : String} (separated : Numeral.Separated text) :
    compare (.value (.str text)) (.value (.str text)) = .error (.unreadableNumber text) := by
  obtain ⟨numeric, unread⟩ := (Numeral.separated_iff text).mp separated
  have looks : (Operand.value (.str text)).looksNumeric := numeric
  rw [compare_eq, if_pos (counts_of_quantity looks (.inr looks)), toDouble, unread]
  rfl

theorem compare_wordings (first : a.IsWording) (second : b.IsWording) :
    compare a b = .ok (some (textOrder a.plainText b.plainText)) := by
  have numbers : ¬ (a.countsBeside b && b.countsBeside a) := by
    simp [countsBeside, first.not_numeric, second.not_numeric]
  have texts : a.isTextual && b.isTextual := by simp [first.textual, second.textual]
  rw [compare_eq, if_neg numbers, if_pos texts]
  rfl

theorem compare_same_text (first : a.IsWording) (second : b.IsWording) (same : a.plainText = b.plainText) :
    compare a b = .ok (some .eq) := by
  rw [compare_wordings first second, same, text_order_self]

theorem compare_quantities (first : a.IsQuantity) (second : b.IsQuantity) {x y : Double} (read : a.toDouble = .ok x)
    (other : b.toDouble = .ok y) : compare a b = .ok (some (x.order y)) := by
  by_cases numbers : a.countsBeside b && b.countsBeside a
  · rw [compare_eq, if_pos numbers, read, other]
    rfl
  · have absent : a.isAbsent := first.resolve_right fun numeric => numbers (counts_of_quantity numeric second)
    have otherAbsent : b.isAbsent :=
      second.resolve_right fun numeric => numbers (Bool.and_comm _ _ ▸ counts_of_quantity numeric first)
    cases read.symm.trans (absent_to_double absent)
    cases other.symm.trans (absent_to_double otherAbsent)
    have same : a.plainText = b.plainText := by rw [absent_plain_text absent, absent_plain_text otherAbsent]
    rw [compare_same_text (.inl absent) (.inl otherAbsent) same, Double.order_self]

end

def AtMost (a b : Operand) : Prop := ∃ order, compare a b = .ok (some order) ∧ order.isLE

structure Ordered (kind : Operand → Prop) : Prop where
  total : ∀ a b, kind a → kind b → AtMost a b ∨ AtMost b a
  trans : ∀ a b c, kind a → kind b → kind c → AtMost a b → AtMost b c → AtMost a c

theorem at_most_iff {a b : Operand} {order : Ordering} (compared : compare a b = .ok (some order)) :
    AtMost a b ↔ order.isLE := by
  constructor
  · rintro ⟨found, same, least⟩
    cases compared.symm.trans same
    exact least
  · exact fun least => ⟨order, compared, least⟩

theorem at_most_total {a b : Operand} {order : Ordering} (compared : compare a b = .ok (some order)) :
    AtMost a b ∨ AtMost b a := by
  cases order with
  | lt => exact .inl ⟨.lt, compared, rfl⟩
  | eq => exact .inl ⟨.eq, compared, rfl⟩
  | gt => exact .inr ⟨.lt, compare_swap compared, rfl⟩

def Placed (a : Operand) : Prop := a.IsQuantity ∧ ¬ a.Unreadable ∧ a.toDouble ≠ .ok .nan

theorem Placed.double {a : Operand} (placed : a.Placed) : ∃ x, a.toDouble = .ok x ∧ x ≠ .nan := by
  obtain ⟨quantity, readable, number⟩ := placed
  cases read : a.toDouble with
  | error failure => exact absurd (unreadable_of_fails quantity read) readable
  | ok x => exact ⟨x, rfl, fun same => number (same ▸ read)⟩

theorem placed_ordered : Ordered Placed where
  total a b first second := by
    obtain ⟨x, read, _⟩ := first.double
    obtain ⟨y, other, _⟩ := second.double
    exact at_most_total (compare_quantities first.1 second.1 read other)
  trans a b c first second third below above := by
    obtain ⟨x, read, number⟩ := first.double
    obtain ⟨y, other, otherNumber⟩ := second.double
    obtain ⟨z, last, lastNumber⟩ := third.double
    rw [at_most_iff (compare_quantities first.1 second.1 read other), Double.order_le_iff number otherNumber] at below
    rw [at_most_iff (compare_quantities second.1 third.1 other last), Double.order_le_iff otherNumber lastNumber] at above
    rw [at_most_iff (compare_quantities first.1 third.1 read last), Double.order_le_iff number lastNumber]
    exact Double.le_trans below above

theorem wordings_ordered : Ordered IsWording where
  total a b first second := at_most_total (compare_wordings first second)
  trans a b c first second third below above := by
    rw [at_most_iff (compare_wordings first second)] at below
    rw [at_most_iff (compare_wordings second third)] at above
    rw [at_most_iff (compare_wordings first third)]
    exact text_order_trans below above

end Operand

namespace Condition

theorem matches_order (relation : Relation) (actual expected : Operand) :
    matchesOperator (Operator.order relation).name actual expected =
      Traced.silent (do return (← Operand.compare actual expected).any relation.accepts) :=
  matches_alone (.order relation) (by simp) actual expected

theorem order_mirrored (relation : Relation) (a b : Operand) (holds : Bool) :
    (matchesOperator (Operator.order relation).name a b).outcome = .ok holds ↔
      (matchesOperator (Operator.order relation.mirror).name b a).outcome = .ok holds := by
  have mirrored := Operand.compare_mirrored a b
  rw [matches_order, matches_order, Traced.outcome_silent, Traced.outcome_silent]
  generalize Operand.compare a b = first at mirrored ⊢
  generalize Operand.compare b a = second at mirrored ⊢
  cases mirrored with
  | answered order =>
      have same : (order.map Ordering.swap).any relation.mirror.accepts = order.any relation.accepts := by
        cases order with
        | none => rfl
        | some order => exact relation.mirror_accepts order
      change Except.ok (order.any relation.accepts) = .ok holds ↔
        Except.ok ((order.map Ordering.swap).any relation.mirror.accepts) = .ok holds
      rw [same]
  | failed failure other =>
      constructor
      · intro ended
        cases ended
      · intro ended
        cases ended

theorem compare_coherent (a b : Operand) :
    Operand.Mirrored (Operand.compare a b) (Operand.compare b a) ∧
    ((∃ failure, Operand.compare a b = .error failure) ↔
      a.IsQuantity ∧ b.IsQuantity ∧ (a.Unreadable ∨ b.Unreadable)) ∧
    (∀ relation holds, (matchesOperator (Operator.order relation).name a b).outcome = .ok holds ↔
      (matchesOperator (Operator.order relation.mirror).name b a).outcome = .ok holds) ∧
    Operand.Ordered Operand.Placed ∧ Operand.Ordered Operand.IsWording := by
  refine ⟨Operand.compare_mirrored a b, Operand.compare_fails_iff a b, ?_, Operand.placed_ordered, ?_⟩
  · intro relation holds
    exact order_mirrored relation a b holds
  · exact Operand.wordings_ordered

theorem separated_number_unordered : Numeral.Separated "\x1c1" ∧
    Operand.compare (.value (.str "\x1c1")) (.value (.str "\x1c1")) = .error (.unreadableNumber "\x1c1") ∧
    ¬ Operand.AtMost (.value (.str "\x1c1")) (.value (.str "\x1c1")) := by
  have failed : Operand.compare (.value (.str "\x1c1")) (.value (.str "\x1c1")) = .error (.unreadableNumber "\x1c1") := by
    decide +kernel
  have separated : Numeral.Separated "\x1c1" := ⟨by decide +kernel, '\x1c', by decide +kernel, by decide +kernel⟩
  refine ⟨separated, failed, ?_⟩
  rintro ⟨order, compared, _⟩
  cases failed.symm.trans compared

end Condition

def Relation.between (relation : Relation) (x y : Double) : Bool :=
  match relation with
  | .eq => x.same y
  | .ne => !x.same y
  | .lt => x.lt y
  | .lte => x.le y
  | .gt => y.lt x
  | .gte => y.le x

theorem Relation.accepts_order (relation : Relation) {x y : Double} (number : x ≠ .nan) (other : y ≠ .nan) :
    relation.accepts (x.order y) = relation.between x y := by
  have equal : x.same y = (!x.lt y && !y.lt x) := by
    rw [Bool.eq_iff_iff, Double.same_iff number other]
    simp
  by_cases below : x.lt y
  · have above := Double.lt_asymm below
    cases relation <;>
      simp [accepts, between, Double.order, equal, Double.le_eq_not_lt number other, Double.le_eq_not_lt other number,
        below, above]
  · by_cases above : y.lt x <;> cases relation <;>
      simp [accepts, between, Double.order, equal, Double.le_eq_not_lt number other, Double.le_eq_not_lt other number,
        below, above]

namespace Operand

variable {a b : Operand} {x y : Double}

theorem numeric_cases (numeric : a.looksNumeric) :
    (∃ number, a = .value (.num number)) ∨ ∃ text, a = .value (.str text) := by
  unfold looksNumeric at numeric
  split at numeric
  · exact .inl ⟨_, rfl⟩
  · exact .inr ⟨_, rfl⟩
  · cases numeric

theorem numeric_of_number (number : a.isNumber) : a.looksNumeric := by
  unfold isNumber at number
  split at number
  · rfl
  · cases number

theorem numbers_equal (numeric : a.looksNumeric) (otherNumeric : b.looksNumeric) (number : a.isNumber ∨ b.isNumber)
    (read : a.toDouble = .ok x) (other : b.toDouble = .ok y) : equalsLiteral a b = .ok (x.same y) := by
  have present : b ≠ .missing := by
    rintro rfl
    cases otherNumeric
  have plain : a.isBool = false := by rcases numeric_cases numeric with ⟨_, rfl⟩ | ⟨_, rfl⟩ <;> rfl
  have otherPlain : b.isBool = false := by rcases numeric_cases otherNumeric with ⟨_, rfl⟩ | ⟨_, rfl⟩ <;> rfl
  have numbers : (a.isNumber || b.isNumber) && a.looksNumeric && b.looksNumeric := by simp [numeric, otherNumeric, number]
  rw [equals_literal_present a b present (by simp [plain]), plain, otherPlain, if_pos numbers, read, other]
  rfl

end Operand

namespace Condition

theorem matches_numeric {expected : Operand} (numeric : expected.looksNumeric) (actual : Operand) :
    matchesOperand expected actual = Traced.silent (Operand.equalsLiteral expected actual) := by
  rcases Operand.numeric_cases numeric with ⟨_, rfl⟩ | ⟨_, rfl⟩ <;> rfl

-- With NaN on a side a comparison cannot tell the sides from equal ones, which matching can.
theorem compare_as_doubles {a b : Operand} {x y : Double} (numeric : a.looksNumeric) (otherNumeric : b.looksNumeric)
    (read : a.toDouble = .ok x) (other : b.toDouble = .ok y) :
    (x ≠ .nan → y ≠ .nan → ∀ relation,
      matchesOperator (Operator.order relation).name a b = pure (relation.between x y)) ∧
    (x = .nan ∨ y = .nan → ∀ relation,
      matchesOperator (Operator.order relation).name a b = pure (relation.accepts .eq)) ∧
    (a.isNumber ∨ b.isNumber → matchesOperand b a = pure (x.same y)) := by
  have compared := Operand.compare_quantities (.inr numeric) (.inr otherNumeric) read other
  refine ⟨fun placed otherPlaced relation => ?_, fun unordered relation => ?_, fun number => ?_⟩
  · rw [matches_order, compared, ← relation.accepts_order placed otherPlaced]
    rfl
  · rw [matches_order, compared, Double.order_unordered unordered]
    rfl
  · rw [matches_numeric otherNumeric, Operand.numbers_equal otherNumeric numeric number.symm other read, Double.same_comm]
    rfl

def Score.half : Double := .ofRatio false 1 2

theorem compare_as_doubles_score :
    (Operand.value (.str " 5e-1")).toDouble = .ok Score.half ∧
    (Operand.value (.int 7)).toDouble = .ok (.ofRatio false 7 1) ∧
    matchesOperator "$lte" (.value (.str " 5e-1")) (.value (.int 7)) = pure true ∧
    matchesOperand (.value (.int 7)) (.value (.str " 5e-1")) = pure false ∧
    matchesOperator "$lt" (.value (.num (.float .nan))) (.value (.int 7)) = pure false := by
  have read : (Operand.value (.str " 5e-1")).toDouble = .ok Score.half := by decide +kernel
  have other : (Operand.value (.int 7)).toDouble = .ok (.ofRatio false 7 1) := by decide +kernel
  have numeric : (Operand.value (.str " 5e-1")).looksNumeric := by decide +kernel
  have half : Score.half ≠ .nan := by decide +kernel
  have seven : Double.ofRatio false 7 1 ≠ .nan := by decide +kernel
  have less : Score.half.le (.ofRatio false 7 1) = true := by decide +kernel
  have apart : Score.half.same (.ofRatio false 7 1) = false := by decide +kernel
  obtain ⟨compares, _, equals⟩ := compare_as_doubles numeric rfl read other
  obtain ⟨_, unordered, _⟩ := compare_as_doubles (a := .value (.num (.float .nan))) rfl rfl rfl other
  refine ⟨read, other, (compares half seven .lte).trans (congrArg pure less), ?_, unordered (.inl rfl) .lt⟩
  exact (equals (.inr rfl)).trans (congrArg pure apart)

theorem nan_taken_for_equal : Relation.eq.between .nan (.ofRatio false 1 1) = false ∧
    (matchesOperator "$eq" (.value (.num (.float .nan))) (.value (.int 1))).outcome = .ok true ∧
    (matchesOperand (.value (.int 1)) (.value (.num (.float .nan)))).outcome = .ok false := by
  refine ⟨by decide +kernel, by decide +kernel, by decide +kernel⟩

end Condition
end FeatureFlags
