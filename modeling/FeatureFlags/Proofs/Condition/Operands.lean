import FeatureFlags.Operator
import FeatureFlags.Proofs.Json.Alike

set_option autoImplicit false

namespace FeatureFlags

inductive Operand.Alike (order : FieldOrder) : Operand → Operand → Prop where
  | missing : Alike order .missing .missing
  | value (a b : Json) (alike : order.Alike a b) : Alike order (.value a) (.value b)
  | foreign : Alike order .foreign .foreign

structure Operand.SameKind (a b : Operand) : Prop where
  absent : a.isAbsent = b.isAbsent
  numeric : a.looksNumeric = b.looksNumeric
  number : a.isNumber = b.isNumber
  bool : a.isBool = b.isBool
  scalar : a.isScalar = b.isScalar
  typeName : a.typeName = b.typeName

namespace Operand

variable {order : FieldOrder} {a b c d : Operand}

theorem same_kind (alike : Alike order a b) : SameKind a b := by
  cases alike with
  | missing | foreign => exact ⟨rfl, rfl, rfl, rfl, rfl, rfl⟩
  | value a b alike => cases alike <;> exact ⟨rfl, rfl, rfl, rfl, rfl, rfl⟩

theorem field_alike (alike : Alike order a b) (key : String) : Alike order (a.field key) (b.field key) := by
  cases alike with
  | missing | foreign => exact .missing
  | value a b alike =>
      cases alike with
      | obj fields placed others keys members arranged =>
          rw [field, field]
          rcases FieldOrder.rel_cases (FieldOrder.alike_get (.obj fields placed others keys members arranged) key) with
            ⟨left, right⟩ | ⟨first, second, left, right, held⟩
          · rw [left, right]
            exact .missing
          · rw [left, right]
            exact .value first second held
      | null | bool _ | num _ _ _ | str _ | arr _ _ _ => exact .missing

theorem path_alike (alike : Alike order a b) (path : String) : Alike order (a.path path) (b.path path) := by
  rw [Operand.path, Operand.path]
  generalize pathSegments path.toList = segments
  induction segments generalizing a b with
  | nil => exact alike
  | cons segment rest ih => exact ih (field_alike alike (String.ofList segment))

theorem to_double_alike (alike : Alike order a b) :
    a.toDouble.map Double.position? = b.toDouble.map Double.position? := by
  cases alike with
  | missing | foreign => rfl
  | value a b alike =>
      cases alike with
      | num first second same =>
          have doubles := Number.to_double_same_value first second same
          rw [toDouble, toDouble]
          cases toFirst : first.toDouble? <;> cases toSecond : second.toDouble? <;>
            simp_all [Except.map]
      | null | bool _ | str _ | arr _ _ _ | obj _ _ _ _ _ _ => rfl

theorem except_map_eq {ε α β : Type} {view : α → β} {first second : Except ε α} (same : first.map view = second.map view) :
    (∃ failure, first = .error failure ∧ second = .error failure) ∨
      ∃ value other, first = .ok value ∧ second = .ok other ∧ view value = view other := by
  cases first with
  | error failure =>
      cases second with
      | error other => exact .inl ⟨failure, rfl, congrArg Except.error (Except.error.inj same).symm⟩
      | ok other => simp [Except.map] at same
  | ok value =>
      cases second with
      | error other => simp [Except.map] at same
      | ok other => exact .inr ⟨value, other, rfl, rfl, Except.ok.inj same⟩

theorem doubles_alike {β : Type} (first : Alike order a b) (second : Alike order c d) (compared : Double → Double → β)
    (congr : ∀ x y z w : Double, x.position? = y.position? → z.position? = w.position? → compared x z = compared y w) :
    (do return compared (← a.toDouble) (← c.toDouble) : Checked β) =
      (do return compared (← b.toDouble) (← d.toDouble) : Checked β) := by
  rcases except_map_eq (to_double_alike first) with ⟨failure, left, right⟩ | ⟨x, y, left, right, places⟩
  · rw [left, right]
    rfl
  rw [left, right]
  rcases except_map_eq (to_double_alike second) with ⟨failure, left, right⟩ | ⟨z, w, left, right, others⟩
  · rw [left, right]
    rfl
  rw [left, right]
  exact congrArg Except.ok (congr x y z w places others)

theorem plain_text_alike (alike : Alike order a b) (plain : a.isAbsent || a.isScalar) : a.plainText = b.plainText := by
  cases alike with
  | missing | foreign => rfl
  | value a b alike =>
      cases alike with
      | num first second same => exact Number.plain_text_same_value first second same
      | null | bool _ | str _ => rfl
      | arr _ _ _ | obj _ _ _ _ _ _ => cases plain

theorem compare_alike (first : Alike order a b) (second : Alike order c d) : compare a c = compare b d := by
  have left := same_kind first
  have right := same_kind second
  simp only [compare, ← left.numeric, ← left.absent, ← left.scalar, ← right.numeric, ← right.absent, ← right.scalar]
  split
  · exact doubles_alike first second (fun x y => some (x.order y)) fun x y z w places others =>
      congrArg some (Double.order_congr places others)
  split
  · rename_i plain
    obtain ⟨plainFirst, plainSecond⟩ := Bool.and_eq_true_iff.mp plain
    rw [plain_text_alike first plainFirst, plain_text_alike second plainSecond]
  · rfl

def sameJson : Operand → Operand → Bool
  | .value a, .value b => a.same b
  | _, _ => false

theorem equals_literal_present (literal actual : Operand) (present : actual ≠ .missing)
    (unlike : ¬ (literal.isBool ∧ actual.isBool)) :
    equalsLiteral literal actual =
      if literal.isBool || actual.isBool then return false
      else if (literal.isNumber || actual.isNumber) && literal.looksNumeric && actual.looksNumeric
      then do return (← literal.toDouble).same (← actual.toDouble)
      else return sameJson literal actual := by
  unfold equalsLiteral
  split
  · exact absurd rfl present
  · exact absurd rfl present
  · exact absurd ⟨rfl, rfl⟩ unlike
  · split
    · rfl
    split
    · rfl
    · cases literal <;> cases actual <;> rfl

theorem same_json_alike (first : Alike order a b) (second : Alike order c d) : sameJson a c = sameJson b d := by
  cases first with
  | missing | foreign => rfl
  | value a b alike =>
      cases second with
      | missing | foreign => rfl
      | value c d more => exact Json.interchangeable a b c d alike more

theorem bool_alike (alike : Alike order a b) (bool : a.isBool) : a = b := by
  cases alike with
  | missing | foreign => rfl
  | value a b alike =>
      cases alike with
      | bool value => rfl
      | null | num _ _ _ | str _ | arr _ _ _ | obj _ _ _ _ _ _ => cases bool

theorem missing_alike (alike : Alike order a b) : a = .missing ↔ b = .missing := by
  cases alike <;> simp

theorem equals_literal_alike (literals : Alike order a b) (actuals : Alike order c d) :
    equalsLiteral a c = equalsLiteral b d := by
  by_cases missing : c = .missing
  · rw [missing, (missing_alike actuals).mp missing]
    cases literals with
    | missing | foreign => rfl
    | value first second alike => cases alike <;> rfl
  by_cases bools : a.isBool ∧ c.isBool
  · rw [bool_alike literals bools.1, bool_alike actuals bools.2]
  have left := same_kind literals
  have right := same_kind actuals
  have present : d ≠ .missing := fun same => missing ((missing_alike actuals).mpr same)
  rw [equals_literal_present a c missing bools, equals_literal_present b d present (left.bool ▸ right.bool ▸ bools),
    left.bool, left.number, left.numeric, right.bool, right.number, right.numeric, same_json_alike literals actuals,
    doubles_alike literals actuals Double.same fun _ _ _ _ => Double.same_congr]

theorem any_alike {values others : List Json} (members : List.Forall₂ order.Alike values others)
    {holds other : Json → Checked Bool} (same : ∀ value json, order.Alike value json → holds value = other json) :
    values.anyM holds = others.anyM other := by
  induction members with
  | nil => rfl
  | cons first rest ih => rw [List.anyM_cons, List.anyM_cons, same _ _ first, ih]

theorem is_in_alike {values others : List Json} (members : List.Forall₂ order.Alike values others)
    (actuals : Alike order a b) : isIn values a = isIn others b := by
  have wanted (a b : Operand) (alike : Alike order a b) :
      (values.anyM fun value => equalsLiteral (.value value) a) =
        others.anyM fun value => equalsLiteral (.value value) b :=
    any_alike members fun value json same => equals_literal_alike (.value value json same) alike
  cases actuals with
  | missing => rfl
  | foreign => exact wanted _ _ .foreign
  | value a b alike =>
      cases alike with
      | null => rfl
      | arr items others members => exact any_alike members fun item json same => wanted _ _ (.value item json same)
      | bool value => exact wanted _ _ (.value _ _ (.bool value))
      | num first second same => exact wanted _ _ (.value _ _ (.num first second same))
      | str text => exact wanted _ _ (.value _ _ (.str text))
      | obj fields placed others keys members arranged =>
          exact wanted _ _ (.value _ _ (.obj fields placed others keys members arranged))

theorem matches_pattern_alike (patterns : Alike order a b) (actuals : Alike order c d) :
    matchesPattern a c = matchesPattern b d := by
  cases patterns with
  | missing | foreign => rfl
  | value first second alike =>
      cases alike with
      | str text =>
          rw [matchesPattern, matchesPattern, (same_kind actuals).scalar]
          split
          · rename_i scalar
            rw [plain_text_alike actuals (by simp [(same_kind actuals).scalar, scalar])]
          · rfl
      | null | bool _ | num _ _ _ | arr _ _ _ | obj _ _ _ _ _ _ => rfl

end Operand

theorem Version.key_alike {order : FieldOrder} {a b : Operand} (alike : a.Alike order b) :
    Version.key a = Version.key b := by
  have sources : Version.source a = Version.source b := by
    cases alike with
    | missing | foreign => rfl
    | value a b alike =>
        cases alike with
        | num first second same => exact Number.plain_text_same_value first second same
        | null | bool _ | str _ | arr _ _ _ | obj _ _ _ _ _ _ => rfl
  rw [Version.key, Version.key, sources]

theorem Operator.holds_alike {order : FieldOrder} (operator : Operator) {actual other expected wanted : Operand}
    (actuals : actual.Alike order other) (expecteds : expected.Alike order wanted) :
    operator.holds actual expected = operator.holds other wanted := by
  cases operator with
  | order relation => rw [holds, holds, Operand.compare_alike actuals expecteds]
  | version relation => rw [holds, holds, Version.key_alike actuals, Version.key_alike expecteds]
  | regex => exact Operand.matches_pattern_alike expecteds actuals
  | isIn =>
      cases expecteds with
      | missing | foreign => rfl
      | value first second alike =>
          cases alike with
          | arr values others members => exact Operand.is_in_alike members actuals
          | null | bool _ | num _ _ _ | str _ | obj _ _ _ _ _ _ => rfl
  | notIn =>
      cases expecteds with
      | missing | foreign => rfl
      | value first second alike =>
          cases alike with
          | arr values others members => rw [holds, holds, Operand.is_in_alike members actuals]
          | null | bool _ | num _ _ _ | str _ | obj _ _ _ _ _ _ => rfl
  | isPresent =>
      cases expecteds with
      | missing | foreign => exact congrArg Except.ok (Operand.same_kind actuals).absent
      | value first second alike => rw [holds, holds, (Operand.same_kind actuals).absent, Json.truthy_alike alike]
  | hasType =>
      cases expecteds with
      | missing | foreign => rfl
      | value first second alike =>
          cases alike with
          | str type => rw [holds, holds, (Operand.same_kind actuals).typeName]
          | null | bool _ | num _ _ _ | arr _ _ _ | obj _ _ _ _ _ _ => rfl
  | elemMatch | size | all | negation => rfl

end FeatureFlags
