import FeatureFlags.Proofs.Condition.Loops
import FeatureFlags.Proofs.Condition.Operands
import FeatureFlags.Proofs.Result

/-! Verdicts on conditions and attributes that differ only in how they are written. With the fields in another
order a loop may meet a failure that it ended before, and the verdicts are the same unless one of them is a
failure. -/

set_option autoImplicit false

namespace FeatureFlags

open Condition

def FieldOrder.Agree : FieldOrder → Verdict → Verdict → Prop
  | .kept, first, second => first = second
  | .free, first, second =>
      ∀ holds other, first.outcome = .ok holds → second.outcome = .ok other → holds = other

namespace FieldOrder

variable {order : FieldOrder}

theorem agree_refl (verdict : Verdict) : order.Agree verdict verdict := by
  cases order with
  | kept => exact rfl
  | free => exact fun holds other first second => Except.ok.inj (first.symm.trans second)

theorem agree_not {first second : Verdict} (agree : order.Agree first second) :
    order.Agree (do return !(← first)) (do return !(← second)) := by
  cases order with
  | kept => exact congrArg (fun verdict : Verdict => do return !(← verdict)) agree
  | free =>
      intro holds other left right
      exact Bool.not_inj (agree _ _ ((not_ends first holds).mp left) ((not_ends second other).mp right))

section

variable {α β : Type} {members : List α} {others : List β} {holds : α → Verdict} {wanted : β → Verdict}

-- The order in which loops meet their members does not matter, only what members they have.
theorem agree_all_free (left : ∀ member ∈ members, ∃ other ∈ others, FieldOrder.free.Agree (holds member) (wanted other))
    (right : ∀ other ∈ others, ∃ member ∈ members, FieldOrder.free.Agree (holds member) (wanted other)) :
    FieldOrder.free.Agree (members.allM holds) (others.allM wanted) := by
  intro first second firstEnds secondEnds
  cases first with
  | true =>
      cases second with
      | true => rfl
      | false =>
          obtain ⟨other, among, fails⟩ := all_false secondEnds
          obtain ⟨member, memberAmong, agree⟩ := right other among
          exact agree true false (all_true firstEnds member memberAmong) fails
  | false =>
      cases second with
      | false => rfl
      | true =>
          obtain ⟨member, among, fails⟩ := all_false firstEnds
          obtain ⟨other, otherAmong, agree⟩ := left member among
          exact agree false true fails (all_true secondEnds other otherAmong)

variable {related : α → β → Prop} (pairs : List.Forall₂ related members others)
  (agree : ∀ member ∈ members, ∀ other, related member other → order.Agree (holds member) (wanted other))

include pairs agree

theorem agree_all : order.Agree (members.allM holds) (others.allM wanted) := by
  cases order with
  | kept =>
      change members.allM holds = others.allM wanted
      induction pairs with
      | nil => rfl
      | cons first rest ih =>
          rw [List.allM_cons, List.allM_cons, agree _ List.mem_cons_self _ first,
            ih fun member among => agree member (List.mem_cons_of_mem _ among)]
  | free =>
      refine agree_all_free (fun member among => ?_) fun other among => ?_
      · obtain ⟨other, otherAmong, same⟩ := forall₂_left pairs member among
        exact ⟨other, otherAmong, agree member among other same⟩
      · obtain ⟨member, memberAmong, same⟩ := forall₂_right pairs other among
        exact ⟨member, memberAmong, agree member memberAmong other same⟩

theorem agree_any : order.Agree (members.anyM holds) (others.anyM wanted) := by
  cases order with
  | kept =>
      change members.anyM holds = others.anyM wanted
      induction pairs with
      | nil => rfl
      | cons first rest ih =>
          rw [List.anyM_cons, List.anyM_cons, agree _ List.mem_cons_self _ first,
            ih fun member among => agree member (List.mem_cons_of_mem _ among)]
  | free =>
      intro first second firstEnds secondEnds
      cases first with
      | false =>
          cases second with
          | false => rfl
          | true =>
              obtain ⟨other, among, holds⟩ := any_true secondEnds
              obtain ⟨member, memberAmong, same⟩ := forall₂_right pairs other among
              exact agree member memberAmong other same false true (any_false firstEnds member memberAmong) holds
      | true =>
          cases second with
          | true => rfl
          | false =>
              obtain ⟨member, among, holds⟩ := any_true firstEnds
              obtain ⟨other, otherAmong, same⟩ := forall₂_left pairs member among
              exact agree member among other same true false holds (any_false secondEnds other otherAmong)

end

theorem agree_fields {fields others : Fields} (alike : order.Alike (.obj fields) (.obj others))
    {holds wanted : String × Json → Verdict}
    (agree : ∀ field ∈ fields, ∀ other, order.AlikeField field other → order.Agree (holds field) (wanted other)) :
    order.Agree (fields.allM holds) (others.allM wanted) := by
  obtain ⟨placed, pairs, arranged⟩ := alike_obj alike
  cases order with
  | kept =>
      cases arranged
      exact agree_all pairs agree
  | free =>
      refine agree_all_free (fun field among => ?_) fun other among => ?_
      · obtain ⟨other, otherAmong, same⟩ := forall₂_left pairs field among
        exact ⟨other, arranged.2.mem_iff.mp otherAmong, agree field among other same⟩
      · obtain ⟨field, fieldAmong, same⟩ := forall₂_right pairs other (arranged.2.mem_iff.mpr among)
        exact ⟨field, fieldAmong, agree field fieldAmong other same⟩

end FieldOrder

namespace Condition

variable {order : FieldOrder}

structure Agrees (order : FieldOrder) (condition other : Json) : Prop where
  attributes : ∀ first second, Operand.Alike order first second →
    order.Agree (matchesAttributes condition first) (matchesAttributes other second)
  value : ∀ first second, Operand.Alike order first second →
    order.Agree (matchesValue condition first) (matchesValue other second)

def AgreesWithin (order : FieldOrder) (whole : Json) : Prop :=
  ∀ part, Json.Part part whole → ∀ other, order.Alike part other → Agrees order part other

theorem joined_alike {operand other : Json} (alike : order.Alike operand other) :
    Option.Rel (List.Forall₂ order.Alike) (joined? operand) (joined? other) := by
  cases alike with
  | obj fields placed others keys members arranged =>
      exact .some (.cons (.obj fields placed others keys members arranged) .nil)
  | arr items others members => exact .some members
  | null | bool _ | num _ _ _ | str _ => exact .none

theorem operator_object_keys (fields : Fields) : isOperatorObject fields =
    (!fields.keys.isEmpty && fields.keys.all fun key => key.toList.head? == some '$') := by
  simp [isOperatorObject, Fields.keys, List.all_map, Function.comp_def]

theorem operator_object_alike {fields others : Fields} (alike : order.Alike (.obj fields) (.obj others)) :
    isOperatorObject fields = isOperatorObject others := by
  cases alike with
  | obj _ placed _ keys _ arranged =>
      have perm : placed.keys.Perm others.keys := (FieldOrder.arranges_perm arranged).map Prod.fst
      rw [operator_object_keys, operator_object_keys, keys, perm.isEmpty_eq, perm.all_eq]

theorem has_operators_alike {operand other : Json} (alike : order.Alike operand other) :
    hasOperators operand = hasOperators other := by
  cases alike with
  | obj fields placed others keys members arranged =>
      exact operator_object_alike (.obj fields placed others keys members arranged)
  | null | bool _ | num _ _ _ | str _ | arr _ _ _ => rfl

section

variable {operand other : Json} (within : AgreesWithin order operand) (alike : order.Alike operand other)
  {first second : Operand} (operands : Operand.Alike order first second)

include within alike operands

theorem joined_agree : (joined? operand = none ∧ joined? other = none) ∨
    ∃ conditions others, joined? operand = some conditions ∧ joined? other = some others ∧
      List.Forall₂ order.Alike conditions others ∧ ∀ condition ∈ conditions, ∀ json, order.Alike condition json →
        order.Agree (matchesAttributes condition first) (matchesAttributes json second) := by
  rcases FieldOrder.rel_cases (joined_alike alike) with absent | ⟨conditions, others, left, right, pairs⟩
  · exact .inl absent
  · exact .inr ⟨conditions, others, left, right, pairs, fun condition among json same =>
      (within condition (joined_part left among) json same).attributes first second operands⟩

theorem all_of_agree : order.Agree (allOf operand first) (allOf other second) := by
  rw [allOf, allOf]
  rcases joined_agree within alike operands with ⟨left, right⟩ | ⟨conditions, others, left, right, pairs, agree⟩
  · rw [left, right]
    exact FieldOrder.agree_refl _
  · rw [left, right]
    exact FieldOrder.agree_all pairs agree

theorem any_of_agree : order.Agree (anyOf operand first) (anyOf other second) := by
  rw [anyOf, anyOf]
  rcases joined_agree within alike operands with ⟨left, right⟩ | ⟨conditions, others, left, right, pairs, agree⟩
  · rw [left, right]
    exact FieldOrder.agree_refl _
  · rw [left, right]
    have loops := FieldOrder.agree_any pairs agree
    cases pairs with
    | nil => exact FieldOrder.agree_refl _
    | cons _ _ => exact loops

theorem combinator_agree (combinator : Combinator) :
    order.Agree (combinator.verdict operand first) (combinator.verdict other second) := by
  cases combinator with
  | or => exact any_of_agree within alike operands
  | nor => exact FieldOrder.agree_not (any_of_agree within alike operands)
  | and => exact all_of_agree within alike operands
  | not => exact FieldOrder.agree_not ((within operand .refl other alike).attributes first second operands)

omit operands in
theorem among_agree {items others : List Json} (members : List.Forall₂ order.Alike items others) :
    order.Agree (matchesAmong operand items) (matchesAmong other others) := by
  cases alike with
  | arr values wanted pairs =>
      rw [matchesAmong, matchesAmong, each_among_loop, each_among_loop]
      refine FieldOrder.agree_all pairs fun value among json same => FieldOrder.agree_any members fun item _ held alike => ?_
      exact (within value (.single among) json same).value _ _ (.value item held alike)
  | null | bool _ | num _ _ _ | str _ | obj _ _ _ _ _ _ => exact FieldOrder.agree_refl _

omit within alike in
theorem over_items_agree {holds wanted : List Json → Verdict}
    (agree : ∀ items others, List.Forall₂ order.Alike items others → order.Agree (holds items) (wanted others)) :
    order.Agree (overItems holds first) (overItems wanted second) := by
  cases operands with
  | missing | foreign => exact FieldOrder.agree_refl _
  | value a b alike =>
      cases alike with
      | arr items others members => exact agree items others members
      | null | bool _ | num _ _ _ | str _ | obj _ _ _ _ _ _ => exact FieldOrder.agree_refl _

omit operands in
theorem element_agree {item held : Json} (items : order.Alike item held) :
    order.Agree (elementMatches operand item) (elementMatches other held) := by
  have own := within operand .refl other alike
  rw [elementMatches, elementMatches, has_operators_alike alike]
  split
  · exact own.value _ _ (.value item held items)
  · exact own.attributes _ _ (.value item held items)

theorem operator_agree (name : String) :
    order.Agree (matchesOperator name first (.value operand)) (matchesOperator name second (.value other)) := by
  have own := within operand .refl other alike
  rw [matches_operator_eq, matches_operator_eq]
  cases Operator.ofName? name with
  | none => exact FieldOrder.agree_refl _
  | some operator =>
      cases operator with
      | negation => exact FieldOrder.agree_not (own.value first second operands)
      | size =>
          refine over_items_agree operands fun items others members => own.value _ _ (.value _ _ (.num _ _ ?_))
          rw [members.length_eq]
          exact rfl
      | elemMatch =>
          exact over_items_agree operands fun items others members =>
            FieldOrder.agree_any members fun item _ held same => element_agree within alike same
      | all => exact over_items_agree operands fun items others members => among_agree within alike members
      | order _ | version _ | regex | isIn | notIn | isPresent | hasType =>
          simp only [operatorVerdict, Operator.holds_alike _ operands (.value operand other alike)]
          exact FieldOrder.agree_refl _

end

theorem leading_alike {fields others : Fields} (alike : order.Alike (.obj fields) (.obj others)) :
    Option.Rel (fun first second => first.1 = second.1 ∧ order.Alike first.2 second.2) (leading? fields) (leading? others) := by
  rw [leading?, leading?]
  induction Combinator.every with
  | nil => exact .none
  | cons combinator rest ih =>
      rw [List.findSome?_cons, List.findSome?_cons]
      rcases FieldOrder.rel_cases (FieldOrder.alike_get alike combinator.name) with
        ⟨left, right⟩ | ⟨first, second, left, right, held⟩
      · rw [left, right]
        exact ih
      · rw [left, right]
        exact .some ⟨rfl, held⟩

section

variable {fields others : Fields} (within : ∀ part, Json.Inside part (.obj fields) → AgreesWithin order part)
  (alike : order.Alike (.obj fields) (.obj others)) {first second : Operand} (operands : Operand.Alike order first second)

include within alike operands

theorem paths_agree : order.Agree (fields.allM fun (path, value) => matchesValue value (first.path path))
    (others.allM fun (path, value) => matchesValue value (second.path path)) := by
  refine FieldOrder.agree_fields alike fun (path, value) among (other, wanted) same => ?_
  obtain ⟨same, alike⟩ := same
  cases same
  exact (within value (Json.inside_field among) value .refl wanted alike).value _ _ (Operand.path_alike operands path)

theorem attributes_agree : order.Agree (matchesAttributes (.obj fields) first) (matchesAttributes (.obj others) second) := by
  rw [matches_attributes_obj, matches_attributes_obj]
  rcases FieldOrder.rel_cases (leading_alike alike) with
    ⟨left, right⟩ | ⟨⟨combinator, operand⟩, ⟨other, wanted⟩, left, right, same, held⟩
  · rw [left, right]
    exact paths_agree within alike operands
  · rw [left, right]
    cases same
    exact combinator_agree (within operand (Json.inside_field (leading_field left))) held operands combinator

theorem operators_agree : order.Agree (fields.allM fun (name, operand) => matchesOperator name first (.value operand))
    (others.allM fun (name, operand) => matchesOperator name second (.value operand)) := by
  refine FieldOrder.agree_fields alike fun (name, operand) among (other, wanted) same => ?_
  obtain ⟨same, alike⟩ := same
  cases same
  exact operator_agree (within operand (Json.inside_field among)) alike operands name

omit operands in
theorem fields_agree {values wanted : Fields} (held : order.Alike (.obj values) (.obj wanted)) :
    order.Agree (fields.allM fun (key, value) => matchesField values key value)
      (others.allM fun (key, value) => matchesField wanted key value) := by
  refine FieldOrder.agree_fields alike fun (key, value) among (other, json) same => ?_
  obtain ⟨same, alike⟩ := same
  cases same
  simp only [matchesField]
  rcases FieldOrder.rel_cases (FieldOrder.alike_get held key) with ⟨left, right⟩ | ⟨first, second, left, right, found⟩
  · rw [left, right]
    exact FieldOrder.agree_refl _
  · rw [left, right]
    exact (within value (Json.inside_field among) value .refl json alike).value _ _ (.value first second found)

theorem value_obj_agree : order.Agree (matchesValue (.obj fields) first) (matchesValue (.obj others) second) := by
  have shape := operator_object_alike alike
  by_cases operators : isOperatorObject fields
  · rw [matches_value_operators fields first operators, matches_value_operators others second (shape ▸ operators)]
    exact operators_agree within alike operands
  rw [matches_value_obj fields first operators, matches_value_obj others second (shape ▸ operators)]
  cases operands with
  | missing | foreign => exact FieldOrder.agree_refl _
  | value a b held =>
      cases held with
      | obj values placed wanted keys members arranged =>
          have held : order.Alike (.obj values) (.obj wanted) := .obj values placed wanted keys members arranged
          rw [overFields, overFields, FieldOrder.alike_length alike, FieldOrder.alike_length held]
          split
          · exact fields_agree within alike held
          · exact FieldOrder.agree_refl _
      | null | bool _ | num _ _ _ | str _ | arr _ _ _ => exact FieldOrder.agree_refl _

end

theorem zip_alike {values others items wanted : List Json} (pairs : List.Forall₂ order.Alike values others)
    (members : List.Forall₂ order.Alike items wanted) :
    List.Forall₂ (fun first second => order.Alike first.1 second.1 ∧ order.Alike first.2 second.2)
      (values.zip items) (others.zip wanted) := by
  induction pairs generalizing items wanted with
  | nil => exact .nil
  | cons first rest ih =>
      cases members with
      | nil => exact .nil
      | cons item later => exact .cons ⟨first, item⟩ (ih later)

theorem value_arr_agree {values others : List Json} (within : ∀ value ∈ values, AgreesWithin order value)
    (pairs : List.Forall₂ order.Alike values others) {first second : Operand} (operands : Operand.Alike order first second) :
    order.Agree (matchesValue (.arr values) first) (matchesValue (.arr others) second) := by
  rw [matches_value_arr, matches_value_arr]
  refine over_items_agree operands fun items wanted members => ?_
  rw [pairs.length_eq, members.length_eq]
  split
  · refine FieldOrder.agree_all (zip_alike pairs members) fun (value, item) among (other, json) same => ?_
    exact (within value (List.of_mem_zip among).1 value .refl other same.1).value _ _ (.value item json same.2)
  · exact FieldOrder.agree_refl _

-- Induction on the condition. Whatever is inside it agrees, as condition and as value.
theorem conditions_agree (condition other : Json) (alike : order.Alike condition other) : Agrees order condition other := by
  induction condition using Json.induction_inside generalizing other with
  | step condition ih =>
      have within : ∀ part, Json.Inside part condition → AgreesWithin order part := fun part inside deeper held json same =>
        ih deeper (.trans_right held inside) json same
      have literal (actual operand : Operand) (operands : Operand.Alike order actual operand) :
          order.Agree (Traced.silent (Operand.equalsLiteral (.value condition) actual))
            (Traced.silent (Operand.equalsLiteral (.value other) operand)) := by
        rw [Operand.equals_literal_alike (.value condition other alike) operands]
        exact FieldOrder.agree_refl _
      cases alike with
      | obj fields placed others keys members arranged =>
          have alike : order.Alike (.obj fields) (.obj others) := .obj fields placed others keys members arranged
          exact ⟨fun _ _ operands => attributes_agree within alike operands,
            fun _ _ operands => value_obj_agree within alike operands⟩
      | arr values others pairs =>
          exact ⟨fun _ _ _ => FieldOrder.agree_refl _, fun _ _ operands =>
            value_arr_agree (fun value member => within value (Json.inside_item member)) pairs operands⟩
      | null | bool _ | num _ _ _ | str _ => exact ⟨fun _ _ _ => FieldOrder.agree_refl _, literal⟩

end Condition
end FeatureFlags
