import FeatureFlags.Proofs.Condition.Comparison
import FeatureFlags.Proofs.Result

/-! A literal matches what it equals, and what it equals compares as equal. Between plain values the match
goes both ways. -/

set_option autoImplicit false

namespace FeatureFlags.Condition

inductive Equals : Json → Operand → Prop where
  | missing : Equals .null .missing
  | null : Equals .null (.value .null)
  | bool (value : Bool) : Equals (.bool value) (.value (.bool value))
  | number (literal actual : Json) (x y : Double)
      (number : (Operand.value literal).isNumber ∨ (Operand.value actual).isNumber)
      (numeric : (Operand.value literal).looksNumeric) (otherNumeric : (Operand.value actual).looksNumeric)
      (read : (Operand.value literal).toDouble = .ok x) (other : (Operand.value actual).toDouble = .ok y)
      (same : x.same y) : Equals literal (.value actual)
  | text (text : String) : Equals (.str text) (.value (.str text))

theorem bools_equal {literal actual : Json} (equal : Operand.equalsLiteral (.value literal) (.value actual) = .ok true)
    (bool : (Operand.value literal).isBool) (otherBool : (Operand.value actual).isBool) : Equals literal (.value actual) := by
  cases literal with
  | bool a =>
      cases actual with
      | bool b =>
          obtain rfl : a = b := beq_iff_eq.mp (Except.ok.inj equal)
          exact .bool a
      | null | num _ | str _ | arr _ | obj _ => cases otherBool
  | null | num _ | str _ | arr _ | obj _ => cases bool

theorem same_equal {literal actual : Json} (leaf : isLiteral literal) (same : literal.same actual)
    (bool : (Operand.value literal).isBool = false) (otherBool : (Operand.value actual).isBool = false)
    (numbers : ¬ ((Operand.value literal).isNumber ∧ (Operand.value actual).isNumber)) :
    Equals literal (.value actual) := by
  cases literal with
  | null =>
      cases actual with
      | null => exact .null
      | bool _ | num _ | str _ | arr _ | obj _ => cases same
  | num number =>
      cases actual with
      | num other => exact absurd ⟨rfl, rfl⟩ numbers
      | bool _ => cases otherBool
      | null | str _ | arr _ | obj _ => cases same
  | str text =>
      cases actual with
      | str other =>
          obtain rfl : text = other := beq_iff_eq.mp same
          exact .text text
      | null | bool _ | num _ | arr _ | obj _ => cases same
  | bool _ => cases bool
  | arr _ | obj _ => cases leaf

theorem present_equal {literal actual : Json} (leaf : isLiteral literal)
    (equal : Operand.equalsLiteral (.value literal) (.value actual) = .ok true) : Equals literal (.value actual) := by
  by_cases bools : (Operand.value literal).isBool ∧ (Operand.value actual).isBool
  · exact bools_equal equal bools.1 bools.2
  rw [Operand.equals_literal_present _ _ Operand.noConfusion bools] at equal
  by_cases mixed : (Operand.value literal).isBool || (Operand.value actual).isBool
  · rw [if_pos mixed] at equal
    cases equal
  rw [if_neg mixed] at equal
  obtain ⟨bool, otherBool⟩ := Bool.or_eq_false_iff.mp (Bool.eq_false_iff.mpr mixed)
  by_cases numbers : ((Operand.value literal).isNumber || (Operand.value actual).isNumber) &&
      (Operand.value literal).looksNumeric && (Operand.value actual).looksNumeric
  · rw [if_pos numbers] at equal
    simp only [Bool.and_eq_true, Bool.or_eq_true] at numbers
    obtain ⟨⟨number, numeric⟩, otherNumeric⟩ := numbers
    obtain ⟨x, read, later⟩ := (bind_ok_iff _ _ _).mp equal
    obtain ⟨y, other, same⟩ := (bind_ok_iff _ _ _).mp later
    exact .number literal actual x y number numeric otherNumeric read other (Except.ok.inj same)
  · rw [if_neg numbers] at equal
    apply same_equal leaf (Except.ok.inj equal) bool otherBool
    rintro ⟨number, otherNumber⟩
    apply numbers
    simp [number, Operand.numeric_of_number number, Operand.numeric_of_number otherNumber]

theorem equals_iff {literal : Json} (leaf : isLiteral literal) (actual : Operand) :
    Operand.equalsLiteral (.value literal) actual = .ok true ↔ Equals literal actual := by
  constructor
  · intro equal
    cases actual with
    | value json => exact present_equal leaf equal
    | missing =>
        cases literal with
        | null => exact .missing
        | bool _ | num _ | str _ | arr _ | obj _ => cases equal
    | foreign =>
        cases literal with
        | num number =>
            have apart : Operand.equalsLiteral (.value (.num number)) .foreign = .ok false := rfl
            cases equal.symm.trans apart
        | null | bool _ | str _ | arr _ | obj _ => cases equal
  · intro equals
    cases equals with
    | missing | null => rfl
    | bool value => cases value <;> rfl
    | number literal actual x y number numeric otherNumeric read other same =>
        rw [Operand.numbers_equal numeric otherNumeric number read other, same]
    | text text => exact congrArg Except.ok (beq_self_eq_true text)

theorem Equals.compared {literal : Json} {actual : Operand} (equals : Equals literal actual) :
    Operand.compare actual (.value literal) = .ok (some .eq) ∨
      ∃ text, Numeral.Separated text ∧ literal = .str text ∧ actual = .value (.str text) := by
  cases equals with
  | missing | null => exact .inl (Operand.compare_same_text (.inl rfl) (.inl rfl) rfl)
  | bool value =>
      have wording : (Operand.value (.bool value)).IsWording := .inr ⟨rfl, Bool.false_ne_true⟩
      exact .inl (Operand.compare_same_text wording wording rfl)
  | number literal actual x y number numeric otherNumeric read other same =>
      left
      rw [Operand.compare_quantities (.inr otherNumeric) (.inr numeric) other read,
        Double.order_of_same (Double.same_comm x y ▸ same)]
  | text text =>
      by_cases numeric : Numeral.looksNumeric text
      · cases read : Numeral.toDouble? text with
        | none => exact .inr ⟨text, (Numeral.separated_iff text).mpr ⟨numeric, read⟩, rfl, rfl⟩
        | some x =>
            have quantity : (Operand.value (.str text)).IsQuantity := .inr numeric
            have double : (Operand.value (.str text)).toDouble = .ok x := by rw [Operand.toDouble, read]
            left
            rw [Operand.compare_quantities quantity quantity double double, Double.order_self]
      · have wording : (Operand.value (.str text)).IsWording := .inr ⟨rfl, numeric⟩
        exact .inl (Operand.compare_same_text wording wording rfl)

theorem match_compares_equal {literal : Json} (leaf : isLiteral literal) {actual : Operand}
    (matched : (matchesValue literal actual).outcome = .ok true) :
    matchesOperator (Operator.order .eq).name actual (.value literal) = pure true ∨
      ∃ text, Numeral.Separated text ∧ literal = .str text ∧ actual = .value (.str text) ∧
        matchesOperator (Operator.order .eq).name actual (.value literal) = Traced.fail (.unreadableNumber text) := by
  rw [matches_value_literal leaf] at matched
  rcases ((equals_iff leaf actual).mp matched).compared with compared | ⟨text, separated, rfl, rfl⟩
  · left
    rw [matches_order, compared]
    rfl
  · refine .inr ⟨text, separated, rfl, rfl, ?_⟩
    rw [matches_order, Operand.compare_separated separated]
    rfl

theorem match_compares_equal_price :
    (matchesValue (.int 5) (.value (.str " 5.00"))).outcome = .ok true ∧
      matchesOperator "$eq" (.value (.str " 5.00")) (.value (.int 5)) = pure true := by
  have matched : (matchesValue (.int 5) (.value (.str " 5.00"))).outcome = .ok true := by decide +kernel
  refine ⟨matched, (match_compares_equal rfl matched).resolve_right ?_⟩
  rintro ⟨text, _, same, _⟩
  cases same

theorem separated_number_matched_only :
    (matchesValue (.str "\x1c1") (.value (.str "\x1c1"))).outcome = .ok true ∧
      (matchesOperator "$eq" (.value (.str "\x1c1")) (.value (.str "\x1c1"))).outcome =
        .error (.unreadableNumber "\x1c1") := by
  refine ⟨by decide +kernel, by decide +kernel⟩

theorem Equals.symm {literal actual : Json} (equals : Equals literal (.value actual)) : Equals actual (.value literal) := by
  cases equals with
  | null => exact .null
  | bool value => exact .bool value
  | number literal actual x y number numeric otherNumeric read other same =>
      exact .number actual literal y x number.symm otherNumeric numeric other read (Double.same_comm x y ▸ same)
  | text text => exact .text text

theorem Equals.literal {literal actual : Json} (equals : Equals literal (.value actual)) : isLiteral actual := by
  cases equals with
  | null | bool _ | text _ => rfl
  | number literal actual x y number numeric otherNumeric read other same =>
      rcases Operand.numeric_cases otherNumeric with ⟨_, shape⟩ | ⟨_, shape⟩ <;> cases shape <;> rfl

def Matches (value item : Json) : Prop := (matchesValue value (.value item)).outcome = .ok true

theorem matches_literal_iff {literal : Json} (leaf : isLiteral literal) (item : Json) :
    Matches literal item ↔ Equals literal (.value item) := by
  rw [Matches, matches_value_literal leaf, Traced.outcome_silent, equals_iff leaf]

theorem matches_arr_iff (values items : List Json) :
    Matches (.arr values) (.arr items) ↔ List.Forall₂ Matches values items := by
  rw [Matches, matches_value_arr, overItems, List.forall₂_iff_zip]
  by_cases lengths : values.length = items.length
  · rw [if_pos lengths, all_true_iff]
    constructor
    · intro each
      exact ⟨lengths, fun among => each (_, _) among⟩
    · rintro ⟨_, each⟩ ⟨value, item⟩ among
      exact each among
  · rw [if_neg lengths]
    constructor
    · intro ended
      cases ended
    · intro members
      exact absurd members.1 lengths

theorem matches_arr_shape {values : List Json} {item : Json} (matched : Matches (.arr values) item) :
    ∃ items, item = .arr items := by
  rw [Matches, matches_value_arr] at matched
  cases item with
  | arr items => exact ⟨items, rfl⟩
  | null | bool _ | num _ | str _ | obj _ => cases matched

theorem matches_field_iff (others : Fields) (key : String) (value : Json) :
    (matchesField others key value).outcome = .ok true ↔
      ∃ found, others.get? key = some found ∧ Matches value found := by
  rw [matchesField]
  cases others.get? key with
  | none => simp
  | some found => simp [Matches]

theorem matches_obj_iff {fields others : Fields} (operators : ¬ isOperatorObject fields) :
    Matches (.obj fields) (.obj others) ↔ fields.length = others.length ∧ ∀ key value, (key, value) ∈ fields →
      ∃ found, others.get? key = some found ∧ Matches value found := by
  rw [Matches, matches_value_obj fields _ operators, overFields]
  by_cases lengths : fields.length = others.length
  · rw [if_pos lengths, all_true_iff]
    simp only [Prod.forall, matches_field_iff, lengths, true_and]
  · rw [if_neg lengths]
    constructor
    · intro ended
      cases ended
    · intro fields
      exact absurd fields.1 lengths

theorem matches_obj_shape {fields : Fields} (operators : ¬ isOperatorObject fields) {item : Json}
    (matched : Matches (.obj fields) item) : ∃ others, item = .obj others := by
  rw [Matches, matches_value_obj fields _ operators] at matched
  cases item with
  | obj others => exact ⟨others, rfl⟩
  | null | bool _ | num _ | str _ | arr _ => cases matched

-- Without operators, NaN and integers that have no double, at any depth.
inductive Plain : Json → Prop where
  | null : Plain .null
  | bool (value : Bool) : Plain (.bool value)
  | num (number : Number) (x : Double) (read : number.toDouble? = some x) (ordered : x ≠ .nan) : Plain (.num number)
  | str (text : String) : Plain (.str text)
  | arr (items : List Json) (members : ∀ item ∈ items, Plain item) : Plain (.arr items)
  | obj (fields : Fields) (distinct : fields.keys.Nodup) (operators : ¬ isOperatorObject fields)
      (members : ∀ field ∈ fields, Plain field.2) : Plain (.obj fields)

theorem matches_self {value : Json} (plain : Plain value) : Matches value value := by
  induction plain with
  | null => exact (matches_literal_iff rfl _).mpr .null
  | bool value => exact (matches_literal_iff rfl _).mpr (.bool value)
  | num number x read ordered =>
      have double : (Operand.value (.num number)).toDouble = .ok x := by rw [Operand.toDouble, read]
      have same : x.same x := (Double.same_iff ordered ordered).mpr ⟨x.lt_self, x.lt_self⟩
      exact (matches_literal_iff rfl _).mpr (.number _ _ x x (.inl rfl) rfl rfl double double same)
  | str text => exact (matches_literal_iff rfl _).mpr (.text text)
  | arr items members ih => exact (matches_arr_iff items items).mpr (List.forall₂_same.mpr ih)
  | obj fields distinct operators members ih =>
      refine (matches_obj_iff operators).mpr ⟨rfl, fun key value member => ?_⟩
      exact ⟨value, (Fields.get_eq_some_iff distinct key value).mpr member, ih (key, value) member⟩

theorem literals_match_symm {value item : Json} (leaf : isLiteral value) (matched : Matches value item) :
    Matches item value := by
  have equals := (matches_literal_iff leaf item).mp matched
  exact (matches_literal_iff equals.literal value).mpr equals.symm

theorem items_match_symm {values items : List Json} (matched : List.Forall₂ Matches values items)
    (turns : ∀ value ∈ values, ∀ item ∈ items, Matches value item → Matches item value) :
    List.Forall₂ Matches items values := by
  induction matched with
  | nil => exact .nil
  | cons first rest ih =>
      refine .cons (turns _ List.mem_cons_self _ List.mem_cons_self first) (ih fun value among item itemAmong => ?_)
      exact turns value (List.mem_cons_of_mem _ among) item (List.mem_cons_of_mem _ itemAmong)

-- One side asks for its own keys only. They are all that the other side has, since both have equally many.
theorem fields_match_symm {fields others : Fields} (distinct : fields.keys.Nodup) (otherDistinct : others.keys.Nodup)
    (lengths : fields.length = others.length)
    (matched : ∀ key value, (key, value) ∈ fields → ∃ found, others.get? key = some found ∧ Matches value found)
    (turns : ∀ key value found, (key, value) ∈ fields → (key, found) ∈ others → Matches value found →
      Matches found value) :
    ∀ key found, (key, found) ∈ others → ∃ value, fields.get? key = some value ∧ Matches found value := by
  have included : fields.keys ⊆ others.keys := by
    intro key among
    obtain ⟨⟨key, value⟩, member, rfl⟩ := List.mem_map.mp among
    obtain ⟨found, got, _⟩ := matched key value member
    exact List.mem_map.mpr ⟨(key, found), Fields.mem_of_get got, rfl⟩
  intro key found member
  have known : key ∈ fields.keys :=
    (Fields.keys_perm distinct included lengths).mem_iff.mpr (List.mem_map.mpr ⟨(key, found), member, rfl⟩)
  obtain ⟨⟨key, value⟩, own, rfl⟩ := List.mem_map.mp known
  obtain ⟨partner, got, held⟩ := matched key value own
  obtain rfl : partner = found :=
    Option.some.inj (got.symm.trans ((Fields.get_eq_some_iff otherDistinct key found).mpr member))
  exact ⟨value, (Fields.get_eq_some_iff distinct key value).mpr own, turns key value partner own member held⟩

-- Induction on the first value. The second one has the same shape, being matched by it.
theorem matches_symm {value item : Json} (plain : Plain value) (itemPlain : Plain item) (matched : Matches value item) :
    Matches item value := by
  induction plain generalizing item with
  | null | bool _ | num _ _ _ _ | str _ => exact literals_match_symm rfl matched
  | arr values members ih =>
      obtain ⟨items, rfl⟩ := matches_arr_shape matched
      cases itemPlain with
      | arr _ itemsPlain =>
          have back := items_match_symm ((matches_arr_iff values items).mp matched) fun value among item itemAmong =>
            ih value among (itemsPlain item itemAmong)
          exact (matches_arr_iff items values).mpr back
  | obj fields distinct operators members ih =>
      obtain ⟨others, rfl⟩ := matches_obj_shape operators matched
      cases itemPlain with
      | obj _ otherDistinct otherOperators othersPlain =>
          obtain ⟨lengths, found⟩ := (matches_obj_iff operators).mp matched
          have back := fields_match_symm distinct otherDistinct lengths found fun key value item own other =>
            ih (key, value) own (othersPlain (key, item) other)
          exact (matches_obj_iff otherOperators).mpr ⟨lengths.symm, back⟩

theorem plain_possible {possible : ConditionError → Prop} {value item : Json} (plain : Plain value)
    (reads : ∀ part, Json.Part part value → (Operand.value part).Reads possible)
    (itemReads : ∀ part, Json.Part part item → (Operand.value part).Reads possible) :
    Possible possible (matchesValue value (.value item)).outcome := by
  induction plain generalizing item with
  | null | bool _ | num _ _ _ _ | str _ => exact Operand.equals_literal_possible (reads _ .refl) (itemReads _ .refl)
  | arr values members ih =>
      refine items_possible fun items same value among found foundAmong => ?_
      cases same
      refine ih value among (fun part held => reads part (held.tail among)) fun part held => ?_
      exact itemReads part (held.tail foundAmong)
  | obj fields distinct operators members ih =>
      refine fields_possible operators fun others same key value found own other => ?_
      cases same
      refine ih (key, value) own (fun part held => reads part (held.tail ⟨key, own⟩)) fun part held => ?_
      exact itemReads part (held.tail ⟨key, other⟩)

theorem Plain.child {child whole : Json} (plain : Plain whole) (held : Json.Child child whole) : Plain child := by
  cases plain with
  | arr items members => exact members child held
  | obj fields distinct operators members =>
      obtain ⟨key, member⟩ := held
      exact members (key, child) member
  | null | bool _ | num _ _ _ _ | str _ => exact held.elim

theorem Plain.part {part whole : Json} (plain : Plain whole) (held : Json.Part part whole) : Plain part := by
  induction held using Relation.ReflTransGen.head_induction_on with
  | refl => exact plain
  | head step _ ih => exact ih.child step

inductive SeparatedIn (value item : Json) : ConditionError → Prop where
  | text (text : String) (separated : Numeral.Separated text)
      (held : Json.Part (.str text) value ∨ Json.Part (.str text) item) : SeparatedIn value item (.unreadableNumber text)

theorem Plain.reads {part : Json} (plain : Plain part) (value item : Json)
    (held : Json.Part part value ∨ Json.Part part item) : (Operand.value part).Reads (SeparatedIn value item) := by
  intro numeric failure failed
  cases plain with
  | num number x read ordered =>
      rw [Operand.toDouble, read] at failed
      cases failed
  | str text =>
      obtain ⟨rfl, unread⟩ := Operand.text_fails text failure failed
      exact .text text ((Numeral.separated_iff text).mpr ⟨numeric, unread⟩) held
  | null | bool _ | arr _ _ | obj _ _ _ _ => cases numeric

theorem plain_fails {value item : Json} (plain : Plain value) (itemPlain : Plain item) {failure : ConditionError}
    (failed : (matchesValue value (.value item)).outcome = .error failure) : SeparatedIn value item failure := by
  refine plain_possible plain (fun part held => ?_) (fun part held => ?_) failure failed
  · exact (plain.part held).reads value item (.inl held)
  · exact (itemPlain.part held).reads value item (.inr held)

theorem plain_answers {value item : Json} (plain : Plain value) (itemPlain : Plain item)
    (readable : ∀ failure, ¬ SeparatedIn value item failure) :
    ∃ matched, (matchesValue value (.value item)).outcome = .ok matched := by
  cases ended : (matchesValue value (.value item)).outcome with
  | error failure => exact absurd (plain_fails plain itemPlain ended) (readable failure)
  | ok matched => exact ⟨matched, rfl⟩

theorem SeparatedIn.symm {value item : Json} {failure : ConditionError} (separated : SeparatedIn value item failure) :
    SeparatedIn item value failure := by
  cases separated with
  | text text separated held => exact .text text separated held.symm

theorem plain_match {value item : Json} (plain : Plain value) (itemPlain : Plain item) :
    Matches value value ∧ (Matches value item ↔ Matches item value) ∧
    (∀ failure, (matchesValue value (.value item)).outcome = .error failure → SeparatedIn value item failure) ∧
    ((∀ failure, ¬ SeparatedIn value item failure) →
      (matchesValue value (.value item)).outcome = (matchesValue item (.value value)).outcome) := by
  have turns : Matches value item ↔ Matches item value := ⟨matches_symm plain itemPlain, matches_symm itemPlain plain⟩
  refine ⟨matches_self plain, turns, fun failure => plain_fails plain itemPlain, fun readable => ?_⟩
  have otherReadable : ∀ failure, ¬ SeparatedIn item value failure := fun failure held => readable failure held.symm
  obtain ⟨matched, ended⟩ := plain_answers plain itemPlain readable
  obtain ⟨turned, otherEnded⟩ := plain_answers itemPlain plain otherReadable
  rw [Matches, Matches, ended, otherEnded] at turns
  have same : matched = turned := Bool.eq_iff_iff.mpr (by simpa using turns)
  rw [ended, otherEnded, same]

def Plan.half : Json := .num (.float (.ofRatio false 1 2))

def Plan.wanted : Json := .obj [("name", .str "pro"), ("shares", .arr [.str ".50", .int 2, .bool true])]

def Plan.held : Json := .obj [("shares", .arr [Plan.half, .str "2.0", .bool true]), ("name", .str "pro")]

theorem plain_int (value : Int) {x : Double} (read : Double.ofInt? value = some x) (ordered : x ≠ .nan) :
    Plain (.int value) :=
  .num (.int value) x read ordered

theorem plain_match_plan : Plain Plan.wanted ∧ Plain Plan.held ∧ Matches Plan.wanted Plan.held ∧
    Matches Plan.held Plan.wanted := by
  have two : Plain (.int 2) := plain_int 2 (x := .ofRatio false 2 1) (by decide +kernel) (by decide +kernel)
  have half : Plain Plan.half := .num _ (.ofRatio false 1 2) rfl (by decide +kernel)
  have shares : Plain (.arr [.str ".50", .int 2, .bool true]) :=
    .arr _ (by simpa using ⟨.str _, two, .bool true⟩)
  have heldShares : Plain (.arr [Plan.half, .str "2.0", .bool true]) :=
    .arr _ (by simpa using ⟨half, .str _, .bool true⟩)
  have wanted : Plain Plan.wanted := .obj _ (by decide) (by decide) (by simpa using ⟨.str _, shares⟩)
  have held : Plain Plan.held := .obj _ (by decide) (by decide) (by simpa using ⟨heldShares, .str _⟩)
  have matched : Matches Plan.wanted Plan.held := by
    unfold Matches
    decide +kernel
  exact ⟨wanted, held, matched, (plain_match wanted held).2.1.mp matched⟩

def Plan.numbered : Json := .obj [("b", .int 1), ("c", .int 1)]

def Plan.separated : Json := .obj [("a", .int 1), ("b", .str "\x1c1")]

-- The fields are tried in the order of one side only, and one of them cannot be read.
theorem separated_number_one_way : Plain Plan.numbered ∧ Plain Plan.separated ∧
    (matchesValue Plan.numbered (.value Plan.separated)).outcome = .error (.unreadableNumber "\x1c1") ∧
    (matchesValue Plan.separated (.value Plan.numbered)).outcome = .ok false := by
  have one : Plain (.int 1) := plain_int 1 (x := .ofRatio false 1 1) (by decide +kernel) (by decide +kernel)
  refine ⟨.obj _ (by decide) (by decide) (by simpa using one), .obj _ (by decide) (by decide) ?_, by decide +kernel,
    by decide +kernel⟩
  simpa using ⟨one, .str _⟩

end FeatureFlags.Condition
