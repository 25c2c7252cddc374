import FeatureFlags.Proofs.Version.Column

/-! Releases are in the order of their columns. That is the order of their numbers unless, where they first
differ, one number overtakes the other. -/

set_option autoImplicit false

namespace FeatureFlags.Version

theorem decimal_text (number : Nat) : (toString number).toList = decimal number := by
  rw [Nat.toString_eq_repr, Nat.toList_repr, decimal]

structure Decimal where
  text : String
  nonempty : text.toList ≠ []
  digits : ∀ c ∈ text.toList, c.isDigit

def Decimal.ofNat (number : Nat) : Decimal where
  text := toString number
  nonempty := decimal_text number ▸ decimal_nonempty number
  digits := fun _ among => decimal_digit (decimal_text number ▸ among)

def Decimal.chars (part : Decimal) : List Char := part.text.toList

theorem Decimal.chars_of_nat (number : Nat) : (ofNat number).chars = decimal number := decimal_text number

theorem Decimal.not_mem (part : Decimal) {c : Char} (other : c.isDigit = false) : c ∉ part.chars := by
  intro among
  exact Bool.false_ne_true (other.symm.trans (part.digits c among))

theorem Decimal.whole (part : Decimal) : Whole part.chars :=
  whole_of_not_mem (part.not_mem (by decide)) (part.not_mem (by decide))

structure Core where
  major : Decimal
  minor : Decimal
  patch : Decimal

namespace Core

variable (core : Core)

def text : String := core.major.text ++ "." ++ core.minor.text ++ "." ++ core.patch.text

def chars : List Char := core.major.chars ++ '.' :: (core.minor.chars ++ '.' :: core.patch.chars)

theorem text_chars : core.text.toList = core.chars := by
  simp only [text, chars, Decimal.chars, String.toList_append, List.append_assoc]
  rfl

theorem padded_extended (ending : List Char) (plain : '+' ∉ ending) : padded (core.chars ++ ending) =
    List.intercalate ['-'] ((markRelease (parts (core.chars ++ ending))).map padPart) := by
  have digits (part : Decimal) : '+' ∉ part.chars := part.not_mem (by decide)
  have whole : '+' ∉ core.chars ++ ending := by simp [chars, digits, plain]
  have unmarked : (core.chars ++ ending).head? ≠ some 'v' := by
    obtain ⟨c, rest, first⟩ := List.exists_cons_of_ne_nil core.major.nonempty
    have starts : core.major.chars = c :: rest := first
    have other : c ≠ 'v' := by
      rintro rfl
      exact core.major.not_mem (c := 'v') (by decide) (starts ▸ List.mem_cons_self)
    simpa [chars, starts] using other
  rw [padded, drop_prefix_unmarked unmarked, drop_build_plain whole]

theorem parts_extended (ending : List Char) :
    parts (core.chars ++ ending) = core.major.chars :: core.minor.chars :: parts (core.patch.chars ++ ending) := by
  rw [chars, List.append_assoc, List.cons_append, List.append_assoc, List.cons_append, parts_append core.major.whole rfl,
    parts_append core.minor.whole rfl]

theorem text_nonempty : core.text ≠ "" := by
  intro empty
  have chars : core.text.toList = [] := by rw [empty, String.toList_empty]
  rw [text_chars, Core.chars, List.append_eq_nil_iff] at chars
  cases chars.2

theorem key_chars : (key (.value (.str core.text))).toList =
    padPart core.major.chars ++ tail [core.minor.chars, core.patch.chars, ['~']] := by
  have extended := core.padded_extended [] List.not_mem_nil
  rw [parts_extended, List.append_nil, List.append_nil, parts_whole core.patch.whole] at extended
  rw [key_text core.text_nonempty, String.toList_ofList, text_chars, extended, ← joined_eq]
  rfl

end Core

structure Release where
  major : Nat
  minor : Nat
  patch : Nat

namespace Release

def text (release : Release) : String :=
  toString release.major ++ "." ++ toString release.minor ++ "." ++ toString release.patch

def operand (release : Release) : Operand := .value (.str release.text)

def numbers (release : Release) : List Nat := [release.major, release.minor, release.patch]

def core (release : Release) : Core := ⟨.ofNat release.major, .ofNat release.minor, .ofNat release.patch⟩

theorem key_columns (release : Release) : (key release.operand).toList =
    column release.major ++ tail [decimal release.minor, decimal release.patch, ['~']] := by
  have chars := release.core.key_chars
  simp only [core, Decimal.chars_of_nat] at chars
  exact chars

end Release

def columnOrder (m n : Nat) : Ordering := compare (column m) (column n)

theorem Release.order (first second : Release) :
    textOrder (key first.operand) (key second.operand) = first.numbers.compareLex columnOrder second.numbers := by
  have further (m n : Nat) (rest others : List (List Char)) : compare (tail (decimal m :: rest)) (tail (decimal n :: others)) =
      (columnOrder m n).then (compare (tail rest) (tail others)) := by
    rw [tail_order]
    exact column_order_first m n rest others
  rw [text_order_eq, key_columns, key_columns, column_order_first, further, further, Std.ReflOrd.compare_self]
  simp only [numbers, List.compareLex_cons_cons, List.compareLex_nil_nil]
  rfl

inductive Inverted : List Nat → List Nat → Prop where
  | here (smaller larger : Nat) (rest others : List Nat) (overtakes : Overtakes smaller larger) :
      Inverted (smaller :: rest) (larger :: others)
  | later (number : Nat) (rest others : List Nat) (inverted : Inverted rest others) :
      Inverted (number :: rest) (number :: others)

theorem Inverted.order {numbers others : List Nat} (inverted : Inverted numbers others) :
    numbers.compareLex columnOrder others = .gt ∧ compare numbers others = .lt := by
  induction inverted with
  | here smaller larger rest others overtakes =>
      rw [List.compareLex_cons_cons, List.compare_cons_cons, columnOrder, overtakes.column_order, overtakes.order]
      exact ⟨rfl, rfl⟩
  | later number rest others _ ih =>
      rw [List.compareLex_cons_cons, List.compare_cons_cons, columnOrder, Std.ReflOrd.compare_self, Std.ReflOrd.compare_self]
      exact ih

theorem Inverted.long {numbers others : List Nat} (inverted : Inverted numbers others) :
    ∃ number ∈ others, 100000 ≤ number := by
  induction inverted with
  | here smaller larger rest others overtakes => exact ⟨larger, List.mem_cons_self, overtakes.long⟩
  | later number rest others _ ih =>
      obtain ⟨long, among, bound⟩ := ih
      exact ⟨long, List.mem_cons_of_mem _ among, bound⟩

theorem columns_in_order {numbers others : List Nat} (kept : ¬ Inverted numbers others)
    (otherKept : ¬ Inverted others numbers) :
    numbers.compareLex columnOrder others = compare numbers others := by
  induction numbers generalizing others with
  | nil => cases others <;> rfl
  | cons m rest ih =>
      cases others with
      | nil => rfl
      | cons n others =>
          have first : columnOrder m n = compare m n := by
            apply column_order
            · exact fun overtakes => kept (.here m n rest others overtakes)
            · exact fun overtakes => otherKept (.here n m others rest overtakes)
          rw [List.compareLex_cons_cons, List.compare_cons_cons, first]
          cases ordered : compare m n with
          | lt => rfl
          | gt => rfl
          | eq =>
              obtain rfl : m = n := Nat.compare_eq_eq.mp ordered
              apply ih
              · exact fun inverted => kept (.later m rest others inverted)
              · exact fun inverted => otherKept (.later m others rest inverted)

def Release.Misplaced (first second : Release) : Prop :=
  Inverted first.numbers second.numbers ∨ Inverted second.numbers first.numbers

theorem Release.Misplaced.order {first second : Release} (misplaced : first.Misplaced second) :
    textOrder (key first.operand) (key second.operand) = (compare first.numbers second.numbers).swap ∧
      compare first.numbers second.numbers ≠ .eq := by
  rcases misplaced with inverted | inverted
  · obtain ⟨columns, values⟩ := inverted.order
    rw [Release.order, columns, values]
    exact ⟨rfl, by decide⟩
  · obtain ⟨columns, values⟩ := inverted.order
    have back : compare first.numbers second.numbers = .gt := by
      rw [Std.OrientedOrd.eq_swap, values]
      rfl
    have swapped : textOrder (key first.operand) (key second.operand) = .lt := by
      rw [text_order_eq, Std.OrientedOrd.eq_swap, ← text_order_eq, Release.order, columns]
      rfl
    rw [swapped, back]
    exact ⟨rfl, by decide⟩

theorem releases_ordered (first second : Release) :
    (¬ first.Misplaced second → textOrder (key first.operand) (key second.operand) = compare first.numbers second.numbers) ∧
    (first.Misplaced second → textOrder (key first.operand) (key second.operand) = (compare first.numbers second.numbers).swap ∧
      compare first.numbers second.numbers ≠ .eq) ∧
    (∀ relation, Condition.matchesOperator (Operator.version relation).name first.operand second.operand =
      pure (relation.accepts (textOrder (key first.operand) (key second.operand)))) ∧
    ((∀ number ∈ first.numbers ++ second.numbers, number < 100000) → ¬ first.Misplaced second) := by
  refine ⟨fun kept => ?_, Release.Misplaced.order, fun relation => ?_, fun short misplaced => ?_⟩
  · rw [Release.order]
    exact columns_in_order (fun inverted => kept (.inl inverted)) fun inverted => kept (.inr inverted)
  · exact Condition.matches_version relation first.operand second.operand
  · rcases misplaced with inverted | inverted
    · obtain ⟨number, among, long⟩ := inverted.long
      exact Nat.not_lt_of_le long (short number (List.mem_append_right _ among))
    · obtain ⟨number, among, long⟩ := inverted.long
      exact Nat.not_lt_of_le long (short number (List.mem_append_left _ among))

theorem releases_ordered_minor : (∀ number ∈ Release.numbers ⟨1, 9, 12⟩ ++ Release.numbers ⟨1, 10, 3⟩, number < 100000) ∧
    textOrder (key (.value (.str "1.9.12"))) (key (.value (.str "1.10.3"))) = .lt := by
  have short : ∀ number ∈ Release.numbers ⟨1, 9, 12⟩ ++ Release.numbers ⟨1, 10, 3⟩, number < 100000 := by decide
  obtain ⟨ordered, _, _, kept⟩ := releases_ordered ⟨1, 9, 12⟩ ⟨1, 10, 3⟩
  exact ⟨short, ordered (kept short)⟩

theorem release_overtaken : compare (Release.numbers ⟨99999, 0, 0⟩) (Release.numbers ⟨100000, 0, 0⟩) = .lt ∧
    textOrder (key (.value (.str "99999.0.0"))) (key (.value (.str "100000.0.0"))) = .gt ∧
    Condition.matchesOperator "$vlt" (.value (.str "99999.0.0")) (.value (.str "100000.0.0")) = pure false := by
  have order : textOrder (key (.value (.str "99999.0.0"))) (key (.value (.str "100000.0.0"))) = .gt := by decide +kernel
  have answer := Condition.matches_version .lt (.value (.str "99999.0.0")) (.value (.str "100000.0.0"))
  rw [order] at answer
  exact ⟨rfl, order, answer⟩

end FeatureFlags.Version
