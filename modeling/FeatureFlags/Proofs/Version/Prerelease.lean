import FeatureFlags.Proofs.Version.Release

/-! Blanks and digits sort below letters, the dash that joins parts below digits and letters, and the mark of
a release above all of them, so the keys are in the order of precedence. -/

set_option autoImplicit false

namespace FeatureFlags.Version

structure Word where
  text : String
  starts : ∃ first rest, text.toList = first :: rest ∧ first.isAlpha
  alphanumeric : ∀ c ∈ text.toList, c.isAlphanum

inductive Identifier where
  | number (value : Nat) (short : value < 100000)
  | word (letters : Word)

namespace Identifier

def text : Identifier → String
  | .number value _ => toString value
  | .word letters => letters.text

def chars (identifier : Identifier) : List Char := identifier.text.toList

def order : Identifier → Identifier → Ordering
  | .number value _, .number other _ => compare value other
  | .number _ _, .word _ => .lt
  | .word _, .number _ _ => .gt
  | .word letters, .word others => textOrder letters.text others.text

end Identifier

-- The first identifiers that differ decide; of two lists of which one begins with the other, the shorter is below.
def precedence (first second : List Identifier) : Ordering := first.compareLex Identifier.order second

theorem alpha_codes {c : Char} (alpha : c.isAlpha) : 'A'.toNat ≤ c.toNat ∧ c.toNat ≤ 'z'.toNat := by
  rcases Bool.or_eq_true_iff.mp alpha with upper | lower
  · obtain ⟨low, high⟩ : 'A' ≤ c ∧ c ≤ 'Z' := of_decide_eq_true upper
    exact ⟨low, Nat.le_trans high (by decide)⟩
  · have between : (decide ('a' ≤ c) && decide (c ≤ 'z')) = true := lower
    obtain ⟨low, high⟩ := Bool.and_eq_true_iff.mp between
    exact ⟨Nat.le_trans (by decide) (of_decide_eq_true low), of_decide_eq_true high⟩

theorem alphanumeric_codes {c : Char} (alphanumeric : c.isAlphanum) : '0'.toNat ≤ c.toNat ∧ c.toNat ≤ 'z'.toNat := by
  rcases Bool.or_eq_true_iff.mp alphanumeric with alpha | digit
  · obtain ⟨low, high⟩ := alpha_codes alpha
    exact ⟨Nat.le_trans (by decide) low, high⟩
  · obtain ⟨low, high⟩ := Char.isDigit_iff_toNat.mp digit
    exact ⟨low, Nat.le_trans high (by decide)⟩

theorem alpha_no_digit {c : Char} (alpha : c.isAlpha) : Text.isDigit c = false := by
  obtain ⟨low, high⟩ := alpha_codes alpha
  have ascii : c.toNat < 0x7f := Nat.lt_of_le_of_lt high (by decide)
  rw [Bool.eq_false_iff]
  intro known
  obtain ⟨_, bound⟩ := Char.isDigit_iff_toNat.mp (Text.ascii_digit c known ascii)
  exact absurd (Nat.le_trans low bound) (by decide)

theorem Word.part (word : Word) : padPart word.text.toList = word.text.toList := by
  obtain ⟨first, rest, split, alpha⟩ := word.starts
  apply pad_part_word
  intro c head
  rw [split, List.head?_cons, Option.mem_some_iff] at head
  exact head ▸ alpha_no_digit alpha

theorem Word.above_dash (word : Word) (c : Char) (among : c ∈ word.text.toList) : '-' < c := by
  have below : '-'.toNat < c.toNat := Nat.lt_of_lt_of_le (by decide) (alphanumeric_codes (word.alphanumeric c among)).1
  exact below

theorem column_head (number : Nat) : ∃ c rest, column number = c :: rest ∧ c < 'A' := by
  rw [column_eq]
  cases 5 - (decimal number).length with
  | zero =>
      obtain ⟨c, rest, first⟩ := List.exists_cons_of_ne_nil (decimal_nonempty number)
      have high : c.toNat ≤ '9'.toNat := (Char.isDigit_iff_toNat.mp (decimal_digit (first ▸ List.mem_cons_self))).2
      have below : c.toNat < 'A'.toNat := Nat.lt_of_le_of_lt high (by decide)
      exact ⟨c, rest, first, below⟩
  | succ count => exact ⟨' ', _, rfl, by decide⟩

namespace Identifier

theorem chars_number (value : Nat) (short : value < 100000) : (number value short).chars = decimal value := decimal_text value

theorem chars_word (letters : Word) : (word letters).chars = letters.text.toList := rfl

theorem alphanumeric (identifier : Identifier) (c : Char) (among : c ∈ identifier.chars) : c.isAlphanum := by
  cases identifier with
  | number value short =>
      rw [chars_number] at among
      exact Bool.or_eq_true_iff.mpr (.inr (decimal_digit among))
  | word letters => exact letters.alphanumeric c among

theorem not_mem (identifier : Identifier) {c : Char} (other : c.isAlphanum = false) : c ∉ identifier.chars := by
  intro among
  exact Bool.false_ne_true (other.symm.trans (identifier.alphanumeric c among))

theorem whole (identifier : Identifier) : Whole identifier.chars :=
  whole_of_not_mem (identifier.not_mem (by decide)) (identifier.not_mem (by decide))

theorem part_head (identifier : Identifier) : ∃ c rest, padPart identifier.chars = c :: rest ∧ c < '~' := by
  cases identifier with
  | number value short =>
      obtain ⟨c, rest, first, below⟩ := column_head value
      rw [chars_number]
      exact ⟨c, rest, first, Char.lt_trans below (by decide)⟩
  | word letters =>
      obtain ⟨c, rest, split, alpha⟩ := letters.starts
      have below : c.toNat < '~'.toNat := Nat.lt_of_le_of_lt (alpha_codes alpha).2 (by decide)
      exact ⟨c, rest, letters.part.trans split, below⟩

theorem number_below_word (value : Nat) (letters : Word) (rest others : List Char) :
    compare (column value ++ rest) (padPart letters.text.toList ++ others) = .lt := by
  obtain ⟨c, digits, first, below⟩ := column_head value
  obtain ⟨d, more, split, alpha⟩ := letters.starts
  have low : 'A'.toNat ≤ d.toNat := (alpha_codes alpha).1
  have less : c.toNat < d.toNat := Nat.lt_of_lt_of_le below low
  rw [first, letters.part, split]
  exact chars_order_of_head less _ _

theorem number_order {value other : Nat} (short : value < 100000) (otherShort : other < 100000) :
    compare (column value) (column other) = compare value other := by
  apply column_order
  · exact fun overtakes => Nat.not_lt_of_le overtakes.long otherShort
  · exact fun overtakes => Nat.not_lt_of_le overtakes.long short

theorem order_first (identifier other : Identifier) (rest others : List (List Char)) :
    compare (padPart identifier.chars ++ tail rest) (padPart other.chars ++ tail others) =
      (identifier.order other).then (compare (tail rest) (tail others)) := by
  cases identifier with
  | number value short =>
      rw [chars_number]
      cases other with
      | number otherValue otherShort =>
          rw [chars_number, order, ← number_order short otherShort]
          exact column_order_first value otherValue rest others
      | word letters => exact number_below_word value letters _ _
  | word letters =>
      cases other with
      | number value short =>
          have above := number_below_word value letters (tail others) (tail rest)
          rw [chars_number, Std.OrientedOrd.eq_swap]
          exact congrArg Ordering.swap above
      | word otherLetters =>
          rw [chars_word, chars_word, letters.part, otherLetters.part, order, text_order_eq]
          exact chars_order_words (tail_sorts_below rest otherLetters.above_dash) (tail_sorts_below others letters.above_dash)

end Identifier

theorem identifiers_order (first second : List Identifier) :
    compare (tail (first.map Identifier.chars)) (tail (second.map Identifier.chars)) = precedence first second := by
  induction first generalizing second with
  | nil => cases second <;> rfl
  | cons identifier rest ih =>
      cases second with
      | nil => rfl
      | cons other others =>
          rw [List.map_cons, List.map_cons, tail_order, identifier.order_first other, ih, precedence, precedence,
            List.compareLex_cons_cons]

namespace Core

variable (core : Core)

def prerelease (identifiers : List Identifier) : String :=
  core.text ++ "-" ++ ".".intercalate (identifiers.map Identifier.text)

theorem order_after (rest others : List (List Char)) :
    compare (padPart core.major.chars ++ tail (core.minor.chars :: core.patch.chars :: rest))
      (padPart core.major.chars ++ tail (core.minor.chars :: core.patch.chars :: others)) =
        compare (tail rest) (tail others) := by
  rw [chars_order_shared, tail_order, chars_order_shared, tail_order, chars_order_shared]

theorem prerelease_chars (identifiers : List Identifier) : (core.prerelease identifiers).toList =
    core.chars ++ '-' :: List.intercalate ['.'] (identifiers.map Identifier.chars) := by
  have dots : (".".intercalate (identifiers.map Identifier.text)).toList =
      List.intercalate ['.'] (identifiers.map Identifier.chars) := by
    rw [String.toList_intercalate, List.map_map]
    rfl
  rw [prerelease, String.toList_append, String.toList_append, text_chars, dots, List.append_assoc]
  rfl

theorem prerelease_parts (identifier : Identifier) (rest : List Identifier) :
    parts (core.prerelease (identifier :: rest)).toList =
      core.major.chars :: core.minor.chars :: core.patch.chars :: (identifier :: rest).map Identifier.chars := by
  have whole : ∀ part ∈ (identifier :: rest).map Identifier.chars, Whole part :=
    List.forall_mem_map.mpr fun other _ => other.whole
  have joined : parts (List.intercalate ['.'] ((identifier :: rest).map Identifier.chars)) =
      (identifier :: rest).map Identifier.chars := parts_joined _ _ whole
  rw [prerelease_chars, parts_extended, parts_append core.patch.whole rfl, joined]

theorem key_prerelease (identifier : Identifier) (rest : List Identifier) :
    (key (.value (.str (core.prerelease (identifier :: rest))))).toList = padPart core.major.chars ++
      tail (core.minor.chars :: core.patch.chars :: (identifier :: rest).map Identifier.chars) := by
  have nonempty : core.prerelease (identifier :: rest) ≠ "" := by simp [prerelease]
  have apart : ∀ part ∈ (identifier :: rest).map Identifier.chars, '+' ∉ part :=
    List.forall_mem_map.mpr fun other _ => other.not_mem (by decide)
  have plain : '+' ∉ List.intercalate ['.'] ((identifier :: rest).map Identifier.chars) := plain_joined _ _ apart
  have marked : '+' ∉ '-' :: List.intercalate ['.'] ((identifier :: rest).map Identifier.chars) := by simpa using plain
  have extended := core.padded_extended _ marked
  rw [← prerelease_chars, prerelease_parts] at extended
  rw [key_text nonempty, String.toList_ofList, extended, ← joined_eq]
  rfl

theorem prerelease_order (first second : List Identifier) (nonempty : first ≠ []) (otherNonempty : second ≠ []) :
    textOrder (key (.value (.str (core.prerelease first)))) (key (.value (.str (core.prerelease second)))) =
      precedence first second := by
  obtain ⟨identifier, rest, rfl⟩ := List.exists_cons_of_ne_nil nonempty
  obtain ⟨other, others, rfl⟩ := List.exists_cons_of_ne_nil otherNonempty
  rw [text_order_eq, key_prerelease, key_prerelease, order_after, identifiers_order]

theorem prerelease_below (identifiers : List Identifier) (nonempty : identifiers ≠ []) :
    textOrder (key (.value (.str (core.prerelease identifiers)))) (key (.value (.str core.text))) = .lt := by
  obtain ⟨identifier, rest, rfl⟩ := List.exists_cons_of_ne_nil nonempty
  obtain ⟨c, more, first, below⟩ := identifier.part_head
  have mark : padPart ['~'] ++ tail [] = ['~'] := rfl
  rw [text_order_eq, key_prerelease, key_chars, order_after, List.map_cons, tail_order, first, mark]
  exact chars_order_of_head below _ _

end Core

theorem prereleases_ordered (core : Core) (first second : List Identifier) (nonempty : first ≠ [])
    (otherNonempty : second ≠ []) :
    textOrder (key (.value (.str (core.prerelease first)))) (key (.value (.str (core.prerelease second)))) =
      precedence first second ∧
    textOrder (key (.value (.str (core.prerelease first)))) (key (.value (.str core.text))) = .lt ∧
    textOrder (key (.value (.str (core.prerelease second)))) (key (.value (.str core.text))) = .lt :=
  ⟨core.prerelease_order first second nonempty otherNonempty, core.prerelease_below first nonempty,
    core.prerelease_below second otherNonempty⟩

def Word.alpha : Word where
  text := "alpha"
  starts := ⟨'a', "lpha".toList, by decide, by decide⟩
  alphanumeric := List.all_eq_true.mp (by decide)

def Word.numbered (word : Word) (value : Nat) (short : value < 100000) : List Identifier := [.word word, .number value short]

-- The core has a number that does not fit its column.
def Core.wide : Core := ⟨.ofNat 2, .ofNat 0, .ofNat 100000⟩

theorem prereleases_ordered_alpha : Word.alpha.numbered 9 (by decide) ≠ [] ∧ Word.alpha.numbered 10 (by decide) ≠ [] ∧
    textOrder (key (.value (.str "2.0.100000-alpha.9"))) (key (.value (.str "2.0.100000-alpha.10"))) = .lt ∧
    textOrder (key (.value (.str "2.0.100000-alpha.10"))) (key (.value (.str "2.0.100000"))) = .lt := by
  have nonempty (value : Nat) (short : value < 100000) : Word.alpha.numbered value short ≠ [] := List.cons_ne_nil _ _
  have nine : Core.wide.prerelease (Word.alpha.numbered 9 (by decide)) = "2.0.100000-alpha.9" := by decide +kernel
  have ten : Core.wide.prerelease (Word.alpha.numbered 10 (by decide)) = "2.0.100000-alpha.10" := by decide +kernel
  have bare : Core.wide.text = "2.0.100000" := by decide +kernel
  have precedes : precedence (Word.alpha.numbered 9 (by decide)) (Word.alpha.numbered 10 (by decide)) = .lt := by decide +kernel
  obtain ⟨ordered, _, below⟩ := prereleases_ordered Core.wide _ _ (nonempty 9 (by decide)) (nonempty 10 (by decide))
  rw [nine, ten, precedes] at ordered
  rw [ten, bare] at below
  exact ⟨nonempty 9 _, nonempty 10 _, ordered, below⟩

end FeatureFlags.Version
