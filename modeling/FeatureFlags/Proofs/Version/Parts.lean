import FeatureFlags.Proofs.Condition.Loops
import FeatureFlags.Proofs.Text.Order
import Mathlib.Data.List.TakeWhile

set_option autoImplicit false

namespace FeatureFlags

theorem Condition.matches_version (relation : Relation) (actual expected : Operand) :
    matchesOperator (Operator.version relation).name actual expected =
      pure (relation.accepts (textOrder (Version.key actual) (Version.key expected))) :=
  matches_alone (.version relation) (by simp) actual expected

namespace Version

theorem key_text {text : String} (nonempty : text ≠ "") : key (.value (.str text)) = String.ofList (padded text.toList) := by
  have filled : ¬ text.isEmpty := by simpa [String.isEmpty_iff] using nonempty
  rw [key, source, if_neg filled]

theorem drop_prefix_unmarked {text : List Char} (unmarked : text.head? ≠ some 'v') : dropPrefix text = text := by
  unfold dropPrefix
  split
  · exact absurd rfl unmarked
  · rfl

theorem drop_build_plain {text : List Char} (plain : '+' ∉ text) : dropBuild text = text := by
  induction text with
  | nil => rfl
  | cons c rest ih =>
      obtain ⟨different, later⟩ := List.ne_and_not_mem_of_not_mem_cons plain
      rw [dropBuild, if_neg different.symm, ih later]

def Whole (part : List Char) : Prop := ∀ c ∈ part, isSeparator c = false

theorem whole_of_not_mem {part : List Char} (dash : '-' ∉ part) (dot : '.' ∉ part) : Whole part := by
  intro c among
  have noDash : c ≠ '-' := fun same => dash (same ▸ among)
  have noDot : c ≠ '.' := fun same => dot (same ▸ among)
  simp [isSeparator, noDash, noDot]

theorem parts_whole {part : List Char} (whole : Whole part) : parts part = [part] := by
  induction part with
  | nil => rfl
  | cons c rest ih =>
      obtain ⟨here, later⟩ := List.forall_mem_cons.mp whole
      simp only [parts, here, ih later, Bool.false_eq_true, if_false]

theorem parts_append {part : List Char} (whole : Whole part) {separator : Char} (separates : isSeparator separator = true)
    (rest : List Char) : parts (part ++ separator :: rest) = part :: parts rest := by
  induction part with
  | nil => simp only [List.nil_append, parts, separates, if_true]
  | cons c others ih =>
      obtain ⟨here, later⟩ := List.forall_mem_cons.mp whole
      simp only [List.cons_append, parts, here, ih later, Bool.false_eq_true, if_false]

theorem parts_joined (first : List Char) (rest : List (List Char)) (whole : ∀ part ∈ first :: rest, Whole part) :
    parts (List.intercalate ['.'] (first :: rest)) = first :: rest := by
  induction rest generalizing first with
  | nil =>
      rw [List.intercalate_singleton]
      exact parts_whole (whole first List.mem_cons_self)
  | cons next rest ih =>
      obtain ⟨here, later⟩ := List.forall_mem_cons.mp whole
      rw [List.intercalate_cons_cons, List.append_assoc, List.singleton_append, parts_append here rfl, ih next later]

theorem plain_joined (first : List Char) (rest : List (List Char)) (plain : ∀ part ∈ first :: rest, '+' ∉ part) :
    '+' ∉ List.intercalate ['.'] (first :: rest) := by
  induction rest generalizing first with
  | nil =>
      rw [List.intercalate_singleton]
      exact plain first List.mem_cons_self
  | cons next rest ih =>
      obtain ⟨here, later⟩ := List.forall_mem_cons.mp plain
      rw [List.intercalate_cons_cons, List.append_assoc, List.singleton_append, List.mem_append, List.mem_cons]
      rintro (among | mark | among)
      · exact here among
      · exact absurd mark (by decide)
      · exact ih next later among

theorem pad_part_word {part : List Char} (word : ∀ c ∈ part.head?, Text.isDigit c = false) : padPart part = part := by
  have notNumeric : isNumeric part = false := by
    cases part with
    | nil => rfl
    | cons c rest =>
        simp only [isNumeric, List.takeWhile_cons, word c rfl, Bool.false_eq_true, if_false, List.isEmpty_nil, Bool.not_true,
          Bool.false_and]
  rw [padPart, notNumeric, if_neg Bool.false_ne_true]

theorem pad_part_digits {part : List Char} (nonempty : part ≠ []) (digits : ∀ c ∈ part, Text.isDigit c) :
    padPart part = List.replicate (5 - part.length) ' ' ++ part := by
  have all : part.takeWhile Text.isDigit = part := List.takeWhile_eq_self_iff.mpr digits
  have filled : part.isEmpty = false := by simpa using nonempty
  have numeric : isNumeric part = true := by
    simp only [isNumeric, all, filled, BEq.rfl, Bool.true_or, Bool.not_false, Bool.true_and]
  rw [padPart, if_pos numeric]

def tail (rest : List (List Char)) : List Char := rest.flatMap fun part => '-' :: padPart part

@[simp] theorem tail_nil : tail [] = [] := rfl

@[simp] theorem tail_cons (part : List Char) (rest : List (List Char)) :
    tail (part :: rest) = '-' :: (padPart part ++ tail rest) := rfl

theorem joined_eq (first : List Char) (rest : List (List Char)) :
    List.intercalate ['-'] ((first :: rest).map padPart) = padPart first ++ tail rest := by
  induction rest generalizing first with
  | nil => simp
  | cons next rest ih =>
      have later : List.intercalate ['-'] (padPart next :: rest.map padPart) = padPart next ++ tail rest := ih next
      rw [List.map_cons, List.map_cons, List.intercalate_cons_cons, later, tail_cons, List.append_assoc]
      rfl

theorem tail_order (part other : List Char) (rest others : List (List Char)) :
    compare (tail (part :: rest)) (tail (other :: others)) =
      compare (padPart part ++ tail rest) (padPart other ++ tail others) := by
  rw [tail_cons, tail_cons, List.compare_cons_cons, Std.ReflOrd.compare_self, Ordering.eq_then]

theorem tail_sorts_below (rest : List (List Char)) {word : List Char} (above : ∀ c ∈ word, '-' < c) :
    SortsBelow (tail rest) word := by
  intro next head c among
  cases rest with
  | nil => cases head
  | cons part rest =>
      cases head
      exact above c among

end Version
end FeatureFlags
