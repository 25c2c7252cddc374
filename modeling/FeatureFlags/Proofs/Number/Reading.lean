import FeatureFlags.Numeral
import Mathlib.Data.List.Basic

/-! Whatever looks like a number is read unless a separator among the control characters stands before or
after it: those four count as blanks where a number is recognised and as nothing where it is read. -/

set_option autoImplicit false

namespace FeatureFlags

namespace Text

theorem contains_iff (ranges : Ranges) (c : Char) :
    ranges.contains c ↔ ∃ range ∈ ranges, range.1 ≤ c.toNat ∧ c.toNat ≤ range.2 := by
  simp [Ranges.contains]

theorem digit_not_blank (c : Char) (digit : isDigit c) : ¬ isBlank c := by
  have apart : ∀ digits ∈ digitRanges, ∀ blanks ∈ blankRanges, digits.2 < blanks.1 ∨ blanks.2 < digits.1 := by decide
  intro blank
  obtain ⟨digits, among, low, high⟩ := (contains_iff _ _).mp digit
  obtain ⟨blanks, blankAmong, blankLow, blankHigh⟩ := (contains_iff _ _).mp blank
  rcases apart digits among blanks blankAmong with below | above <;> omega

theorem ascii_digit (c : Char) (digit : isDigit c) (ascii : c.toNat < 0x7f) : c.isDigit := by
  have first : ∀ digits ∈ digitRanges, digits = (0x30, 0x39) ∨ 0x7f ≤ digits.1 := by decide
  obtain ⟨digits, among, low, high⟩ := (contains_iff _ _).mp digit
  rcases first digits among with rfl | later
  · simp only [Char.isDigit, ge_iff_le, Bool.and_eq_true, decide_eq_true_eq]
    exact ⟨low, high⟩
  · omega

theorem digit_value (c : Char) (digit : isDigit c) : ∃ value < 10, digitValue? c = some value := by
  have found : (digitValue? c).isSome := by
    rw [digitValue?, Option.isSome_map, List.find?_isSome]
    simpa using (contains_iff _ _).mp digit
  obtain ⟨value, held⟩ := Option.isSome_iff_exists.mp found
  obtain ⟨range, _, same⟩ := Option.map_eq_some_iff.mp held
  refine ⟨value, ?_, held⟩
  rw [← same]
  exact Nat.mod_lt _ (by decide)

def separators : List Char := ['\x1c', '\x1d', '\x1e', '\x1f']

theorem separator_of_code (c : Char) (low : 0x1c ≤ c.toNat) (high : c.toNat ≤ 0x1f) : c ∈ separators := by
  have codes : c.toNat = '\x1c'.toNat ∨ c.toNat = '\x1d'.toNat ∨ c.toNat = '\x1e'.toNat ∨ c.toNat = '\x1f'.toNat := by
    simp only [Char.reduceToNat]
    omega
  simpa only [Char.toNat_inj, separators, List.mem_cons, List.not_mem_nil, or_false] using codes

end Text

namespace Numeral

def plain (c : Char) : Char := (plainChar? c).getD c

def marks : List Char := ['.', 'e', 'E', '+', '-']

def InNumber (c : Char) : Prop := Text.isDigit c ∨ c ∈ marks

theorem digit_plain (c : Char) (digit : Text.isDigit c) : plainChar? c = some (plain c) ∧ (plain c).isDigit := by
  by_cases ascii : c.toNat < 0x7f
  · simp only [plain, plainChar?, if_pos ascii]
    exact ⟨rfl, Text.ascii_digit c digit ascii⟩
  · have chars : ∀ value < 10, (Nat.digitChar value).isDigit := by decide
    obtain ⟨value, small, held⟩ := Text.digit_value c digit
    simp only [plain, plainChar?, if_neg ascii, if_neg (Text.digit_not_blank c digit), held]
    exact ⟨rfl, chars value small⟩

theorem mark_cases (c : Char) (mark : c ∈ marks) : c = '.' ∨ c = 'e' ∨ c = 'E' ∨ c = '+' ∨ c = '-' := by
  simpa only [marks, List.mem_cons, List.not_mem_nil, or_false] using mark

theorem mark_plain (c : Char) (mark : c ∈ marks) : plainChar? c = some (plain c) ∧ plain c = c := by
  rcases mark_cases c mark with rfl | rfl | rfl | rfl | rfl <;> decide

theorem padding_of_code (c : Char) (code : (9 ≤ c.toNat ∧ c.toNat ≤ 13) ∨ c.toNat = 32) : isPadding c := by
  have codes : c.toNat = ' '.toNat ∨ c.toNat = '\t'.toNat ∨ c.toNat = '\n'.toNat ∨ c.toNat = '\r'.toNat ∨
      c.toNat = '\x0b'.toNat ∨ c.toNat = '\x0c'.toNat := by
    simp only [Char.reduceToNat]
    omega
  simp only [Char.toNat_inj] at codes
  simp only [isPadding, Bool.or_eq_true, beq_iff_eq]
  tauto

theorem blank_plain (c : Char) (blank : Text.isBlank c) (proper : c ∉ Text.separators) : isPadding (plain c) := by
  by_cases ascii : c.toNat < 0x7f
  · have first : ∀ blanks ∈ Text.blankRanges, blanks = (0x9, 0xd) ∨ blanks = (0x1c, 0x20) ∨ 0x7f ≤ blanks.1 := by decide
    obtain ⟨blanks, among, low, high⟩ := (Text.contains_iff _ _).mp blank
    have same : plain c = c := by simp only [plain, plainChar?, if_pos ascii, Option.getD_some]
    rw [same]
    apply padding_of_code
    rcases first blanks among with rfl | rfl | later
    · exact .inl ⟨low, high⟩
    · have space : ¬ c.toNat ≤ 0x1f := fun below => proper (Text.separator_of_code c low below)
      exact .inr (by simp only at high; omega)
    · omega
  · simp only [plain, plainChar?, if_neg ascii, if_pos blank]
    rfl

theorem separator_foreign (c : Char) (separator : c ∈ Text.separators) : plain c = c ∧ ¬ isPadding c ∧ c ≠ '_' ∧
    ¬ c.isDigit ∧ c ∉ marks ∧ c.toLower = c ∧ c.toNat < 'a'.toNat := by
  simp only [Text.separators, List.mem_cons, List.not_mem_nil, or_false] at separator
  rcases separator with rfl | rfl | rfl | rfl <;> decide

theorem plain_read (c : Char) (known : Text.isBlank c ∨ InNumber c) : plainChar? c = some (plain c) := by
  rcases known with blank | digit | mark
  · by_cases ascii : c.toNat < 0x7f
    · simp only [plain, plainChar?, if_pos ascii, Option.getD_some]
    · simp only [plain, plainChar?, if_neg ascii, if_pos blank, Option.getD_some]
  · exact (digit_plain c digit).1
  · exact (mark_plain c mark).1

theorem plain_chars (chars : List Char) (known : ∀ c ∈ chars, Text.isBlank c ∨ InNumber c) :
    chars.mapM plainChar? = some (chars.map plain) := by
  induction chars with
  | nil => rfl
  | cons c rest ih =>
      obtain ⟨first, later⟩ := List.forall_mem_cons.mp known
      rw [List.mapM_cons, plain_read c first, ih later]
      rfl

theorem drop_blanks (blank : Char → Bool) (chars : List Char) : ∃ left, chars = left ++ chars.dropWhile blank ∧ ∀ c ∈ left, blank c :=
  ⟨chars.takeWhile blank, List.takeWhile_append_dropWhile.symm, fun _ member => List.all_eq_true.mp List.all_takeWhile _ member⟩

theorem trim_split (blank : Char → Bool) (chars : List Char) : ∃ left right, chars = left ++ (trim blank chars ++ right) ∧
    (∀ c ∈ left, blank c) ∧ ∀ c ∈ right, blank c := by
  obtain ⟨left, split, leftBlank⟩ := drop_blanks blank chars
  obtain ⟨right, reversed, rightBlank⟩ := drop_blanks blank (chars.dropWhile blank).reverse
  refine ⟨left, right.reverse, ?_, leftBlank, fun c member => rightBlank c (List.mem_reverse.mp member)⟩
  rw [trim, ← List.reverse_append, ← reversed, List.reverse_reverse]
  exact split

section

variable {blank : Char → Bool}

theorem drop_until {left core : List Char} (leftBlank : ∀ c ∈ left, blank c) (proper : ∀ c ∈ core, ¬ blank c)
    (some : core ≠ []) (right : List Char) : (left ++ (core ++ right)).dropWhile blank = core ++ right := by
  rw [List.dropWhile_append_of_pos leftBlank]
  cases core with
  | nil => exact absurd rfl some
  | cons c rest => exact List.dropWhile_cons_of_neg (proper c List.mem_cons_self)

theorem trim_exact {left core right : List Char} (leftBlank : ∀ c ∈ left, blank c) (proper : ∀ c ∈ core, ¬ blank c)
    (some : core ≠ []) (rightBlank : ∀ c ∈ right, blank c) : trim blank (left ++ (core ++ right)) = core := by
  have reversed : (core ++ right).reverse = right.reverse ++ (core.reverse ++ []) := by simp
  rw [trim, drop_until leftBlank proper some, reversed, drop_until, List.append_nil, List.reverse_reverse]
  · exact fun c member => rightBlank c (List.mem_reverse.mp member)
  · exact fun c member => proper c (List.mem_reverse.mp member)
  · exact fun none => some (List.reverse_eq_nil_iff.mp none)

theorem mem_trim {chars : List Char} {c : Char} (member : c ∈ chars) (proper : ¬ blank c) : c ∈ trim blank chars := by
  obtain ⟨left, right, split, leftBlank, rightBlank⟩ := trim_split blank chars
  rw [split, List.mem_append, List.mem_append] at member
  rcases member with before | inside | behind
  · exact absurd (leftBlank c before) proper
  · exact inside
  · exact absurd (rightBlank c behind) proper

end

theorem drop_sign_cons (c : Char) (rest : List Char) :
    dropSign (c :: rest) = if c = '+' ∨ c = '-' then rest else c :: rest := by
  rw [dropSign.eq_def]
  split
  · rename_i same
    cases same
    rw [if_pos (.inl rfl)]
  · rename_i same
    cases same
    rw [if_pos (.inr rfl)]
  · rename_i plus minus
    rw [if_neg]
    rintro (rfl | rfl)
    · exact plus rest rfl
    · exact minus rest rfl

theorem mem_drop_sign {chars : List Char} {c : Char} (member : c ∈ dropSign chars) : c ∈ chars := by
  cases chars with
  | nil => exact member
  | cons first rest =>
      rw [drop_sign_cons] at member
      split at member
      · exact List.mem_cons_of_mem _ member
      · exact member

theorem dropped_sign {chars : List Char} {c : Char} (member : c ∈ chars) : c ∈ marks ∨ c ∈ dropSign chars := by
  cases chars with
  | nil => exact .inr member
  | cons first rest =>
      rw [drop_sign_cons]
      split
      · rename_i sign
        rcases List.mem_cons.mp member with rfl | inside
        · left
          rcases sign with rfl | rfl <;> decide
        · exact .inr inside
      · exact .inr member

theorem unsigned_split (digit : Char → Bool) (chars : List Char) :
    (∃ rest, chars.dropWhile digit = '.' :: rest ∧ isUnsigned digit chars =
      (!((chars.takeWhile digit).isEmpty && (rest.takeWhile digit).isEmpty) && isExponent digit (rest.dropWhile digit))) ∨
    ((∀ rest, chars.dropWhile digit ≠ '.' :: rest) ∧
      isUnsigned digit chars = (!(chars.takeWhile digit).isEmpty && isExponent digit (chars.dropWhile digit))) := by
  by_cases point : ∃ rest, chars.dropWhile digit = '.' :: rest
  · obtain ⟨rest, held⟩ := point
    exact .inl ⟨rest, held, by simp only [isUnsigned, held]⟩
  · refine .inr ⟨fun rest held => point ⟨rest, held⟩, ?_⟩
    rw [isUnsigned]
    split
    · rename_i rest held
      exact absurd ⟨rest, held⟩ point
    · rfl

theorem exponent_chars {digit : Char → Bool} {chars : List Char} (shape : isExponent digit chars) :
    ∀ c ∈ chars, digit c ∨ c ∈ marks := by
  cases chars with
  | nil => simp
  | cons mark rest =>
      simp only [isExponent, Bool.and_eq_true, Bool.or_eq_true, beq_iff_eq] at shape
      obtain ⟨⟨letter, _⟩, digits⟩ := shape
      have letters : mark ∈ marks := by rcases letter with rfl | rfl <;> decide
      refine List.forall_mem_cons.mpr ⟨.inr letters, fun c member => ?_⟩
      rcases dropped_sign member with sign | inside
      · exact .inr sign
      · exact .inl (List.all_eq_true.mp digits c inside)

theorem split_chars {digit : Char → Bool} {chars : List Char} (rest : ∀ c ∈ chars.dropWhile digit, digit c ∨ c ∈ marks) :
    ∀ c ∈ chars, digit c ∨ c ∈ marks := by
  intro c member
  rw [← List.takeWhile_append_dropWhile (p := digit) (l := chars), List.mem_append] at member
  rcases member with digits | later
  · exact .inl (List.all_eq_true.mp List.all_takeWhile c digits)
  · exact rest c later

theorem unsigned_chars {digit : Char → Bool} {chars : List Char} (shape : isUnsigned digit chars) :
    ∀ c ∈ chars, digit c ∨ c ∈ marks := by
  apply split_chars
  rcases unsigned_split digit chars with ⟨rest, held, same⟩ | ⟨_, same⟩
  · rw [same, Bool.and_eq_true] at shape
    rw [held]
    exact List.forall_mem_cons.mpr ⟨.inr (by decide), split_chars (exponent_chars shape.2)⟩
  · rw [same, Bool.and_eq_true] at shape
    exact exponent_chars shape.2

theorem unsigned_nonempty {digit : Char → Bool} {chars : List Char} (shape : isUnsigned digit chars) : chars ≠ [] := by
  rintro rfl
  cases shape

theorem mark_not_digit (c : Char) (mark : c ∈ marks) : ¬ Text.isDigit c ∧ ¬ c.isDigit := by
  rcases mark_cases c mark with rfl | rfl | rfl | rfl | rfl <;> decide

theorem plain_digit (c : Char) (known : InNumber c) : (plain c).isDigit = Text.isDigit c := by
  rcases known with digit | mark
  · rw [digit, (digit_plain c digit).2]
  · rw [(mark_plain c mark).2, Bool.eq_iff_iff]
    exact ⟨fun digit => absurd digit (mark_not_digit c mark).2, fun digit => absurd digit (mark_not_digit c mark).1⟩

theorem plain_mark (c : Char) (known : InNumber c) (mark : Char) (among : mark ∈ marks) : plain c = mark ↔ c = mark := by
  rcases known with digit | own
  · refine ⟨fun same => ?_, fun same => ?_⟩
    · have read := (digit_plain c digit).2
      rw [same] at read
      exact absurd read (mark_not_digit mark among).2
    · rw [same] at digit
      exact absurd digit (mark_not_digit mark among).1
  · rw [(mark_plain c own).2]

section

variable {chars : List Char} (known : ∀ c ∈ chars, InNumber c)

include known

theorem take_plain : (chars.map plain).takeWhile Char.isDigit = (chars.takeWhile Text.isDigit).map plain := by
  induction chars with
  | nil => rfl
  | cons c rest ih =>
      obtain ⟨first, later⟩ := List.forall_mem_cons.mp known
      rw [List.map_cons, List.takeWhile_cons, List.takeWhile_cons, plain_digit c first, ih later]
      cases Text.isDigit c <;> rfl

theorem drop_plain : (chars.map plain).dropWhile Char.isDigit = (chars.dropWhile Text.isDigit).map plain := by
  induction chars with
  | nil => rfl
  | cons c rest ih =>
      obtain ⟨first, later⟩ := List.forall_mem_cons.mp known
      rw [List.map_cons, List.dropWhile_cons, List.dropWhile_cons, plain_digit c first, ih later]
      cases Text.isDigit c <;> rfl

theorem all_plain : (chars.map plain).all Char.isDigit = chars.all Text.isDigit := by
  rw [List.all_map, Bool.eq_iff_iff, List.all_eq_true, List.all_eq_true]
  exact forall₂_congr fun c member => by rw [Function.comp, plain_digit c (known c member)]

theorem drop_sign_plain : dropSign (chars.map plain) = (dropSign chars).map plain := by
  cases chars with
  | nil => rfl
  | cons c rest =>
      have first := known c List.mem_cons_self
      rw [List.map_cons, drop_sign_cons, drop_sign_cons]
      simp only [plain_mark c first '+' (by decide), plain_mark c first '-' (by decide)]
      split <;> rfl

theorem exponent_plain : isExponent Char.isDigit (chars.map plain) = isExponent Text.isDigit chars := by
  cases chars with
  | nil => rfl
  | cons mark rest =>
      obtain ⟨first, later⟩ := List.forall_mem_cons.mp known
      have small : (plain mark == 'e') = (mark == 'e') := by
        rw [Bool.eq_iff_iff, beq_iff_eq, beq_iff_eq, plain_mark mark first 'e' (by decide)]
      have large : (plain mark == 'E') = (mark == 'E') := by
        rw [Bool.eq_iff_iff, beq_iff_eq, beq_iff_eq, plain_mark mark first 'E' (by decide)]
      rw [List.map_cons, isExponent, isExponent, drop_sign_plain later,
        all_plain fun c member => later c (mem_drop_sign member), List.isEmpty_map, small, large]

theorem unsigned_plain : isUnsigned Char.isDigit (chars.map plain) = isUnsigned Text.isDigit chars := by
  have dropped : ∀ c ∈ chars.dropWhile Text.isDigit, InNumber c := fun c member =>
    known c ((List.dropWhile_suffix _).mem member)
  rcases unsigned_split Text.isDigit chars with ⟨rest, held, same⟩ | ⟨none, same⟩
  · have later : ∀ c ∈ rest, InNumber c := by
      rw [held] at dropped
      exact (List.forall_mem_cons.mp dropped).2
    have after : ∀ c ∈ rest.dropWhile Text.isDigit, InNumber c := fun c member =>
      later c ((List.dropWhile_suffix _).mem member)
    rcases unsigned_split Char.isDigit (chars.map plain) with ⟨other, found, equal⟩ | ⟨none, equal⟩
    · rw [drop_plain known, held] at found
      obtain ⟨_, rfl⟩ := List.cons.inj found
      rw [same, equal, take_plain known, take_plain later, drop_plain later, exponent_plain after, List.isEmpty_map,
        List.isEmpty_map]
    · rw [drop_plain known, held] at none
      exact absurd rfl (none (rest.map plain))
  · rcases unsigned_split Char.isDigit (chars.map plain) with ⟨other, found, equal⟩ | ⟨_, equal⟩
    · rw [drop_plain known] at found
      obtain ⟨c, rest, held, point, _⟩ := List.map_eq_cons_iff.mp found
      have first := dropped c (held ▸ List.mem_cons_self)
      rw [(plain_mark c first '.' (by decide)).mp point] at held
      exact absurd held (none rest)
    · rw [same, equal, take_plain known, drop_plain known, exponent_plain dropped, List.isEmpty_map]

end

theorem plain_in_number (c : Char) (known : InNumber c) : (plain c).isDigit ∨ plain c ∈ marks := by
  rcases known with digit | mark
  · exact .inl (digit_plain c digit).2
  · rw [(mark_plain c mark).2]
    exact .inr mark

theorem not_padding_of_number (c : Char) (inside : c.isDigit ∨ c ∈ marks) : ¬ isPadding c ∧ c ≠ '_' := by
  rcases inside with digit | mark
  · refine ⟨fun padding => ?_, fun same => (by rw [same] at digit; cases digit)⟩
    simp only [isPadding, Bool.or_eq_true, beq_iff_eq] at padding
    rcases padding with ((((rfl | rfl) | rfl) | rfl) | rfl) | rfl <;> cases digit
  · rcases mark_cases c mark with rfl | rfl | rfl | rfl | rfl <;> decide

theorem ungroup_plain (before : Bool) (chars : List Char) (ungrouped : ∀ c ∈ chars, c ≠ '_') :
    ungroup? before chars = some chars := by
  induction chars generalizing before with
  | nil => rfl
  | cons c rest ih =>
      obtain ⟨first, later⟩ := List.forall_mem_cons.mp ungrouped
      rw [ungroup?, if_neg first, ih c.isDigit later]
      · rfl
      · intro next others same
        exact absurd same first

theorem ungroup_keeps {before : Bool} {chars kept : List Char} (read : ungroup? before chars = some kept) {c : Char}
    (member : c ∈ chars) (proper : c ≠ '_') : c ∈ kept := by
  induction before, chars using ungroup?.induct generalizing kept with
  | case1 => cases member
  | case2 before next rest grouped ih =>
      rw [ungroup?, if_pos grouped] at read
      exact ih read ((List.mem_cons.mp member).resolve_left proper)
  | case3 before next rest alone =>
      rw [ungroup?, if_neg alone] at read
      cases read
  | case4 before rest last =>
      rw [ungroup?, if_pos rfl] at read
      · cases read
      · exact last
  | case5 before first rest _ different ih =>
      rw [ungroup?, if_neg different] at read
      · obtain ⟨later, held, rfl⟩ := Option.map_eq_some_iff.mp read
        rcases List.mem_cons.mp member with rfl | behind
        · exact List.mem_cons_self
        · exact List.mem_cons_of_mem _ (ih held behind)
      · exact fun next others same => absurd same different

theorem numeric_split (text : String) (numeric : looksNumeric text) :
    ∃ left core right, text.toList = left ++ (core ++ right) ∧ (∀ c ∈ left, Text.isBlank c) ∧
      (∀ c ∈ right, Text.isBlank c) ∧ (∀ c ∈ core, InNumber c) ∧ isUnsigned Text.isDigit (dropSign core) := by
  obtain ⟨left, right, split, leftBlank, rightBlank⟩ := trim_split Text.isBlank text.toList
  refine ⟨left, trim Text.isBlank text.toList, right, split, leftBlank, rightBlank, fun c member => ?_, numeric⟩
  rcases dropped_sign member with sign | inside
  · exact .inr sign
  · exact unsigned_chars numeric c inside

theorem numeric_known (text : String) (numeric : looksNumeric text) :
    ∀ c ∈ text.toList, Text.isBlank c ∨ InNumber c := by
  obtain ⟨left, core, right, split, leftBlank, rightBlank, inside, _⟩ := numeric_split text numeric
  intro c member
  rw [split, List.mem_append, List.mem_append] at member
  rcases member with before | within | behind
  · exact .inl (leftBlank c before)
  · exact .inr (inside c within)
  · exact .inl (rightBlank c behind)

theorem to_double_eq (text : String) (numeric : looksNumeric text) : toDouble? text =
    (ungroup? false (trim isPadding (text.toList.map plain))).bind plainDouble? := by
  rw [toDouble?, plainChars?, plain_chars text.toList (numeric_known text numeric)]
  rfl

theorem numeric_read (text : String) (numeric : looksNumeric text) (proper : ∀ c ∈ text.toList, c ∉ Text.separators) :
    ∃ value, toDouble? text = some value := by
  obtain ⟨left, core, right, split, leftBlank, rightBlank, inside, shape⟩ := numeric_split text numeric
  have padding (chars : List Char) (blank : ∀ c ∈ chars, Text.isBlank c) (among : ∀ c ∈ chars, c ∈ text.toList) :
      ∀ c ∈ chars.map plain, isPadding c := by
    intro c member
    obtain ⟨original, held, rfl⟩ := List.mem_map.mp member
    exact blank_plain original (blank original held) (proper original (among original held))
  have ascii : ∀ c ∈ core.map plain, ¬ isPadding c ∧ c ≠ '_' := by
    intro c member
    obtain ⟨original, held, rfl⟩ := List.mem_map.mp member
    exact not_padding_of_number _ (plain_in_number original (inside original held))
  have nonempty : core.map plain ≠ [] := by
    intro none
    rw [List.map_eq_nil_iff.mp none] at shape
    exact unsigned_nonempty shape rfl
  have trimmed : trim isPadding (text.toList.map plain) = core.map plain := by
    rw [split, List.map_append, List.map_append]
    refine trim_exact (padding left leftBlank fun c member => ?_) (fun c member => (ascii c member).1) nonempty
      (padding right rightBlank fun c member => ?_)
    · rw [split]
      exact List.mem_append_left _ member
    · rw [split]
      exact List.mem_append_right _ (List.mem_append_right _ member)
  have shapeRead : isUnsigned Char.isDigit (dropSign (core.map plain)) := by
    rw [drop_sign_plain inside, unsigned_plain fun c member => inside c (mem_drop_sign member)]
    exact shape
  rw [to_double_eq text numeric, trimmed, ungroup_plain false _ fun c member => (ascii c member).2]
  exact ⟨_, if_pos shapeRead⟩

theorem separator_not_special (c : Char) (separator : c ∈ Text.separators) (negative : Bool) (chars : List Char)
    (member : c ∈ chars) : specialValue? negative chars = none := by
  obtain ⟨_, _, _, _, _, lower, low⟩ := separator_foreign c separator
  have letters (word : String) (high : word.toList.all fun letter => 'a'.toNat ≤ letter.toNat) :
      String.ofList (chars.map Char.toLower) ≠ word := by
    rintro rfl
    rw [String.toList_ofList] at high
    have above := of_decide_eq_true (List.all_eq_true.mp high c (List.mem_map.mpr ⟨c, member, lower⟩))
    omega
  simp only [specialValue?]
  rw [if_neg, if_neg]
  · exact letters "nan" (by decide)
  · exact not_or.mpr ⟨letters "inf" (by decide), letters "infinity" (by decide)⟩

theorem separator_refused (text : String) (numeric : looksNumeric text) (c : Char) (member : c ∈ text.toList)
    (separator : c ∈ Text.separators) : toDouble? text = none := by
  obtain ⟨stays, padding, underscore, digit, mark, _⟩ := separator_foreign c separator
  rw [to_double_eq text numeric]
  have kept : c ∈ trim isPadding (text.toList.map plain) := mem_trim (List.mem_map.mpr ⟨c, member, stays⟩) padding
  cases ungrouped : ungroup? false (trim isPadding (text.toList.map plain)) with
  | none => rfl
  | some chars =>
      have inside := (dropped_sign (ungroup_keeps ungrouped kept underscore)).resolve_left mark
      have shape : ¬ isUnsigned Char.isDigit (dropSign chars) := fun shape =>
        (unsigned_chars shape c inside).elim digit mark
      exact (if_neg shape).trans (separator_not_special c separator _ _ inside)

theorem numeric_unread_iff (text : String) (numeric : looksNumeric text) :
    toDouble? text = none ↔ ∃ c ∈ text.toList, c ∈ Text.separators := by
  constructor
  · intro unread
    by_contra absent
    obtain ⟨value, read⟩ := numeric_read text numeric fun c member separator => absent ⟨c, member, separator⟩
    cases unread.symm.trans read
  · rintro ⟨c, member, separator⟩
    exact separator_refused text numeric c member separator

end Numeral
end FeatureFlags
