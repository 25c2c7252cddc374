import FeatureFlags.Proofs.Number.Reading
import FeatureFlags.Proofs.Version.Parts

/-! A number that fills its column is set as it is, and a longer one is compared with it by its first digits
alone, so it comes first if these make a smaller number. -/

set_option autoImplicit false

namespace FeatureFlags.Version

def decimal (number : Nat) : List Char := Nat.toDigits 10 number

def column (number : Nat) : List Char := padPart (decimal number)

theorem decimal_nonempty (number : Nat) : decimal number ≠ [] := Nat.toDigits_ne_nil

theorem decimal_digit {number : Nat} {c : Char} (among : c ∈ decimal number) : c.isDigit :=
  Nat.isDigit_of_mem_toDigits (by decide) (by decide) among

theorem decimal_small {number : Nat} (small : number < 10) : decimal number = [number.digitChar] :=
  Nat.toDigits_of_lt_base small

theorem decimal_ten {number : Nat} (large : 10 ≤ number) :
    decimal number = decimal (number / 10) ++ [(number % 10).digitChar] :=
  Nat.toDigits_of_base_le (by decide) large

theorem decimal_length_ten {number : Nat} (large : 10 ≤ number) :
    (decimal number).length = (decimal (number / 10)).length + 1 := by
  rw [decimal_ten large, List.length_append, List.length_singleton]

theorem ten_le_of_length {number : Nat} (long : 1 < (decimal number).length) : 10 ≤ number := by
  by_contra small
  rw [decimal_small (Nat.lt_of_not_le small), List.length_singleton] at long
  exact Nat.lt_irrefl 1 long

theorem length_le_five_iff (number : Nat) : (decimal number).length ≤ 5 ↔ number < 100000 :=
  Nat.length_toDigits_le_iff (by decide) (by decide)

theorem digit_order : ∀ d < 10, ∀ e < 10, compare (Nat.digitChar d) (Nat.digitChar e) = compare d e := by decide

theorem order_by_tens (m n : Nat) : compare m n = (compare (m / 10) (n / 10)).then (compare (m % 10) (n % 10)) := by
  rcases Nat.lt_trichotomy (m / 10) (n / 10) with less | same | more
  · rw [Nat.compare_eq_lt.mpr less, Nat.compare_eq_lt.mpr (by omega), Ordering.lt_then]
  · rw [Nat.compare_eq_eq.mpr same, Ordering.eq_then]
    rcases Nat.lt_trichotomy (m % 10) (n % 10) with less | equal | more
    · rw [Nat.compare_eq_lt.mpr less, Nat.compare_eq_lt.mpr (by omega)]
    · rw [Nat.compare_eq_eq.mpr equal, Nat.compare_eq_eq.mpr (by omega)]
    · rw [Nat.compare_eq_gt.mpr more, Nat.compare_eq_gt.mpr (by omega)]
  · rw [Nat.compare_eq_gt.mpr more, Nat.compare_eq_gt.mpr (by omega), Ordering.gt_then]

-- Induction on the last digit: the digits before it are equally many again.
theorem decimal_order {m n : Nat} (same : (decimal m).length = (decimal n).length) :
    compare (decimal m) (decimal n) = compare m n := by
  induction m using Nat.strongRecOn generalizing n with
  | ind m ih =>
      by_cases small : m < 10
      · have otherSmall : n < 10 := by
          by_contra large
          rw [decimal_small small, decimal_length_ten (Nat.le_of_not_lt large), List.length_singleton] at same
          exact decimal_nonempty _ (List.eq_nil_of_length_eq_zero (Nat.succ.inj same).symm)
        rw [decimal_small small, decimal_small otherSmall, List.compare_cons_cons, digit_order m small n otherSmall,
          List.compare_nil_nil, Ordering.then_eq]
      · have large : 10 ≤ m := Nat.le_of_not_lt small
        have otherLarge : 10 ≤ n := by
          apply ten_le_of_length
          rw [← same, decimal_length_ten large]
          exact Nat.succ_lt_succ (List.length_pos_iff.mpr (decimal_nonempty _))
        have shorter : (decimal (m / 10)).length = (decimal (n / 10)).length := by
          rw [decimal_length_ten large, decimal_length_ten otherLarge] at same
          exact Nat.succ.inj same
        have before := ih (m / 10) (by omega) shorter
        have last : compare [(m % 10).digitChar] [(n % 10).digitChar] = compare (m % 10) (n % 10) := by
          rw [List.compare_cons_cons, List.compare_nil_nil, Ordering.then_eq]
          exact digit_order _ (Nat.mod_lt m (by decide)) _ (Nat.mod_lt n (by decide))
        rw [decimal_ten large, decimal_ten otherLarge, chars_order_same_length shorter, before, last, ← order_by_tens]

theorem decimal_shorter {m n : Nat} (shorter : (decimal m).length < (decimal n).length) : m < n := by
  induction m using Nat.strongRecOn generalizing n with
  | ind m ih =>
      have filled : 0 < (decimal m).length := List.length_pos_iff.mpr (decimal_nonempty m)
      have otherLarge : 10 ≤ n := ten_le_of_length (by omega)
      by_cases small : m < 10
      · omega
      · have large : 10 ≤ m := Nat.le_of_not_lt small
        rw [decimal_length_ten large, decimal_length_ten otherLarge] at shorter
        have tens := ih (m / 10) (by omega) (Nat.lt_of_succ_lt_succ shorter)
        omega

def withoutLast : Nat → Nat → Nat
  | 0, number => number
  | count + 1, number => withoutLast count (number / 10)

theorem decimal_leading {count number : Nat} (enough : count < (decimal number).length) :
    ∃ dropped, decimal number = decimal (withoutLast count number) ++ dropped ∧ dropped.length = count := by
  induction count generalizing number with
  | zero => exact ⟨[], (List.append_nil _).symm, rfl⟩
  | succ count ih =>
      have large : 10 ≤ number := ten_le_of_length (by omega)
      rw [decimal_length_ten large] at enough
      obtain ⟨dropped, split, length⟩ := ih (Nat.lt_of_succ_lt_succ enough)
      refine ⟨dropped ++ [(number % 10).digitChar], ?_, by rw [List.length_append, length, List.length_singleton]⟩
      rw [decimal_ten large, split, withoutLast, List.append_assoc]

theorem digit_known {c : Char} (digit : c.isDigit) : Text.isDigit c := by
  obtain ⟨low, high⟩ := Char.isDigit_iff_toNat.mp digit
  exact (Text.contains_iff _ _).mpr ⟨(0x30, 0x39), by decide, low, high⟩

theorem column_eq (number : Nat) :
    column number = List.replicate (5 - (decimal number).length) ' ' ++ decimal number :=
  pad_part_digits (decimal_nonempty number) fun _ among => digit_known (decimal_digit among)

theorem column_wide {number : Nat} (wide : 5 ≤ (decimal number).length) : column number = decimal number := by
  rw [column_eq, Nat.sub_eq_zero_of_le wide, List.replicate_zero, List.nil_append]

theorem dash_below_digit {c : Char} (digit : c.isDigit) : '-' < c := by
  have low : '0'.toNat ≤ c.toNat := (Char.isDigit_iff_toNat.mp digit).1
  have below : '-'.toNat < c.toNat := Nat.lt_of_lt_of_le (by decide) low
  exact below

theorem space_below_digit {c : Char} (digit : c.isDigit) : ' ' < c := Char.lt_trans (by decide) (dash_below_digit digit)

-- The blank before the shorter number meets a digit of the longer one.
theorem column_order_narrow {m n : Nat} (narrow : (decimal m).length < 5) (shorter : (decimal m).length < (decimal n).length)
    (rest others : List Char) : compare (column m ++ rest) (column n ++ others) = .lt := by
  have more : 5 - (decimal m).length = 5 - (decimal n).length + (4 - (decimal m).length - (5 - (decimal n).length) + 1) := by
    omega
  obtain ⟨c, digits, first⟩ := List.exists_cons_of_ne_nil (decimal_nonempty n)
  have digit : c.isDigit := decimal_digit (first ▸ List.mem_cons_self)
  rw [column_eq m, column_eq n, more, List.replicate_add, List.append_assoc, List.append_assoc, List.append_assoc,
    chars_order_shared, List.replicate_succ, first]
  exact chars_order_of_head (space_below_digit digit) _ _

theorem column_narrow_below {m n : Nat} (narrow : (decimal m).length < 5) (shorter : (decimal m).length < (decimal n).length) :
    compare (column m) (column n) = .lt := by
  simpa only [List.append_nil] using column_order_narrow narrow shorter [] []

theorem column_order_first (m n : Nat) (rest others : List (List Char)) :
    compare (column m ++ tail rest) (column n ++ tail others) =
      (compare (column m) (column n)).then (compare (tail rest) (tail others)) := by
  by_cases wide : 5 ≤ (decimal m).length ∧ 5 ≤ (decimal n).length
  · have above (number : Nat) (c : Char) (among : c ∈ decimal number) : '-' < c := dash_below_digit (decimal_digit among)
    rw [column_wide wide.1, column_wide wide.2]
    exact chars_order_words (tail_sorts_below rest (above n)) (tail_sorts_below others (above m))
  · rcases Nat.lt_trichotomy (decimal m).length (decimal n).length with shorter | same | longer
    · have narrow : (decimal m).length < 5 := by omega
      rw [column_order_narrow narrow shorter, column_narrow_below narrow shorter, Ordering.lt_then]
    · have equal : (column m).length = (column n).length := by
        rw [column_eq, column_eq, List.length_append, List.length_append, List.length_replicate, List.length_replicate, same]
      exact chars_order_same_length equal _ _
    · have narrow : (decimal n).length < 5 := by omega
      rw [Std.OrientedOrd.eq_swap, column_order_narrow narrow longer, Std.OrientedOrd.eq_swap (a := column m),
        column_narrow_below narrow longer]
      rfl

theorem column_order_same_length {m n : Nat} (same : (decimal m).length = (decimal n).length) :
    compare (column m) (column n) = compare m n := by
  rw [column_eq, column_eq, same, chars_order_shared, decimal_order same]

theorem column_order_wide {m n : Nat} (wide : 5 ≤ (decimal m).length) (shorter : (decimal m).length < (decimal n).length) :
    compare (column m) (column n) =
      (compare m (withoutLast ((decimal n).length - (decimal m).length) n)).then .lt := by
  have filled : 0 < (decimal m).length := List.length_pos_iff.mpr (decimal_nonempty m)
  generalize counted : (decimal n).length - (decimal m).length = count
  have enough : count < (decimal n).length := by omega
  obtain ⟨dropped, split, length⟩ := decimal_leading enough
  have leading : (decimal m).length = (decimal (withoutLast count n)).length := by
    have whole := congrArg List.length split
    rw [List.length_append, length] at whole
    omega
  have more : dropped ≠ [] := by
    rintro rfl
    rw [List.length_nil] at length
    omega
  have ended : compare ([] : List Char) dropped = .lt := by
    obtain ⟨c, rest, rfl⟩ := List.exists_cons_of_ne_nil more
    rfl
  calc compare (column m) (column n)
      = compare (decimal m ++ []) (decimal (withoutLast count n) ++ dropped) := by
        rw [column_wide wide, column_wide (by omega), ← split, List.append_nil]
    _ = (compare m (withoutLast count n)).then .lt := by rw [chars_order_same_length leading, decimal_order leading, ended]

structure Overtakes (smaller larger : Nat) : Prop where
  wide : 5 ≤ (decimal smaller).length
  shorter : (decimal smaller).length < (decimal larger).length
  leading : withoutLast ((decimal larger).length - (decimal smaller).length) larger < smaller

theorem Overtakes.order {smaller larger : Nat} (overtakes : Overtakes smaller larger) : compare smaller larger = .lt :=
  Nat.compare_eq_lt.mpr (decimal_shorter overtakes.shorter)

theorem Overtakes.column_order {smaller larger : Nat} (overtakes : Overtakes smaller larger) :
    compare (column smaller) (column larger) = .gt := by
  rw [column_order_wide overtakes.wide overtakes.shorter, Nat.compare_eq_gt.mpr overtakes.leading, Ordering.gt_then]

theorem Overtakes.long {smaller larger : Nat} (overtakes : Overtakes smaller larger) : 100000 ≤ larger := by
  by_contra short
  have bound := (length_le_five_iff larger).mpr (Nat.lt_of_not_le short)
  exact absurd (Nat.lt_of_le_of_lt overtakes.wide overtakes.shorter) (Nat.not_lt_of_le bound)

theorem column_order_shorter {m n : Nat} (shorter : (decimal m).length < (decimal n).length) (kept : ¬ Overtakes m n) :
    compare (column m) (column n) = .lt := by
  by_cases wide : 5 ≤ (decimal m).length
  · have leading : m ≤ withoutLast ((decimal n).length - (decimal m).length) n :=
      Nat.le_of_not_lt fun less => kept ⟨wide, shorter, less⟩
    rw [column_order_wide wide shorter]
    rcases Nat.lt_or_eq_of_le leading with less | same
    · rw [Nat.compare_eq_lt.mpr less, Ordering.lt_then]
    · rw [Nat.compare_eq_eq.mpr same, Ordering.eq_then]
  · exact column_narrow_below (Nat.lt_of_not_le wide) shorter

theorem column_order {m n : Nat} (kept : ¬ Overtakes m n) (otherKept : ¬ Overtakes n m) :
    compare (column m) (column n) = compare m n := by
  rcases Nat.lt_trichotomy (decimal m).length (decimal n).length with shorter | same | longer
  · rw [column_order_shorter shorter kept, Nat.compare_eq_lt.mpr (decimal_shorter shorter)]
  · exact column_order_same_length same
  · rw [Std.OrientedOrd.eq_swap, column_order_shorter longer otherKept, Nat.compare_eq_gt.mpr (decimal_shorter longer)]
    rfl

end FeatureFlags.Version
