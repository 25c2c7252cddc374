import FeatureFlags.Comparison

/-! Two words decide the order before what follows them where they are equally long, and where what follows
the one sorts below all characters of the other. -/

set_option autoImplicit false

namespace FeatureFlags

theorem char_order_iff (c d : Char) : compare c d = .lt ↔ c < d := by
  have unfolded : compare c d = compareOfLessAndEq c d := rfl
  rw [unfolded, compareOfLessAndEq]
  by_cases less : c < d
  · simp [less]
  · by_cases same : c = d <;> simp [less, same]

theorem chars_order_iff (first second : List Char) : compare first second = .lt ↔ first < second := by
  induction first generalizing second with
  | nil => cases second <;> simp
  | cons c rest ih =>
      cases second with
      | nil => simp
      | cons d others =>
          rw [List.compare_cons_cons, List.cons_lt_cons_iff, Ordering.then_eq_lt, char_order_iff, ih, Std.compare_eq_iff_eq]

theorem text_order_eq (first second : String) : textOrder first second = compare first.toList second.toList := by
  have less (a b : String) : a < b ↔ compare a.toList b.toList = .lt := (chars_order_iff a.toList b.toList).symm
  have swapped : compare second.toList first.toList = (compare first.toList second.toList).swap := Std.OrientedOrd.eq_swap
  simp only [textOrder, less, swapped]
  cases compare first.toList second.toList <;> rfl

theorem chars_order_of_head {c d : Char} (less : c < d) (rest others : List Char) :
    compare (c :: rest) (d :: others) = .lt := by
  rw [List.compare_cons_cons, (char_order_iff c d).mpr less, Ordering.lt_then]

theorem chars_order_same_length {first second : List Char} (same : first.length = second.length) (rest others : List Char) :
    compare (first ++ rest) (second ++ others) = (compare first second).then (compare rest others) := by
  induction first generalizing second with
  | nil =>
      obtain rfl : second = [] := List.eq_nil_of_length_eq_zero same.symm
      rfl
  | cons c first ih =>
      cases second with
      | nil => cases same
      | cons d second =>
          rw [List.cons_append, List.cons_append, List.compare_cons_cons, List.compare_cons_cons,
            ih (Nat.succ.inj same), Ordering.then_assoc]

theorem chars_order_shared (shared rest others : List Char) :
    compare (shared ++ rest) (shared ++ others) = compare rest others := by
  rw [chars_order_same_length rfl, Std.ReflOrd.compare_self, Ordering.eq_then]

def SortsBelow (rest word : List Char) : Prop := ∀ next ∈ rest.head?, ∀ c ∈ word, next < c

theorem SortsBelow.order {rest word : List Char} (below : SortsBelow rest word) (nonempty : word ≠ []) (others : List Char) :
    compare rest (word ++ others) = .lt := by
  obtain ⟨c, word, rfl⟩ := List.exists_cons_of_ne_nil nonempty
  cases rest with
  | nil => rfl
  | cons next rest => exact chars_order_of_head (below next rfl c List.mem_cons_self) rest _

theorem chars_order_words {first second rest others : List Char} (below : SortsBelow rest second)
    (otherBelow : SortsBelow others first) :
    compare (first ++ rest) (second ++ others) = (compare first second).then (compare rest others) := by
  induction first generalizing second with
  | nil =>
      cases second with
      | nil => rfl
      | cons d second => exact below.order (List.cons_ne_nil d second) others
  | cons c first ih =>
      cases second with
      | nil =>
          have swapped : compare (c :: first ++ rest) ([] ++ others) = (compare others (c :: first ++ rest)).swap :=
            Std.OrientedOrd.eq_swap
          rw [swapped, otherBelow.order (List.cons_ne_nil c first) rest]
          rfl
      | cons d second =>
          have later : SortsBelow rest second := fun next head e among => below next head e (List.mem_cons_of_mem d among)
          have otherLater : SortsBelow others first :=
            fun next head e among => otherBelow next head e (List.mem_cons_of_mem c among)
          rw [List.cons_append, List.cons_append, List.compare_cons_cons, List.compare_cons_cons, ih later otherLater,
            Ordering.then_assoc]

end FeatureFlags
