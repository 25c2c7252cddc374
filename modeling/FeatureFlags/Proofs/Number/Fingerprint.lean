import FeatureFlags.Bucket

/-! A step can be undone: under one code two states stay two, and from one state two codes make two. In
numbers without a size the low word of a product or of an exclusive or depends on the low words alone, so a
fold may be cut to a word after every step or once at its end. -/

set_option autoImplicit false

namespace FeatureFlags
namespace Fingerprint

def primeInverse : UInt32 := 0x359c449b

theorem prime_inverse : prime * primeInverse = 1 := by decide

theorem prime_cancels {word other : UInt32} (same : word * prime = other * prime) : word = other := by
  have undone := congrArg (· * primeInverse) same
  simpa only [UInt32.mul_assoc, prime_inverse, UInt32.mul_one] using undone

def mix (state word : UInt32) : UInt32 := (state ^^^ word) * prime

theorem mix_keeps_state (word : UInt32) {state other : UInt32} (same : mix state word = mix other word) : state = other :=
  (UInt32.xor_left_inj word).mp (prime_cancels same)

theorem mix_keeps_word (state : UInt32) {word other : UInt32} (same : mix state word = mix state other) : word = other :=
  (UInt32.xor_right_inj state).mp (prime_cancels same)

def mixAll (state : UInt32) (words : List UInt32) : UInt32 := words.foldl mix state

theorem mix_all_keeps_state (words : List UInt32) {state other : UInt32}
    (same : mixAll state words = mixAll other words) : state = other := by
  induction words generalizing state other with
  | nil => exact same
  | cons word rest ih => exact mix_keeps_state word (ih same)

theorem mix_all_apart (state : UInt32) (before after : List UInt32) {word other : UInt32} (apart : word ≠ other) :
    mixAll state (before ++ word :: after) ≠ mixAll state (before ++ other :: after) := by
  intro same
  simp only [mixAll, List.foldl_append, List.foldl_cons] at same
  have here := mix_all_keeps_state after same
  exact apart (mix_keeps_word _ here)

def grow (number code : Nat) : Nat := (number ^^^ code) * prime.toNat

def lowWord (number : Nat) : Nat := number &&& 0xffffffff

-- Over codes as numbers: half of a surrogate pair has a code and is no character.
def cutThroughout (codes : List Nat) : Nat := codes.foldl (fun number code => lowWord (grow number code)) offset.toNat

def cutOnce (codes : List Nat) : Nat := lowWord (codes.foldl grow offset.toNat)

theorem low_word_eq (number : Nat) : lowWord number = (UInt32.ofNat number).toNat := by
  rw [UInt32.toNat_ofNat']
  exact Nat.and_two_pow_sub_one_eq_mod number 32

theorem word_grow (number code : Nat) : UInt32.ofNat (grow number code) = mix (.ofNat number) (.ofNat code) := by
  rw [grow, mix, UInt32.ofNat_mul, UInt32.ofNat_xor, UInt32.ofNat_toNat]

theorem low_word_grow (state : UInt32) (code : Nat) : lowWord (grow state.toNat code) = (mix state (.ofNat code)).toNat := by
  rw [low_word_eq, word_grow, UInt32.ofNat_toNat]

theorem cut_throughout_eq (codes : List Nat) : cutThroughout codes = (mixAll offset (codes.map .ofNat)).toNat := by
  rw [cutThroughout, mixAll, List.foldl_map]
  exact List.foldl_hom UInt32.toNat low_word_grow

theorem cut_once_eq (codes : List Nat) : cutOnce codes = (mixAll offset (codes.map .ofNat)).toNat := by
  have start : offset = UInt32.ofNat offset.toNat := UInt32.ofNat_toNat.symm
  have words : (codes.map .ofNat).foldl mix (.ofNat offset.toNat) = UInt32.ofNat (codes.foldl grow offset.toNat) := by
    rw [List.foldl_map]
    exact List.foldl_hom UInt32.ofNat fun number code => (word_grow number code).symm
  rw [cutOnce, low_word_eq, mixAll, ← words, ← start]

theorem word_apart {code other : Nat} (small : code < UInt32.size) (otherSmall : other < UInt32.size) (apart : code ≠ other) :
    UInt32.ofNat code ≠ UInt32.ofNat other := by
  intro same
  have numbers := congrArg UInt32.toNat same
  rw [UInt32.toNat_ofNat_of_lt' small, UInt32.toNat_ofNat_of_lt' otherSmall] at numbers
  exact apart numbers

theorem cut_throughout_apart (before after : List Nat) {code other : Nat} (small : code < UInt32.size)
    (otherSmall : other < UInt32.size) (apart : code ≠ other) :
    cutThroughout (before ++ code :: after) ≠ cutThroughout (before ++ other :: after) := by
  rw [cut_throughout_eq, cut_throughout_eq, List.map_append, List.map_append, List.map_cons, List.map_cons]
  intro same
  exact mix_all_apart offset _ _ (word_apart small otherSmall apart) (UInt32.toNat_inj.mp same)

def codes (text : String) : List Nat := text.toList.map Char.toNat

end Fingerprint

open Fingerprint

theorem fingerprint_eq_mix_all (text : String) : fingerprint text = mixAll offset (text.toList.map Char.val) := by
  rw [mixAll, List.foldl_map]
  rfl

theorem fingerprint_eq_cut (text : String) : (fingerprint text).toNat = cutThroughout (codes text) := by
  have words : (codes text).map UInt32.ofNat = text.toList.map Char.val := by
    rw [codes, List.map_map]
    exact List.map_congr_left fun c _ => UInt32.ofNat_toNat
  rw [cut_throughout_eq, words, fingerprint_eq_mix_all]

theorem fingerprint_apart (before after : String) {c d : Char} (apart : c ≠ d) :
    fingerprint (before.push c ++ after) ≠ fingerprint (before.push d ++ after) := by
  have split : ∀ here : Char, (before.push here ++ after).toList = before.toList ++ here :: after.toList := by simp
  rw [fingerprint_eq_mix_all, fingerprint_eq_mix_all, split, split, List.map_append, List.map_append, List.map_cons,
    List.map_cons]
  exact mix_all_apart offset _ _ fun same => apart (Char.ext same)

theorem fingerprint_keeps_positions :
    (∀ (before after : String) (c d : Char), c ≠ d →
      fingerprint (before.push c ++ after) ≠ fingerprint (before.push d ++ after)) ∧
    (∀ (before after : List Nat) (code other : Nat), code < Nat.pow 2 32 → other < Nat.pow 2 32 → code ≠ other →
      cutThroughout (before ++ code :: after) ≠ cutThroughout (before ++ other :: after)) ∧
    (∀ text : String, (fingerprint text).toNat = cutThroughout (codes text)) ∧
    ∀ codes : List Nat, cutThroughout codes < Nat.pow 2 32 ∧ cutOnce codes = cutThroughout codes := by
  refine ⟨fun before after c d apart => fingerprint_apart before after apart, ?_, fingerprint_eq_cut, fun codes => ⟨?_, ?_⟩⟩
  · exact fun before after code other small otherSmall apart => cut_throughout_apart before after small otherSmall apart
  · rw [cut_throughout_eq]
    exact UInt32.toNat_lt _
  · rw [cut_once_eq, cut_throughout_eq]

theorem fingerprint_keeps_positions_seats :
    'a' ≠ 'b' ∧ fingerprint ("seat-12".push 'a' ++ "-west") ≠ fingerprint ("seat-12".push 'b' ++ "-west") ∧
    0xd83d < Nat.pow 2 32 ∧ 0xde00 < Nat.pow 2 32 ∧ 0xd83d ≠ 0xde00 ∧
    cutThroughout ([0x73, 0x65] ++ 0xd83d :: [0x61, 0x74]) ≠ cutThroughout ([0x73, 0x65] ++ 0xde00 :: [0x61, 0x74]) := by
  obtain ⟨texts, codes, _, _⟩ := fingerprint_keeps_positions
  have letters : 'a' ≠ 'b' := by decide
  have small : 0xd83d < Nat.pow 2 32 := by decide
  have otherSmall : 0xde00 < Nat.pow 2 32 := by decide
  have halves : 0xd83d ≠ 0xde00 := by decide
  exact ⟨letters, texts _ _ _ _ letters, small, otherSmall, halves, codes _ _ _ _ small otherSmall halves⟩

end FeatureFlags
