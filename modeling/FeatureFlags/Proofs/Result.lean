import FeatureFlags.Traced
import Mathlib.Data.List.Forall2

set_option autoImplicit false

namespace FeatureFlags

variable {ε δ α β : Type}

theorem bind_ok_iff (first : Except ε α) (next : α → Except ε β) (value : β) :
    first >>= next = .ok value ↔ ∃ middle, first = .ok middle ∧ next middle = .ok value := by
  cases first with
  | error failure => simp [bind, Except.bind]
  | ok middle => simp [bind, Except.bind]

theorem bind_error_iff (first : Except ε α) (next : α → Except ε β) (failure : ε) :
    first >>= next = .error failure ↔
      first = .error failure ∨ ∃ middle, first = .ok middle ∧ next middle = .error failure := by
  cases first with
  | error other => simp [bind, Except.bind]
  | ok middle => simp [bind, Except.bind]

theorem Traced.bind_returns_iff {Event : Type} (first : Traced Event ε α) (next : α → Traced Event ε β) (value : β) :
    (first >>= next).outcome = .ok value ↔ ∃ middle, first.outcome = .ok middle ∧ (next middle).outcome = .ok value := by
  rw [outcome_bind, bind_ok_iff]

theorem Traced.bind_fails_iff {Event : Type} (first : Traced Event ε α) (next : α → Traced Event ε β) (failure : ε) :
    (first >>= next).outcome = .error failure ↔
      first.outcome = .error failure ∨ ∃ middle, first.outcome = .ok middle ∧ (next middle).outcome = .error failure := by
  rw [outcome_bind, bind_error_iff]

theorem map_error_ok_iff (rename : ε → δ) (computed : Except ε α) (value : α) :
    computed.mapError rename = .ok value ↔ computed = .ok value := by
  cases computed <;> simp [Except.mapError]

theorem map_error_error_iff (rename : ε → δ) (computed : Except ε α) (failure : δ) :
    computed.mapError rename = .error failure ↔ ∃ cause, computed = .error cause ∧ rename cause = failure := by
  cases computed <;> simp [Except.mapError]

theorem forall₂_left {related : α → β → Prop} {members : List α} {others : List β}
    (pairs : List.Forall₂ related members others) (member : α) (among : member ∈ members) :
    ∃ other ∈ others, related member other := by
  induction pairs with
  | nil => simp at among
  | cons first rest ih =>
      rcases List.mem_cons.mp among with rfl | later
      · exact ⟨_, List.mem_cons_self, first⟩
      · obtain ⟨other, otherAmong, same⟩ := ih later
        exact ⟨other, List.mem_cons_of_mem _ otherAmong, same⟩

theorem forall₂_right {related : α → β → Prop} {members : List α} {others : List β}
    (pairs : List.Forall₂ related members others) (other : β) (among : other ∈ others) :
    ∃ member ∈ members, related member other := by
  have flipped : List.Forall₂ (flip related) others members := .flip pairs
  exact forall₂_left flipped other among

theorem map_m_ok_iff (read : α → Except ε β) (items : List α) (results : List β) :
    items.mapM read = .ok results ↔ List.Forall₂ (fun item result => read item = .ok result) items results := by
  induction items generalizing results with
  | nil => cases results <;> simp [pure, Except.pure]
  | cons item rest ih =>
      simp only [List.mapM_cons, bind_ok_iff, ih]
      constructor
      · rintro ⟨result, here, others, later, same⟩
        cases same
        exact .cons here later
      · intro pairs
        cases pairs with
        | cons here later => exact ⟨_, here, _, later, rfl⟩

theorem map_m_result (read : α → Except ε β) (items : List α) (results : List β) (done : items.mapM read = .ok results)
    (result : β) (member : result ∈ results) : ∃ item ∈ items, read item = .ok result :=
  forall₂_right ((map_m_ok_iff read items results).mp done) result member

theorem map_m_item (read : α → Except ε β) (items : List α) (results : List β) (done : items.mapM read = .ok results)
    (item : α) (member : item ∈ items) : ∃ result ∈ results, read item = .ok result :=
  forall₂_left ((map_m_ok_iff read items results).mp done) item member

theorem map_m_error (read : α → Except ε β) (items : List α) (failure : ε) (failed : items.mapM read = .error failure) :
    ∃ item ∈ items, read item = .error failure := by
  induction items with
  | nil => cases failed
  | cons item rest ih =>
      rw [List.mapM_cons, bind_error_iff] at failed
      rcases failed with here | ⟨result, _, later⟩
      · exact ⟨item, List.mem_cons_self, here⟩
      · rw [bind_error_iff] at later
        rcases later with later | ⟨results, _, done⟩
        · obtain ⟨other, among, refused⟩ := ih later
          exact ⟨other, List.mem_cons_of_mem _ among, refused⟩
        · cases done

theorem map_m_written (read : β → Option α) (write : α → β) (each : ∀ item, read (write item) = some item)
    (items : List α) : (items.map write).mapM read = some items := by
  induction items with
  | nil => rfl
  | cons first rest ih =>
      rw [List.map_cons, List.mapM_cons, ih, each]
      rfl

end FeatureFlags
