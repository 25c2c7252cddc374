import FeatureFlags.Evaluation

/-! A rule sees of a prerequisite its value, or that it is cyclic, and nothing else. Where two ways to
evaluate prerequisites agree except for cycles, the rules agree as well, except for cycles. -/

set_option autoImplicit false

namespace FeatureFlags

variable {α β γ : Type}

-- The view picks what is compared of the logs: all steps, none, or some kind.
structure Alike (view : Step → Option γ) (first second : Run α) : Prop where
  outcome : first.outcome = second.outcome
  log : first.log.filterMap view = second.log.filterMap view

namespace Alike

variable {view : Step → Option γ}

theorem refl (run : Run α) : Alike view run run := ⟨rfl, rfl⟩

theorem eq_of_all {first second : Run α} (alike : Alike some first second) : first = second := by
  obtain ⟨log, outcome⟩ := first
  obtain ⟨otherLog, otherOutcome⟩ := second
  have logs : log = otherLog := by simpa using alike.log
  have outcomes : outcome = otherOutcome := alike.outcome
  rw [logs, outcomes]

theorem bind {first second : Run α} {next other : α → Run β} (alike : Alike view first second)
    (continued : ∀ value, first.outcome = .ok value → Alike view (next value) (other value)) :
    Alike view (first >>= next) (second >>= other) := by
  cases ended : first.outcome with
  | error failure =>
      rw [Traced.bind_error ended, Traced.bind_error (alike.outcome ▸ ended)]
      exact ⟨rfl, alike.log⟩
  | ok value =>
      have later := continued value ended
      rw [Traced.bind_ok ended, Traced.bind_ok (alike.outcome ▸ ended)]
      exact ⟨later.outcome, by simp only [List.filterMap_append, alike.log, later.log]⟩

end Alike

def Evaluated.seen (result : Evaluated) : Option Json :=
  if result.source = .cyclicPrerequisite then none else some result.value

def Cyclic (run : Run Evaluated) : Prop :=
  ∃ result, run.outcome = .ok result ∧ result.source = .cyclicPrerequisite

theorem cyclic_iff_seen (run : Run Evaluated) : Cyclic run ↔ run.outcome.map Evaluated.seen = .ok none := by
  obtain ⟨log, outcome⟩ := run
  cases outcome with
  | error failure => simp [Cyclic, Except.map]
  | ok result => simp [Cyclic, Except.map, Evaluated.seen]

structure StandsIn (view : Step → Option γ) (first second : Run Evaluated) : Prop where
  seen : first.outcome.map Evaluated.seen = second.outcome.map Evaluated.seen
  log : first.log.filterMap view = second.log.filterMap view

namespace StandsIn

variable {view : Step → Option γ} {first second : Run Evaluated}

theorem of_eq (same : first = second) : StandsIn view first second := by
  subst second
  exact ⟨rfl, rfl⟩

theorem of_alike (alike : Alike view first second) : StandsIn view first second :=
  ⟨congrArg (Except.map Evaluated.seen) alike.outcome, alike.log⟩

theorem symm (stands : StandsIn view first second) : StandsIn view second first :=
  ⟨stands.seen.symm, stands.log.symm⟩

theorem bind (stands : StandsIn view first second) (next : Option Json → Run β) :
    Alike view (first >>= fun result => next result.seen) (second >>= fun result => next result.seen) := by
  obtain ⟨firstLog, firstOutcome⟩ := first
  obtain ⟨secondLog, secondOutcome⟩ := second
  obtain ⟨seen, log⟩ := stands
  cases firstOutcome with
  | error failure =>
      cases secondOutcome with
      | error other =>
          have same : failure = other := by simpa [Except.map] using seen
          subst other
          exact ⟨rfl, log⟩
      | ok other => simp [Except.map] at seen
  | ok result =>
      cases secondOutcome with
      | error failure => simp [Except.map] at seen
      | ok other =>
          have same : result.seen = other.seen := by simpa [Except.map] using seen
          rw [Traced.bind_ok rfl, Traced.bind_ok rfl, same]
          exact ⟨rfl, by simpa only [List.filterMap_append] using congrArg (· ++ _) log⟩

end StandsIn

def AgreeOrCyclic (view : Step → Option γ) (first second : Run Evaluated) : Prop :=
  Cyclic first ∨ Cyclic second ∨ StandsIn view first second

theorem AgreeOrCyclic.symm {view : Step → Option γ} {first second : Run Evaluated}
    (agree : AgreeOrCyclic view first second) : AgreeOrCyclic view second first := by
  rcases agree with cyclic | cyclic | stands
  · exact .inr (.inl cyclic)
  · exact .inl cyclic
  · exact .inr (.inr stands.symm)

end FeatureFlags
