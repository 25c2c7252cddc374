/-! Computations that leave a log and may fail. What was logged before a failure is kept. -/

set_option autoImplicit false

namespace FeatureFlags

structure Traced (Event Failure α : Type) where
  log : List Event
  outcome : Except Failure α

namespace Traced

variable {Event Other Failure α β : Type}

protected def pure (value : α) : Traced Event Failure α := ⟨[], .ok value⟩

protected def bind (first : Traced Event Failure α) (next : α → Traced Event Failure β) :
    Traced Event Failure β :=
  match first.outcome with
  | .ok value => ⟨first.log ++ (next value).log, (next value).outcome⟩
  | .error failure => ⟨first.log, .error failure⟩

instance : Monad (Traced Event Failure) where
  pure := Traced.pure
  bind := Traced.bind

def note (event : Event) : Traced Event Failure Unit := ⟨[event], .ok ()⟩

def fail (failure : Failure) : Traced Event Failure α := ⟨[], .error failure⟩

def silent (outcome : Except Failure α) : Traced Event Failure α := ⟨[], outcome⟩

def mapLog (rename : Event → Other) (computation : Traced Event Failure α) :
    Traced Other Failure α :=
  ⟨computation.log.map rename, computation.outcome⟩

@[simp] theorem outcome_pure (value : α) :
    (pure value : Traced Event Failure α).outcome = .ok value := rfl

@[simp] theorem log_pure (value : α) : (pure value : Traced Event Failure α).log = [] := rfl

@[simp] theorem outcome_bind (first : Traced Event Failure α)
    (next : α → Traced Event Failure β) :
    (first >>= next).outcome = first.outcome >>= fun value => (next value).outcome := by
  change (Traced.bind first next).outcome = _
  unfold Traced.bind
  cases first.outcome <;> rfl

theorem bind_ok {first : Traced Event Failure α} {value : α}
    (returned : first.outcome = .ok value) (next : α → Traced Event Failure β) :
    first >>= next = ⟨first.log ++ (next value).log, (next value).outcome⟩ := by
  change Traced.bind first next = _
  simp only [Traced.bind, returned]

theorem bind_error {first : Traced Event Failure α} {failure : Failure}
    (failed : first.outcome = .error failure) (next : α → Traced Event Failure β) :
    first >>= next = ⟨first.log, .error failure⟩ := by
  change Traced.bind first next = _
  simp only [Traced.bind, failed]

@[simp] theorem outcome_map (f : α → β) (computation : Traced Event Failure α) :
    (f <$> computation).outcome = f <$> computation.outcome := by
  change (Traced.bind computation fun value => Traced.pure (f value)).outcome = _
  unfold Traced.bind
  cases computation.outcome <;> rfl

@[simp] theorem outcome_note (event : Event) :
    (note event : Traced Event Failure Unit).outcome = .ok () := rfl

@[simp] theorem outcome_silent (outcome : Except Failure α) :
    (silent outcome : Traced Event Failure α).outcome = outcome := rfl

@[simp] theorem outcome_map_log (rename : Event → Other)
    (computation : Traced Event Failure α) :
    (computation.mapLog rename).outcome = computation.outcome := rfl

instance : LawfulMonad (Traced Event Failure) := LawfulMonad.mk'
  (Traced Event Failure)
  (by
    intro α computation
    change Traced.bind computation (fun value => Traced.pure value) = computation
    rcases computation with ⟨log, outcome⟩
    cases outcome <;> simp [Traced.bind, Traced.pure])
  (by
    intro α β value next
    rfl)
  (by
    intro α β γ first second third
    change Traced.bind (Traced.bind first second) third =
      Traced.bind first fun value => Traced.bind (second value) third
    rcases first with ⟨log, outcome⟩
    cases outcome with
    | error failure => rfl
    | ok value =>
        simp only [Traced.bind]
        cases (second value).outcome <;> simp [List.append_assoc])

end Traced
end FeatureFlags
