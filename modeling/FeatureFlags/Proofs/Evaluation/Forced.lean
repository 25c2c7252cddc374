import FeatureFlags.Proofs.Evaluation.Decision

/-! The last thing that an evaluation tells of a forced value is the number of the rule that gives it, so a
run shows which of several rules it was, be they alike or not. -/

set_option autoImplicit false

namespace FeatureFlags

def Run.EndsWith {α : Type} (run : Run α) (step : Step) : Prop := ∃ front, run.log = front ++ [step]

theorem Run.EndsWith.bind {α β : Type} {first : Run α} {next : α → Run β} {value : α} {step : Step}
    (returned : first.outcome = .ok value) (told : (next value).EndsWith step) : (first >>= next).EndsWith step := by
  obtain ⟨front, log⟩ := told
  refine ⟨first.log ++ front, ?_⟩
  rw [Traced.bind_ok returned, log, List.append_assoc]

theorem Run.EndsWith.of_bind {α β : Type} {first : Run α} {next : α → Run β} {value : α} {step : Step}
    (told : first.EndsWith step) (returned : first.outcome = .ok value) (quiet : (next value).log = []) :
    (first >>= next).EndsWith step := by
  obtain ⟨front, log⟩ := told
  refine ⟨front, ?_⟩
  rw [Traced.bind_ok returned, quiet, List.append_nil, log]

theorem Run.EndsWith.unique {α : Type} {run : Run α} {step other : Step} (told : run.EndsWith step)
    (alsoTold : run.EndsWith other) : step = other := by
  obtain ⟨front, log⟩ := told
  obtain ⟨before, same⟩ := alsoTold
  exact List.singleton_inj.mp (List.append_inj_right' (log.symm.trans same) rfl)

structure ForcedBy (run : Run Evaluated) (id : String) (index : Nat) (result : Evaluated) : Prop where
  returned : run.outcome = .ok result
  source : result.source = .force
  told : run.EndsWith (.event id (.forced index))

namespace Setting

theorem offer_told {feature : String} {index : Nat} {rule : Rule} {included : Bool} {result : Evaluated}
    (decided : (offer feature index rule included).outcome = .ok (some result)) :
    (offer feature index rule included).EndsWith (.event feature (.forced index)) := by
  obtain ⟨rfl, unsupported, value, force, _⟩ := (offer_some_iff _ _ _ _ _).mp decided
  refine ⟨[], ?_⟩
  simp only [offer, unsupported, force]
  rfl

theorem conclude_told {setting : Setting} {feature : String} {index : Nat} {rule : Rule} {result : Evaluated}
    (decided : (setting.conclude feature index rule .passed).outcome = .ok (some result)) :
    (setting.conclude feature index rule .passed).EndsWith (.event feature (.forced index)) := by
  obtain ⟨meets, unsupported, included, value, force, said⟩ := (conclude_passed_iff _ _ _ _ _).mp decided
  have offered : (offer feature index rule true).EndsWith (.event feature (.forced index)) :=
    offer_told ((offer_some_iff _ _ _ _ _).mpr ⟨rfl, unsupported, value, force, said⟩)
  rw [conclude]
  refine Run.EndsWith.bind meets ?_
  by_cases asked : rule.hasForce && rule.hasRollout
  · simp only [Bool.not_true, Bool.false_eq_true, if_false, if_pos asked]
    exact Run.EndsWith.bind (included (Bool.and_eq_true_iff.mp asked).2) offered
  · simp only [Bool.not_true, Bool.false_eq_true, if_false, if_neg asked]
    exact offered

theorem apply_rule_told {setting : Setting} {evaluate : String → Run Evaluated} {feature : String} {index : Nat}
    {rule : Rule} {result : Evaluated} (forced : result.source = .force)
    (decided : (setting.applyRule evaluate feature index rule).outcome = .ok (some result)) :
    (setting.applyRule evaluate feature index rule).EndsWith (.event feature (.forced index)) := by
  rw [apply_rule_eq, Traced.bind_ok rfl, Traced.bind_returns_iff] at decided
  obtain ⟨outcome, checked, concluded⟩ := decided
  rw [apply_rule_eq]
  refine Run.EndsWith.bind rfl (Run.EndsWith.bind checked ?_)
  cases outcome with
  | cyclic | gated =>
      cases concluded
      cases forced
  | failed => cases concluded
  | passed => exact conclude_told concluded

theorem apply_rules_told {setting : Setting} {evaluate : String → Run Evaluated} {feature : String} {start index : Nat}
    {rules : List Rule} {result : Evaluated} (forced : result.source = .force)
    (decidedAt : setting.DecidedAt evaluate feature start rules index result) :
    (setting.applyRules evaluate feature start rules).EndsWith (.event feature (.forced (start + index))) := by
  induction rules generalizing start index with
  | nil =>
      obtain ⟨⟨rule, found, _⟩, _⟩ := decidedAt
      cases found
  | cons rule rest ih =>
      rw [apply_rules_cons]
      cases index with
      | zero =>
          obtain ⟨⟨other, found, decides⟩, _⟩ := decidedAt
          cases found
          exact (apply_rule_told forced decides).of_bind decides rfl
      | succ index =>
          obtain ⟨applied, later⟩ := decided_later_iff.mp decidedAt
          have told := ih later
          rw [show start + 1 + index = start + (index + 1) by omega] at told
          exact Run.EndsWith.bind applied told

theorem forced_by_iff (setting : Setting) (id : String) (index : Nat) (result : Evaluated) :
    ForcedBy (setting.evaluate id) id index result ↔ result.source = .force ∧
      ∃ feature, setting.features.get? id = some feature ∧
        setting.DecidedAt (setting.evaluateAlong [id]) id 0 feature.rules index result := by
  have told (feature : Feature) (defined : setting.features.get? id = some feature) (forced : result.source = .force)
      (place : Nat) (decidedAt : setting.DecidedAt (setting.evaluateAlong [id]) id 0 feature.rules place result) :
      (setting.evaluate id).EndsWith (.event id (.forced place)) := by
    have applied := (setting.apply_rules_some_iff _ id 0 feature.rules result).mpr ⟨place, decidedAt⟩
    have rules := apply_rules_told forced decidedAt
    rw [Nat.zero_add] at rules
    rw [setting.evaluate_defined id feature defined]
    exact Run.EndsWith.bind rfl (rules.of_bind applied rfl)
  constructor
  · rintro ⟨returned, forced, last⟩
    refine ⟨forced, ?_⟩
    cases defined : setting.features.get? id with
    | none =>
        cases (setting.evaluate_undefined id defined).symm.trans returned
        cases forced
    | some feature =>
        obtain ⟨decided, applied, same⟩ := (setting.evaluate_ok_iff id feature defined result).mp returned
        cases decided with
        | none =>
            cases same
            cases forced
        | some other =>
            cases same
            obtain ⟨place, decidedAt⟩ := (setting.apply_rules_some_iff _ id 0 feature.rules other).mp applied
            cases last.unique (told feature defined forced place decidedAt)
            exact ⟨feature, rfl, decidedAt⟩
  · rintro ⟨forced, feature, defined, decidedAt⟩
    have applied := (setting.apply_rules_some_iff _ id 0 feature.rules result).mpr ⟨index, decidedAt⟩
    exact ⟨(setting.evaluate_ok_iff id feature defined result).mpr ⟨some result, applied, rfl⟩, forced,
      told feature defined forced index decidedAt⟩

end Setting
end FeatureFlags
