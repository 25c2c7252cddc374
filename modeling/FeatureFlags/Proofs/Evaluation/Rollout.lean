import FeatureFlags.Proofs.Evaluation.Rules
import FeatureFlags.Proofs.Number.Sum
import FeatureFlags.Proofs.Result

set_option autoImplicit false

namespace FeatureFlags

namespace Number

theorem lt_iff (a b : Number) : a.lt b ↔ ∃ x y, a.position? = some x ∧ b.position? = some y ∧ x.lt y := by
  rw [lt.eq_def]
  cases a.position? <;> cases b.position? <;> simp

theorem le_iff (a b : Number) : a.le b ↔ ∃ x y, a.position? = some x ∧ b.position? = some y ∧ x.le y := by
  rw [le.eq_def]
  cases a.position? <;> cases b.position? <;> simp

theorem le_trans {a b c : Number} (first : a.le b) (second : b.le c) : a.le c := by
  obtain ⟨x, y, left, middle, below⟩ := (le_iff a b).mp first
  obtain ⟨_, z, same, right, above⟩ := (le_iff b c).mp second
  cases middle.symm.trans same
  exact (le_iff a c).mpr ⟨x, z, left, right, Position.le_trans below above⟩

theorem lt_of_lt_of_le {a b c : Number} (first : a.lt b) (second : b.le c) : a.lt c := by
  obtain ⟨x, y, left, middle, below⟩ := (lt_iff a b).mp first
  obtain ⟨_, z, same, right, above⟩ := (le_iff b c).mp second
  cases middle.symm.trans same
  exact (lt_iff a c).mpr ⟨x, z, left, right, Position.lt_of_lt_of_le below above⟩

theorem not_lt_of_le {a b : Number} (below : a.le b) : ¬ b.lt a := by
  intro above
  obtain ⟨x, y, left, right, reached⟩ := (le_iff a b).mp below
  obtain ⟨_, _, sameRight, sameLeft, under⟩ := (lt_iff b a).mp above
  cases left.symm.trans sameLeft
  cases right.symm.trans sameRight
  simp [Position.le, under] at reached

end Number

namespace Rule

def includes (rule : Rule) (hash : Option Number) : Bool :=
  Rollout.includes hash (rule.coverage.map .float) (rule.range.map fun (low, high) => (.float low, .float high))

theorem includes_covered (rule : Rule) (covered : Double) (held : rule.coverage = some covered)
    (unbounded : rule.range = none) (hash : Option Number) :
    rule.includes hash ↔ ∃ place, hash = some place ∧ place.lt (.float covered) := by
  rw [includes, held, unbounded]
  cases hash <;> simp [Rollout.includes]

theorem includes_ranged (rule : Rule) (low high : Double) (held : rule.range = some (low, high)) (hash : Option Number) :
    rule.includes hash ↔
      ∃ place, hash = some place ∧ (Number.float low).le place ∧ place.lt (.float high) := by
  rw [includes, held]
  cases hash <;> cases rule.coverage <;> simp [Rollout.includes, Rollout.inRange]

def seedFor (rule : Rule) (feature : String) : String := (rule.seed.bind Setting.nonEmpty?).getD feature

def versionUsed (rule : Rule) : Int :=
  match rule.hashVersion with
  | some version => if version = 0 then Setting.defaultHashVersion else version
  | none => Setting.defaultHashVersion

end Rule

namespace Setting

variable (setting : Setting)

theorem in_rollout_unbounded (feature : String) (rule : Rule) (unbounded : ¬ (rule.coverage.isSome ∨ rule.range.isSome)) :
    setting.inRollout feature rule = return true := by
  have everybody : rule.coverage.isNone && rule.range.isNone := by simpa [not_or] using unbounded
  rw [inRollout, if_pos everybody]

theorem in_rollout_bounded (feature : String) (rule : Rule) (bounded : rule.coverage.isSome ∨ rule.range.isSome) :
    setting.inRollout feature rule = (do
      let (_, identity) ← Traced.silent (setting.identity rule.hashAttribute rule.fallbackAttribute)
      if identity.isEmpty then return false
      let hash := setting.hash (rule.seedFor feature) identity rule.versionUsed
      Traced.note (.hashed ⟨rule.seedFor feature, identity, rule.versionUsed, hash⟩)
      return rule.includes hash) := by
  have asked : ¬ (rule.coverage.isNone && rule.range.isNone) := by
    rcases bounded with bounded | bounded <;> simp [Option.ne_none_iff_isSome.mpr bounded]
  rw [inRollout, if_neg asked]
  rfl

theorem in_rollout_iff (feature : String) (rule : Rule) (bounded : rule.coverage.isSome ∨ rule.range.isSome) :
    (setting.inRollout feature rule).outcome = .ok true ↔ ∃ name identity,
      setting.identity rule.hashAttribute rule.fallbackAttribute = .ok (name, identity) ∧ identity.isEmpty = false ∧
        rule.includes (setting.hash (rule.seedFor feature) identity rule.versionUsed) := by
  rw [setting.in_rollout_bounded feature rule bounded, Traced.bind_returns_iff, Traced.outcome_silent, Prod.exists]
  refine exists_congr fun name => exists_congr fun identity => and_congr_right fun _ => ?_
  dsimp only
  cases empty : identity.isEmpty with
  | true => simp only [if_true, Traced.outcome_pure, Except.ok.injEq, Bool.false_eq_true, false_and, reduceCtorEq]
  | false =>
      change Except.ok (rule.includes (setting.hash (rule.seedFor feature) identity rule.versionUsed)) = .ok true ↔ _
      simp only [Except.ok.injEq, true_and]

theorem in_rollout_fails {feature : String} {rule : Rule} {failure : EvaluationError}
    (bounded : rule.coverage.isSome ∨ rule.range.isSome)
    (failed : (setting.inRollout feature rule).outcome = .error failure) :
    setting.identity rule.hashAttribute rule.fallbackAttribute = .error failure := by
  rw [setting.in_rollout_bounded feature rule bounded, Traced.bind_fails_iff, Traced.outcome_silent] at failed
  rcases failed with failed | ⟨⟨name, identity⟩, _, failed⟩
  · exact failed
  · dsimp only at failed
    by_cases empty : identity.isEmpty
    · rw [if_pos empty] at failed
      cases failed
    · rw [if_neg empty] at failed
      cases failed

end Setting
end FeatureFlags
