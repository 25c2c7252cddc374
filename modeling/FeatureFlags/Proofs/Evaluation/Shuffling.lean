import FeatureFlags.Proofs.Evaluation.Ramping

/-! Checking stops at a prerequisite that does not pass, and if all are gates or none is, it does not matter
at which. Orders differ in which prerequisites are evaluated at all, so one may meet a cycle or a failure that
another does not get to. -/

set_option autoImplicit false

namespace FeatureFlags

inductive Rule.Shuffled (rule : Rule) : Rule → Prop where
  | kept : Shuffled rule rule
  | shuffled (prerequisites : List Prerequisite) (gate : Bool) (perm : rule.prerequisites.Perm prerequisites)
      (uniform : ∀ prerequisite ∈ rule.prerequisites, prerequisite.gate = gate) : Shuffled rule { rule with prerequisites }

structure Evaluated.Shuffled (result other : Evaluated) : Prop where
  id : result.id = other.id
  value : result.value = other.value
  source : result.source = other.source
  rule : Option.Rel Rule.Shuffled result.rule other.rule

theorem Evaluated.Shuffled.refl (result : Evaluated) : result.Shuffled result := by
  refine ⟨rfl, rfl, rfl, ?_⟩
  cases result.rule with
  | none => exact .none
  | some rule => exact .some .kept

theorem Prerequisite.Yields.told_by_gate {prerequisite : Prerequisite} {run : Run Evaluated} {outcome : PrerequisiteOutcome}
    (yields : prerequisite.Yields run outcome) (unmet : outcome ≠ .passed) (acyclic : outcome ≠ .cyclic) :
    outcome = if prerequisite.gate then .gated else .failed := by
  cases yields with
  | cyclic => exact absurd rfl acyclic
  | passed => exact absurd rfl unmet
  | gated _ gate => rw [gate, if_pos rfl]
  | failed _ ungated => rw [ungated, if_neg (by decide)]

namespace PrerequisitesYield

variable {evaluate : String → Run Evaluated} {prerequisites others : List Prerequisite} {outcome other : PrerequisiteOutcome}

theorem all_passed (yield : PrerequisitesYield evaluate prerequisites .passed) (prerequisite : Prerequisite)
    (among : prerequisite ∈ prerequisites) : prerequisite.Yields (evaluate prerequisite.id) .passed := by
  cases yield with
  | passed met => exact met prerequisite among
  | stopped _ _ _ _ _ _ _ unmet => exact absurd rfl unmet

theorem one_stopped (yield : PrerequisitesYield evaluate prerequisites outcome) (unmet : outcome ≠ .passed) :
    ∃ prerequisite ∈ prerequisites, prerequisite.Yields (evaluate prerequisite.id) outcome := by
  cases yield with
  | passed => exact absurd rfl unmet
  | stopped before first after _ split _ yields => exact ⟨first, by simp [split], yields⟩

theorem passed_perm (perm : prerequisites.Perm others) (yield : PrerequisitesYield evaluate prerequisites .passed)
    (otherYield : PrerequisitesYield evaluate others other) : other = .passed := by
  by_contra unmet
  obtain ⟨first, among, yields⟩ := otherYield.one_stopped unmet
  exact unmet (yields.unique (yield.all_passed first (perm.mem_iff.mpr among)))

theorem perm {gate : Bool} (perm : prerequisites.Perm others)
    (uniform : ∀ prerequisite ∈ prerequisites, prerequisite.gate = gate)
    (yield : PrerequisitesYield evaluate prerequisites outcome) (otherYield : PrerequisitesYield evaluate others other)
    (acyclic : outcome ≠ .cyclic) (otherAcyclic : other ≠ .cyclic) : outcome = other := by
  by_cases met : outcome = .passed
  · subst met
    exact (yield.passed_perm perm otherYield).symm
  · have otherUnmet : other ≠ .passed := by
      rintro rfl
      exact met (otherYield.passed_perm perm.symm yield)
    obtain ⟨first, among, yields⟩ := yield.one_stopped met
    obtain ⟨otherFirst, otherAmong, otherYields⟩ := otherYield.one_stopped otherUnmet
    rw [yields.told_by_gate met acyclic, otherYields.told_by_gate otherUnmet otherAcyclic, uniform first among,
      uniform otherFirst (perm.mem_iff.mpr otherAmong)]

end PrerequisitesYield

namespace Setting

variable {setting : Setting} {evaluate : String → Run Evaluated} {feature : String} {index : Nat} {rule other : Rule}
  {decided otherDecided : Option Evaluated}

theorem concluded_acyclic {outcome : PrerequisiteOutcome}
    (concluded : (setting.conclude feature index rule outcome).outcome = .ok decided) (acyclic : NotCyclic decided) :
    outcome ≠ .cyclic := by
  rintro rfl
  cases concluded
  exact acyclic _ rfl rfl

theorem continued_acyclic {start : Nat} {rest : List Rule} {first : Option Evaluated}
    (continued : (match first with
      | some result => (return some result : Run (Option Evaluated))
      | none => setting.applyRules evaluate feature start rest).outcome = .ok decided) (acyclic : NotCyclic decided) :
    NotCyclic first := by
  rintro result rfl
  cases continued
  exact acyclic result rfl

theorem conclude_passed_reordered {result : Evaluated}
    (concluded : (setting.conclude feature index rule .passed).outcome = .ok (some result))
    (prerequisites : List Prerequisite) :
    (setting.conclude feature index { rule with prerequisites } .passed).outcome =
      .ok (some { result with rule := some { rule with prerequisites } }) := by
  obtain ⟨meets, unsupported, included, value, force, rfl⟩ :=
    (conclude_passed_iff setting feature index rule result).mp concluded
  exact (conclude_passed_iff setting feature index { rule with prerequisites } _).mpr
    ⟨meets, unsupported, included, value, force, rfl⟩

theorem conclude_shuffled {prerequisites : List Prerequisite} (shuffled : rule.Shuffled { rule with prerequisites })
    (outcome : PrerequisiteOutcome) (ended : (setting.conclude feature index rule outcome).outcome = .ok decided)
    (otherEnded : (setting.conclude feature index { rule with prerequisites } outcome).outcome = .ok otherDecided) :
    Option.Rel Evaluated.Shuffled decided otherDecided := by
  cases outcome with
  | cyclic | gated =>
      cases ended
      cases otherEnded
      exact .some (.refl _)
  | failed =>
      cases ended
      cases otherEnded
      exact .none
  | passed =>
      cases decided with
      | some result =>
          obtain ⟨_, _, _, value, _, rfl⟩ := (conclude_passed_iff setting feature index rule result).mp ended
          cases otherEnded.symm.trans (conclude_passed_reordered ended prerequisites)
          exact .some ⟨rfl, rfl, rfl, .some shuffled⟩
      | none =>
          cases otherDecided with
          | none => exact .none
          | some result => cases ended.symm.trans (conclude_passed_reordered otherEnded rule.prerequisites)

theorem apply_rule_shuffled (shuffled : rule.Shuffled other)
    (ended : (setting.applyRule evaluate feature index rule).outcome = .ok decided)
    (otherEnded : (setting.applyRule evaluate feature index other).outcome = .ok otherDecided) (acyclic : NotCyclic decided)
    (otherAcyclic : NotCyclic otherDecided) : Option.Rel Evaluated.Shuffled decided otherDecided := by
  cases shuffled with
  | kept =>
      cases ended.symm.trans otherEnded
      cases decided with
      | none => exact .none
      | some result => exact .some (.refl result)
  | shuffled prerequisites gate perm uniform =>
      have shuffled : rule.Shuffled { rule with prerequisites } := .shuffled prerequisites gate perm uniform
      rw [apply_rule_eq, Traced.bind_ok rfl, Traced.bind_returns_iff] at ended otherEnded
      obtain ⟨outcome, checked, concluded⟩ := ended
      obtain ⟨otherOutcome, otherChecked, otherConcluded⟩ := otherEnded
      rw [check_prerequisites_ok_iff] at checked otherChecked
      obtain rfl : outcome = otherOutcome := checked.perm perm uniform otherChecked (concluded_acyclic concluded acyclic)
        (concluded_acyclic otherConcluded otherAcyclic)
      exact conclude_shuffled shuffled outcome concluded otherConcluded

-- Induction on the rules: as long as neither list decides, both go on to the next rule.
theorem apply_rules_shuffled {rules others : List Rule} (pairs : List.Forall₂ Rule.Shuffled rules others) (start : Nat)
    (ended : (setting.applyRules evaluate feature start rules).outcome = .ok decided)
    (otherEnded : (setting.applyRules evaluate feature start others).outcome = .ok otherDecided) (acyclic : NotCyclic decided)
    (otherAcyclic : NotCyclic otherDecided) : Option.Rel Evaluated.Shuffled decided otherDecided := by
  induction pairs generalizing start with
  | nil =>
      cases ended
      cases otherEnded
      exact .none
  | cons shuffled _ ih =>
      rw [apply_rules_cons, Traced.bind_returns_iff] at ended otherEnded
      obtain ⟨first, applied, continued⟩ := ended
      obtain ⟨otherFirst, otherApplied, otherContinued⟩ := otherEnded
      cases apply_rule_shuffled shuffled applied otherApplied (continued_acyclic continued acyclic)
        (continued_acyclic otherContinued otherAcyclic) with
      | none => exact ih (start + 1) continued otherContinued
      | some same =>
          cases continued
          cases otherContinued
          exact .some same

structure Shuffles (setting : Setting) (features : FeatureSet) (id : String) : Prop where
  shuffled : ∃ feature rules, setting.features.get? id = some feature ∧ List.Forall₂ Rule.Shuffled feature.rules rules ∧
    features.get? id = some { feature with rules }
  kept : ∀ other, other ≠ id → features.get? other = setting.features.get? other

theorem prerequisites_commute {features : FeatureSet} {id : String} (shuffles : setting.Shuffles features id)
    (result otherResult : Evaluated) (ended : (setting.evaluate id).outcome = .ok result)
    (otherEnded : ((setting.withFeatures features).evaluate id).outcome = .ok otherResult)
    (acyclic : result.source ≠ .cyclicPrerequisite) (otherAcyclic : otherResult.source ≠ .cyclicPrerequisite) :
    result.Shuffled otherResult := by
  obtain ⟨⟨feature, rules, defined, pairs, redefined⟩, kept⟩ := shuffles
  have nested : (setting.withFeatures features).evaluateAlong [id] = setting.evaluateAlong [id] :=
    funext fun other => evaluate_along_beyond (by simp [defined]) (by simp [redefined]) kept [id] List.mem_cons_self other
  obtain ⟨decided, applied, rfl⟩ := (setting.evaluate_ok_iff id feature defined result).mp ended
  obtain ⟨otherDecided, otherApplied, rfl⟩ :=
    ((setting.withFeatures features).evaluate_ok_iff id _ redefined otherResult).mp otherEnded
  rw [nested, apply_rules_features] at otherApplied
  have decidedAcyclic : NotCyclic decided := by
    rintro result rfl
    exact acyclic
  have otherDecidedAcyclic : NotCyclic otherDecided := by
    rintro result rfl
    exact otherAcyclic
  cases apply_rules_shuffled pairs 0 applied otherApplied decidedAcyclic otherDecidedAcyclic with
  | none => exact .refl _
  | some same => exact same

end Setting

def Rule.gatedBy (parents : List String) : Rule :=
  { Rule.requiring [] with prerequisites := parents.map fun parent => ⟨parent, .obj [("value", .bool true)], true⟩ }

-- The launch waits for a review that failed, and for a build. In one of the orders the build is not looked at.
def Launch.features (gates : List String) : FeatureSet :=
  [("build", ⟨"build", .bool true, []⟩), ("review", ⟨"review", .bool false, []⟩),
    ("launch", ⟨"launch", .bool false, [.gatedBy gates]⟩)]

def launch : Setting :=
  { features := Launch.features ["review", "build"], attributes := [], user := [], hash := bucketHash, sticky := false }

theorem prerequisites_commute_launch : launch.Shuffles (Launch.features ["build", "review"]) "launch" ∧
    ∃ result other, (launch.evaluate "launch").outcome = .ok result ∧
      ((launch.withFeatures (Launch.features ["build", "review"])).evaluate "launch").outcome = .ok other ∧
      result.source = .prerequisite ∧ result.Shuffled other := by
  have shuffles : launch.Shuffles (Launch.features ["build", "review"]) "launch" := by
    refine ⟨⟨_, _, rfl, .cons (.shuffled _ true (.swap _ _ []) ?_) .nil, rfl⟩, fun other different => ?_⟩
    · intro prerequisite among
      rcases List.mem_pair.mp among with rfl | rfl <;> rfl
    · simp only [FeatureSet.get?, Launch.features, launch, List.lookup_cons, beq_false_of_ne different, List.lookup_nil]
  have ended : (launch.evaluate "launch").outcome = .ok (.ofSource "launch" .prerequisite) := by cbv
  have otherEnded : ((launch.withFeatures (Launch.features ["build", "review"])).evaluate "launch").outcome =
      .ok (.ofSource "launch" .prerequisite) := by cbv
  have same := Setting.prerequisites_commute shuffles _ _ ended otherEnded (by decide) (by decide)
  exact ⟨shuffles, _, _, ended, otherEnded, rfl, same⟩

end FeatureFlags
