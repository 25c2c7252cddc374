import FeatureFlags.Proofs.Evaluation.Agreement

/-! Prerequisites are checked until one does not pass, rules are tried until one decides, and each of these
steps carries agreement of prerequisites over to what is made of them. -/

set_option autoImplicit false

namespace FeatureFlags

variable {γ : Type}

def Step.ofRules : Step → Bool
  | .event _ .evaluating | .event _ .unknown | .event _ (.cyclic _) => false
  | _ => true

structure Own {α : Type} (run : Run α) (post : α → Prop) : Prop where
  steps : ∀ step ∈ run.log, step.ofRules = true
  returned : ∀ value, run.outcome = .ok value → post value

namespace Own

variable {α β : Type}

theorem pure {value : α} {post : α → Prop} (holds : post value) : Own (Pure.pure value) post :=
  ⟨fun _ member => absurd member List.not_mem_nil, fun _ same => Except.ok.inj same ▸ holds⟩

theorem done {value : α} : Own (Pure.pure value) fun _ => True := pure trivial

theorem note {step : Step} (own : step.ofRules = true) : Own (Traced.note step) fun _ => True :=
  ⟨fun _ member => List.mem_singleton.mp member ▸ own, fun _ _ => trivial⟩

theorem silent (outcome : Except EvaluationError α) : Own (Traced.silent outcome) fun _ => True :=
  ⟨fun _ member => absurd member List.not_mem_nil, fun _ _ => trivial⟩

theorem bind {run : Run α} {next : α → Run β} {mid : α → Prop} {post : β → Prop} (first : Own run mid)
    (later : ∀ value, mid value → Own (next value) post) : Own (run >>= next) post := by
  cases ended : run.outcome with
  | error failure =>
      rw [Traced.bind_error ended]
      exact ⟨first.steps, fun _ same => nomatch same⟩
  | ok value =>
      have continued := later value (first.returned value ended)
      rw [Traced.bind_ok ended]
      refine ⟨fun step member => ?_, continued.returned⟩
      exact (List.mem_append.mp member).elim (first.steps step) (continued.steps step)

theorem weaken {run : Run α} {strong weak : α → Prop} (own : Own run strong)
    (implies : ∀ value, strong value → weak value) : Own run weak :=
  ⟨own.steps, fun value ended => implies value (own.returned value ended)⟩

theorem log_view {run : Run α} {post : α → Prop} (own : Own run post) (view : Step → Option γ)
    (quiet : ∀ step, step.ofRules = true → view step = none) : run.log.filterMap view = [] :=
  List.filterMap_eq_nil_iff.mpr fun step member => quiet step (own.steps step member)

end Own

theorem Run.of_verdict_own (verdict : Condition.Verdict) : Own (Run.ofVerdict verdict) fun _ => True := by
  refine ⟨fun step member => ?_, fun _ _ => trivial⟩
  obtain ⟨name, _, same⟩ := List.mem_map.mp member
  rw [← same]
  rfl

namespace Setting

theorem meets_condition_own (setting : Setting) (rule : Rule) :
    Own (setting.meetsCondition rule) fun _ => True := by
  unfold meetsCondition
  split
  · exact Run.of_verdict_own _
  · exact .done

theorem in_rollout_own (setting : Setting) (feature : String) (rule : Rule) :
    Own (setting.inRollout feature rule) fun _ => True := by
  unfold inRollout
  split
  · exact .done
  refine .bind (.silent _) fun (_, identity) _ => ?_
  dsimp only
  split
  · exact .done
  · exact .bind (.note rfl) fun _ _ => .done

end Setting

namespace Prerequisite

def weigh (prerequisite : Prerequisite) : Option Json → Run PrerequisiteOutcome
  | none => return .cyclic
  | some value => do
      let holds ← Run.ofVerdict
        (Condition.matchesAttributes prerequisite.condition (.value (.obj [("value", value)])))
      return if holds then .passed else if prerequisite.gate then .gated else .failed

def check (prerequisite : Prerequisite) (run : Run Evaluated) : Run PrerequisiteOutcome := do
  prerequisite.weigh (← run).seen

theorem weigh_outcome_cyclic (prerequisite : Prerequisite) (value : Json) :
    (prerequisite.weigh (some value)).outcome ≠ .ok .cyclic := by
  simp only [weigh, Traced.outcome_bind, Traced.outcome_pure]
  cases (Run.ofVerdict _).outcome with
  | error failure => simp [Bind.bind, Except.bind]
  | ok holds => cases holds <;> cases prerequisite.gate <;> simp [Bind.bind, Except.bind]

theorem check_cyclic_iff (prerequisite : Prerequisite) (run : Run Evaluated) :
    (prerequisite.check run).outcome = .ok .cyclic ↔ Cyclic run := by
  rw [cyclic_iff_seen, check, Traced.outcome_bind]
  cases run.outcome with
  | error failure => simp [Bind.bind, Except.bind, Except.map]
  | ok result =>
      cases seen : result.seen with
      | none => simp [Bind.bind, Except.bind, Except.map, seen, weigh]
      | some value =>
          simp only [Bind.bind, Except.bind, Except.map, seen, weigh_outcome_cyclic, false_iff]
          simp

end Prerequisite

namespace Setting

theorem check_prerequisites_cons (evaluate : String → Run Evaluated) (prerequisite : Prerequisite)
    (rest : List Prerequisite) :
    checkPrerequisites evaluate (prerequisite :: rest) = (do
      let outcome ← prerequisite.check (evaluate prerequisite.id)
      if outcome = .passed then checkPrerequisites evaluate rest else return outcome) := by
  rw [checkPrerequisites, Prerequisite.check, bind_assoc]
  congr 1
  funext result
  by_cases cyclic : result.source = .cyclicPrerequisite
  · simp [cyclic, Evaluated.seen, Prerequisite.weigh]
  · simp only [if_neg cyclic, Evaluated.seen, Prerequisite.weigh, bind_assoc, pure_bind]
    congr 1
    funext holds
    cases holds <;> cases prerequisite.gate <;> rfl

def offer (feature : String) (index : Nat) (rule : Rule) (included : Bool) : Run (Option Evaluated) := do
  if !included then
    Traced.note (.event feature (.notInRollout index))
    return none
  if rule.variations.isSome then
    Traced.note (.event feature (.notSupported index))
    return none
  match rule.force with
  | some value =>
      Traced.note (.event feature (.forced index))
      return some ⟨feature, value, .force, some rule⟩
  | none => return none

def conclude (setting : Setting) (feature : String) (index : Nat) (rule : Rule) :
    PrerequisiteOutcome → Run (Option Evaluated)
  | .cyclic => return some (.ofSource feature .cyclicPrerequisite)
  | .gated => do
      Traced.note (.event feature (.gateFailed index))
      return some (.ofSource feature .prerequisite)
  | .failed => do
      Traced.note (.event feature (.prerequisiteFailed index))
      return none
  | .passed => do
      if !(← setting.meetsCondition rule) then
        Traced.note (.event feature (.conditionFailed index))
        return none
      else if rule.hasForce && rule.hasRollout then
        offer feature index rule (← setting.inRollout feature rule)
      else offer feature index rule true

def NotCyclic (decided : Option Evaluated) : Prop :=
  ∀ result, decided = some result → result.source ≠ .cyclicPrerequisite

theorem not_cyclic_none : NotCyclic none := fun _ impossible => nomatch impossible

theorem offer_own (feature : String) (index : Nat) (rule : Rule) (included : Bool) :
    Own (offer feature index rule included) NotCyclic := by
  unfold offer
  split
  · exact .bind (.note rfl) fun _ _ => .pure not_cyclic_none
  split
  · exact .bind (.note rfl) fun _ _ => .pure not_cyclic_none
  split
  · refine .bind (.note rfl) fun _ _ => .pure fun result same cyclic => ?_
    rw [← Option.some.inj same] at cyclic
    cases cyclic
  · exact .pure not_cyclic_none

theorem conclude_own (setting : Setting) (feature : String) (index : Nat) (rule : Rule)
    (outcome : PrerequisiteOutcome) :
    Own (setting.conclude feature index rule outcome) fun decided =>
      outcome ≠ .cyclic → NotCyclic decided := by
  cases outcome with
  | cyclic => exact .pure fun acyclic => absurd rfl acyclic
  | gated =>
      refine .bind (.note rfl) fun _ _ => .pure fun _ result same cyclic => ?_
      rw [← Option.some.inj same] at cyclic
      cases cyclic
  | failed => exact .bind (.note rfl) fun _ _ => .pure fun _ => not_cyclic_none
  | passed =>
      unfold conclude
      refine .bind (setting.meets_condition_own rule) fun holds _ => ?_
      split
      · exact .bind (.note rfl) fun _ _ => .pure fun _ => not_cyclic_none
      split
      · exact .bind (setting.in_rollout_own feature rule) fun included _ =>
          (offer_own feature index rule included).weaken fun _ acyclic _ => acyclic
      · exact (offer_own feature index rule true).weaken fun _ acyclic _ => acyclic

theorem apply_rule_eq (setting : Setting) (evaluate : String → Run Evaluated) (feature : String)
    (index : Nat) (rule : Rule) :
    setting.applyRule evaluate feature index rule = (do
      Traced.note (.event feature (.evaluatingRule index rule))
      setting.conclude feature index rule (← checkPrerequisites evaluate rule.prerequisites)) := rfl

theorem apply_rules_cons (setting : Setting) (evaluate : String → Run Evaluated) (feature : String)
    (index : Nat) (rule : Rule) (rest : List Rule) :
    setting.applyRules evaluate feature index (rule :: rest) = (do
      match ← setting.applyRule evaluate feature index rule with
      | some result => return some result
      | none => setting.applyRules evaluate feature (index + 1) rest) := rfl

-- The evaluation of a feature with the evaluation of its prerequisites left open.
def enter (setting : Setting) (evaluate : String → Run Evaluated) (path : List String) (id : String) :
    Run Evaluated := do
  Traced.note (.event id .evaluating)
  match setting.features.get? id with
  | none =>
      Traced.note (.event id .unknown)
      return .ofSource id .unknownFeature
  | some feature =>
      if id ∈ path then
        Traced.note (.event id (.cyclic path))
        return .ofSource id .cyclicPrerequisite
      else
        let decided ← setting.applyRules evaluate id 0 feature.rules
        return decided.getD ⟨id, feature.defaultValue, .default, none⟩

theorem evaluate_along_eq (setting : Setting) (path : List String) (id : String) :
    setting.evaluateAlong path id = setting.enter (setting.evaluateAlong (path ++ [id])) path id := by
  rw [evaluateAlong, enter]
  congr 1
  funext _
  cases setting.features.get? id with
  | none => rfl
  | some feature => by_cases met : id ∈ path <;> simp [met]

theorem check_prerequisites_of_cyclic (evaluate : String → Run Evaluated) (prerequisite : Prerequisite)
    (rest : List Prerequisite) (cyclic : Cyclic (evaluate prerequisite.id)) :
    (checkPrerequisites evaluate (prerequisite :: rest)).outcome = .ok .cyclic := by
  rw [check_prerequisites_cons, Traced.bind_ok ((prerequisite.check_cyclic_iff _).mpr cyclic)]
  rfl

theorem check_prerequisites_of_passed (evaluate : String → Run Evaluated) (prerequisite : Prerequisite)
    (rest : List Prerequisite) (passed : (prerequisite.check (evaluate prerequisite.id)).outcome = .ok .passed) :
    (checkPrerequisites evaluate (prerequisite :: rest)).outcome = (checkPrerequisites evaluate rest).outcome := by
  rw [check_prerequisites_cons, Traced.bind_ok passed, if_pos rfl]

-- Induction on the prerequisites: the first on which the runs part is cyclic in one of them, and a
-- cyclic prerequisite decides at once.
theorem check_prerequisites_agree (view : Step → Option γ) (evaluate other : String → Run Evaluated)
    (prerequisites : List Prerequisite)
    (agree : ∀ prerequisite ∈ prerequisites,
      AgreeOrCyclic view (evaluate prerequisite.id) (other prerequisite.id)) :
    (checkPrerequisites evaluate prerequisites).outcome = .ok .cyclic ∨
      (checkPrerequisites other prerequisites).outcome = .ok .cyclic ∨
      Alike view (checkPrerequisites evaluate prerequisites) (checkPrerequisites other prerequisites) := by
  induction prerequisites with
  | nil => exact .inr (.inr (.refl _))
  | cons prerequisite rest ih =>
      have later := ih fun next member => agree next (List.mem_cons_of_mem _ member)
      rcases agree prerequisite List.mem_cons_self with cyclic | cyclic | stands
      · exact .inl (check_prerequisites_of_cyclic evaluate prerequisite rest cyclic)
      · exact .inr (.inl (check_prerequisites_of_cyclic other prerequisite rest cyclic))
      have alike : Alike view (prerequisite.check (evaluate prerequisite.id))
          (prerequisite.check (other prerequisite.id)) := stands.bind prerequisite.weigh
      by_cases passed : (prerequisite.check (evaluate prerequisite.id)).outcome = .ok .passed
      · rcases later with cyclic | cyclic | same
        · left
          rw [check_prerequisites_of_passed evaluate prerequisite rest passed, cyclic]
        · right; left
          rw [check_prerequisites_of_passed other prerequisite rest (alike.outcome ▸ passed), cyclic]
        · right; right
          rw [check_prerequisites_cons, check_prerequisites_cons]
          refine alike.bind fun outcome returned => ?_
          have isPassed : outcome = .passed := Except.ok.inj (returned.symm.trans passed)
          simpa only [if_pos isPassed] using same
      · right; right
        rw [check_prerequisites_cons, check_prerequisites_cons]
        refine alike.bind fun outcome returned => ?_
        have notPassed : outcome ≠ .passed := fun same => passed (same ▸ returned)
        simpa only [if_neg notPassed] using Alike.refl _

def FoundCycle (feature : String) (run : Run (Option Evaluated)) : Prop :=
  run.outcome = .ok (some (.ofSource feature .cyclicPrerequisite))

theorem apply_rule_of_cyclic (setting : Setting) (evaluate : String → Run Evaluated) (feature : String)
    (index : Nat) (rule : Rule)
    (cyclic : (checkPrerequisites evaluate rule.prerequisites).outcome = .ok .cyclic) :
    FoundCycle feature (setting.applyRule evaluate feature index rule) := by
  rw [FoundCycle, apply_rule_eq, Traced.bind_ok rfl, Traced.bind_ok cyclic]
  rfl

theorem apply_rule_agree (setting : Setting) (view : Step → Option γ)
    (evaluate other : String → Run Evaluated) (feature : String) (index : Nat) (rule : Rule)
    (agree : ∀ prerequisite ∈ rule.prerequisites,
      AgreeOrCyclic view (evaluate prerequisite.id) (other prerequisite.id)) :
    FoundCycle feature (setting.applyRule evaluate feature index rule) ∨
      FoundCycle feature (setting.applyRule other feature index rule) ∨
      Alike view (setting.applyRule evaluate feature index rule)
        (setting.applyRule other feature index rule) := by
  rcases check_prerequisites_agree view evaluate other rule.prerequisites agree with cyclic | cyclic | alike
  · exact .inl (setting.apply_rule_of_cyclic evaluate feature index rule cyclic)
  · exact .inr (.inl (setting.apply_rule_of_cyclic other feature index rule cyclic))
  · right; right
    rw [apply_rule_eq, apply_rule_eq]
    exact (Alike.refl _).bind fun _ _ => alike.bind fun _ _ => .refl _

theorem apply_rules_of_found (setting : Setting) (evaluate : String → Run Evaluated) (feature : String)
    (index : Nat) (rule : Rule) (rest : List Rule)
    (found : FoundCycle feature (setting.applyRule evaluate feature index rule)) :
    FoundCycle feature (setting.applyRules evaluate feature index (rule :: rest)) := by
  rw [FoundCycle, apply_rules_cons, Traced.bind_ok found]
  rfl

theorem apply_rules_of_undecided (setting : Setting) (evaluate : String → Run Evaluated) (feature : String)
    (index : Nat) (rule : Rule) (rest : List Rule)
    (undecided : (setting.applyRule evaluate feature index rule).outcome = .ok none) :
    (setting.applyRules evaluate feature index (rule :: rest)).outcome =
      (setting.applyRules evaluate feature (index + 1) rest).outcome := by
  rw [apply_rules_cons, Traced.bind_ok undecided]

theorem apply_rules_agree (setting : Setting) (view : Step → Option γ)
    (evaluate other : String → Run Evaluated) (feature : String) (index : Nat) (rules : List Rule)
    (agree : ∀ rule ∈ rules, ∀ prerequisite ∈ rule.prerequisites,
      AgreeOrCyclic view (evaluate prerequisite.id) (other prerequisite.id)) :
    FoundCycle feature (setting.applyRules evaluate feature index rules) ∨
      FoundCycle feature (setting.applyRules other feature index rules) ∨
      Alike view (setting.applyRules evaluate feature index rules)
        (setting.applyRules other feature index rules) := by
  induction rules generalizing index with
  | nil => exact .inr (.inr (.refl _))
  | cons rule rest ih =>
      have later := ih (index + 1) fun next member => agree next (List.mem_cons_of_mem _ member)
      rcases setting.apply_rule_agree view evaluate other feature index rule
        (agree rule List.mem_cons_self) with found | found | alike
      · exact .inl (setting.apply_rules_of_found evaluate feature index rule rest found)
      · exact .inr (.inl (setting.apply_rules_of_found other feature index rule rest found))
      · by_cases undecided : (setting.applyRule evaluate feature index rule).outcome = .ok none
        · have otherUndecided := alike.outcome ▸ undecided
          rcases later with found | found | same
          · left
            exact (setting.apply_rules_of_undecided evaluate feature index rule rest undecided).trans found
          · right; left
            exact (setting.apply_rules_of_undecided other feature index rule rest otherUndecided).trans found
          · right; right
            rw [apply_rules_cons, apply_rules_cons]
            refine alike.bind fun decided returned => ?_
            have isNone : decided = none := Except.ok.inj (returned.symm.trans undecided)
            subst decided
            exact same
        · right; right
          rw [apply_rules_cons, apply_rules_cons]
          refine alike.bind fun decided returned => ?_
          cases decided with
          | none => exact absurd returned undecided
          | some result => exact .refl _

theorem enter_of_found (setting : Setting) (evaluate : String → Run Evaluated) (path : List String)
    (id : String) (feature : Feature) (defined : setting.features.get? id = some feature)
    (found : FoundCycle id (setting.applyRules evaluate id 0 feature.rules)) :
    (setting.enter evaluate path id).outcome = .ok (.ofSource id .cyclicPrerequisite) := by
  rw [enter, Traced.bind_ok rfl]
  by_cases met : id ∈ path
  · simp only [defined, if_pos met]
    rfl
  · simp only [defined, if_neg met]
    rw [Traced.bind_ok found]
    rfl

end Setting

def FeatureSet.parents (features : FeatureSet) (id : String) : List String :=
  match features.get? id with
  | none => []
  | some feature => feature.rules.flatMap fun rule => rule.prerequisites.map Prerequisite.id

def FeatureSet.Names (features : FeatureSet) (id parent : String) : Prop := parent ∈ features.parents id

theorem FeatureSet.mem_parents {features : FeatureSet} {id : String} {feature : Feature} {rule : Rule}
    {prerequisite : Prerequisite} (defined : features.get? id = some feature)
    (ofFeature : rule ∈ feature.rules) (ofRule : prerequisite ∈ rule.prerequisites) :
    prerequisite.id ∈ features.parents id := by
  simp only [FeatureSet.parents, defined, List.mem_flatMap, List.mem_map]
  exact ⟨rule, ofFeature, prerequisite, ofRule, rfl⟩

theorem FeatureSet.parents_defined {features : FeatureSet} {id parent : String}
    (member : parent ∈ features.parents id) : ∃ feature, features.get? id = some feature := by
  cases defined : features.get? id with
  | none => simp [FeatureSet.parents, defined] at member
  | some feature => exact ⟨feature, rfl⟩

namespace Setting

theorem enter_of_met (setting : Setting) (evaluate : String → Run Evaluated) (path : List String)
    (id : String) (feature : Feature) (defined : setting.features.get? id = some feature) (met : id ∈ path) :
    setting.enter evaluate path id =
      ⟨[.event id .evaluating, .event id (.cyclic path)], .ok (.ofSource id .cyclicPrerequisite)⟩ := by
  rw [enter, Traced.bind_ok rfl]
  simp only [defined, if_pos met]
  rfl

theorem enter_agree (setting : Setting) (view : Step → Option γ) (evaluate other : String → Run Evaluated)
    (path otherPath : List String) (id : String)
    (agree : id ∉ path → id ∉ otherPath → ∀ parent ∈ setting.features.parents id,
      AgreeOrCyclic view (evaluate parent) (other parent)) :
    Cyclic (setting.enter evaluate path id) ∨ Cyclic (setting.enter other otherPath id) ∨
      Alike view (setting.enter evaluate path id) (setting.enter other otherPath id) := by
  cases defined : setting.features.get? id with
  | none =>
      right; right
      simp only [enter, defined]
      exact .refl _
  | some feature =>
      by_cases met : id ∈ path
      · left
        rw [setting.enter_of_met evaluate path id feature defined met]
        exact ⟨_, rfl, rfl⟩
      by_cases otherMet : id ∈ otherPath
      · right; left
        rw [setting.enter_of_met other otherPath id feature defined otherMet]
        exact ⟨_, rfl, rfl⟩
      rcases setting.apply_rules_agree view evaluate other id 0 feature.rules
        (fun rule ofFeature prerequisite ofRule =>
          agree met otherMet _ (FeatureSet.mem_parents defined ofFeature ofRule)) with found | found | alike
      · exact .inl ⟨_, setting.enter_of_found evaluate path id feature defined found, rfl⟩
      · exact .inr (.inl ⟨_, setting.enter_of_found other otherPath id feature defined found, rfl⟩)
      · right; right
        simp only [enter, defined, if_neg met, if_neg otherMet]
        exact (Alike.refl _).bind fun _ _ => alike.bind fun _ _ => .refl _

end Setting
end FeatureFlags
