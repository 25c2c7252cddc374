import FeatureFlags.Proofs.Evaluation.Calls
import FeatureFlags.Proofs.Result

/-! A rule decides if its prerequisites are cyclic or gated, or if it fires: its prerequisites pass, its
condition holds, it says a value, the caller is in its rollout, and it has no variations. -/

set_option autoImplicit false

namespace FeatureFlags

theorem Run.of_verdict_ok_iff (verdict : Condition.Verdict) (holds : Bool) :
    (Run.ofVerdict verdict).outcome = .ok holds ↔ verdict.outcome = .ok holds :=
  map_error_ok_iff _ _ _

namespace Prerequisite

def Weighs (prerequisite : Prerequisite) (run : Run Evaluated) (holds : Bool) : Prop :=
  ∃ result, run.outcome = .ok result ∧ result.source ≠ .cyclicPrerequisite ∧
    (Condition.matchesAttributes prerequisite.condition (.value (.obj [("value", result.value)]))).outcome = .ok holds

inductive Yields (prerequisite : Prerequisite) (run : Run Evaluated) : PrerequisiteOutcome → Prop where
  | cyclic (met : Cyclic run) : Yields prerequisite run .cyclic
  | passed (met : prerequisite.Weighs run true) : Yields prerequisite run .passed
  | gated (unmet : prerequisite.Weighs run false) (gate : prerequisite.gate = true) : Yields prerequisite run .gated
  | failed (unmet : prerequisite.Weighs run false) (ungated : prerequisite.gate = false) : Yields prerequisite run .failed

theorem weigh_ok_iff (prerequisite : Prerequisite) (value : Json) (outcome : PrerequisiteOutcome) :
    (prerequisite.weigh (some value)).outcome = .ok outcome ↔ ∃ holds,
      (Condition.matchesAttributes prerequisite.condition (.value (.obj [("value", value)]))).outcome = .ok holds ∧
        (if holds then .passed else if prerequisite.gate then .gated else .failed) = outcome := by
  rw [weigh, Traced.bind_returns_iff]
  simp only [Run.of_verdict_ok_iff, Traced.outcome_pure, Except.ok.injEq]

theorem check_ok_iff (prerequisite : Prerequisite) (run : Run Evaluated) (outcome : PrerequisiteOutcome) :
    (prerequisite.check run).outcome = .ok outcome ↔ prerequisite.Yields run outcome := by
  constructor
  · intro checked
    by_cases cyclic : Cyclic run
    · have known := (prerequisite.check_cyclic_iff run).mpr cyclic
      cases Except.ok.inj (known.symm.trans checked)
      exact .cyclic cyclic
    · rw [check, Traced.bind_returns_iff] at checked
      obtain ⟨result, ended, weighed⟩ := checked
      have acyclic : result.source ≠ .cyclicPrerequisite := fun source => cyclic ⟨result, ended, source⟩
      rw [Evaluated.seen, if_neg acyclic, weigh_ok_iff] at weighed
      obtain ⟨holds, matched, same⟩ := weighed
      cases holds with
      | true => exact same ▸ .passed ⟨result, ended, acyclic, matched⟩
      | false =>
          cases gate : prerequisite.gate with
          | true =>
              rw [gate] at same
              exact same ▸ .gated ⟨result, ended, acyclic, matched⟩ gate
          | false =>
              rw [gate] at same
              exact same ▸ .failed ⟨result, ended, acyclic, matched⟩ gate
  · have weighs (holds : Bool) (weighed : prerequisite.Weighs run holds) : (prerequisite.check run).outcome =
        .ok (if holds then .passed else if prerequisite.gate then .gated else .failed) := by
      obtain ⟨result, ended, acyclic, matched⟩ := weighed
      rw [check, Traced.bind_returns_iff]
      refine ⟨result, ended, ?_⟩
      rw [Evaluated.seen, if_neg acyclic, weigh_ok_iff]
      exact ⟨holds, matched, rfl⟩
    intro yields
    cases yields with
    | cyclic met => exact (prerequisite.check_cyclic_iff run).mpr met
    | passed met => exact weighs true met
    | gated unmet gate => simpa [gate] using weighs false unmet
    | failed unmet ungated => simpa [ungated] using weighs false unmet

theorem Yields.unique {prerequisite : Prerequisite} {run : Run Evaluated} {outcome other : PrerequisiteOutcome}
    (yields : prerequisite.Yields run outcome) (others : prerequisite.Yields run other) : outcome = other := by
  rw [← check_ok_iff] at yields others
  exact Except.ok.inj (yields.symm.trans others)

end Prerequisite

inductive PrerequisitesYield (evaluate : String → Run Evaluated) (prerequisites : List Prerequisite) :
    PrerequisiteOutcome → Prop where
  | passed (met : ∀ prerequisite ∈ prerequisites, prerequisite.Yields (evaluate prerequisite.id) .passed) :
      PrerequisitesYield evaluate prerequisites .passed
  | stopped (before : List Prerequisite) (first : Prerequisite) (after : List Prerequisite) (outcome : PrerequisiteOutcome)
      (split : prerequisites = before ++ first :: after)
      (met : ∀ earlier ∈ before, earlier.Yields (evaluate earlier.id) .passed)
      (yields : first.Yields (evaluate first.id) outcome) (unmet : outcome ≠ .passed) :
      PrerequisitesYield evaluate prerequisites outcome

namespace PrerequisitesYield

variable {evaluate : String → Run Evaluated} {prerequisite : Prerequisite} {rest : List Prerequisite}
  {outcome : PrerequisiteOutcome}

theorem cons_passed (met : prerequisite.Yields (evaluate prerequisite.id) .passed) :
    PrerequisitesYield evaluate (prerequisite :: rest) outcome ↔ PrerequisitesYield evaluate rest outcome := by
  constructor
  · intro yield
    cases yield with
    | passed all => exact .passed (List.forall_mem_cons.mp all).2
    | stopped before first after _ split earlier yields unmet =>
        cases before with
        | nil =>
            cases split
            exact absurd (yields.unique met) unmet
        | cons _ before =>
            cases split
            exact .stopped before first after _ rfl (List.forall_mem_cons.mp earlier).2 yields unmet
  · intro yield
    cases yield with
    | passed all => exact .passed (List.forall_mem_cons.mpr ⟨met, all⟩)
    | stopped before first after _ split earlier yields unmet =>
        exact .stopped (prerequisite :: before) first after _ (congrArg (prerequisite :: ·) split)
          (List.forall_mem_cons.mpr ⟨met, earlier⟩) yields unmet

theorem cons_stopped (unmet : ¬ prerequisite.Yields (evaluate prerequisite.id) .passed) :
    PrerequisitesYield evaluate (prerequisite :: rest) outcome ↔ prerequisite.Yields (evaluate prerequisite.id) outcome := by
  constructor
  · intro yield
    cases yield with
    | passed all => exact absurd (List.forall_mem_cons.mp all).1 unmet
    | stopped before first after _ split earlier yields _ =>
        cases before with
        | nil =>
            cases split
            exact yields
        | cons _ before =>
            cases split
            exact absurd (List.forall_mem_cons.mp earlier).1 unmet
  · intro yields
    exact .stopped [] prerequisite rest _ rfl (by simp) yields fun passed => unmet (passed ▸ yields)

end PrerequisitesYield

namespace Setting

theorem check_prerequisites_ok_iff (evaluate : String → Run Evaluated) (prerequisites : List Prerequisite)
    (outcome : PrerequisiteOutcome) : (checkPrerequisites evaluate prerequisites).outcome = .ok outcome ↔
      PrerequisitesYield evaluate prerequisites outcome := by
  induction prerequisites with
  | nil =>
      rw [checkPrerequisites, Traced.outcome_pure]
      constructor
      · intro same
        cases same
        exact .passed (by simp)
      · intro yield
        cases yield with
        | passed => rfl
        | stopped before first after _ split => simp at split
  | cons prerequisite rest ih =>
      rw [check_prerequisites_cons, Traced.bind_returns_iff]
      simp only [prerequisite.check_ok_iff]
      by_cases met : prerequisite.Yields (evaluate prerequisite.id) .passed
      · rw [PrerequisitesYield.cons_passed met, ← ih]
        constructor
        · rintro ⟨first, yields, continued⟩
          cases yields.unique met
          exact continued
        · exact fun continued => ⟨.passed, met, continued⟩
      · rw [PrerequisitesYield.cons_stopped met]
        constructor
        · rintro ⟨first, yields, continued⟩
          have stopped : first ≠ .passed := fun passed => met (passed ▸ yields)
          rw [if_neg stopped] at continued
          exact Except.ok.inj continued ▸ yields
        · intro yields
          have stopped : outcome ≠ .passed := fun passed => met (passed ▸ yields)
          exact ⟨outcome, yields, by rw [if_neg stopped]; rfl⟩

structure Fires (setting : Setting) (evaluate : String → Run Evaluated) (feature : String) (rule : Rule) (value : Json) :
    Prop where
  prerequisites : PrerequisitesYield evaluate rule.prerequisites .passed
  condition : ∀ condition, rule.condition = some condition →
    (Condition.matchesAttributes condition (.value (.obj setting.attributes))).outcome = .ok true
  force : rule.force = some value
  rollout : rule.hasRollout = true → (setting.inRollout feature rule).outcome = .ok true
  variations : rule.variations = none

inductive Decides (setting : Setting) (evaluate : String → Run Evaluated) (feature : String) (rule : Rule) :
    Evaluated → Prop where
  | forced (value : Json) (fires : setting.Fires evaluate feature rule value) :
      Decides setting evaluate feature rule ⟨feature, value, .force, some rule⟩
  | cyclic (yield : PrerequisitesYield evaluate rule.prerequisites .cyclic) :
      Decides setting evaluate feature rule (.ofSource feature .cyclicPrerequisite)
  | gated (yield : PrerequisitesYield evaluate rule.prerequisites .gated) :
      Decides setting evaluate feature rule (.ofSource feature .prerequisite)

theorem meets_condition_iff (setting : Setting) (rule : Rule) : (setting.meetsCondition rule).outcome = .ok true ↔
    ∀ condition, rule.condition = some condition →
      (Condition.matchesAttributes condition (.value (.obj setting.attributes))).outcome = .ok true := by
  unfold meetsCondition
  cases rule.condition with
  | none => simp
  | some condition => simp [Run.of_verdict_ok_iff]

theorem offer_some_iff (feature : String) (index : Nat) (rule : Rule) (included : Bool) (result : Evaluated) :
    (offer feature index rule included).outcome = .ok (some result) ↔ included = true ∧ rule.variations = none ∧
      ∃ value, rule.force = some value ∧ result = ⟨feature, value, .force, some rule⟩ := by
  unfold offer
  cases included with
  | false => simp
  | true =>
      cases rule.variations with
      | some variations => simp
      | none => cases rule.force <;> simp [eq_comm]

theorem conclude_passed_iff (setting : Setting) (feature : String) (index : Nat) (rule : Rule) (result : Evaluated) :
    (setting.conclude feature index rule .passed).outcome = .ok (some result) ↔
      (setting.meetsCondition rule).outcome = .ok true ∧ rule.variations = none ∧
        (rule.hasRollout = true → (setting.inRollout feature rule).outcome = .ok true) ∧
        ∃ value, rule.force = some value ∧ result = ⟨feature, value, .force, some rule⟩ := by
  rw [conclude, Traced.bind_returns_iff]
  constructor
  · rintro ⟨holds, meets, ended⟩
    cases holds with
    | false => simp at ended
    | true =>
        by_cases asked : rule.hasForce && rule.hasRollout
        · simp only [Bool.not_true, Bool.false_eq_true, if_false, if_pos asked, Traced.bind_returns_iff, offer_some_iff] at ended
          obtain ⟨inside, included, rfl, unsupported, said⟩ := ended
          exact ⟨meets, unsupported, fun _ => included, said⟩
        · simp only [Bool.not_true, Bool.false_eq_true, if_false, if_neg asked, offer_some_iff, true_and] at ended
          obtain ⟨unsupported, value, force, said⟩ := ended
          refine ⟨meets, unsupported, fun rollout => ?_, value, force, said⟩
          exact absurd (by simp [Rule.hasForce, force, rollout]) asked
  · rintro ⟨meets, unsupported, included, value, force, said⟩
    refine ⟨true, meets, ?_⟩
    by_cases asked : rule.hasForce && rule.hasRollout
    · simp only [Bool.not_true, Bool.false_eq_true, if_false, if_pos asked, Traced.bind_returns_iff, offer_some_iff]
      exact ⟨true, included (Bool.and_eq_true_iff.mp asked).2, rfl, unsupported, value, force, said⟩
    · simp only [Bool.not_true, Bool.false_eq_true, if_false, if_neg asked, offer_some_iff, true_and]
      exact ⟨unsupported, value, force, said⟩

theorem apply_rule_some_iff (setting : Setting) (evaluate : String → Run Evaluated) (feature : String) (index : Nat)
    (rule : Rule) (result : Evaluated) :
    (setting.applyRule evaluate feature index rule).outcome = .ok (some result) ↔
      setting.Decides evaluate feature rule result := by
  rw [apply_rule_eq, Traced.bind_ok rfl, Traced.bind_returns_iff]
  simp only [check_prerequisites_ok_iff]
  constructor
  · rintro ⟨outcome, yield, concluded⟩
    cases outcome with
    | cyclic =>
        cases concluded
        exact .cyclic yield
    | gated =>
        cases concluded
        exact .gated yield
    | failed => cases concluded
    | passed =>
        obtain ⟨meets, unsupported, included, value, force, rfl⟩ := (conclude_passed_iff _ _ _ _ _).mp concluded
        exact .forced value ⟨yield, (setting.meets_condition_iff rule).mp meets, force, included, unsupported⟩
  · intro decides
    cases decides with
    | cyclic yield => exact ⟨.cyclic, yield, rfl⟩
    | gated yield => exact ⟨.gated, yield, rfl⟩
    | forced value fires =>
        refine ⟨.passed, fires.prerequisites, (conclude_passed_iff _ _ _ _ _).mpr ?_⟩
        exact ⟨(setting.meets_condition_iff rule).mpr fires.condition, fires.variations, fires.rollout, value, fires.force, rfl⟩

structure DecidedAt (setting : Setting) (evaluate : String → Run Evaluated) (feature : String) (start : Nat)
    (rules : List Rule) (index : Nat) (result : Evaluated) : Prop where
  decides : ∃ rule, rules[index]? = some rule ∧
    (setting.applyRule evaluate feature (start + index) rule).outcome = .ok (some result)
  undecided : ∀ earlier < index, ∀ rule, rules[earlier]? = some rule →
    (setting.applyRule evaluate feature (start + earlier) rule).outcome = .ok none

section

variable {setting : Setting} {evaluate : String → Run Evaluated} {feature : String} {start index : Nat} {rule : Rule}
  {rest : List Rule} {result : Evaluated}

theorem decided_first (decides : (setting.applyRule evaluate feature start rule).outcome = .ok (some result)) :
    setting.DecidedAt evaluate feature start (rule :: rest) 0 result :=
  ⟨⟨rule, rfl, decides⟩, fun _ before => absurd before (Nat.not_lt_zero _)⟩

theorem decided_later_iff : setting.DecidedAt evaluate feature start (rule :: rest) (index + 1) result ↔
    (setting.applyRule evaluate feature start rule).outcome = .ok none ∧
      setting.DecidedAt evaluate feature (start + 1) rest index result := by
  have shifted (offset : Nat) : start + (offset + 1) = start + 1 + offset := by omega
  constructor
  · rintro ⟨⟨deciding, found, decides⟩, undecided⟩
    refine ⟨undecided 0 (Nat.succ_pos index) rule rfl, ⟨deciding, found, shifted index ▸ decides⟩, ?_⟩
    intro earlier before other otherFound
    exact shifted earlier ▸ undecided (earlier + 1) (Nat.succ_lt_succ before) other otherFound
  · rintro ⟨first, ⟨deciding, found, decides⟩, undecided⟩
    refine ⟨⟨deciding, found, shifted index ▸ decides⟩, ?_⟩
    intro earlier before other otherFound
    cases earlier with
    | zero =>
        cases otherFound
        exact first
    | succ earlier => exact shifted earlier ▸ undecided earlier (Nat.lt_of_succ_lt_succ before) other otherFound

end

-- Induction on the rules: the first decides, or it is passed over and the rest is numbered from the next.
theorem apply_rules_some_iff (setting : Setting) (evaluate : String → Run Evaluated) (feature : String) (start : Nat)
    (rules : List Rule) (result : Evaluated) :
    (setting.applyRules evaluate feature start rules).outcome = .ok (some result) ↔
      ∃ index, setting.DecidedAt evaluate feature start rules index result := by
  induction rules generalizing start with
  | nil =>
      constructor
      · intro impossible
        cases impossible
      · rintro ⟨index, ⟨rule, found, _⟩, _⟩
        cases found
  | cons rule rest ih =>
      rw [apply_rules_cons, Traced.bind_returns_iff]
      constructor
      · rintro ⟨decided, applied, continued⟩
        cases decided with
        | none =>
            obtain ⟨index, decidedAt⟩ := (ih (start + 1)).mp continued
            exact ⟨index + 1, decided_later_iff.mpr ⟨applied, decidedAt⟩⟩
        | some other =>
            cases continued
            exact ⟨0, decided_first applied⟩
      · rintro ⟨index, decidedAt⟩
        cases index with
        | zero =>
            obtain ⟨⟨other, found, decides⟩, _⟩ := decidedAt
            cases found
            exact ⟨some result, decides, rfl⟩
        | succ index =>
            obtain ⟨applied, later⟩ := decided_later_iff.mp decidedAt
            exact ⟨none, applied, (ih (start + 1)).mpr ⟨index, later⟩⟩

theorem apply_rules_none (setting : Setting) (evaluate : String → Run Evaluated) (feature : String) (start : Nat)
    (rules : List Rule) (undecided : (setting.applyRules evaluate feature start rules).outcome = .ok none) (rule : Rule)
    (ofRules : rule ∈ rules) (result : Evaluated) : ¬ setting.Decides evaluate feature rule result := by
  induction rules generalizing start with
  | nil => cases ofRules
  | cons first rest ih =>
      rw [apply_rules_cons, Traced.bind_returns_iff] at undecided
      obtain ⟨decided, applied, continued⟩ := undecided
      cases decided with
      | some other => cases continued
      | none =>
          rcases List.mem_cons.mp ofRules with rfl | later
          · intro decides
            cases applied.symm.trans ((apply_rule_some_iff setting evaluate feature start rule result).mpr decides)
          · exact ih (start + 1) continued later

theorem evaluate_undefined (setting : Setting) (id : String) (undefined : setting.features.get? id = none) :
    (setting.evaluate id).outcome = .ok (.ofSource id .unknownFeature) := by
  rw [evaluate, evaluate_along_eq, enter, Traced.bind_ok rfl]
  simp only [undefined]
  rfl

theorem evaluate_defined (setting : Setting) (id : String) (feature : Feature)
    (defined : setting.features.get? id = some feature) : setting.evaluate id = (do
      Traced.note (.event id .evaluating)
      let decided ← setting.applyRules (setting.evaluateAlong [id]) id 0 feature.rules
      return decided.getD ⟨id, feature.defaultValue, .default, none⟩) := by
  rw [evaluate, evaluate_along_eq, enter]
  simp only [defined, List.not_mem_nil, if_false]
  rfl

theorem evaluate_ok_iff (setting : Setting) (id : String) (feature : Feature)
    (defined : setting.features.get? id = some feature) (result : Evaluated) :
    (setting.evaluate id).outcome = .ok result ↔ ∃ decided,
      (setting.applyRules (setting.evaluateAlong [id]) id 0 feature.rules).outcome = .ok decided ∧
        decided.getD ⟨id, feature.defaultValue, .default, none⟩ = result := by
  rw [setting.evaluate_defined id feature defined, Traced.bind_ok rfl, Traced.bind_returns_iff]
  simp only [Traced.outcome_pure, Except.ok.injEq]

structure FirstToDecide (setting : Setting) (id : String) (rules : List Rule) (index : Nat) (result : Evaluated) : Prop where
  decides : ∃ rule, rules[index]? = some rule ∧ setting.Decides (setting.evaluateAlong [id]) id rule result
  earlier : ∀ before < index, ∀ rule, rules[before]? = some rule →
    ∀ other, ¬ setting.Decides (setting.evaluateAlong [id]) id rule other

theorem DecidedAt.first {setting : Setting} {id : String} {start index : Nat} {rules : List Rule} {result : Evaluated}
    (decidedAt : setting.DecidedAt (setting.evaluateAlong [id]) id start rules index result) :
    setting.FirstToDecide id rules index result := by
  obtain ⟨⟨rule, found, decides⟩, undecided⟩ := decidedAt
  refine ⟨⟨rule, found, (apply_rule_some_iff _ _ _ _ _ _).mp decides⟩, ?_⟩
  intro before earlier other otherFound result otherDecides
  have passedOver := undecided before earlier other otherFound
  cases passedOver.symm.trans ((apply_rule_some_iff _ _ _ _ _ _).mpr otherDecides)

inductive Resolves (setting : Setting) (id : String) (feature : Feature) : Evaluated → Prop where
  | rule (index : Nat) (result : Evaluated) (first : setting.FirstToDecide id feature.rules index result) :
      Resolves setting id feature result
  | default (undecided : ∀ rule ∈ feature.rules, ∀ other, ¬ setting.Decides (setting.evaluateAlong [id]) id rule other) :
      Resolves setting id feature ⟨id, feature.defaultValue, .default, none⟩

theorem resolves (setting : Setting) (id : String) (feature : Feature) (defined : setting.features.get? id = some feature)
    (result : Evaluated) (ended : (setting.evaluate id).outcome = .ok result) : setting.Resolves id feature result := by
  obtain ⟨decided, applied, same⟩ := (setting.evaluate_ok_iff id feature defined result).mp ended
  cases decided with
  | none => exact same ▸ .default (setting.apply_rules_none _ id 0 feature.rules applied)
  | some other =>
      obtain ⟨index, decidedAt⟩ := (setting.apply_rules_some_iff _ id 0 feature.rules other).mp applied
      exact .rule index result (same ▸ decidedAt.first)

theorem Resolves.known {setting : Setting} {id : String} {feature : Feature} {result : Evaluated}
    (resolves : setting.Resolves id feature result) : result.source ≠ .unknownFeature := by
  cases resolves with
  | default => simp
  | rule index _ first =>
      obtain ⟨rule, _, decides⟩ := first.decides
      cases decides with
      | forced | cyclic | gated => simp [Evaluated.ofSource]

theorem first_rule_decides (setting : Setting) (id : String) :
    (setting.features.get? id = none ↔
      ∃ result, (setting.evaluate id).outcome = .ok result ∧ result.source = .unknownFeature) ∧
    ∀ feature, setting.features.get? id = some feature → ∀ result, (setting.evaluate id).outcome = .ok result →
      setting.Resolves id feature result := by
  refine ⟨⟨fun undefined => ⟨_, setting.evaluate_undefined id undefined, rfl⟩, ?_⟩, setting.resolves id⟩
  rintro ⟨result, ended, unknown⟩
  cases defined : setting.features.get? id with
  | none => rfl
  | some feature => exact absurd unknown (setting.resolves id feature defined result ended).known

end Setting

def Rule.inCountry (country value : String) : Rule :=
  { Rule.requiring [] with condition := some (.obj [("country", .str country)]), force := some (.str value) }

def sale : Setting :=
  { features := [("sale", ⟨"sale", .str "closed",
      [.inCountry "US" "early", .inCountry "CH" "open", { Rule.requiring [] with force := some (.str "late") }]⟩)],
    attributes := [("country", .str "CH")], user := [], hash := bucketHash, sticky := false }

theorem first_rule_decides_sale :
    ∃ feature result, sale.features.get? "sale" = some feature ∧ (sale.evaluate "sale").outcome = .ok result ∧
      result.value = .str "open" ∧ sale.Resolves "sale" feature result := by
  have ended : (sale.evaluate "sale").outcome =
      .ok ⟨"sale", .str "open", .force, some (.inCountry "CH" "open")⟩ := by
    rw [Setting.evaluate, Setting.evaluate_along_eq]
    rfl
  exact ⟨_, _, rfl, ended, rfl, (sale.first_rule_decides "sale").2 _ rfl _ ended⟩

end FeatureFlags
