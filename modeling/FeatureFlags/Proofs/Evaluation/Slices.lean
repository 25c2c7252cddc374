import FeatureFlags.Proofs.Evaluation.Decision
import FeatureFlags.Proofs.Evaluation.Folding
import FeatureFlags.Proofs.Evaluation.Rollout

/-! Rules that share out the hashes of one seed may be tried in any order: ranges are half open, so no hash
lies in two of them, and where the caller cannot be identified for one rule there is the same failure for all.
-/

set_option autoImplicit false

namespace FeatureFlags

namespace Setting

def ruling (setting : Setting) (evaluate : String → Run Evaluated) (feature : String) (rule : Rule) :
    Except EvaluationError (Option Evaluated) :=
  (setting.applyRule evaluate feature 0 rule).outcome

def firstRuling (setting : Setting) (evaluate : String → Run Evaluated) (feature : String) :
    List Rule → Except EvaluationError (Option Evaluated)
  | [] => .ok none
  | rule :: rest => do
      match ← setting.ruling evaluate feature rule with
      | some result => return some result
      | none => setting.firstRuling evaluate feature rest

section

variable (setting : Setting) (evaluate : String → Run Evaluated) (feature : String)

theorem offer_outcome (index other : Nat) (rule : Rule) (included : Bool) :
    (offer feature index rule included).outcome = (offer feature other rule included).outcome := by
  unfold offer
  cases included with
  | false => rfl
  | true => cases rule.variations <;> cases rule.force <;> rfl

theorem conclude_outcome (index other : Nat) (rule : Rule) (outcome : PrerequisiteOutcome) :
    (setting.conclude feature index rule outcome).outcome = (setting.conclude feature other rule outcome).outcome := by
  cases outcome with
  | cyclic | gated | failed => rfl
  | passed =>
      rw [conclude, conclude, Traced.outcome_bind, Traced.outcome_bind]
      refine bind_congr fun holds => ?_
      by_cases asked : rule.hasForce && rule.hasRollout
      · simp only [if_pos asked]
        cases holds with
        | false => rfl
        | true =>
            simp only [Bool.not_true, Bool.false_eq_true, if_false, Traced.outcome_bind]
            exact bind_congr fun included => offer_outcome feature index other rule included
      · simp only [if_neg asked]
        cases holds with
        | false => rfl
        | true => exact offer_outcome feature index other rule true

theorem apply_rule_outcome (index : Nat) (rule : Rule) :
    (setting.applyRule evaluate feature index rule).outcome = setting.ruling evaluate feature rule := by
  rw [ruling, apply_rule_eq, apply_rule_eq]
  simp only [Traced.outcome_bind, Traced.outcome_note]
  exact bind_congr fun _ => bind_congr fun outcome => setting.conclude_outcome feature index 0 rule outcome

theorem apply_rules_outcome (start : Nat) (rules : List Rule) :
    (setting.applyRules evaluate feature start rules).outcome = setting.firstRuling evaluate feature rules := by
  induction rules generalizing start with
  | nil => rfl
  | cons rule rest ih =>
      rw [apply_rules_cons, Traced.outcome_bind, apply_rule_outcome, firstRuling]
      refine bind_congr fun decided => ?_
      cases decided with
      | none => exact ih (start + 1)
      | some result => rfl

end

def Compatible (first second : Except EvaluationError (Option Evaluated)) : Prop :=
  first = .ok none ∨ second = .ok none ∨ first = second

theorem Compatible.symm {first second : Except EvaluationError (Option Evaluated)} (compatible : Compatible first second) :
    Compatible second first := by
  rcases compatible with quiet | quiet | same
  · exact .inr (.inl quiet)
  · exact .inl quiet
  · exact .inr (.inr same.symm)

variable {setting : Setting} {evaluate : String → Run Evaluated} {feature : String}

theorem first_ruling_swap (rule other : Rule) (rest : List Rule)
    (compatible : Compatible (setting.ruling evaluate feature rule) (setting.ruling evaluate feature other)) :
    setting.firstRuling evaluate feature (rule :: other :: rest) =
      setting.firstRuling evaluate feature (other :: rule :: rest) := by
  simp only [firstRuling]
  rcases compatible with quiet | quiet | same
  · rw [quiet]
    rfl
  · rw [quiet]
    rfl
  · rw [same]

theorem first_ruling_perm {rules others : List Rule} (perm : rules.Perm others) (compatible : rules.Pairwise fun rule other =>
      Compatible (setting.ruling evaluate feature rule) (setting.ruling evaluate feature other)) :
    setting.firstRuling evaluate feature rules = setting.firstRuling evaluate feature others := by
  induction perm with
  | nil => rfl
  | cons rule _ ih => rw [firstRuling, firstRuling, ih (List.pairwise_cons.mp compatible).2]
  | swap rule other rest =>
      exact first_ruling_swap other rule rest ((List.pairwise_cons.mp compatible).1 rule List.mem_cons_self)
  | trans front _ first second =>
      exact (first compatible).trans (second ((front.pairwise_iff Compatible.symm).mp compatible))

end Setting

namespace Rule

structure SharesHash (rule other : Rule) : Prop where
  seed : rule.seed = other.seed
  hashAttribute : rule.hashAttribute = other.hashAttribute
  fallbackAttribute : rule.fallbackAttribute = other.fallbackAttribute
  hashVersion : rule.hashVersion = other.hashVersion

def Apart (rule other : Rule) : Prop :=
  ∀ low high next last, rule.range = some (low, high) → other.range = some (next, last) → high.le next ∨ last.le low

theorem Apart.symm {rule other : Rule} (apart : rule.Apart other) : other.Apart rule :=
  fun low high next last held otherHeld => (apart next last low high otherHeld held).symm

theorem Apart.excludes {rule other : Rule} (apart : rule.Apart other) (ranged : rule.range.isSome)
    (otherRanged : other.range.isSome) (hash : Option Number) (inside : rule.includes hash) : ¬ other.includes hash := by
  obtain ⟨⟨low, high⟩, held⟩ := Option.isSome_iff_exists.mp ranged
  obtain ⟨⟨next, last⟩, otherHeld⟩ := Option.isSome_iff_exists.mp otherRanged
  intro otherInside
  obtain ⟨place, asked, reached, under⟩ := (rule.includes_ranged low high held hash).mp inside
  obtain ⟨_, same, otherReached, otherUnder⟩ := (other.includes_ranged next last otherHeld hash).mp otherInside
  cases asked.symm.trans same
  rcases apart low high next last held otherHeld with before | after
  · have below : (Number.float high).le (.float next) := before
    exact Number.not_lt_of_le (Number.le_trans below otherReached) under
  · have below : (Number.float last).le (.float low) := after
    exact Number.not_lt_of_le (Number.le_trans below reached) otherUnder

end Rule

namespace Setting

structure Slice (setting : Setting) (rule : Rule) : Prop where
  prerequisites : rule.prerequisites = []
  condition : ∃ holds, (setting.meetsCondition rule).outcome = .ok holds
  force : rule.force.isSome
  range : rule.range.isSome
  variations : rule.variations = none

structure Slices (setting : Setting) (rules : List Rule) : Prop where
  each : ∀ rule ∈ rules, setting.Slice rule
  shared : ∀ rule ∈ rules, ∀ other ∈ rules, rule.SharesHash other
  apart : rules.Pairwise Rule.Apart

theorem offer_returns (feature : String) (index : Nat) (rule : Rule) (included : Bool) :
    ∃ decided, (offer feature index rule included).outcome = .ok decided := by
  unfold offer
  cases included with
  | false => exact ⟨none, rfl⟩
  | true =>
      cases rule.variations with
      | some variations => exact ⟨none, rfl⟩
      | none => cases rule.force <;> exact ⟨_, rfl⟩

theorem conclude_passed_fails {setting : Setting} {feature : String} {index : Nat} {rule : Rule} {failure : EvaluationError}
    (failed : (setting.conclude feature index rule .passed).outcome = .error failure) :
    (setting.meetsCondition rule).outcome = .error failure ∨ (setting.inRollout feature rule).outcome = .error failure := by
  rw [conclude, Traced.bind_fails_iff] at failed
  rcases failed with failed | ⟨holds, _, failed⟩
  · exact .inl failed
  · cases holds with
    | false => cases failed
    | true =>
        by_cases asked : rule.hasForce && rule.hasRollout
        · simp only [Bool.not_true, Bool.false_eq_true, if_false, if_pos asked, Traced.bind_fails_iff] at failed
          rcases failed with failed | ⟨included, _, failed⟩
          · exact .inr failed
          · obtain ⟨decided, ended⟩ := offer_returns feature index rule included
            cases ended.symm.trans failed
        · simp only [Bool.not_true, Bool.false_eq_true, if_false, if_neg asked] at failed
          obtain ⟨decided, ended⟩ := offer_returns feature index rule true
          cases ended.symm.trans failed

section

variable {setting : Setting} {evaluate : String → Run Evaluated} {feature : String} {rule other : Rule}

theorem Slice.fires_of_decides (slice : setting.Slice rule) {result : Evaluated}
    (decides : setting.Decides evaluate feature rule result) : ∃ value, setting.Fires evaluate feature rule value := by
  cases decides with
  | forced value fires => exact ⟨value, fires⟩
  | cyclic yield | gated yield =>
      rw [slice.prerequisites] at yield
      cases yield with
      | stopped before first after _ split => simp at split

theorem Slice.identity_fails (slice : setting.Slice rule) {failure : EvaluationError}
    (failed : setting.ruling evaluate feature rule = .error failure) :
    setting.identity rule.hashAttribute rule.fallbackAttribute = .error failure := by
  have concluded : (setting.conclude feature 0 rule .passed).outcome = .error failure := by
    rw [ruling, apply_rule_eq, slice.prerequisites] at failed
    exact failed
  rcases conclude_passed_fails concluded with unmet | unknown
  · obtain ⟨holds, met⟩ := slice.condition
    cases met.symm.trans unmet
  · exact setting.in_rollout_fails (.inr slice.range) unknown

theorem Slice.fires_included (slice : setting.Slice rule) {value : Json}
    (fires : setting.Fires evaluate feature rule value) : ∃ name identity,
      setting.identity rule.hashAttribute rule.fallbackAttribute = .ok (name, identity) ∧
        rule.includes (setting.hash (rule.seedFor feature) identity rule.versionUsed) := by
  have asked : rule.hasRollout = true := by simp [Rule.hasRollout, slice.range]
  obtain ⟨name, identity, found, _, included⟩ :=
    (setting.in_rollout_iff feature rule (.inr slice.range)).mp (fires.rollout asked)
  exact ⟨name, identity, found, included⟩

theorem Slice.fires_alone (slice : setting.Slice rule) (otherSlice : setting.Slice other) (shares : rule.SharesHash other)
    (apart : rule.Apart other) {value : Json} (fires : setting.Fires evaluate feature rule value) (otherValue : Json) :
    ¬ setting.Fires evaluate feature other otherValue := by
  intro otherFires
  obtain ⟨name, identity, found, included⟩ := slice.fires_included fires
  obtain ⟨otherName, otherIdentity, otherFound, otherIncluded⟩ := otherSlice.fires_included otherFires
  rw [← shares.hashAttribute, ← shares.fallbackAttribute, found] at otherFound
  obtain ⟨_, rfl⟩ := Prod.mk.inj (Except.ok.inj otherFound)
  have seed : rule.seedFor feature = other.seedFor feature := by rw [Rule.seedFor, Rule.seedFor, shares.seed]
  have version : rule.versionUsed = other.versionUsed := by rw [Rule.versionUsed, Rule.versionUsed, shares.hashVersion]
  rw [← seed, ← version] at otherIncluded
  exact apart.excludes slice.range otherSlice.range _ included otherIncluded

theorem Slice.fires_identified (slice : setting.Slice rule) (otherSlice : setting.Slice other)
    (shares : rule.SharesHash other) {value : Json} (fires : setting.Fires evaluate feature rule value)
    (failure : EvaluationError) : setting.ruling evaluate feature other ≠ .error failure := by
  intro failed
  obtain ⟨name, identity, found, _⟩ := slice.fires_included fires
  have unknown := otherSlice.identity_fails failed
  rw [← shares.hashAttribute, ← shares.fallbackAttribute, found] at unknown
  cases unknown

theorem Slice.ruling_cases (slice : setting.Slice rule) : setting.ruling evaluate feature rule = .ok none ∨
    (∃ value, setting.Fires evaluate feature rule value) ∨ ∃ failure, setting.ruling evaluate feature rule = .error failure := by
  cases ruled : setting.ruling evaluate feature rule with
  | error failure => exact .inr (.inr ⟨failure, rfl⟩)
  | ok decided =>
      cases decided with
      | none => exact .inl rfl
      | some result => exact .inr (.inl (slice.fires_of_decides ((apply_rule_some_iff _ _ _ 0 _ _).mp ruled)))

theorem Slice.compatible (slice : setting.Slice rule) (otherSlice : setting.Slice other) (shares : rule.SharesHash other)
    (back : other.SharesHash rule) (apart : rule.Apart other) :
    Compatible (setting.ruling evaluate feature rule) (setting.ruling evaluate feature other) := by
  rcases slice.ruling_cases with quiet | ⟨value, fires⟩ | ⟨failure, failed⟩
  · exact .inl quiet
  · rcases otherSlice.ruling_cases with quiet | ⟨otherValue, otherFires⟩ | ⟨otherFailure, otherFailed⟩
    · exact .inr (.inl quiet)
    · exact absurd otherFires (slice.fires_alone otherSlice shares apart fires otherValue)
    · exact absurd otherFailed (slice.fires_identified otherSlice shares fires otherFailure)
  · rcases otherSlice.ruling_cases with quiet | ⟨otherValue, otherFires⟩ | ⟨otherFailure, otherFailed⟩
    · exact .inr (.inl quiet)
    · exact absurd failed (otherSlice.fires_identified slice back otherFires failure)
    · have unknown := slice.identity_fails failed
      rw [shares.hashAttribute, shares.fallbackAttribute, otherSlice.identity_fails otherFailed] at unknown
      cases unknown
      exact .inr (.inr (failed.trans otherFailed.symm))

end

variable {setting : Setting} {id : String}

theorem Slices.compatible {rules : List Rule} (slices : setting.Slices rules) (evaluate : String → Run Evaluated) :
    rules.Pairwise fun rule other =>
      Compatible (setting.ruling evaluate id rule) (setting.ruling evaluate id other) := by
  refine slices.apart.imp_of_mem fun {rule other} among otherAmong apart => ?_
  have shares := slices.shared rule among other otherAmong
  have back := slices.shared other otherAmong rule among
  exact (slices.each rule among).compatible (slices.each other otherAmong) shares back apart

theorem Slices.one_fires {rules : List Rule} (slices : setting.Slices rules) (evaluate : String → Run Evaluated)
    {index place : Nat} {rule other : Rule} {value otherValue : Json} (found : rules[index]? = some rule)
    (otherFound : rules[place]? = some other) (fires : setting.Fires evaluate id rule value)
    (otherFires : setting.Fires evaluate id other otherValue) : index = place := by
  obtain ⟨bound, rfl⟩ := List.getElem?_eq_some_iff.mp found
  obtain ⟨otherBound, rfl⟩ := List.getElem?_eq_some_iff.mp otherFound
  have among := List.getElem_mem bound
  have otherAmong := List.getElem_mem otherBound
  have alone (apart : rules[index].Apart rules[place]) : False :=
    (slices.each _ among).fires_alone (slices.each _ otherAmong) (slices.shared _ among _ otherAmong) apart fires _ otherFires
  have ordered := List.pairwise_iff_getElem.mp slices.apart
  rcases Nat.lt_trichotomy index place with before | same | after
  · exact absurd (ordered index place bound otherBound before) alone
  · exact same
  · exact absurd (ordered place index otherBound bound after).symm alone

theorem apply_rules_ungated {rules : List Rule} (ungated : ∀ rule ∈ rules, rule.prerequisites = [])
    (evaluate other : String → Run Evaluated) (start : Nat) :
    setting.applyRules evaluate id start rules = setting.applyRules other id start rules := by
  apply apply_rules_congr
  intro parent asks
  obtain ⟨rule, ofRules, prerequisite, ofRule, _⟩ := setting.asked_rules_member evaluate id start rules parent asks
  rw [ungated rule ofRules] at ofRule
  exact absurd ofRule List.not_mem_nil

theorem Slices.apply_rules_perm {rules others : List Rule} (slices : setting.Slices rules) (perm : others.Perm rules)
    (evaluate otherwise : String → Run Evaluated) :
    (setting.applyRules otherwise id 0 others).outcome = (setting.applyRules evaluate id 0 rules).outcome := by
  have ungated : ∀ rule ∈ others, rule.prerequisites = [] :=
    fun rule ofOthers => (slices.each rule (perm.mem_iff.mp ofOthers)).prerequisites
  rw [apply_rules_ungated ungated otherwise evaluate, apply_rules_outcome, apply_rules_outcome]
  exact (first_ruling_perm perm.symm (slices.compatible evaluate)).symm

theorem disjoint_rules_commute (setting : Setting) (id : String) (feature : Feature)
    (defined : setting.features.get? id = some feature) (slices : setting.Slices feature.rules) :
    (∀ (index place : Nat) (rule other : Rule) (value otherValue : Json), feature.rules[index]? = some rule →
      feature.rules[place]? = some other → setting.Fires (setting.evaluateAlong [id]) id rule value →
      setting.Fires (setting.evaluateAlong [id]) id other otherValue → index = place) ∧
    ∀ features rules, rules.Perm feature.rules → features.get? id = some { feature with rules } →
      ((setting.withFeatures features).evaluate id).outcome = (setting.evaluate id).outcome := by
  refine ⟨fun _ _ _ _ _ _ found otherFound fires otherFires => ?_, fun features rules perm redefined => ?_⟩
  · exact slices.one_fires _ found otherFound fires otherFires
  · have applied : (setting.applyRules ((setting.withFeatures features).evaluateAlong [id]) id 0 rules).outcome =
        (setting.applyRules (setting.evaluateAlong [id]) id 0 feature.rules).outcome :=
      slices.apply_rules_perm perm _ _
    rw [(setting.withFeatures features).evaluate_defined id { feature with rules } redefined,
      setting.evaluate_defined id feature defined]
    simp only [Traced.outcome_bind, Traced.outcome_note, apply_rules_features, applied]

end Setting

def Rule.coloured (colour : String) (low high : Double) : Rule :=
  { Rule.requiring [] with force := some (.str colour), range := some (low, high) }

theorem Rule.coloured_apart (colour other : String) (low high next last : Double) (before : high.le next) :
    (coloured colour low high).Apart (coloured other next last) := by
  intro _ _ _ _ held otherHeld
  cases held
  cases otherHeld
  exact .inl before

def Banner.first : Rule := .coloured "red" (.ofRatio false 0 1) (.ofRatio false 1 2)

def Banner.second : Rule := .coloured "blue" (.ofRatio false 1 2) (.ofRatio false 1 1)

def Banner.feature : Feature := ⟨"banner", .str "grey", [first, second]⟩

def Banner.swapped : FeatureSet := [("banner", { feature with rules := [second, first] })]

def banner : Setting :=
  { features := [("banner", Banner.feature)], attributes := [("id", .str "u2")], user := [], hash := bucketHash,
    sticky := false }

theorem Banner.slices : banner.Slices Banner.feature.rules := by
  refine ⟨?_, ?_, ?_⟩
  · intro rule among
    rcases List.mem_pair.mp among with rfl | rfl <;> exact ⟨rfl, ⟨true, rfl⟩, rfl, rfl, rfl⟩
  · intro rule among other otherAmong
    rcases List.mem_pair.mp among with rfl | rfl <;> rcases List.mem_pair.mp otherAmong with rfl | rfl <;>
      exact ⟨rfl, rfl, rfl, rfl⟩
  · have meet : (Double.ofRatio false 1 2).le (.ofRatio false 1 2) := by decide +kernel
    exact List.pairwise_pair.mpr (Rule.coloured_apart "red" "blue" _ _ _ _ meet)

theorem disjoint_rules_commute_banner : banner.features.get? "banner" = some Banner.feature ∧
    banner.Slices Banner.feature.rules ∧
    ((banner.withFeatures Banner.swapped).evaluate "banner").outcome = (banner.evaluate "banner").outcome := by
  obtain ⟨_, commutes⟩ := banner.disjoint_rules_commute "banner" Banner.feature rfl Banner.slices
  exact ⟨rfl, Banner.slices, commutes Banner.swapped _ (.swap Banner.first Banner.second []) rfl⟩

end FeatureFlags
