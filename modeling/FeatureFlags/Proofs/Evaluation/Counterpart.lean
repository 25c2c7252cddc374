import FeatureFlags.Proofs.Evaluation.Asked
import Mathlib.Data.List.Forall2
import Mathlib.Logic.Relation

/-! A rule under one setting has a counterpart under another if both have the same prerequisites and come to
the same once these are checked. What counts as alike is open: what is shown of a result, and which steps are
in view. -/

set_option autoImplicit false

namespace FeatureFlags

variable {α β γ δ ε : Type}

structure AgreeOn (view : Step → Option γ) (shown : α → δ) (first second : Run α) : Prop where
  outcome : first.outcome.map shown = second.outcome.map shown
  log : first.log.filterMap view = second.log.filterMap view

namespace AgreeOn

variable {view : Step → Option γ} {shown : α → δ} {first second : Run α}

theorem of_eq (same : first = second) : AgreeOn view shown first second := by
  subst second
  exact ⟨rfl, rfl⟩

theorem of_alike (shown : α → δ) (alike : Alike view first second) : AgreeOn view shown first second :=
  ⟨congrArg (Except.map shown) alike.outcome, alike.log⟩

theorem pure {value other : α} (same : shown value = shown other) :
    AgreeOn view shown (Pure.pure value) (Pure.pure other) :=
  ⟨congrArg Except.ok same, rfl⟩

theorem note {step other : Step} (same : view step = view other) :
    AgreeOn view (id : Unit → Unit) (Traced.note step) (Traced.note other) :=
  ⟨rfl, by simp only [Traced.note, List.filterMap_cons, same, List.filterMap_nil]⟩

theorem ends (agree : AgreeOn view shown first second) :
    (∃ failure, first.outcome = .error failure ∧ second.outcome = .error failure) ∨
      ∃ value other, first.outcome = .ok value ∧ second.outcome = .ok other ∧ shown value = shown other := by
  have outcomes := agree.outcome
  cases ended : first.outcome with
  | error failure =>
      cases otherEnded : second.outcome with
      | error other =>
          rw [ended, otherEnded] at outcomes
          exact .inl ⟨failure, rfl, congrArg Except.error (Except.error.inj outcomes).symm⟩
      | ok other =>
          rw [ended, otherEnded] at outcomes
          cases outcomes
  | ok value =>
      cases otherEnded : second.outcome with
      | error other =>
          rw [ended, otherEnded] at outcomes
          cases outcomes
      | ok other =>
          rw [ended, otherEnded] at outcomes
          exact .inr ⟨value, other, rfl, rfl, Except.ok.inj outcomes⟩

theorem bind {result : β → ε} {next other : α → Run β} (agree : AgreeOn view shown first second)
    (continued : ∀ value counterpart, first.outcome = .ok value → second.outcome = .ok counterpart →
      shown value = shown counterpart → AgreeOn view result (next value) (other counterpart)) :
    AgreeOn view result (first >>= next) (second >>= other) := by
  rcases agree.ends with ⟨failure, failed, otherFailed⟩ | ⟨value, counterpart, ended, otherEnded, same⟩
  · rw [Traced.bind_error failed, Traced.bind_error otherFailed]
    exact ⟨rfl, agree.log⟩
  · have later := continued value counterpart ended otherEnded same
    rw [Traced.bind_ok ended, Traced.bind_ok otherEnded]
    exact ⟨later.outcome, by simp only [List.filterMap_append, agree.log, later.log]⟩

theorem bind_same {result : β → ε} (run : Run α) {next other : α → Run β}
    (continued : ∀ value, AgreeOn view result (next value) (other value)) :
    AgreeOn view result (run >>= next) (run >>= other) := by
  have agree : AgreeOn view id run run := .of_eq rfl
  apply agree.bind
  intro value counterpart _ _ same
  obtain rfl : value = counterpart := same
  exact continued value

theorem eq_of_all {run counterpart : Run α} (agree : AgreeOn some id run counterpart) : run = counterpart := by
  apply Alike.eq_of_all
  exact ⟨by simpa only [Except.map_id, id] using agree.outcome, agree.log⟩

end AgreeOn

def ShowsSeen (shown : Evaluated → δ) : Prop := ∀ result other, shown result = shown other → result.seen = other.seen

theorem AgreeOn.stands {view : Step → Option γ} {shown : Evaluated → δ} {first second : Run Evaluated}
    (agree : AgreeOn view shown first second) (telling : ShowsSeen shown) : StandsIn view first second := by
  refine ⟨?_, agree.log⟩
  rcases agree.ends with ⟨failure, failed, otherFailed⟩ | ⟨value, counterpart, ended, otherEnded, same⟩
  · rw [failed, otherFailed]
  · rw [ended, otherEnded]
    exact congrArg Except.ok (telling value counterpart same)

namespace Setting

theorem check_prerequisites_stand (view : Step → Option γ) (evaluate other : String → Run Evaluated)
    (prerequisites : List Prerequisite)
    (stand : ∀ prerequisite ∈ prerequisites, StandsIn view (evaluate prerequisite.id) (other prerequisite.id)) :
    Alike view (checkPrerequisites evaluate prerequisites) (checkPrerequisites other prerequisites) := by
  induction prerequisites with
  | nil => exact .refl _
  | cons prerequisite rest ih =>
      obtain ⟨first, later⟩ := List.forall_mem_cons.mp stand
      have checked : Alike view (prerequisite.check (evaluate prerequisite.id)) (prerequisite.check (other prerequisite.id)) :=
        first.bind prerequisite.weigh
      rw [check_prerequisites_cons, check_prerequisites_cons]
      apply checked.bind
      intro outcome _
      by_cases passed : outcome = .passed
      · simpa only [if_pos passed] using ih later
      · simpa only [if_neg passed] using Alike.refl _

structure Counterparts (setting other : Setting) (view : Step → Option γ) (shown : Evaluated → δ) (feature : String)
    (rule counterpart : Rule) : Prop where
  prerequisites : rule.prerequisites = counterpart.prerequisites
  announced : ∀ index, view (.event feature (.evaluatingRule index rule)) =
    view (.event feature (.evaluatingRule index counterpart))
  concluded : ∀ index outcome, AgreeOn view (Option.map shown) (setting.conclude feature index rule outcome)
    (other.conclude feature index counterpart outcome)

inductive Corresponds (setting other : Setting) (view : Step → Option γ) (shown : Evaluated → δ) (id : String) : Prop where
  | undefined (here : setting.features.get? id = none) (there : other.features.get? id = none) :
      Corresponds setting other view shown id
  | defined (feature counterpart : Feature) (here : setting.features.get? id = some feature)
      (there : other.features.get? id = some counterpart) (value : feature.defaultValue = counterpart.defaultValue)
      (rules : List.Forall₂ (Counterparts setting other view shown id) feature.rules counterpart.rules) :
      Corresponds setting other view shown id

variable {setting other : Setting} {view : Step → Option γ} {shown : Evaluated → δ}
  {evaluate otherwise : String → Run Evaluated}

theorem Counterparts.apply_rule {feature : String} {rule counterpart : Rule}
    (counterparts : setting.Counterparts other view shown feature rule counterpart) (index : Nat)
    (stand : ∀ prerequisite ∈ rule.prerequisites, StandsIn view (evaluate prerequisite.id) (otherwise prerequisite.id)) :
    AgreeOn view (Option.map shown) (setting.applyRule evaluate feature index rule)
      (other.applyRule otherwise feature index counterpart) := by
  have checked := check_prerequisites_stand view evaluate otherwise rule.prerequisites stand
  rw [apply_rule_eq, apply_rule_eq, ← counterparts.prerequisites]
  apply (AgreeOn.note (counterparts.announced index)).bind
  intro _ _ _ _ _
  apply (AgreeOn.of_alike id checked).bind
  intro outcome checkedOutcome _ _ same
  obtain rfl : outcome = checkedOutcome := same
  exact counterparts.concluded index outcome

theorem apply_rules_correspond {feature : String} {rules others : List Rule}
    (pairs : List.Forall₂ (Counterparts setting other view shown feature) rules others) (index : Nat)
    (stand : ∀ rule ∈ rules, ∀ prerequisite ∈ rule.prerequisites,
      StandsIn view (evaluate prerequisite.id) (otherwise prerequisite.id)) :
    AgreeOn view (Option.map shown) (setting.applyRules evaluate feature index rules)
      (other.applyRules otherwise feature index others) := by
  induction pairs generalizing index with
  | nil => exact .of_eq rfl
  | cons first _ ih =>
      obtain ⟨firstStand, laterStand⟩ := List.forall_mem_cons.mp stand
      rw [apply_rules_cons, apply_rules_cons]
      apply (first.apply_rule index firstStand).bind
      intro decided counterpart _ _ same
      cases decided with
      | none =>
          cases counterpart with
          | none => exact ih (index + 1) laterStand
          | some result => cases same
      | some result =>
          cases counterpart with
          | none => cases same
          | some otherResult => exact .pure same

theorem enter_corresponds {id : String} (corresponds : setting.Corresponds other view shown id) (path : List String)
    (stand : id ∉ path → ∀ parent ∈ setting.features.parents id, StandsIn view (evaluate parent) (otherwise parent)) :
    AgreeOn view shown (setting.enter evaluate path id) (other.enter otherwise path id) := by
  cases corresponds with
  | undefined here there =>
      simp only [enter, here, there]
      exact .of_eq rfl
  | defined feature counterpart here there value rules =>
      by_cases met : id ∈ path
      · rw [setting.enter_of_met evaluate path id feature here met,
          other.enter_of_met otherwise path id counterpart there met]
        exact .of_eq rfl
      · simp only [enter, here, there, if_neg met]
        apply (AgreeOn.note rfl).bind
        intro _ _ _ _ _
        have applied := apply_rules_correspond rules 0 fun rule ofFeature prerequisite ofRule =>
          stand met _ (FeatureSet.mem_parents here ofFeature ofRule)
        apply applied.bind
        intro decided counterpartDecided _ _ same
        cases decided with
        | none =>
            cases counterpartDecided with
            | none => exact .pure (by rw [Option.getD_none, Option.getD_none, value])
            | some result => cases same
        | some result =>
            cases counterpartDecided with
            | none => cases same
            | some otherResult => exact .pure (Option.some.inj same)

-- Induction on the features that are left to visit. A prerequisite leads nowhere that its feature does not lead.
theorem evaluate_along_corresponds (telling : ShowsSeen shown) (path : List String) (id : String)
    (correspond : ∀ reached, Relation.ReflTransGen setting.features.Names id reached →
      setting.Corresponds other view shown reached) :
    AgreeOn view shown (setting.evaluateAlong path id) (other.evaluateAlong path id) := by
  induction path, id using evaluateAlong.induct setting with
  | case1 path id ih =>
      rw [evaluate_along_eq, evaluate_along_eq other]
      apply enter_corresponds (correspond id .refl)
      intro fresh parent member
      obtain ⟨feature, defined⟩ := FeatureSet.parents_defined member
      exact (ih feature defined fresh parent fun reached leads => correspond reached (.head member leads)).stands telling

theorem Corresponds.of_same {name : String} (kept : other.features.get? name = setting.features.get? name)
    (concluded : ∀ feature, setting.features.get? name = some feature → ∀ rule ∈ feature.rules, ∀ index outcome,
      setting.conclude name index rule outcome = other.conclude name index rule outcome) :
    setting.Corresponds other view shown name := by
  cases defined : setting.features.get? name with
  | none => exact .undefined defined (kept.trans defined)
  | some feature =>
      have same : ∀ rule ∈ feature.rules, setting.Counterparts other view shown name rule rule :=
        fun rule ofFeature => ⟨rfl, fun _ => rfl, fun index outcome => .of_eq (concluded feature defined rule ofFeature index outcome)⟩
      exact .defined feature feature defined (kept.trans defined) rfl (List.forall₂_same.mpr same)

theorem evaluate_along_same (path : List String) (name : String)
    (correspond : ∀ reached, Relation.ReflTransGen setting.features.Names name reached →
      setting.Corresponds other some id reached) :
    setting.evaluateAlong path name = other.evaluateAlong path name := by
  apply AgreeOn.eq_of_all
  apply evaluate_along_corresponds _ path name correspond
  intro result other same
  exact congrArg Evaluated.seen same

end Setting
end FeatureFlags
