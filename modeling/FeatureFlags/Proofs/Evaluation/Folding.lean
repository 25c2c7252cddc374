import FeatureFlags.Proofs.Evaluation.Cycle
import FeatureFlags.Proofs.Feature.Definitions

/-! A feature that evaluates to a value may be replaced by one without rules that has this value as its
default. Runs that are not cyclic carry over because rules see nothing of a prerequisite but its value, and
cycles carry over because none leads through the feature. -/

set_option autoImplicit false

namespace FeatureFlags

def noSteps (_ : Step) : Option Step := none

theorem no_steps_log (log : List Step) : log.filterMap noSteps = [] :=
  List.filterMap_eq_nil_iff.mpr fun _ _ => rfl

namespace Setting

variable (setting : Setting)

def withFeatures (features : FeatureSet) : Setting := { setting with features }

theorem apply_rules_features (features : FeatureSet) (evaluate : String → Run Evaluated) (feature : String)
    (index : Nat) (rules : List Rule) :
    (setting.withFeatures features).applyRules evaluate feature index rules =
      setting.applyRules evaluate feature index rules := by
  induction rules generalizing index with
  | nil => rfl
  | cons rule rest ih =>
      have first : (setting.withFeatures features).applyRule evaluate feature index rule =
        setting.applyRule evaluate feature index rule := rfl
      rw [apply_rules_cons, apply_rules_cons, first, ih]

theorem asked_rules_features (features : FeatureSet) (evaluate : String → Run Evaluated) (feature : String)
    (index : Nat) (rules : List Rule) :
    (setting.withFeatures features).askedRules evaluate feature index rules =
      setting.askedRules evaluate feature index rules := by
  induction rules generalizing index with
  | nil => rfl
  | cons rule rest ih =>
      have first : (setting.withFeatures features).undecided evaluate feature index rule =
        setting.undecided evaluate feature index rule := rfl
      rw [askedRules, askedRules, first, ih]

theorem enter_features (features : FeatureSet) (evaluate : String → Run Evaluated) (path : List String)
    (id : String) (same : features.get? id = setting.features.get? id) :
    (setting.withFeatures features).enter evaluate path id = setting.enter evaluate path id := by
  have definition : (setting.withFeatures features).features.get? id = setting.features.get? id := same
  cases defined : setting.features.get? id with
  | none => simp only [enter, definition, defined]
  | some feature => simp only [enter, definition, defined, apply_rules_features]

theorem asked_features (features : FeatureSet) (evaluate : String → Run Evaluated) (path : List String)
    (id : String) (same : features.get? id = setting.features.get? id) :
    (setting.withFeatures features).asked evaluate path id = setting.asked evaluate path id := by
  have definition : (setting.withFeatures features).features.get? id = setting.features.get? id := same
  cases defined : setting.features.get? id with
  | none => simp only [asked, definition, defined]
  | some feature => simp only [asked, definition, defined, asked_rules_features]

theorem cyclic_transfer {γ : Type} (view : Step → Option γ) (features : FeatureSet) (id : String)
    (unchanged : ∀ other, Cyclic (setting.evaluate other) → features.get? other = setting.features.get? other)
    (agree : ∀ other, AgreeOrCyclic view (setting.evaluate other) ((setting.withFeatures features).evaluate other))
    (cyclic : Cyclic (setting.evaluate id)) : Cyclic ((setting.withFeatures features).evaluate id) := by
  obtain ⟨callers, last, stack, closes, _⟩ := setting.cyclic_descends id [] id [] .first cyclic
  have cycle := setting.closed_stack_cycle stack closes
  have knot := setting.closed_stack_knot stack closes
  refine (setting.withFeatures features).knot_cyclic view (· ∈ last.visiting) (fun member among => ?_) [] id
    (List.mem_of_head? cycle.starts)
  have same := unchanged member (setting.knot_cyclic some _ knot [] member among)
  obtain ⟨path, parent, next, asks⟩ := (setting.call_stack_linked stack).asks member among
  refine ⟨_, path, parent, ?_, (setting.asked_features features _ path member same).symm ▸ asks, fun other _ => ?_⟩
  · exact next.elim (fun inside => inside) fun isLast => isLast ▸ closes
  · rcases setting.evaluate_along_subset [] (path ++ [member]) other (List.nil_subset _) with met | equal
    · exact .inl met
    · exact equal ▸ agree other

def fold (id : String) (value : Json) : Setting :=
  setting.withFeatures (setting.features.set id ⟨id, value, []⟩)

theorem fold_get_other (folded : String) (value : Json) (id : String) (other : id ≠ folded) :
    (setting.fold folded value).features.get? id = setting.features.get? id := by
  rw [fold, withFeatures, FeatureSet.get_set, if_neg other]

theorem fold_outcome (folded : String) (value : Json) (path : List String) (fresh : folded ∉ path) :
    ((setting.fold folded value).evaluateAlong path folded).outcome = .ok ⟨folded, value, .default, none⟩ := by
  have defined : (setting.fold folded value).features.get? folded = some ⟨folded, value, []⟩ := by
    rw [fold, withFeatures, FeatureSet.get_set, if_pos rfl]
  rw [evaluate_along_eq, enter, Traced.bind_ok rfl]
  simp only [defined, if_neg fresh]
  rfl

variable {setting} {folded : String} {result : Evaluated}

theorem fold_step (path : List String) (id : String) (other : id ≠ folded)
    (agree : id ∉ path → ∀ parent ∈ setting.features.parents id, AgreeOrCyclic noSteps
      (setting.evaluateAlong (path ++ [id]) parent)
      ((setting.fold folded result.value).evaluateAlong (path ++ [id]) parent)) :
    Cyclic (setting.evaluateAlong path id) ∨ Cyclic ((setting.fold folded result.value).evaluateAlong path id) ∨
      Alike noSteps (setting.evaluateAlong path id)
        ((setting.fold folded result.value).evaluateAlong path id) := by
  have same (evaluate : String → Run Evaluated) :
      (setting.fold folded result.value).enter evaluate path id = setting.enter evaluate path id :=
    setting.enter_features _ evaluate path id (setting.fold_get_other folded result.value id other)
  rw [evaluate_along_eq, evaluate_along_eq (setting.fold folded result.value), same]
  exact setting.enter_agree noSteps _ _ path path id fun fresh _ => agree fresh

variable (resolved : (setting.evaluate folded).outcome = .ok result)
  (acyclic : result.source ≠ .cyclicPrerequisite)

include resolved acyclic

theorem folded_acyclic : ¬ Cyclic (setting.evaluate folded) := by
  rintro ⟨other, ended, cyclic⟩
  have same : result = other := Except.ok.inj (resolved.symm.trans ended)
  exact acyclic (same ▸ cyclic)

theorem folded_agree (path : List String) (fresh : folded ∉ path) : AgreeOrCyclic noSteps
    (setting.evaluateAlong path folded) ((setting.fold folded result.value).evaluateAlong path folded) := by
  rcases setting.evaluate_along_subset [] path folded (List.nil_subset _) with cyclic | same
  · exact .inl cyclic
  · have outcome : (setting.evaluateAlong path folded).outcome = .ok result := same ▸ resolved
    refine .inr (.inr ⟨?_, by rw [no_steps_log, no_steps_log]⟩)
    rw [outcome, setting.fold_outcome folded result.value path fresh]
    simp [Except.map, Evaluated.seen, acyclic]

-- Only paths without the folded feature matter: once it is folded it asks nothing.
theorem fold_agree (path : List String) (id : String) (fresh : folded ∉ path) : AgreeOrCyclic noSteps
    (setting.evaluateAlong path id) ((setting.fold folded result.value).evaluateAlong path id) := by
  induction path, id using evaluateAlong.induct setting with
  | case1 path id ih =>
      by_cases other : id = folded
      · subst id
        exact folded_agree resolved acyclic path fresh
      have agree : id ∉ path → ∀ parent ∈ setting.features.parents id, AgreeOrCyclic noSteps
          (setting.evaluateAlong (path ++ [id]) parent)
          ((setting.fold folded result.value).evaluateAlong (path ++ [id]) parent) := by
        intro unmet parent member
        obtain ⟨feature, defined⟩ := FeatureSet.parents_defined member
        exact ih feature defined unmet parent (by simp [fresh, Ne.symm other])
      rcases fold_step path id other agree with cyclic | cyclic | alike
      · exact .inl cyclic
      · exact .inr (.inl cyclic)
      · exact .inr (.inr (.of_alike alike))

theorem fold_cyclic_iff (id : String) :
    Cyclic ((setting.fold folded result.value).evaluate id) ↔ Cyclic (setting.evaluate id) := by
  have agree (other : String) : AgreeOrCyclic noSteps (setting.evaluate other)
      ((setting.fold folded result.value).evaluate other) :=
    fold_agree resolved acyclic [] other List.not_mem_nil
  refine ⟨fun cyclic => ?_, fun cyclic => ?_⟩
  · refine (setting.fold folded result.value).cyclic_transfer noSteps setting.features id (fun other met => ?_)
      (fun other => (agree other).symm) cyclic
    refine (setting.fold_get_other folded result.value other fun same => ?_).symm
    obtain ⟨met, ended, source⟩ := met
    rw [same, evaluate, setting.fold_outcome folded result.value [] List.not_mem_nil] at ended
    rw [← Except.ok.inj ended] at source
    cases source
  · refine setting.cyclic_transfer noSteps _ id (fun other met => ?_) agree cyclic
    exact setting.fold_get_other folded result.value other fun same =>
      folded_acyclic resolved acyclic (same ▸ met)

theorem evaluate_fold (id : String) (other : id ≠ folded) :
    ((setting.fold folded result.value).evaluate id).outcome = (setting.evaluate id).outcome := by
  have cyclicIff := fold_cyclic_iff resolved acyclic id
  by_cases cyclic : Cyclic (setting.evaluate id)
  · rw [evaluate, evaluate, setting.evaluate_along_outcome [] id cyclic,
      (setting.fold folded result.value).evaluate_along_outcome [] id (cyclicIff.mpr cyclic)]
  · have agree : id ∉ ([] : List String) → ∀ parent ∈ setting.features.parents id, AgreeOrCyclic noSteps
        (setting.evaluateAlong ([] ++ [id]) parent)
        ((setting.fold folded result.value).evaluateAlong ([] ++ [id]) parent) :=
      fun _ parent _ => fold_agree resolved acyclic ([] ++ [id]) parent (by simp [Ne.symm other])
    rcases fold_step [] id other agree with met | met | alike
    · exact absurd met cyclic
    · exact absurd (cyclicIff.mp met) cyclic
    · exact alike.outcome.symm

end Setting

theorem evaluate_fold_payments :
    (shop.evaluate "payments").outcome = .ok ⟨"payments", .bool true, .force, some (.requiring [])⟩ ∧
      ((shop.fold "payments" (.bool true)).evaluate "rewards").outcome = (shop.evaluate "rewards").outcome := by
  have resolved : (shop.evaluate "payments").outcome =
      .ok ⟨"payments", .bool true, .force, some (.requiring [])⟩ := by
    rw [Setting.evaluate, Setting.evaluate_along_eq]
    rfl
  exact ⟨resolved, Setting.evaluate_fold resolved (by decide) "rewards" (by decide)⟩

end FeatureFlags
