import FeatureFlags.Proofs.Evaluation.Rules

/-! The prerequisites that an evaluation asks decide what comes out and leave all steps in the log that are
not the rules' own. A feature is cyclic exactly if the last prerequisite that it asks is. -/

set_option autoImplicit false

namespace FeatureFlags

variable {α β γ : Type}

namespace Prerequisite

def passes (prerequisite : Prerequisite) (evaluate : String → Run Evaluated) : Bool :=
  match (prerequisite.check (evaluate prerequisite.id)).outcome with
  | .ok .passed => true
  | _ => false

theorem passes_iff (prerequisite : Prerequisite) (evaluate : String → Run Evaluated) :
    prerequisite.passes evaluate = true ↔
      (prerequisite.check (evaluate prerequisite.id)).outcome = .ok .passed := by
  unfold passes
  split <;> simp_all

end Prerequisite

namespace Setting

def askedPrerequisites (evaluate : String → Run Evaluated) : List Prerequisite → List String
  | [] => []
  | prerequisite :: rest =>
      prerequisite.id :: if prerequisite.passes evaluate then askedPrerequisites evaluate rest else []

def undecided (setting : Setting) (evaluate : String → Run Evaluated) (feature : String) (index : Nat)
    (rule : Rule) : Bool :=
  match (setting.applyRule evaluate feature index rule).outcome with
  | .ok none => true
  | _ => false

theorem undecided_iff (setting : Setting) (evaluate : String → Run Evaluated) (feature : String)
    (index : Nat) (rule : Rule) :
    setting.undecided evaluate feature index rule = true ↔
      (setting.applyRule evaluate feature index rule).outcome = .ok none := by
  unfold undecided
  split <;> simp_all

def askedRules (setting : Setting) (evaluate : String → Run Evaluated) (feature : String) :
    Nat → List Rule → List String
  | _, [] => []
  | index, rule :: rest =>
      askedPrerequisites evaluate rule.prerequisites ++
        if setting.undecided evaluate feature index rule then
          setting.askedRules evaluate feature (index + 1) rest
        else []

theorem asked_prerequisites_passed {evaluate : String → Run Evaluated} {prerequisite : Prerequisite}
    (passed : (prerequisite.check (evaluate prerequisite.id)).outcome = .ok .passed) (rest : List Prerequisite) :
    askedPrerequisites evaluate (prerequisite :: rest) = prerequisite.id :: askedPrerequisites evaluate rest := by
  rw [askedPrerequisites, if_pos ((prerequisite.passes_iff evaluate).mpr passed)]

theorem asked_prerequisites_stopped {evaluate : String → Run Evaluated} {prerequisite : Prerequisite}
    (stopped : (prerequisite.check (evaluate prerequisite.id)).outcome ≠ .ok .passed) (rest : List Prerequisite) :
    askedPrerequisites evaluate (prerequisite :: rest) = [prerequisite.id] := by
  rw [askedPrerequisites, if_neg fun passes => stopped ((prerequisite.passes_iff evaluate).mp passes)]

theorem asked_rules_undecided {setting : Setting} {evaluate : String → Run Evaluated} {feature : String}
    {index : Nat} {rule : Rule} (undecided : (setting.applyRule evaluate feature index rule).outcome = .ok none)
    (rest : List Rule) :
    setting.askedRules evaluate feature index (rule :: rest) =
      askedPrerequisites evaluate rule.prerequisites ++ setting.askedRules evaluate feature (index + 1) rest := by
  rw [askedRules, if_pos ((setting.undecided_iff evaluate feature index rule).mpr undecided)]

theorem asked_rules_stopped {setting : Setting} {evaluate : String → Run Evaluated} {feature : String}
    {index : Nat} {rule : Rule} (stopped : (setting.applyRule evaluate feature index rule).outcome ≠ .ok none)
    (rest : List Rule) :
    setting.askedRules evaluate feature index (rule :: rest) = askedPrerequisites evaluate rule.prerequisites := by
  rw [askedRules, if_neg fun goesOn => stopped ((setting.undecided_iff evaluate feature index rule).mp goesOn),
    List.append_nil]

def asked (setting : Setting) (evaluate : String → Run Evaluated) (path : List String) (id : String) :
    List String :=
  match setting.features.get? id with
  | none => []
  | some feature => if id ∈ path then [] else setting.askedRules evaluate id 0 feature.rules

theorem asked_of_defined (setting : Setting) (evaluate : String → Run Evaluated) (path : List String)
    (id : String) (feature : Feature) (defined : setting.features.get? id = some feature) (fresh : id ∉ path) :
    setting.asked evaluate path id = setting.askedRules evaluate id 0 feature.rules := by
  simp only [asked, defined, if_neg fresh]

theorem asked_defined (setting : Setting) (evaluate : String → Run Evaluated) (path : List String)
    (id parent : String) (asks : parent ∈ setting.asked evaluate path id) :
    id ∉ path ∧ ∃ feature, setting.features.get? id = some feature ∧
      parent ∈ setting.askedRules evaluate id 0 feature.rules := by
  unfold asked at asks
  cases defined : setting.features.get? id with
  | none => simp [defined] at asks
  | some feature =>
      by_cases met : id ∈ path
      · simp [defined, met] at asks
      · exact ⟨met, feature, rfl, by simpa only [defined, if_neg met] using asks⟩

theorem asked_prerequisites_member (evaluate : String → Run Evaluated) (prerequisites : List Prerequisite)
    (parent : String) (asks : parent ∈ askedPrerequisites evaluate prerequisites) :
    ∃ prerequisite ∈ prerequisites, prerequisite.id = parent := by
  induction prerequisites with
  | nil => simp [askedPrerequisites] at asks
  | cons prerequisite rest ih =>
      rcases List.mem_cons.mp asks with here | later
      · exact ⟨prerequisite, List.mem_cons_self, here.symm⟩
      · obtain ⟨next, member, same⟩ := ih (List.mem_ite_nil_right.mp later).2
        exact ⟨next, List.mem_cons_of_mem _ member, same⟩

theorem asked_rules_member (setting : Setting) (evaluate : String → Run Evaluated) (feature : String)
    (index : Nat) (rules : List Rule) (parent : String)
    (asks : parent ∈ setting.askedRules evaluate feature index rules) :
    ∃ rule ∈ rules, ∃ prerequisite ∈ rule.prerequisites, prerequisite.id = parent := by
  induction rules generalizing index with
  | nil => simp [askedRules] at asks
  | cons rule rest ih =>
      rcases List.mem_append.mp asks with here | later
      · exact ⟨rule, List.mem_cons_self, asked_prerequisites_member evaluate _ parent here⟩
      · obtain ⟨next, member, found⟩ := ih (index + 1) (List.mem_ite_nil_right.mp later).2
        exact ⟨next, List.mem_cons_of_mem _ member, found⟩

theorem asked_parents (setting : Setting) (evaluate : String → Run Evaluated) (path : List String)
    (id parent : String) (asks : parent ∈ setting.asked evaluate path id) :
    parent ∈ setting.features.parents id := by
  obtain ⟨_, feature, defined, member⟩ := setting.asked_defined evaluate path id parent asks
  obtain ⟨rule, ofFeature, prerequisite, ofRule, same⟩ :=
    setting.asked_rules_member evaluate id 0 feature.rules parent member
  exact same ▸ FeatureSet.mem_parents defined ofFeature ofRule

/-! A cyclic prerequisite that is asked makes the feature cyclic. The runs that say what is asked may be
others than those that count, as long as the two agree or are cyclic. -/

theorem check_prerequisites_of_asked (view : Step → Option γ) (evaluate other : String → Run Evaluated)
    (prerequisites : List Prerequisite) (parent : String)
    (asks : parent ∈ askedPrerequisites evaluate prerequisites) (cyclic : Cyclic (other parent))
    (agree : ∀ prerequisite ∈ prerequisites,
      AgreeOrCyclic view (evaluate prerequisite.id) (other prerequisite.id)) :
    (checkPrerequisites other prerequisites).outcome = .ok .cyclic := by
  induction prerequisites with
  | nil => simp [askedPrerequisites] at asks
  | cons prerequisite rest ih =>
      rcases List.mem_cons.mp asks with here | later
      · exact check_prerequisites_of_cyclic other prerequisite rest (here ▸ cyclic)
      obtain ⟨passes, member⟩ := List.mem_ite_nil_right.mp later
      have passed := (prerequisite.passes_iff evaluate).mp passes
      rcases agree prerequisite List.mem_cons_self with met | met | stands
      · have impossible := (prerequisite.check_cyclic_iff _).mpr met
        rw [passed] at impossible
        simp at impossible
      · exact check_prerequisites_of_cyclic other prerequisite rest met
      · have alike : Alike view (prerequisite.check (evaluate prerequisite.id))
            (prerequisite.check (other prerequisite.id)) := stands.bind prerequisite.weigh
        rw [check_prerequisites_of_passed other prerequisite rest (alike.outcome ▸ passed)]
        exact ih member fun next among => agree next (List.mem_cons_of_mem _ among)

theorem apply_rules_of_asked (setting : Setting) (view : Step → Option γ)
    (evaluate other : String → Run Evaluated) (feature : String) (index : Nat) (rules : List Rule)
    (parent : String) (asks : parent ∈ setting.askedRules evaluate feature index rules)
    (cyclic : Cyclic (other parent))
    (agree : ∀ rule ∈ rules, ∀ prerequisite ∈ rule.prerequisites,
      AgreeOrCyclic view (evaluate prerequisite.id) (other prerequisite.id)) :
    FoundCycle feature (setting.applyRules other feature index rules) := by
  induction rules generalizing index with
  | nil => simp [askedRules] at asks
  | cons rule rest ih =>
      have here := agree rule List.mem_cons_self
      rcases List.mem_append.mp asks with first | later
      · exact setting.apply_rules_of_found other feature index rule rest
          (setting.apply_rule_of_cyclic other feature index rule
            (check_prerequisites_of_asked view evaluate other _ parent first cyclic here))
      obtain ⟨undecided, member⟩ := List.mem_ite_nil_right.mp later
      have goesOn := (setting.undecided_iff evaluate feature index rule).mp undecided
      rcases setting.apply_rule_agree view evaluate other feature index rule here with found | found | alike
      · have impossible := goesOn.symm.trans found
        simp at impossible
      · exact setting.apply_rules_of_found other feature index rule rest found
      · have otherGoesOn := alike.outcome ▸ goesOn
        exact (setting.apply_rules_of_undecided other feature index rule rest otherGoesOn).trans
          (ih (index + 1) member fun next among => agree next (List.mem_cons_of_mem _ among))

theorem enter_of_asked (setting : Setting) (view : Step → Option γ)
    (evaluate other : String → Run Evaluated) (path otherPath : List String) (id parent : String)
    (asks : parent ∈ setting.asked evaluate path id) (cyclic : Cyclic (other parent))
    (agree : ∀ parent ∈ setting.features.parents id, AgreeOrCyclic view (evaluate parent) (other parent)) :
    (setting.enter other otherPath id).outcome = .ok (.ofSource id .cyclicPrerequisite) := by
  obtain ⟨_, feature, defined, member⟩ := setting.asked_defined evaluate path id parent asks
  exact setting.enter_of_found other otherPath id feature defined
    (setting.apply_rules_of_asked view evaluate other id 0 feature.rules parent member cyclic
      fun rule ofFeature prerequisite ofRule => agree _ (FeatureSet.mem_parents defined ofFeature ofRule))

/-! Conversely the last prerequisite that a cyclic feature asks is cyclic, and it is the first. -/

def FirstCyclic (evaluate : String → Run Evaluated) (asked : List String) : Prop :=
  ∃ before parent, asked = before ++ [parent] ∧ Cyclic (evaluate parent) ∧
    ∀ earlier ∈ before, ¬ Cyclic (evaluate earlier)

theorem FirstCyclic.after {evaluate : String → Run Evaluated} {asked : List String}
    (first : FirstCyclic evaluate asked) (front : List String)
    (acyclic : ∀ earlier ∈ front, ¬ Cyclic (evaluate earlier)) : FirstCyclic evaluate (front ++ asked) := by
  obtain ⟨before, parent, same, cyclic, earlierAcyclic⟩ := first
  refine ⟨front ++ before, parent, by rw [same, List.append_assoc], cyclic, ?_⟩
  intro earlier member
  rcases List.mem_append.mp member with inFront | inBefore
  · exact acyclic earlier inFront
  · exact earlierAcyclic earlier inBefore

theorem asked_prerequisites_of_cyclic (evaluate : String → Run Evaluated) (prerequisites : List Prerequisite)
    (cyclic : (checkPrerequisites evaluate prerequisites).outcome = .ok .cyclic) :
    FirstCyclic evaluate (askedPrerequisites evaluate prerequisites) := by
  induction prerequisites with
  | nil => simp [checkPrerequisites] at cyclic
  | cons prerequisite rest ih =>
      rw [check_prerequisites_cons] at cyclic
      cases checked : (prerequisite.check (evaluate prerequisite.id)).outcome with
      | error failure =>
          rw [Traced.bind_error checked] at cyclic
          simp at cyclic
      | ok outcome =>
          rw [Traced.bind_ok checked] at cyclic
          by_cases passed : outcome = .passed
          · subst outcome
            rw [asked_prerequisites_passed checked]
            refine (ih (by simpa using cyclic)).after [prerequisite.id] ?_
            intro earlier member met
            rw [List.mem_singleton.mp member] at met
            have impossible := (prerequisite.check_cyclic_iff _).mpr met
            rw [checked] at impossible
            simp at impossible
          · have isCyclic : outcome = .cyclic := by simpa [if_neg passed] using cyclic
            rw [asked_prerequisites_stopped (by rw [checked]; simpa using passed)]
            subst outcome
            exact ⟨[], prerequisite.id, rfl, (prerequisite.check_cyclic_iff _).mp checked, by simp⟩

theorem apply_rule_of_found (setting : Setting) (evaluate : String → Run Evaluated) (feature : String)
    (index : Nat) (rule : Rule) (result : Evaluated)
    (decided : (setting.applyRule evaluate feature index rule).outcome = .ok (some result))
    (cyclic : result.source = .cyclicPrerequisite) :
    (checkPrerequisites evaluate rule.prerequisites).outcome = .ok .cyclic := by
  rw [apply_rule_eq, Traced.bind_ok rfl] at decided
  cases checked : (checkPrerequisites evaluate rule.prerequisites).outcome with
  | error failure =>
      rw [Traced.bind_error checked] at decided
      simp at decided
  | ok outcome =>
      rw [Traced.bind_ok checked] at decided
      by_cases isCyclic : outcome = .cyclic
      · rw [isCyclic]
      · have acyclic := (setting.conclude_own feature index rule outcome).returned _ decided isCyclic
        exact absurd cyclic (acyclic result rfl)

theorem asked_rules_of_cyclic (setting : Setting) (evaluate : String → Run Evaluated) (feature : String)
    (index : Nat) (rules : List Rule) (result : Evaluated)
    (decided : (setting.applyRules evaluate feature index rules).outcome = .ok (some result))
    (cyclic : result.source = .cyclicPrerequisite) :
    FirstCyclic evaluate (setting.askedRules evaluate feature index rules) := by
  induction rules generalizing index with
  | nil => simp [applyRules] at decided
  | cons rule rest ih =>
      rw [apply_rules_cons] at decided
      cases applied : (setting.applyRule evaluate feature index rule).outcome with
      | error failure =>
          rw [Traced.bind_error applied] at decided
          simp at decided
      | ok first =>
          rw [Traced.bind_ok applied] at decided
          cases first with
          | none =>
              rw [asked_rules_undecided applied]
              refine (ih (index + 1) decided).after _ fun earlier member met => ?_
              have checked := check_prerequisites_of_asked (some : Step → _) evaluate evaluate
                rule.prerequisites earlier member met fun _ _ => .inr (.inr (.of_eq rfl))
              have found := setting.apply_rule_of_cyclic evaluate feature index rule checked
              simp [FoundCycle, applied] at found
          | some other =>
              have same : other = result := by simpa using decided
              subst other
              rw [asked_rules_stopped (by rw [applied]; simp)]
              exact asked_prerequisites_of_cyclic evaluate rule.prerequisites
                (setting.apply_rule_of_found evaluate feature index rule result applied cyclic)

theorem enter_cyclic_defined (setting : Setting) (evaluate : String → Run Evaluated) (path : List String)
    (id : String) (cyclic : Cyclic (setting.enter evaluate path id)) :
    ∃ feature, setting.features.get? id = some feature := by
  obtain ⟨result, ended, source⟩ := cyclic
  rw [enter, Traced.bind_ok rfl] at ended
  cases defined : setting.features.get? id with
  | none =>
      simp only [defined, Traced.outcome_bind] at ended
      rw [← Except.ok.inj ended] at source
      cases source
  | some feature => exact ⟨feature, rfl⟩

theorem asked_of_cyclic (setting : Setting) (evaluate : String → Run Evaluated) (path : List String)
    (id : String) (cyclic : Cyclic (setting.enter evaluate path id)) (fresh : id ∉ path) :
    FirstCyclic evaluate (setting.asked evaluate path id) := by
  obtain ⟨feature, defined⟩ := setting.enter_cyclic_defined evaluate path id cyclic
  obtain ⟨result, ended, source⟩ := cyclic
  rw [setting.asked_of_defined evaluate path id feature defined fresh]
  rw [enter, Traced.bind_ok rfl] at ended
  simp only [defined, if_neg fresh] at ended
  cases applied : (setting.applyRules evaluate id 0 feature.rules).outcome with
  | error failure =>
      rw [Traced.bind_error applied] at ended
      simp at ended
  | ok decided =>
      rw [Traced.bind_ok applied] at ended
      have same := Except.ok.inj ended
      cases decided with
      | none =>
          rw [← same] at source
          cases source
      | some first =>
          have isFirst : first = result := same
          exact setting.asked_rules_of_cyclic evaluate id 0 feature.rules first applied (isFirst ▸ source)

theorem enter_cyclic_outcome (setting : Setting) (evaluate : String → Run Evaluated) (path : List String)
    (id : String) (cyclic : Cyclic (setting.enter evaluate path id)) :
    (setting.enter evaluate path id).outcome = .ok (.ofSource id .cyclicPrerequisite) := by
  by_cases met : id ∈ path
  · obtain ⟨feature, defined⟩ := setting.enter_cyclic_defined evaluate path id cyclic
    rw [setting.enter_of_met evaluate path id feature defined met]
  · obtain ⟨before, parent, same, parentCyclic, _⟩ := setting.asked_of_cyclic evaluate path id cyclic met
    exact setting.enter_of_asked (some : Step → _) evaluate evaluate path path id parent (by simp [same])
      parentCyclic fun _ _ => .inr (.inr (.of_eq rfl))

/-! Nothing but the prerequisites that are asked is looked at. -/

theorem check_prerequisites_congr (evaluate other : String → Run Evaluated) (prerequisites : List Prerequisite)
    (same : ∀ parent ∈ askedPrerequisites evaluate prerequisites, evaluate parent = other parent) :
    checkPrerequisites evaluate prerequisites = checkPrerequisites other prerequisites := by
  induction prerequisites with
  | nil => rfl
  | cons prerequisite rest ih =>
      rw [check_prerequisites_cons, check_prerequisites_cons, ← same _ List.mem_cons_self]
      by_cases passed : (prerequisite.check (evaluate prerequisite.id)).outcome = .ok .passed
      · rw [asked_prerequisites_passed passed] at same
        rw [ih fun parent member => same parent (List.mem_cons_of_mem _ member)]
      · cases checked : (prerequisite.check (evaluate prerequisite.id)).outcome with
        | error failure => rw [Traced.bind_error checked, Traced.bind_error checked]
        | ok outcome =>
            have stopped : outcome ≠ .passed := fun isPassed => passed (by rw [checked, isPassed])
            rw [Traced.bind_ok checked, Traced.bind_ok checked, if_neg stopped, if_neg stopped]

theorem apply_rules_congr (setting : Setting) (evaluate other : String → Run Evaluated) (feature : String)
    (index : Nat) (rules : List Rule)
    (same : ∀ parent ∈ setting.askedRules evaluate feature index rules, evaluate parent = other parent) :
    setting.applyRules evaluate feature index rules = setting.applyRules other feature index rules := by
  induction rules generalizing index with
  | nil => rfl
  | cons rule rest ih =>
      have first : setting.applyRule evaluate feature index rule = setting.applyRule other feature index rule := by
        rw [apply_rule_eq, apply_rule_eq, check_prerequisites_congr evaluate other rule.prerequisites
          fun parent member => same parent (List.mem_append_left _ member)]
      rw [apply_rules_cons, apply_rules_cons, ← first]
      cases applied : (setting.applyRule evaluate feature index rule).outcome with
      | error failure => rw [Traced.bind_error applied, Traced.bind_error applied]
      | ok decided =>
          rw [Traced.bind_ok applied, Traced.bind_ok applied]
          cases decided with
          | none =>
              rw [asked_rules_undecided applied] at same
              rw [ih (index + 1) fun parent member => same parent (List.mem_append_right _ member)]
          | some result => rfl

theorem enter_congr (setting : Setting) (evaluate other : String → Run Evaluated) (path : List String)
    (id : String) (same : ∀ parent ∈ setting.asked evaluate path id, evaluate parent = other parent) :
    setting.enter evaluate path id = setting.enter other path id := by
  cases defined : setting.features.get? id with
  | none => simp only [enter, defined]
  | some feature =>
      by_cases met : id ∈ path
      · rw [setting.enter_of_met evaluate path id feature defined met,
          setting.enter_of_met other path id feature defined met]
      · rw [setting.asked_of_defined evaluate path id feature defined met] at same
        simp only [enter, defined, if_neg met]
        rw [setting.apply_rules_congr evaluate other id 0 feature.rules same]

/-! Whatever the log of an evaluation holds beside the rules' own steps comes from the prerequisites that
are asked, in the order in which they are asked. -/

def arrival (setting : Setting) (path : List String) (id : String) : List Step :=
  .event id .evaluating :: match setting.features.get? id with
    | none => [.event id .unknown]
    | some _ => if id ∈ path then [.event id (.cyclic path)] else []

section Asking

variable (view : Step → Option γ) (silent : ∀ name, view (.unknownOperator name) = none)

include silent

theorem weigh_log_view (prerequisite : Prerequisite) (seen : Option Json) :
    (prerequisite.weigh seen).log.filterMap view = [] := by
  have verdictSilent (verdict : Condition.Verdict) : (Run.ofVerdict verdict).log.filterMap view = [] := by
    simp [Run.ofVerdict, silent]
  cases seen with
  | none => rfl
  | some value =>
      rw [Prerequisite.weigh]
      cases weighed : (Run.ofVerdict
          (Condition.matchesAttributes prerequisite.condition (.value (.obj [("value", value)])))).outcome with
      | error failure => rw [Traced.bind_error weighed, verdictSilent]
      | ok holds => rw [Traced.bind_ok weighed, List.filterMap_append, verdictSilent, Traced.log_pure, List.filterMap_nil,
          List.append_nil]

theorem check_log_view (prerequisite : Prerequisite) (run : Run Evaluated) :
    (prerequisite.check run).log.filterMap view = run.log.filterMap view := by
  rw [Prerequisite.check]
  cases ended : run.outcome with
  | error failure => rw [Traced.bind_error ended]
  | ok result => rw [Traced.bind_ok ended, List.filterMap_append, weigh_log_view view silent, List.append_nil]

theorem check_prerequisites_log_view (evaluate : String → Run Evaluated) (prerequisites : List Prerequisite) :
    (checkPrerequisites evaluate prerequisites).log.filterMap view =
      (askedPrerequisites evaluate prerequisites).flatMap fun parent => (evaluate parent).log.filterMap view := by
  induction prerequisites with
  | nil => rfl
  | cons prerequisite rest ih =>
      have first := check_log_view view silent prerequisite (evaluate prerequisite.id)
      rw [check_prerequisites_cons]
      cases checked : (prerequisite.check (evaluate prerequisite.id)).outcome with
      | error failure =>
          rw [Traced.bind_error checked, asked_prerequisites_stopped (by rw [checked]; simp), first]
          simp
      | ok outcome =>
          rw [Traced.bind_ok checked, List.filterMap_append, first]
          by_cases passed : outcome = .passed
          · rw [if_pos passed, asked_prerequisites_passed (passed ▸ checked), ih, List.flatMap_cons]
          · rw [if_neg passed, asked_prerequisites_stopped (by rw [checked]; simpa using passed)]
            simp

end Asking

section Log

variable (view : Step → Option γ) (quiet : ∀ step, step.ofRules = true → view step = none)

include quiet

theorem apply_rule_log_view (setting : Setting) (evaluate : String → Run Evaluated) (feature : String)
    (index : Nat) (rule : Rule) :
    (setting.applyRule evaluate feature index rule).log.filterMap view =
      (checkPrerequisites evaluate rule.prerequisites).log.filterMap view := by
  have announced : view (.event feature (.evaluatingRule index rule)) = none := quiet _ rfl
  rw [apply_rule_eq, Traced.bind_ok rfl, List.filterMap_append]
  cases checked : (checkPrerequisites evaluate rule.prerequisites).outcome with
  | error failure =>
      rw [Traced.bind_error checked]
      simp [Traced.note, announced]
  | ok outcome =>
      rw [Traced.bind_ok checked, List.filterMap_append,
        (setting.conclude_own feature index rule outcome).log_view view quiet]
      simp [Traced.note, announced]

theorem apply_rules_log_view (setting : Setting) (evaluate : String → Run Evaluated) (feature : String)
    (index : Nat) (rules : List Rule) :
    (setting.applyRules evaluate feature index rules).log.filterMap view =
      (setting.askedRules evaluate feature index rules).flatMap fun parent =>
        (evaluate parent).log.filterMap view := by
  induction rules generalizing index with
  | nil => rfl
  | cons rule rest ih =>
      have first := (apply_rule_log_view view quiet setting evaluate feature index rule).trans
        (check_prerequisites_log_view view (fun name => quiet _ rfl) evaluate rule.prerequisites)
      rw [apply_rules_cons]
      cases applied : (setting.applyRule evaluate feature index rule).outcome with
      | error failure => rw [Traced.bind_error applied, asked_rules_stopped (by rw [applied]; simp), first]
      | ok decided =>
          rw [Traced.bind_ok applied, List.filterMap_append, first]
          cases decided with
          | none => rw [asked_rules_undecided applied, List.flatMap_append, ih]
          | some result =>
              rw [asked_rules_stopped (by rw [applied]; simp)]
              simp

theorem enter_log_view (setting : Setting) (evaluate : String → Run Evaluated) (path : List String)
    (id : String) :
    (setting.enter evaluate path id).log.filterMap view =
      (setting.arrival path id).filterMap view ++
        (setting.asked evaluate path id).flatMap fun parent => (evaluate parent).log.filterMap view := by
  cases defined : setting.features.get? id with
  | none => simp [enter, arrival, asked, defined, Traced.bind_ok, Traced.note]
  | some feature =>
      by_cases met : id ∈ path
      · rw [setting.enter_of_met evaluate path id feature defined met]
        simp [arrival, asked, defined, met]
      · rw [setting.asked_of_defined evaluate path id feature defined met,
          ← apply_rules_log_view view quiet setting evaluate id 0]
        simp only [enter, arrival, defined, if_neg met]
        rw [Traced.bind_ok rfl, List.filterMap_append]
        cases applied : (setting.applyRules evaluate id 0 feature.rules).outcome with
        | error failure =>
            rw [Traced.bind_error applied]
            rfl
        | ok decided =>
            rw [Traced.bind_ok applied, Traced.log_pure, List.append_nil]
            rfl

end Log

end Setting
end FeatureFlags
