import FeatureFlags.Proofs.Evaluation.Decision
import FeatureFlags.Proofs.Evaluation.Rollout

/-! A rule that is visited asks the hash once if its prerequisites pass, its condition holds, it says a value,
it has a coverage or a range, and the caller has an identity; else never. The hash calls of an evaluation are
those of the rules that it visits, in its own call or in one that it leads to. -/

set_option autoImplicit false

namespace FeatureFlags

def Step.consulting? : Step → Option Step
  | .event feature (.evaluatingRule index rule) => some (.event feature (.evaluatingRule index rule))
  | .hashed call => some (.hashed call)
  | _ => none

def Run.consulting {α : Type} (run : Run α) : List Step := run.log.filterMap Step.consulting?

namespace Run

variable {α β : Type}

theorem consulting_ok {run : Run α} {value : α} (ended : run.outcome = .ok value) (next : α → Run β) :
    (run >>= next).consulting = run.consulting ++ (next value).consulting := by
  rw [consulting, Traced.bind_ok ended, List.filterMap_append]
  rfl

theorem consulting_error {run : Run α} {failure : EvaluationError} (failed : run.outcome = .error failure)
    (next : α → Run β) : (run >>= next).consulting = run.consulting := by
  rw [consulting, Traced.bind_error failed]
  rfl

theorem consulting_quiet {run : Run α} {next : α → Run β} {steps : List Step} (quiet : run.consulting = [])
    (continued : ∀ value, run.outcome = .ok value → (next value).consulting = steps)
    (failed : ∀ failure, run.outcome = .error failure → steps = []) : (run >>= next).consulting = steps := by
  cases ended : run.outcome with
  | error failure => rw [consulting_error ended, quiet, failed failure ended]
  | ok value => rw [consulting_ok ended, quiet, continued value ended, List.nil_append]

theorem of_verdict_consulting (verdict : Condition.Verdict) : (Run.ofVerdict verdict).consulting = [] := by
  simp [consulting, Run.ofVerdict, Step.consulting?]

end Run

namespace Setting

structure Consults (setting : Setting) (evaluate : String → Run Evaluated) (feature : String) (rule : Rule)
    (made : HashCall) : Prop where
  prerequisites : PrerequisitesYield evaluate rule.prerequisites .passed
  condition : ∀ condition, rule.condition = some condition →
    (Condition.matchesAttributes condition (.value (.obj setting.attributes))).outcome = .ok true
  force : rule.force.isSome
  rollout : rule.coverage.isSome ∨ rule.range.isSome
  identity : ∃ name, setting.identity rule.hashAttribute rule.fallbackAttribute = .ok (name, made.identity)
  nonempty : made.identity ≠ ""
  seed : made.seed = rule.seedFor feature
  version : made.version = rule.versionUsed
  hash : made.hash = setting.hash made.seed made.identity made.version

def rolloutCall? (setting : Setting) (feature : String) (rule : Rule) : Option HashCall :=
  match setting.identity rule.hashAttribute rule.fallbackAttribute with
  | .ok (_, identity) =>
      if identity.isEmpty then none
      else some ⟨rule.seedFor feature, identity, rule.versionUsed,
        setting.hash (rule.seedFor feature) identity rule.versionUsed⟩
  | .error _ => none

def passedCall? (setting : Setting) (feature : String) (rule : Rule) : Option HashCall :=
  if (setting.meetsCondition rule).outcome = .ok true ∧ rule.force.isSome ∧ (rule.coverage.isSome ∨ rule.range.isSome) then
    setting.rolloutCall? feature rule
  else none

def hashCall? (setting : Setting) (evaluate : String → Run Evaluated) (feature : String) (rule : Rule) : Option HashCall :=
  if (checkPrerequisites evaluate rule.prerequisites).outcome = .ok .passed then setting.passedCall? feature rule else none

section

variable (setting : Setting) (evaluate : String → Run Evaluated) (feature : String)

theorem rollout_call_iff (rule : Rule) (made : HashCall) : setting.rolloutCall? feature rule = some made ↔
    (∃ name, setting.identity rule.hashAttribute rule.fallbackAttribute = .ok (name, made.identity)) ∧ made.identity ≠ "" ∧
      made.seed = rule.seedFor feature ∧ made.version = rule.versionUsed ∧
      made.hash = setting.hash made.seed made.identity made.version := by
  unfold rolloutCall?
  cases known : setting.identity rule.hashAttribute rule.fallbackAttribute with
  | error failure => simp
  | ok found =>
      obtain ⟨name, identity⟩ := found
      obtain ⟨seed, text, version, hash⟩ := made
      simp only [Option.ite_none_left_eq_some, Option.some.injEq, HashCall.mk.injEq, Except.ok.injEq, Prod.mk.injEq,
        String.isEmpty_iff]
      constructor
      · rintro ⟨nonempty, rfl, rfl, rfl, rfl⟩
        exact ⟨⟨name, rfl, rfl⟩, nonempty, rfl, rfl, rfl⟩
      · rintro ⟨⟨_, _, rfl⟩, nonempty, rfl, rfl, rfl⟩
        exact ⟨nonempty, rfl, rfl, rfl, rfl⟩

theorem hash_call_iff (rule : Rule) (made : HashCall) :
    setting.hashCall? evaluate feature rule = some made ↔ setting.Consults evaluate feature rule made := by
  simp only [hashCall?, passedCall?, Option.ite_none_right_eq_some, check_prerequisites_ok_iff, meets_condition_iff,
    rollout_call_iff]
  constructor
  · rintro ⟨passed, ⟨condition, force, rollout⟩, identity, nonempty, seed, version, hash⟩
    exact ⟨passed, condition, force, rollout, identity, nonempty, seed, version, hash⟩
  · rintro ⟨passed, condition, force, rollout, identity, nonempty, seed, version, hash⟩
    exact ⟨passed, ⟨condition, force, rollout⟩, identity, nonempty, seed, version, hash⟩

/-! What a rule leaves behind, from its rollout outwards. -/

theorem in_rollout_consulting (rule : Rule) (bounded : rule.coverage.isSome ∨ rule.range.isSome) :
    (setting.inRollout feature rule).consulting = (setting.rolloutCall? feature rule).toList.map .hashed := by
  rw [setting.in_rollout_bounded feature rule bounded, rolloutCall?]
  cases known : setting.identity rule.hashAttribute rule.fallbackAttribute with
  | error failure => rfl
  | ok found =>
      obtain ⟨name, identity⟩ := found
      rw [Run.consulting_ok rfl]
      dsimp only
      by_cases empty : identity.isEmpty
      · simp only [if_pos empty]
        rfl
      · simp only [if_neg empty]
        rfl

theorem offer_consulting (index : Nat) (rule : Rule) (included : Bool) : (offer feature index rule included).consulting = [] := by
  unfold offer
  cases included with
  | false => rfl
  | true => cases rule.variations <;> cases rule.force <;> rfl

theorem meets_condition_consulting (rule : Rule) : (setting.meetsCondition rule).consulting = [] := by
  unfold meetsCondition
  cases rule.condition with
  | none => rfl
  | some condition => exact Run.of_verdict_consulting _

theorem conclude_passed_consulting (index : Nat) (rule : Rule) :
    (setting.conclude feature index rule .passed).consulting = (setting.passedCall? feature rule).toList.map .hashed := by
  apply Run.consulting_quiet (setting.meets_condition_consulting rule)
  · intro holds met
    cases holds with
    | false =>
        have silent : setting.passedCall? feature rule = none := if_neg (by simp [met])
        rw [silent]
        rfl
    | true =>
        simp only [Bool.not_true, Bool.false_eq_true, if_false]
        by_cases consulted : rule.force.isSome ∧ (rule.coverage.isSome ∨ rule.range.isSome)
        · have asked : rule.hasForce && rule.hasRollout := by
            obtain ⟨force, rollout | rollout⟩ := consulted <;> simp [Rule.hasForce, Rule.hasRollout, force, rollout]
          have made : setting.passedCall? feature rule = setting.rolloutCall? feature rule := if_pos ⟨met, consulted⟩
          rw [if_pos asked, made, ← setting.in_rollout_consulting feature rule consulted.2]
          cases inside : (setting.inRollout feature rule).outcome with
          | error failure => exact Run.consulting_error inside _
          | ok included => rw [Run.consulting_ok inside, offer_consulting, List.append_nil]
        · have silent : setting.passedCall? feature rule = none := if_neg fun asked => consulted asked.2
          rw [silent]
          by_cases asked : rule.hasForce && rule.hasRollout
          · have force : rule.force.isSome := (Bool.and_eq_true_iff.mp asked).1
            have everybody := setting.in_rollout_unbounded feature rule fun rollout => consulted ⟨force, rollout⟩
            rw [if_pos asked, everybody, pure_bind]
            exact offer_consulting feature index rule true
          · rw [if_neg asked]
            exact offer_consulting feature index rule true
  · intro failure failed
    have silent : setting.passedCall? feature rule = none := if_neg (by simp [failed])
    rw [silent]
    rfl

theorem check_prerequisites_consulting (prerequisites : List Prerequisite) :
    (checkPrerequisites evaluate prerequisites).consulting =
      (askedPrerequisites evaluate prerequisites).flatMap fun parent => (evaluate parent).consulting :=
  check_prerequisites_log_view Step.consulting? (fun _ => rfl) evaluate prerequisites

def visit (index : Nat) (rule : Rule) : List Step :=
  .event feature (.evaluatingRule index rule) ::
    ((askedPrerequisites evaluate rule.prerequisites).flatMap fun parent => (evaluate parent).consulting) ++
    (setting.hashCall? evaluate feature rule).toList.map .hashed

theorem apply_rule_consulting (index : Nat) (rule : Rule) :
    (setting.applyRule evaluate feature index rule).consulting = setting.visit evaluate feature index rule := by
  have announced : (setting.applyRule evaluate feature index rule).consulting =
      .event feature (.evaluatingRule index rule) ::
        Run.consulting (checkPrerequisites evaluate rule.prerequisites >>= setting.conclude feature index rule) := rfl
  rw [announced, visit, List.cons_append, ← check_prerequisites_consulting, hashCall?]
  apply congrArg (List.cons _)
  cases checked : (checkPrerequisites evaluate rule.prerequisites).outcome with
  | error failure =>
      rw [Run.consulting_error checked]
      simp
  | ok outcome =>
      rw [Run.consulting_ok checked]
      cases outcome with
      | cyclic | gated | failed => rfl
      | passed => rw [if_pos rfl, conclude_passed_consulting]

def visitedRules : Nat → List Rule → List (Nat × Rule)
  | _, [] => []
  | index, rule :: rest =>
      (index, rule) :: if setting.undecided evaluate feature index rule then visitedRules (index + 1) rest else []

theorem apply_rules_consulting (start : Nat) (rules : List Rule) :
    (setting.applyRules evaluate feature start rules).consulting =
      (setting.visitedRules evaluate feature start rules).flatMap fun visited =>
        setting.visit evaluate feature visited.1 visited.2 := by
  induction rules generalizing start with
  | nil => rfl
  | cons rule rest ih =>
      rw [apply_rules_cons, visitedRules, List.flatMap_cons, ← setting.apply_rule_consulting evaluate feature start rule]
      cases applied : (setting.applyRule evaluate feature start rule).outcome with
      | error failure =>
          have stopped : ¬ setting.undecided evaluate feature start rule := by simp [undecided_iff, applied]
          rw [Run.consulting_error applied, if_neg stopped, List.flatMap_nil, List.append_nil]
      | ok decided =>
          rw [Run.consulting_ok applied]
          cases decided with
          | none => rw [if_pos ((setting.undecided_iff evaluate feature start rule).mpr applied), ← ih]
          | some result =>
              have stopped : ¬ setting.undecided evaluate feature start rule := by simp [undecided_iff, applied]
              rw [if_neg stopped]
              rfl

theorem asked_rules_visited (start : Nat) (rules : List Rule) : setting.askedRules evaluate feature start rules =
    (setting.visitedRules evaluate feature start rules).flatMap fun visited =>
      askedPrerequisites evaluate visited.2.prerequisites := by
  induction rules generalizing start with
  | nil => rfl
  | cons rule rest ih =>
      rw [askedRules, visitedRules, List.flatMap_cons, ih]
      by_cases undecided : setting.undecided evaluate feature start rule
      · simp only [if_pos undecided]
      · simp only [if_neg undecided, List.flatMap_nil]

end

def within (setting : Setting) (call : Call) (parent : String) : Run Evaluated :=
  setting.evaluateAlong (call.visiting ++ [call.id]) parent

def visited (setting : Setting) (call : Call) : List (Nat × Rule) :=
  match setting.features.get? call.id with
  | none => []
  | some feature =>
      if call.id ∈ call.visiting then [] else setting.visitedRules (setting.within call) call.id 0 feature.rules

variable (setting : Setting)

theorem run_call_consulting (call : Call) : (setting.runCall call).consulting =
    (setting.visited call).flatMap fun visited => setting.visit (setting.within call) call.id visited.1 visited.2 := by
  have entered : setting.runCall call = setting.enter (setting.within call) call.visiting call.id :=
    setting.evaluate_along_eq call.visiting call.id
  rw [entered, visited]
  cases defined : setting.features.get? call.id with
  | none =>
      simp only [enter, defined]
      rfl
  | some feature =>
      by_cases met : call.id ∈ call.visiting
      · rw [setting.enter_of_met _ _ _ feature defined met]
        simp only [if_pos met]
        rfl
      · simp only [enter, defined, if_neg met, ← apply_rules_consulting]
        rw [Run.consulting_ok rfl]
        cases applied : (setting.applyRules (setting.within call) call.id 0 feature.rules).outcome with
        | error failure =>
            rw [Run.consulting_error applied]
            rfl
        | ok decided =>
            rw [Run.consulting_ok applied]
            simp [Run.consulting, Traced.note, Step.consulting?]

theorem nested_visited (call : Call) : setting.nested call = (setting.visited call).flatMap fun visited =>
    (askedPrerequisites (setting.within call) visited.2.prerequisites).map fun parent => ⟨call.visiting ++ [call.id], parent⟩ := by
  rw [nested, asked, visited]
  cases setting.features.get? call.id with
  | none => rfl
  | some feature =>
      by_cases met : call.id ∈ call.visiting
      · simp only [if_pos met, List.map_nil, List.flatMap_nil]
      · simp only [if_neg met, asked_rules_visited, List.map_flatMap]
        rfl

theorem hashed_visit_iff (call : Call) (index : Nat) (rule : Rule) (made : HashCall) :
    .hashed made ∈ setting.visit (setting.within call) call.id index rule ↔
      setting.Consults (setting.within call) call.id rule made ∨
        ∃ parent ∈ askedPrerequisites (setting.within call) rule.prerequisites,
          .hashed made ∈ (setting.within call parent).consulting := by
  rw [← hash_call_iff, visit, or_comm]
  simp

theorem hashed_iff (call : Call) (made : HashCall) : .hashed made ∈ (setting.runCall call).consulting ↔
    (∃ visited ∈ setting.visited call, setting.Consults (setting.within call) call.id visited.2 made) ∨
      ∃ inner ∈ setting.nested call, .hashed made ∈ (setting.runCall inner).consulting := by
  rw [run_call_consulting, nested_visited]
  simp only [List.mem_flatMap, List.mem_map, hashed_visit_iff]
  constructor
  · rintro ⟨visited, among, consults | ⟨parent, asks, inside⟩⟩
    · exact .inl ⟨visited, among, consults⟩
    · exact .inr ⟨_, ⟨visited, among, parent, asks, rfl⟩, inside⟩
  · rintro (⟨visited, among, consults⟩ | ⟨_, ⟨visited, among, parent, asks, rfl⟩, inside⟩)
    · exact ⟨visited, among, .inl consults⟩
    · exact ⟨visited, among, .inr ⟨parent, asks, inside⟩⟩

variable {setting}

theorem CallStack.inside {first inner : Call} {callers : List Call} {call : Call} (made : inner ∈ setting.nested first)
    (stack : setting.CallStack inner callers call) : setting.CallStack first (first :: callers) call := by
  induction stack with
  | first => exact .nested [] first inner .first made
  | nested callers caller callee _ called ih => exact .nested (first :: callers) caller callee ih called

theorem CallStack.hashed {first call : Call} {callers : List Call} {made : HashCall}
    (stack : setting.CallStack first callers call) (asked : .hashed made ∈ (setting.runCall call).consulting) :
    .hashed made ∈ (setting.runCall first).consulting := by
  induction stack with
  | first => exact asked
  | nested _ caller callee _ called ih => exact ih ((setting.hashed_iff caller made).mpr (.inr ⟨callee, called, asked⟩))

-- Induction on the features that are left to visit: the rule is visited here, or further in.
theorem hashed_stack (path : List String) (id : String) (made : HashCall)
    (asked : .hashed made ∈ (setting.runCall ⟨path, id⟩).consulting) :
    ∃ callers call, setting.CallStack ⟨path, id⟩ callers call ∧
      ∃ visited ∈ setting.visited call, setting.Consults (setting.within call) call.id visited.2 made := by
  induction path, id using evaluateAlong.induct setting with
  | case1 path id ih =>
      rcases (setting.hashed_iff ⟨path, id⟩ made).mp asked with here | ⟨inner, called, inside⟩
      · exact ⟨[], ⟨path, id⟩, .first, here⟩
      · obtain ⟨fresh, feature, defined⟩ := setting.nested_defined called
        obtain ⟨visiting, parent⟩ := inner
        obtain rfl : visiting = path ++ [id] := (setting.nested_made called).1
        obtain ⟨callers, call, stack, found⟩ := ih feature defined fresh parent inside
        exact ⟨_, call, stack.inside called, found⟩

theorem hash_consulted (setting : Setting) :
    (∀ call rule made, setting.hashCall? (setting.within call) call.id rule = some made ↔
      setting.Consults (setting.within call) call.id rule made) ∧
    (∀ call, (setting.runCall call).consulting =
      (setting.visited call).flatMap fun visited => setting.visit (setting.within call) call.id visited.1 visited.2) ∧
    ∀ id made, .hashed made ∈ (setting.evaluate id).consulting ↔ ∃ callers call, setting.CallStack ⟨[], id⟩ callers call ∧
      ∃ visited ∈ setting.visited call, setting.Consults (setting.within call) call.id visited.2 made := by
  refine ⟨fun call => setting.hash_call_iff (setting.within call) call.id, setting.run_call_consulting, fun id made => ?_⟩
  constructor
  · exact hashed_stack [] id made
  · rintro ⟨callers, call, stack, here⟩
    exact stack.hashed ((setting.hashed_iff call made).mpr (.inl here))

end Setting
end FeatureFlags
