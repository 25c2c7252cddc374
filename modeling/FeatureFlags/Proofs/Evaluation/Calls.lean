import FeatureFlags.Proofs.Evaluation.Asked
import Mathlib.Data.List.Dedup

/-! The path of a call is the calls under way around it, all of different, defined features, so evaluation
ends on every feature set, with at most one call under way more than there are features. -/

set_option autoImplicit false

namespace FeatureFlags

structure Call where
  visiting : List String
  id : String

def Step.entered? : Step → Option String
  | .event id .evaluating => some id
  | _ => none

def FeatureSet.definedCount (features : FeatureSet) : Nat := features.ids.dedup.length

structure FeatureSet.Path (features : FeatureSet) (path : List String) : Prop where
  distinct : path.Nodup
  defined : ∀ id ∈ path, ∃ feature, features.get? id = some feature

namespace FeatureSet.Path

variable {features : FeatureSet} {path : List String}

theorem empty : features.Path [] := ⟨List.nodup_nil, fun _ member => absurd member List.not_mem_nil⟩

theorem extend (valid : features.Path path) {id : String} (fresh : id ∉ path)
    (defined : ∃ feature, features.get? id = some feature) : features.Path (path ++ [id]) := by
  refine ⟨List.concat_eq_append ▸ valid.distinct.concat fresh, fun visited member => ?_⟩
  rcases List.mem_append.mp member with earlier | last
  · exact valid.defined visited earlier
  · exact List.mem_singleton.mp last ▸ defined

theorem length_le (valid : features.Path path) : path.length ≤ features.definedCount := by
  apply valid.distinct.length_le_of_subset
  intro id member
  obtain ⟨feature, found⟩ := valid.defined id member
  exact List.mem_dedup.mpr (FeatureSet.mem_ids_of_get? found)

end FeatureSet.Path

namespace Setting

variable (setting : Setting)

def runCall (call : Call) : Run Evaluated := setting.evaluateAlong call.visiting call.id

def nested (call : Call) : List Call :=
  (setting.asked (setting.evaluateAlong (call.visiting ++ [call.id])) call.visiting call.id).map fun parent =>
    ⟨call.visiting ++ [call.id], parent⟩

theorem nested_made {call inner : Call} (made : inner ∈ setting.nested call) :
    inner.visiting = call.visiting ++ [call.id] ∧
      inner.id ∈ setting.asked (setting.evaluateAlong inner.visiting) call.visiting call.id := by
  obtain ⟨parent, asks, same⟩ := List.mem_map.mp made
  subst inner
  exact ⟨rfl, asks⟩

theorem nested_defined {call inner : Call} (made : inner ∈ setting.nested call) :
    call.id ∉ call.visiting ∧ ∃ feature, setting.features.get? call.id = some feature := by
  obtain ⟨fresh, feature, defined, _⟩ := setting.asked_defined _ _ _ _ (setting.nested_made made).2
  exact ⟨fresh, feature, defined⟩

theorem run_call_log_view {γ : Type} (view : Step → Option γ)
    (quiet : ∀ step, step.ofRules = true → view step = none) (call : Call) :
    (setting.runCall call).log.filterMap view =
      (setting.arrival call.visiting call.id).filterMap view ++
        (setting.nested call).flatMap fun inner => (setting.runCall inner).log.filterMap view := by
  simp only [runCall, nested, List.flatMap_map]
  rw [evaluate_along_eq, enter_log_view view quiet]

theorem run_call_entered (call : Call) :
    (setting.runCall call).log.filterMap Step.entered? =
      call.id :: (setting.nested call).flatMap fun inner => (setting.runCall inner).log.filterMap Step.entered? := by
  have quiet : ∀ step : Step, step.ofRules = true → step.entered? = none := by
    intro step own
    unfold Step.entered?
    split
    · cases own
    · rfl
  rw [setting.run_call_log_view Step.entered? quiet]
  unfold arrival
  split
  · rfl
  · split <;> rfl

inductive CallStack (first : Call) : List Call → Call → Prop where
  | first : CallStack first [] first
  | nested (callers : List Call) (caller callee : Call) (outer : CallStack first callers caller)
      (made : callee ∈ setting.nested caller) : CallStack first (callers ++ [caller]) callee

structure StackValid (callers : List Call) (call : Call) : Prop where
  visiting : call.visiting = callers.map Call.id
  path : setting.features.Path call.visiting

theorem nested_stack_valid {callers : List Call} {caller callee : Call} (made : callee ∈ setting.nested caller)
    (valid : setting.StackValid callers caller) : setting.StackValid (callers ++ [caller]) callee := by
  have extended := (setting.nested_made made).1
  obtain ⟨fresh, defined⟩ := setting.nested_defined made
  refine ⟨?_, ?_⟩
  · rw [extended, valid.visiting, List.map_append, List.map_singleton]
  · rw [extended]
    exact valid.path.extend fresh defined

theorem call_stack_valid {root : String} {callers : List Call} {call : Call}
    (stack : setting.CallStack ⟨[], root⟩ callers call) : setting.StackValid callers call := by
  induction stack with
  | first => exact ⟨rfl, .empty⟩
  | nested callers caller callee _ made ih => exact setting.nested_stack_valid made ih

-- A call returns within a depth if the calls that it makes return within one less. Nothing is said of
-- prerequisites that are not asked, and nothing here bounds the path.
inductive Returns : Nat → Call → Run Evaluated → Prop where
  | call (depth : Nat) (call : Call) (evaluate : String → Run Evaluated)
      (inner : ∀ parent ∈ setting.asked evaluate call.visiting call.id,
        Returns depth ⟨call.visiting ++ [call.id], parent⟩ (evaluate parent)) :
      Returns (depth + 1) call (setting.enter evaluate call.visiting call.id)

theorem returns_unique {depth : Nat} {call : Call} {run : Run Evaluated}
    (returns : setting.Returns depth call run) : run = setting.runCall call := by
  induction returns with
  | call depth call evaluate _ ih =>
      rw [runCall, evaluate_along_eq]
      exact setting.enter_congr _ _ _ _ ih

-- What is left of the depth is the number of features that are not on the path.
theorem run_call_returns (path : List String) (id : String) (valid : setting.features.Path path) :
    setting.Returns (setting.features.definedCount - path.length + 1) ⟨path, id⟩
      (setting.evaluateAlong path id) := by
  induction path, id using evaluateAlong.induct setting with
  | case1 path id ih =>
      rw [evaluate_along_eq]
      refine .call _ ⟨path, id⟩ _ fun parent asks => ?_
      obtain ⟨fresh, feature, defined, _⟩ := setting.asked_defined _ path id parent asks
      have extended := valid.extend fresh ⟨feature, defined⟩
      have bound := extended.length_le
      have later := ih feature defined fresh parent extended
      rw [List.length_append, List.length_singleton] at bound later
      have depth : setting.features.definedCount - (path.length + 1) + 1 =
          setting.features.definedCount - path.length := by omega
      exact depth ▸ later

theorem evaluation_ends (id : String) :
    (setting.Returns (setting.features.definedCount + 1) ⟨[], id⟩ (setting.evaluate id) ∧
      ∀ depth run, setting.Returns depth ⟨[], id⟩ run → run = setting.evaluate id) ∧
    (∀ callers call, setting.CallStack ⟨[], id⟩ callers call →
      call.visiting = callers.map Call.id ∧ call.visiting.Nodup ∧
        (∀ visited ∈ call.visiting, ∃ feature, setting.features.get? visited = some feature) ∧
        callers.length + 1 ≤ setting.features.definedCount + 1) ∧
    ∀ call, (setting.runCall call).log.filterMap Step.entered? =
      call.id :: (setting.nested call).flatMap fun inner =>
        (setting.runCall inner).log.filterMap Step.entered? := by
  refine ⟨⟨?_, fun _ _ returns => setting.returns_unique returns⟩, fun callers call stack => ?_,
    setting.run_call_entered⟩
  · exact setting.run_call_returns [] id .empty
  · have valid := setting.call_stack_valid stack
    have bound := valid.path.length_le
    rw [valid.visiting, List.length_map] at bound
    exact ⟨valid.visiting, valid.path.distinct, valid.path.defined, Nat.succ_le_succ bound⟩

end Setting

def Rule.requiring (parents : List String) : Rule :=
  { condition := none, prerequisites := parents.map fun parent => ⟨parent, .obj [("value", .bool true)], false⟩,
    force := some (.bool true), coverage := none, range := none, seed := none, hashAttribute := none,
    fallbackAttribute := none, hashVersion := none, variations := none }

def shop : Setting :=
  { features := [("payments", ⟨"payments", .bool false, [.requiring []]⟩),
      ("checkout", ⟨"checkout", .bool false, [.requiring ["payments"]]⟩),
      ("loyalty", ⟨"loyalty", .bool false, [.requiring ["payments", "rewards"]]⟩),
      ("rewards", ⟨"rewards", .bool false, [.requiring ["loyalty"]]⟩)],
    attributes := [], user := [], hash := bucketHash, sticky := false }

theorem evaluation_ends_rewards :
    shop.CallStack ⟨[], "rewards"⟩ [⟨[], "rewards"⟩, ⟨["rewards"], "loyalty"⟩] ⟨["rewards", "loyalty"], "payments"⟩ ∧
      ["rewards", "loyalty"].Nodup ∧ 2 + 1 ≤ shop.features.definedCount + 1 := by
  have stack : shop.CallStack ⟨[], "rewards"⟩ [⟨[], "rewards"⟩, ⟨["rewards"], "loyalty"⟩]
      ⟨["rewards", "loyalty"], "payments"⟩ := by
    refine .nested [⟨[], "rewards"⟩] _ _ (.nested [] _ _ .first ?_) ?_
    · exact List.mem_map.mpr ⟨"loyalty", List.mem_append_left _ List.mem_cons_self, rfl⟩
    · exact List.mem_map.mpr ⟨"payments", List.mem_append_left _ List.mem_cons_self, rfl⟩
  obtain ⟨_, distinct, _, depth⟩ := (shop.evaluation_ends "rewards").2.1 _ _ stack
  exact ⟨stack, distinct, depth⟩

end FeatureFlags
