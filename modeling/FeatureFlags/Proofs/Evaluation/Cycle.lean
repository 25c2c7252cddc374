import FeatureFlags.Proofs.Evaluation.Visiting
import FeatureFlags.Evaluation.Log
import Mathlib

/-! A feature is reported cyclic exactly if it leads into a knot: features each of which asks another of them.
Along the way one warning is logged, with the chain of features that led to the cycle, and every feature of
the chain is cyclic for itself. -/

set_option autoImplicit false

namespace FeatureFlags

def Step.cycle? : Step → Option (String × List String)
  | .event id (.cyclic path) => some (id, path)
  | _ => none

theorem cycle_quiet (step : Step) (own : step.ofRules = true) : step.cycle? = none := by
  unfold Step.cycle?
  split
  · cases own
  · rfl

structure FeatureSet.Cycle (features : FeatureSet) (first : String) (chain : List String) (closing : String) :
    Prop where
  starts : chain.head? = some first
  distinct : chain.Nodup
  defined : ∀ id ∈ chain, ∃ feature, features.get? id = some feature
  linked : (chain ++ [closing]).IsChain features.Names
  closes : closing ∈ chain

namespace Setting

variable (setting : Setting)

-- Each feature of a knot asks another of the knot. What it asks is told by runs of its own, which may
-- differ from the evaluation of the prerequisites as long as they agree or are cyclic.
def Knot {γ : Type} (view : Step → Option γ) (knot : String → Prop) : Prop :=
  ∀ id, knot id → ∃ evaluate path parent, knot parent ∧ parent ∈ setting.asked evaluate path id ∧
    ∀ other ∈ setting.features.parents id, AgreeOrCyclic view (evaluate other) (setting.evaluate other)

theorem evaluate_agree_along {γ : Type} {view : Step → Option γ} {run : Run Evaluated} {id : String}
    (agree : AgreeOrCyclic view run (setting.evaluate id)) (path : List String) :
    AgreeOrCyclic view run (setting.evaluateAlong path id) := by
  rcases agree with cyclic | cyclic | stands
  · exact .inl cyclic
  · exact .inr (.inl (setting.evaluate_along_more [] path id (List.nil_subset _) cyclic))
  · rcases setting.evaluate_along_subset [] path id (List.nil_subset _) with cyclic | same
    · exact .inr (.inl cyclic)
    · exact .inr (.inr (same ▸ stands))

-- Induction on the features that are left to visit: each step of the walk through the knot takes one.
theorem knot_cyclic {γ : Type} (view : Step → Option γ) (knot : String → Prop) (tied : setting.Knot view knot)
    (path : List String) (id : String) (member : knot id) : Cyclic (setting.evaluateAlong path id) := by
  induction path, id using evaluateAlong.induct setting with
  | case1 path id ih =>
      obtain ⟨evaluate, askingPath, parent, parentMember, asks, agree⟩ := tied id member
      obtain ⟨_, feature, defined, _⟩ := setting.asked_defined evaluate askingPath id parent asks
      by_cases met : id ∈ path
      · exact setting.evaluate_along_of_met path id feature defined met
      have further := ih feature defined met parent parentMember
      rw [evaluate_along_eq]
      exact ⟨_, setting.enter_of_asked view _ _ askingPath path id parent asks further fun other ofFeature =>
        setting.evaluate_agree_along (agree other ofFeature) (path ++ [id]), rfl⟩

theorem acyclic_no_cycles (path : List String) (id : String)
    (acyclic : ¬ Cyclic (setting.evaluateAlong path id)) :
    (setting.evaluateAlong path id).log.filterMap Step.cycle? = [] := by
  induction path, id using evaluateAlong.induct setting with
  | case1 path id ih =>
      have log := setting.run_call_log_view Step.cycle? cycle_quiet ⟨path, id⟩
      have arrived : (setting.arrival path id).filterMap Step.cycle? = [] := by
        unfold arrival
        cases defined : setting.features.get? id with
        | none => rfl
        | some feature =>
            have fresh : id ∉ path := fun met =>
              acyclic (setting.evaluate_along_of_met path id feature defined met)
            simp [fresh, Step.cycle?]
      have nested : ((setting.nested ⟨path, id⟩).flatMap fun inner =>
          (setting.runCall inner).log.filterMap Step.cycle?) = [] := by
        rw [List.flatMap_eq_nil_iff]
        intro inner made
        obtain ⟨fresh, feature, defined⟩ := setting.nested_defined made
        have extended := (setting.nested_made made).1
        have innerAcyclic : ¬ Cyclic (setting.runCall inner) := fun cyclic =>
          acyclic (setting.nested_cyclic made cyclic)
        rw [runCall, extended] at innerAcyclic ⊢
        exact ih feature defined fresh inner.id innerAcyclic
      rw [arrived, nested] at log
      exact log

-- A cyclic call leads down the calls that it makes, by the one that is cyclic, to a feature on its path.
theorem cyclic_descends (root : String) (path : List String) (id : String) (callers : List Call)
    (stack : setting.CallStack ⟨[], root⟩ callers ⟨path, id⟩)
    (cyclic : Cyclic (setting.evaluateAlong path id)) :
    ∃ lastCallers last, setting.CallStack ⟨[], root⟩ lastCallers last ∧ last.id ∈ last.visiting ∧
      (setting.evaluateAlong path id).log.filterMap Step.cycle? = [(last.id, last.visiting)] := by
  induction path, id using evaluateAlong.induct setting generalizing callers with
  | case1 path id ih =>
      obtain ⟨feature, defined⟩ := setting.evaluate_along_defined path id cyclic
      by_cases met : id ∈ path
      · refine ⟨callers, ⟨path, id⟩, stack, met, ?_⟩
        rw [evaluate_along_eq, setting.enter_of_met _ path id feature defined met]
        rfl
      have entered := cyclic
      rw [evaluate_along_eq] at entered
      obtain ⟨before, parent, asked, parentCyclic, earlierAcyclic⟩ := setting.asked_of_cyclic _ path id entered met
      have made : (⟨path ++ [id], parent⟩ : Call) ∈ setting.nested ⟨path, id⟩ :=
        List.mem_map.mpr ⟨parent, by simp [asked], rfl⟩
      obtain ⟨lastCallers, last, lastStack, closes, log⟩ :=
        ih feature defined met parent _ (.nested _ _ _ stack made) parentCyclic
      refine ⟨lastCallers, last, lastStack, closes, ?_⟩
      have earlier : (before.flatMap fun other =>
          (setting.evaluateAlong (path ++ [id]) other).log.filterMap Step.cycle?) = [] := by
        rw [List.flatMap_eq_nil_iff]
        exact fun other among => setting.acyclic_no_cycles (path ++ [id]) other (earlierAcyclic other among)
      rw [evaluate_along_eq, enter_log_view Step.cycle? cycle_quiet, asked, List.flatMap_append, earlier,
        List.flatMap_singleton, log]
      simp [arrival, defined, met, Step.cycle?]

theorem nested_parent {call inner : Call} (made : inner ∈ setting.nested call) :
    setting.features.Names call.id inner.id :=
  setting.asked_parents _ _ _ _ (setting.nested_made made).2

structure StackLinked (root : String) (call : Call) : Prop where
  starts : (call.visiting ++ [call.id]).head? = some root
  linked : (call.visiting ++ [call.id]).IsChain setting.features.Names
  reached : Relation.ReflTransGen setting.features.Names root call.id
  leads : ∀ id ∈ call.visiting, Relation.TransGen setting.features.Names id call.id
  asks : ∀ id ∈ call.visiting, ∃ path parent, (parent ∈ call.visiting ∨ parent = call.id) ∧
    parent ∈ setting.asked (setting.evaluateAlong (path ++ [id])) path id

theorem call_stack_linked {root : String} {callers : List Call} {call : Call}
    (stack : setting.CallStack ⟨[], root⟩ callers call) : setting.StackLinked root call := by
  induction stack with
  | first =>
      refine ⟨rfl, .singleton _, .refl, ?_, ?_⟩
      · exact fun _ member => absurd member List.not_mem_nil
      · exact fun _ member => absurd member List.not_mem_nil
  | nested callers caller callee _ made ih =>
      obtain ⟨extended, asks⟩ := setting.nested_made made
      have parent := setting.nested_parent made
      refine ⟨?_, ?_, ih.reached.tail parent, fun id member => ?_, fun id member => ?_⟩
      · rw [extended, List.head?_append, ih.starts]
        rfl
      · rw [extended]
        refine ih.linked.append (.singleton _) fun id last next first => ?_
        simp only [List.getLast?_concat, Option.mem_some_iff] at last
        simp only [List.head?_cons, Option.mem_some_iff] at first
        exact last ▸ first ▸ parent
      · rw [extended] at member
        rcases List.mem_append.mp member with earlier | last
        · exact (ih.leads id earlier).tail parent
        · rw [List.mem_singleton.mp last]
          exact .single parent
      · rw [extended] at member ⊢
        rcases List.mem_append.mp member with earlier | last
        · obtain ⟨path, next, among, isAsked⟩ := ih.asks id earlier
          refine ⟨path, next, .inl ?_, isAsked⟩
          rcases among with inside | isCaller
          · exact List.mem_append_left _ inside
          · exact List.mem_append_right _ (List.mem_singleton.mpr isCaller)
        · rw [List.mem_singleton.mp last]
          exact ⟨caller.visiting, callee.id, .inr rfl, extended ▸ asks⟩

theorem closed_stack_knot {root : String} {callers : List Call} {last : Call}
    (stack : setting.CallStack ⟨[], root⟩ callers last) (closes : last.id ∈ last.visiting) :
    setting.Knot (some : Step → Option Step) (· ∈ last.visiting) := by
  intro id member
  obtain ⟨path, parent, among, asks⟩ := (setting.call_stack_linked stack).asks id member
  refine ⟨_, path, parent, ?_, asks, fun other _ => ?_⟩
  · exact among.elim (fun inside => inside) fun isLast => isLast ▸ closes
  · exact setting.evaluate_along_agree_view some (path ++ [id]) [] other

theorem closed_stack_cycle {root : String} {callers : List Call} {last : Call}
    (stack : setting.CallStack ⟨[], root⟩ callers last) (closes : last.id ∈ last.visiting) :
    setting.features.Cycle root last.visiting last.id := by
  have linked := setting.call_stack_linked stack
  have valid := (setting.call_stack_valid stack).path
  refine ⟨?_, valid.distinct, valid.defined, linked.linked, closes⟩
  rw [← linked.starts, List.head?_append_of_ne_nil _ (List.ne_nil_of_mem closes)]

end Setting

end FeatureFlags
