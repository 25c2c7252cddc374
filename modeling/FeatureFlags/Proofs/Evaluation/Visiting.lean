import FeatureFlags.Proofs.Evaluation.Calls

/-! Two evaluations of a feature along different paths agree unless one of them is cyclic, and a longer path
can only add cycles. -/

set_option autoImplicit false

namespace FeatureFlags

namespace Setting

variable (setting : Setting)

-- Induction on the first path: the features that are left to visit. The other path comes along.
theorem evaluate_along_agree (path other : List String) (id : String) :
    Cyclic (setting.evaluateAlong path id) ∨ Cyclic (setting.evaluateAlong other id) ∨
      setting.evaluateAlong path id = setting.evaluateAlong other id := by
  induction path, id using evaluateAlong.induct setting generalizing other with
  | case1 path id ih =>
      rw [setting.evaluate_along_eq path, setting.evaluate_along_eq other]
      have agree : id ∉ path → id ∉ other → ∀ parent ∈ setting.features.parents id,
          AgreeOrCyclic some (setting.evaluateAlong (path ++ [id]) parent)
            (setting.evaluateAlong (other ++ [id]) parent) := by
        intro fresh _ parent member
        obtain ⟨feature, defined⟩ := FeatureSet.parents_defined member
        rcases ih feature defined fresh parent (other ++ [id]) with cyclic | cyclic | same
        · exact .inl cyclic
        · exact .inr (.inl cyclic)
        · exact .inr (.inr (.of_eq same))
      rcases setting.enter_agree some _ _ path other id agree with cyclic | cyclic | alike
      · exact .inl cyclic
      · exact .inr (.inl cyclic)
      · exact .inr (.inr alike.eq_of_all)

theorem evaluate_along_agree_view {γ : Type} (view : Step → Option γ) (path other : List String) (id : String) :
    AgreeOrCyclic view (setting.evaluateAlong path id) (setting.evaluateAlong other id) := by
  rcases setting.evaluate_along_agree path other id with cyclic | cyclic | same
  · exact .inl cyclic
  · exact .inr (.inl cyclic)
  · exact .inr (.inr (.of_eq same))

theorem evaluate_along_defined (path : List String) (id : String)
    (cyclic : Cyclic (setting.evaluateAlong path id)) : ∃ feature, setting.features.get? id = some feature := by
  rw [evaluate_along_eq] at cyclic
  exact setting.enter_cyclic_defined _ path id cyclic

theorem evaluate_along_outcome (path : List String) (id : String)
    (cyclic : Cyclic (setting.evaluateAlong path id)) :
    (setting.evaluateAlong path id).outcome = .ok (.ofSource id .cyclicPrerequisite) := by
  rw [evaluate_along_eq] at cyclic ⊢
  exact setting.enter_cyclic_outcome _ path id cyclic

theorem evaluate_along_of_met (path : List String) (id : String) (feature : Feature)
    (defined : setting.features.get? id = some feature) (met : id ∈ path) :
    Cyclic (setting.evaluateAlong path id) := by
  rw [evaluate_along_eq, setting.enter_of_met _ path id feature defined met]
  exact ⟨_, rfl, rfl⟩

theorem evaluate_along_more (fewer more : List String) (id : String) (subset : fewer ⊆ more)
    (cyclic : Cyclic (setting.evaluateAlong fewer id)) : Cyclic (setting.evaluateAlong more id) := by
  induction more, id using evaluateAlong.induct setting generalizing fewer with
  | case1 more id ih =>
      obtain ⟨feature, defined⟩ := setting.evaluate_along_defined fewer id cyclic
      by_cases met : id ∈ more
      · exact setting.evaluate_along_of_met more id feature defined met
      rw [evaluate_along_eq] at cyclic ⊢
      obtain ⟨before, parent, same, parentCyclic, _⟩ :=
        setting.asked_of_cyclic _ fewer id cyclic fun member => met (subset member)
      have extended : fewer ++ [id] ⊆ more ++ [id] :=
        List.append_subset.mpr ⟨List.subset_append_of_subset_left _ subset, List.subset_append_right _ _⟩
      have further := ih feature defined met parent (fewer ++ [id]) extended parentCyclic
      exact ⟨_, setting.enter_of_asked some _ _ fewer more id parent (by simp [same]) further fun other _ =>
        setting.evaluate_along_agree_view some (fewer ++ [id]) (more ++ [id]) other, rfl⟩

theorem evaluate_along_subset (fewer more : List String) (id : String) (subset : fewer ⊆ more) :
    Cyclic (setting.evaluateAlong more id) ∨ setting.evaluateAlong more id = setting.evaluateAlong fewer id := by
  rcases setting.evaluate_along_agree more fewer id with cyclic | cyclic | same
  · exact .inl cyclic
  · exact .inl (setting.evaluate_along_more fewer more id subset cyclic)
  · exact .inr same

theorem nested_cyclic {call inner : Call} (made : inner ∈ setting.nested call)
    (cyclic : Cyclic (setting.runCall inner)) : Cyclic (setting.runCall call) := by
  obtain ⟨extended, asks⟩ := setting.nested_made made
  rw [runCall, evaluate_along_eq, ← extended]
  exact ⟨_, setting.enter_of_asked some _ _ call.visiting call.visiting call.id inner.id asks cyclic
    fun _ _ => .inr (.inr (.of_eq rfl)), rfl⟩

theorem call_stack_acyclic {first : Call} {callers : List Call} {call : Call}
    (stack : setting.CallStack first callers call) (acyclic : ¬ Cyclic (setting.runCall first)) :
    ¬ Cyclic (setting.runCall call) := by
  induction stack with
  | first => exact acyclic
  | nested callers caller callee _ made ih => exact fun cyclic => ih (setting.nested_cyclic made cyclic)

theorem visiting_adds_only_cycles (fewer more : List String) (id : String) (subset : fewer ⊆ more) :
    ((setting.evaluateAlong more id).outcome = .ok (.ofSource id .cyclicPrerequisite) ∨
      setting.evaluateAlong more id = setting.evaluateAlong fewer id) ∧
    (¬ Cyclic (setting.evaluateAlong more id) → ∀ callers call, setting.CallStack ⟨more, id⟩ callers call →
      setting.runCall call = setting.evaluate call.id) := by
  refine ⟨?_, fun acyclic callers call stack => ?_⟩
  · rcases setting.evaluate_along_subset fewer more id subset with cyclic | same
    · exact .inl (setting.evaluate_along_outcome more id cyclic)
    · exact .inr same
  · have callAcyclic := setting.call_stack_acyclic stack acyclic
    exact (setting.evaluate_along_subset [] call.visiting call.id (List.nil_subset _)).resolve_left callAcyclic

end Setting

theorem visiting_adds_only_cycles_payments :
    ["checkout"] ⊆ ["loyalty", "checkout"] ∧
      shop.evaluateAlong ["loyalty", "checkout"] "payments" = shop.evaluateAlong ["checkout"] "payments" := by
  have subset : ["checkout"] ⊆ ["loyalty", "checkout"] := by decide
  have forced : (shop.evaluateAlong ["loyalty", "checkout"] "payments").outcome =
      .ok ⟨"payments", .bool true, .force, some (.requiring [])⟩ := by
    rw [Setting.evaluate_along_eq]
    rfl
  refine ⟨subset, ((shop.visiting_adds_only_cycles _ _ "payments" subset).1).resolve_left fun cyclic => ?_⟩
  have source := congrArg Evaluated.source (Except.ok.inj (forced.symm.trans cyclic))
  cases source

end FeatureFlags
