import FeatureFlags.Proofs.Evaluation.Calls
import FeatureFlags.Proofs.Evaluation.Rollout
import FeatureFlags.Proofs.Evaluation.Unmentioned

/-! The fallback attribute of a rule is asked only for a caller whose primary attribute has no text, so
elsewhere sticky bucketing makes no difference. -/

set_option autoImplicit false

namespace FeatureFlags

namespace Setting

def withSticky (setting : Setting) (sticky : Bool) : Setting := { setting with sticky }

def Identified (setting : Setting) (rule : Rule) : Prop :=
  ∃ value, setting.lookup rule.hashName = .ok value ∧ value.plainText ≠ ""

theorem identity_of_text (setting : Setting) (rule : Rule) (value : Json) (found : setting.lookup rule.hashName = .ok value)
    (text : value.plainText ≠ "") :
    setting.identity rule.hashAttribute rule.fallbackAttribute = .ok (rule.hashName, value.plainText) := by
  have nonempty : value.plainText.isEmpty = false := by simpa [String.isEmpty_iff] using text
  unfold Rule.hashName at found ⊢
  rw [identity, found]
  cases rule.fallbackAttribute.bind Json.truthy? with
  | none => rfl
  | some fallback => simp [Bind.bind, Except.bind, Pure.pure, Except.pure, nonempty]

variable (setting : Setting) {rule : Rule}

theorem in_rollout_sticky (feature : String)
    (identified : rule.coverage.isSome ∨ rule.range.isSome → setting.Identified rule) :
    (setting.withSticky true).inRollout feature rule = (setting.withSticky false).inRollout feature rule := by
  by_cases bounded : rule.coverage.isSome ∨ rule.range.isSome
  · obtain ⟨value, found, text⟩ := identified bounded
    have sticky := (setting.withSticky true).identity_of_text rule value found text
    have plain := (setting.withSticky false).identity_of_text rule value found text
    rw [in_rollout_bounded _ feature rule bounded, in_rollout_bounded _ feature rule bounded, sticky, plain]
    rfl
  · rw [in_rollout_unbounded _ feature rule bounded, in_rollout_unbounded _ feature rule bounded]

theorem conclude_sticky (feature : String) (index : Nat) (outcome : PrerequisiteOutcome)
    (identified : rule.coverage.isSome ∨ rule.range.isSome → setting.Identified rule) :
    (setting.withSticky true).conclude feature index rule outcome =
      (setting.withSticky false).conclude feature index rule outcome := by
  cases outcome with
  | cyclic | gated | failed => rfl
  | passed =>
      have condition : (setting.withSticky true).meetsCondition rule = (setting.withSticky false).meetsCondition rule := rfl
      simp only [conclude, condition, setting.in_rollout_sticky feature identified]

def IdentifiedFrom (id : String) : Prop :=
  ∀ reached, Relation.ReflTransGen setting.features.Names id reached →
    ∀ feature, setting.features.get? reached = some feature → ∀ rule ∈ feature.rules,
      rule.coverage.isSome ∨ rule.range.isSome → setting.Identified rule

theorem sticky_keeps_identified (id : String) (identified : setting.IdentifiedFrom id) :
    (setting.withSticky true).evaluate id = (setting.withSticky false).evaluate id := by
  apply evaluate_along_same
  intro reached leads
  apply Corresponds.of_same
  · rfl
  · intro feature defined rule ofFeature index outcome
    exact setting.conclude_sticky reached index outcome (identified reached leads feature defined rule ofFeature)

end Setting

def Rule.byAccount : Rule :=
  { Rule.requiring [] with
    coverage := some (Double.ofRatio false 1 2), hashAttribute := some (.str "account"),
    fallbackAttribute := some (.str "device") }

def Rule.afterTrial : Rule :=
  { Rule.requiring ["trial"] with
    range := some (.zero, Double.ofRatio false 1 4), fallbackAttribute := some (.str "device") }

def trial : Setting :=
  { features := [("trial", ⟨"trial", .bool false, [.byAccount]⟩), ("upgrade", ⟨"upgrade", .bool false, [.afterTrial]⟩)],
    attributes := [("id", .str "u1"), ("device", .str "d9")], user := [("account", .int 7)], hash := bucketHash,
    sticky := false }

theorem trial_reaches (reached : String) (leads : Relation.ReflTransGen trial.features.Names "upgrade" reached) :
    reached = "upgrade" ∨ reached = "trial" := by
  induction leads with
  | refl => exact .inl rfl
  | tail _ names ih =>
      rcases ih with rfl | rfl
      · exact .inr (List.mem_singleton.mp names)
      · exact absurd names List.not_mem_nil

theorem sticky_keeps_identified_upgrade : trial.IdentifiedFrom "upgrade" ∧
    (trial.withSticky true).evaluate "upgrade" = (trial.withSticky false).evaluate "upgrade" := by
  have identified : trial.IdentifiedFrom "upgrade" := by
    intro reached leads feature defined rule ofFeature _
    rcases trial_reaches reached leads with rfl | rfl
    · cases defined
      rw [List.mem_singleton.mp ofFeature]
      exact ⟨.str "u1", rfl, by decide⟩
    · cases defined
      rw [List.mem_singleton.mp ofFeature]
      exact ⟨.int 7, rfl, by decide⟩
  exact ⟨identified, trial.sticky_keeps_identified "upgrade" identified⟩

end FeatureFlags
