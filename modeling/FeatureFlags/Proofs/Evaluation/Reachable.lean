import FeatureFlags.Proofs.Evaluation.Counterpart
import FeatureFlags.Proofs.Evaluation.Folding

/-! Two sets that agree on all features that a feature leads to evaluate it step for step in the same way,
whatever else they hold and in whatever order. -/

set_option autoImplicit false

namespace FeatureFlags

namespace Setting

variable (setting : Setting) (features : FeatureSet)

def AgreesFrom (id : String) : Prop :=
  ∀ reached, Relation.ReflTransGen setting.features.Names id reached →
    features.get? reached = setting.features.get? reached

variable {setting features}

theorem evaluate_along_agrees (path : List String) (id : String) (agrees : setting.AgreesFrom features id) :
    (setting.withFeatures features).evaluateAlong path id = setting.evaluateAlong path id := by
  symm
  apply evaluate_along_same
  intro reached leads
  apply Corresponds.of_same (agrees reached leads)
  intro feature _ rule _ index outcome
  -- What a rule concludes does not depend on the features.
  cases outcome <;> rfl

variable (setting features)

theorem evaluate_reachable (id : String) (agrees : setting.AgreesFrom features id) :
    (setting.withFeatures features).evaluate id = setting.evaluate id :=
  evaluate_along_agrees [] id agrees

end Setting

def movedShop : FeatureSet :=
  [("rewards", ⟨"rewards", .bool false, [.requiring ["loyalty"]]⟩),
    ("gifts", ⟨"gifts", .bool true, [.requiring ["rewards", "checkout"]]⟩),
    ("payments", ⟨"payments", .bool false, [.requiring []]⟩),
    ("loyalty", ⟨"loyalty", .bool false, [.requiring ["payments", "rewards"]]⟩)]

theorem shop_reaches (reached : String) (leads : Relation.ReflTransGen shop.features.Names "rewards" reached) :
    reached = "rewards" ∨ reached = "loyalty" ∨ reached = "payments" := by
  induction leads with
  | refl => exact .inl rfl
  | tail _ names ih =>
      rcases ih with rfl | rfl | rfl
      · exact .inr (.inl (List.mem_singleton.mp names))
      · rcases List.mem_pair.mp names with rfl | rfl
        · exact .inr (.inr rfl)
        · exact .inl rfl
      · exact absurd names List.not_mem_nil

theorem evaluate_reachable_rewards :
    shop.AgreesFrom movedShop "rewards" ∧ (shop.withFeatures movedShop).evaluate "rewards" = shop.evaluate "rewards" := by
  have agrees : shop.AgreesFrom movedShop "rewards" := by
    intro reached leads
    rcases shop_reaches reached leads with rfl | rfl | rfl
    · rfl
    · rfl
    · rfl
  exact ⟨agrees, shop.evaluate_reachable movedShop "rewards" agrees⟩

end FeatureFlags
