import FeatureFlags.Proofs.Condition.Paths
import FeatureFlags.Proofs.Evaluation.Counterpart

/-! Of the attributes and the user a rule sees what the paths of its condition lead to, and what its hash
attribute and its fallback name. Prerequisites look at values of features alone. -/

set_option autoImplicit false

namespace FeatureFlags

def Setting.inContext (setting : Setting) (attributes user : Fields) : Setting := { setting with attributes, user }

namespace Rule

def hashName (rule : Rule) : Json := (rule.hashAttribute.bind Json.truthy?).getD Setting.defaultAttribute

structure SeesAlike (rule : Rule) (setting other : Setting) : Prop where
  paths : ∀ condition, rule.condition = some condition → ∀ path, Condition.Path condition path →
    (Operand.value (.obj setting.attributes)).path path = (Operand.value (.obj other.attributes)).path path
  hashed : setting.lookup rule.hashName = other.lookup rule.hashName
  fallback : ∀ name, rule.fallbackAttribute.bind Json.truthy? = some name → setting.lookup name = other.lookup name

end Rule

namespace Setting

variable (setting : Setting) (attributes user : Fields)

section

variable {setting attributes user} {rule : Rule} (alike : rule.SeesAlike setting (setting.inContext attributes user))

include alike

theorem condition_alike : setting.meetsCondition rule = (setting.inContext attributes user).meetsCondition rule := by
  unfold meetsCondition
  cases held : rule.condition with
  | none => rfl
  | some condition =>
      have same := Condition.verdict_of_paths condition _ _ (alike.paths condition held)
      exact congrArg Run.ofVerdict same

theorem identity_alike : setting.identity rule.hashAttribute rule.fallbackAttribute =
    (setting.inContext attributes user).identity rule.hashAttribute rule.fallbackAttribute := by
  have primary := alike.hashed
  unfold Rule.hashName at primary
  simp only [identity, primary]
  cases named : rule.fallbackAttribute.bind Json.truthy? with
  | none => rfl
  | some name =>
      simp only [alike.fallback name named]
      rfl

theorem rollout_alike (feature : String) :
    setting.inRollout feature rule = (setting.inContext attributes user).inRollout feature rule := by
  unfold inRollout
  rw [identity_alike alike]
  rfl

theorem conclude_alike (feature : String) (index : Nat) (outcome : PrerequisiteOutcome) :
    setting.conclude feature index rule outcome =
      (setting.inContext attributes user).conclude feature index rule outcome := by
  cases outcome with
  | cyclic | gated | failed => rfl
  | passed => simp only [conclude, condition_alike alike, rollout_alike alike]

end

def SeenAlikeFrom (id : String) : Prop :=
  ∀ reached, Relation.ReflTransGen setting.features.Names id reached →
    ∀ feature, setting.features.get? reached = some feature → ∀ rule ∈ feature.rules,
      rule.SeesAlike setting (setting.inContext attributes user)

theorem evaluate_along_alike (path : List String) (id : String) (alike : setting.SeenAlikeFrom attributes user id) :
    setting.evaluateAlong path id = (setting.inContext attributes user).evaluateAlong path id := by
  apply evaluate_along_same
  intro reached leads
  apply Corresponds.of_same
  · rfl
  · intro feature defined rule ofFeature index outcome
    exact conclude_alike (alike reached leads feature defined rule ofFeature) reached index outcome

theorem unmentioned_attributes (id : String) (alike : setting.SeenAlikeFrom attributes user id) :
    (setting.inContext attributes user).evaluate id = setting.evaluate id :=
  (setting.evaluate_along_alike attributes user [] id alike).symm

end Setting

def campaign : Setting :=
  { features := [("loyalty", ⟨"loyalty", .bool true, []⟩),
      ("discount", ⟨"discount", .bool false, [
        { condition := some (.obj [("$or", .arr [.obj [("country", .str "CH")], .obj [("plan.tier", .str "pro")]])]),
          prerequisites := [⟨"loyalty", .obj [("value", .bool true)], false⟩], force := some (.bool true),
          coverage := some (Double.ofRatio false 1 2), range := none, seed := none, hashAttribute := some (.str "account"),
          fallbackAttribute := none, hashVersion := none, variations := none }]⟩)],
    attributes := [("country", .str "CH"), ("email", .str "ana@example.com")], user := [("account", .str "u1")],
    hash := bucketHash, sticky := false }

-- Another address, and the account is found elsewhere.
theorem unmentioned_attributes_discount :
    campaign.SeenAlikeFrom [("account", .str "u1"), ("country", .str "CH")] [("email", .str "ben@example.com")] "discount" ∧
      (campaign.inContext [("account", .str "u1"), ("country", .str "CH")] [("email", .str "ben@example.com")]).evaluate
        "discount" = campaign.evaluate "discount" := by
  have reaches (reached : String) (leads : Relation.ReflTransGen campaign.features.Names "discount" reached) :
      reached = "discount" ∨ reached = "loyalty" := by
    induction leads with
    | refl => exact .inl rfl
    | tail _ names ih =>
        rcases ih with rfl | rfl
        · exact .inr (List.mem_singleton.mp names)
        · exact absurd names List.not_mem_nil
  have alike : campaign.SeenAlikeFrom [("account", .str "u1"), ("country", .str "CH")]
      [("email", .str "ben@example.com")] "discount" := by
    intro reached leads feature defined rule ofFeature
    rcases reaches reached leads with rfl | rfl
    · cases defined
      rw [List.mem_singleton.mp ofFeature]
      refine ⟨fun condition held path read => ?_, rfl, fun name named => nomatch named⟩
      cases held
      cases read with
      | key _ _ _ plain _ => cases plain
      | joined _ _ _ condition _ leads among inner =>
          cases leads
          rcases List.mem_pair.mp among with rfl | rfl
          all_goals
            cases inner with
            | key _ _ _ _ member =>
                cases List.mem_singleton.mp member
                rfl
            | joined _ _ _ _ _ leads _ _ => cases leads
    · cases defined
      exact absurd ofFeature List.not_mem_nil
  exact ⟨alike, campaign.unmentioned_attributes _ _ "discount" alike⟩

end FeatureFlags
