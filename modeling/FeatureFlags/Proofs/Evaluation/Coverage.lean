import FeatureFlags.Proofs.Evaluation.Folding
import FeatureFlags.Proofs.Evaluation.Rollout
import FeatureFlags.Proofs.Evaluation.Sticky
import FeatureFlags.Proofs.Number.Bucket

/-! A bucket is never below zero, so a coverage lets in whom the range from zero up to it lets in. It is
always below one, so a coverage of one or more lets in every caller with an identity, and one of zero or less
nobody. -/

set_option autoImplicit false

namespace FeatureFlags

variable {γ : Type}

theorem Number.zero_le {place : Number} : (Number.int 0).le place = (Number.float .zero).le place := by
  have zero : (Number.int 0).position? = (Number.float .zero).position? := by
    rw [position?, position?, Int.zero_mul]
    rfl
  rw [le.eq_def, le.eq_def, zero]

theorem bucket_hash_in_unit {seed identity : String} {version : Int} {place : Number}
    (held : bucketHash seed identity version = some place) : (Number.int 0).le place ∧ place.lt (.int 1) := by
  obtain ⟨double, found, rfl⟩ := Option.map_eq_some_iff.mp held
  exact bucket_in_unit found

theorem bucket_hash_known (seed identity : String) {version : Int} (known : version = 1 ∨ version = 2) :
    ∃ place, bucketHash seed identity version = some place := by
  rcases known with rfl | rfl
  · obtain ⟨part, _, found⟩ := bucket_one seed identity
    exact ⟨_, by rw [bucketHash, found, Option.map_some]⟩
  · obtain ⟨part, _, found⟩ := bucket_two seed identity
    exact ⟨_, by rw [bucketHash, found, Option.map_some]⟩

namespace Rule

def fromZero (rule : Rule) (covered : Double) : Rule := { rule with coverage := none, range := some (.zero, covered) }

inductive Recast (rule : Rule) : Rule → Prop where
  | kept : Recast rule rule
  | fromZero (covered : Double) (held : rule.coverage = some covered) (unbounded : rule.range = none) :
      Recast rule (rule.fromZero covered)

variable {rule : Rule} {covered : Double}

theorem from_zero_includes (held : rule.coverage = some covered) (unbounded : rule.range = none) (hash : Option Number)
    (above : ∀ place, hash = some place → (Number.int 0).le place) :
    (rule.fromZero covered).includes hash = rule.includes hash := by
  rw [Bool.eq_iff_iff, rule.includes_covered covered held unbounded, includes_ranged _ .zero covered rfl]
  refine exists_congr fun place => and_congr_right fun same => ?_
  have reached : (Number.float .zero).le place := Number.zero_le ▸ above place same
  exact and_iff_right reached

end Rule

def Feature.Recast (feature other : Feature) : Prop :=
  feature.id = other.id ∧ feature.defaultValue = other.defaultValue ∧ List.Forall₂ Rule.Recast feature.rules other.rules

def FeatureSet.Recast (features others : FeatureSet) : Prop :=
  ∀ id, Option.Rel Feature.Recast (features.get? id) (others.get? id)

theorem recast_refl (rules : List Rule) : List.Forall₂ Rule.Recast rules rules := List.forall₂_same.mpr fun _ _ => .kept

theorem recast_set {rules : List Rule} {index : Nat} {rule recast : Rule} (found : rules[index]? = some rule)
    (changed : rule.Recast recast) : List.Forall₂ Rule.Recast rules (rules.set index recast) := by
  induction rules generalizing index with
  | nil => cases found
  | cons first rest ih =>
      cases index with
      | zero =>
          cases found
          exact .cons changed (recast_refl rest)
      | succ index => exact .cons .kept (ih found)

theorem FeatureSet.recast_one {features : FeatureSet} {id : String} {feature : Feature} {index : Nat} {rule recast : Rule}
    (defined : features.get? id = some feature) (found : feature.rules[index]? = some rule) (changed : rule.Recast recast) :
    features.Recast (FeatureSet.set id { feature with rules := feature.rules.set index recast } features) := by
  intro other
  rw [FeatureSet.get_set]
  by_cases same : other = id
  · rw [same, defined, if_pos rfl]
    exact .some ⟨rfl, rfl, recast_set found changed⟩
  · rw [if_neg same]
    cases features.get? other with
    | none => exact .none
    | some kept => exact .some ⟨rfl, rfl, recast_refl kept.rules⟩

def Evaluated.answer (result : Evaluated) : Json × Source := (result.value, result.source)

namespace Setting

variable {setting : Setting} {rule : Rule} {covered : Double} {view : Step → Option γ}

theorem in_rollout_from_zero (real : setting.hash = bucketHash) (feature : String) (held : rule.coverage = some covered)
    (unbounded : rule.range = none) : setting.inRollout feature rule = setting.inRollout feature (rule.fromZero covered) := by
  rw [setting.in_rollout_bounded feature rule (.inl (by simp [held])),
    setting.in_rollout_bounded feature (rule.fromZero covered) (.inr rfl)]
  refine bind_congr fun (_, identity) => ?_
  have same := Rule.from_zero_includes held unbounded (setting.hash (rule.seedFor feature) identity rule.versionUsed)
    fun place asked => (bucket_hash_in_unit (real ▸ asked)).1
  dsimp only
  rw [← same]
  rfl

theorem offer_from_zero (feature : String) (index : Nat) (included : Bool) :
    AgreeOn view (Option.map Evaluated.answer) (offer feature index rule included)
      (offer feature index (rule.fromZero covered) included) := by
  have force : (rule.fromZero covered).force = rule.force := rfl
  have variations : (rule.fromZero covered).variations = rule.variations := rfl
  unfold offer
  rw [force, variations]
  by_cases inside : included = true
  · by_cases unsupported : rule.variations.isSome = true
    · simp only [inside, unsupported, if_true]
      exact .of_eq rfl
    · simp only [inside, unsupported]
      cases rule.force with
      | none => exact .of_eq rfl
      | some value => exact ⟨rfl, rfl⟩
  · simp only [inside]
    exact .of_eq rfl

theorem conclude_from_zero (real : setting.hash = bucketHash) (feature : String) (index : Nat)
    (outcome : PrerequisiteOutcome) (held : rule.coverage = some covered) (unbounded : rule.range = none) :
    AgreeOn view (Option.map Evaluated.answer) (setting.conclude feature index rule outcome)
      (setting.conclude feature index (rule.fromZero covered) outcome) := by
  cases outcome with
  | cyclic | gated | failed => exact .of_eq rfl
  | passed =>
      have condition : setting.meetsCondition (rule.fromZero covered) = setting.meetsCondition rule := rfl
      have asked : rule.hasRollout = true := by simp [Rule.hasRollout, held]
      have stillAsked : (rule.fromZero covered).hasRollout = true := by simp [Rule.hasRollout, Rule.fromZero]
      have force : (rule.fromZero covered).hasForce = rule.hasForce := rfl
      simp only [conclude, condition, force, asked, stillAsked, Bool.and_true]
      apply AgreeOn.bind_same
      intro holds
      cases holds with
      | false => exact .of_eq rfl
      | true =>
          by_cases forced : rule.hasForce = true
          · simp only [forced, Bool.not_true, Bool.false_eq_true, if_false, if_true]
            rw [in_rollout_from_zero real feature held unbounded]
            apply AgreeOn.bind_same
            exact offer_from_zero feature index
          · simp only [forced, Bool.not_true, Bool.false_eq_true, if_false]
            exact offer_from_zero feature index true

theorem recast_counterparts (real : setting.hash = bucketHash) (features : FeatureSet) (feature : String)
    {recast : Rule} (changed : rule.Recast recast) :
    setting.Counterparts (setting.withFeatures features) Step.call? Evaluated.answer feature rule recast := by
  cases changed with
  | kept => exact ⟨rfl, fun _ => rfl, fun _ _ => .of_eq rfl⟩
  | fromZero covered held unbounded =>
      exact ⟨rfl, fun _ => rfl, fun index outcome => conclude_from_zero real feature index outcome held unbounded⟩

theorem evaluate_recast (real : setting.hash = bucketHash) (features : FeatureSet) (recast : setting.features.Recast features)
    (id : String) : AgreeOn Step.call? Evaluated.answer (setting.evaluate id) ((setting.withFeatures features).evaluate id) := by
  apply evaluate_along_corresponds
  · intro result other same
    obtain ⟨value, source⟩ := Prod.mk.inj same
    rw [Evaluated.seen, Evaluated.seen, value, source]
  · intro reached _
    have matched := recast reached
    generalize defined : setting.features.get? reached = held at matched
    generalize redefined : features.get? reached = changed at matched
    cases matched with
    | none => exact .undefined defined redefined
    | some related =>
        obtain ⟨_, value, rules⟩ := related
        exact .defined _ _ defined redefined value (rules.imp fun _ _ => recast_counterparts real features reached)

theorem in_rollout_full (real : setting.hash = bucketHash) (feature : String) (held : rule.coverage = some covered)
    (unbounded : rule.range = none) (full : (Number.int 1).le (.float covered))
    (known : rule.hashVersion = none ∨ rule.hashVersion = some 1 ∨ rule.hashVersion = some 2) {name : Json}
    {identity : String} (found : setting.identity rule.hashAttribute rule.fallbackAttribute = .ok (name, identity))
    (nonempty : identity ≠ "") : (setting.inRollout feature rule).outcome = .ok true := by
  have used : rule.versionUsed = 1 ∨ rule.versionUsed = 2 := by
    rcases known with absent | one | two
    · exact .inl (by rw [Rule.versionUsed, absent]; rfl)
    · exact .inl (by rw [Rule.versionUsed, one]; rfl)
    · exact .inr (by rw [Rule.versionUsed, two]; rfl)
  obtain ⟨place, hashed⟩ := bucket_hash_known (rule.seedFor feature) identity used
  have below : place.lt (.float covered) := Number.lt_of_lt_of_le (bucket_hash_in_unit hashed).2 full
  have filled : identity.isEmpty = false := by simpa [String.isEmpty_iff] using nonempty
  refine (setting.in_rollout_iff feature rule (.inl (by simp [held]))).mpr ⟨name, identity, found, filled, ?_⟩
  rw [real]
  exact (rule.includes_covered covered held unbounded _).mpr ⟨place, hashed, below⟩

theorem in_rollout_closed (real : setting.hash = bucketHash) (feature : String) (held : rule.coverage = some covered)
    (unbounded : rule.range = none) (closed : (Number.float covered).le (.int 0)) :
    (setting.inRollout feature rule).outcome ≠ .ok true := by
  intro inside
  obtain ⟨name, identity, _, _, included⟩ := (setting.in_rollout_iff feature rule (.inl (by simp [held]))).mp inside
  rw [real] at included
  obtain ⟨place, hashed, below⟩ := (rule.includes_covered covered held unbounded _).mp included
  exact Number.not_lt_of_le (bucket_hash_in_unit hashed).1 (Number.lt_of_lt_of_le below closed)

theorem coverage_from_zero (setting : Setting) (real : setting.hash = bucketHash) :
    (∀ features, setting.features.Recast features → ∀ id,
      ((setting.withFeatures features).evaluate id).outcome.map Evaluated.answer =
        (setting.evaluate id).outcome.map Evaluated.answer) ∧
    (∀ feature rule covered, rule.coverage = some covered → rule.range = none →
      ((Number.int 1).le (.float covered) →
        (rule.hashVersion = none ∨ rule.hashVersion = some 1 ∨ rule.hashVersion = some 2) →
        ∀ name identity, setting.identity rule.hashAttribute rule.fallbackAttribute = .ok (name, identity) →
          identity ≠ "" → (setting.inRollout feature rule).outcome = .ok true) ∧
      ((Number.float covered).le (.int 0) → (setting.inRollout feature rule).outcome ≠ .ok true)) ∧
    ∀ seed identity, (∃ part < 1000, bucket seed identity 1 = some (.ofRatio false part 1000)) ∧
      (∃ part < 10000, bucket seed identity 2 = some (.ofRatio false part 10000)) ∧
      ∀ version place, bucket seed identity version = some place → place.InUnit := by
  refine ⟨fun features recast id => ?_, fun feature rule covered held unbounded => ⟨?_, ?_⟩, fun seed identity => ?_⟩
  · exact (evaluate_recast real features recast id).outcome.symm
  · intro full known name identity found nonempty
    exact in_rollout_full real feature held unbounded full known found nonempty
  · intro closed
    exact in_rollout_closed real feature held unbounded closed
  · exact ⟨bucket_one seed identity, bucket_two seed identity, fun _ _ => bucket_in_unit⟩

end Setting

def Trial.feature : Feature := ⟨"trial", .bool false, [.byAccount]⟩

def Trial.halved : FeatureSet :=
  FeatureSet.set "trial" { feature with rules := feature.rules.set 0 (Rule.byAccount.fromZero (.ofRatio false 1 2)) }
    trial.features

def Trial.open : Rule := { Rule.byAccount with coverage := some (.ofRatio false 1 1) }

theorem coverage_from_zero_trial : trial.hash = bucketHash ∧ trial.features.Recast Trial.halved ∧
    ((trial.withFeatures Trial.halved).evaluate "upgrade").outcome.map Evaluated.answer =
      (trial.evaluate "upgrade").outcome.map Evaluated.answer ∧
    (trial.inRollout "trial" Trial.open).outcome = .ok true := by
  have recast : trial.features.Recast Trial.halved :=
    FeatureSet.recast_one rfl rfl (.fromZero (.ofRatio false 1 2) rfl rfl)
  obtain ⟨unchanged, limits, _⟩ := trial.coverage_from_zero rfl
  have full : (Number.int 1).le (.float (.ofRatio false 1 1)) := by decide +kernel
  have inside := (limits "trial" Trial.open (.ofRatio false 1 1) rfl rfl).1 full (.inl rfl) (.str "account") "7" rfl (by decide)
  exact ⟨rfl, recast, unchanged Trial.halved recast "upgrade", inside⟩

end FeatureFlags
