import FeatureFlags.Proofs.Evaluation.Forced
import FeatureFlags.Proofs.Evaluation.Folding
import FeatureFlags.Proofs.Evaluation.Rollout

/-! The prerequisites of a feature never see its rules: on the way to the feature they would meet a cycle, and
the evaluation would not end in a value. So a rule that decides for a caller still does after its rollout is
widened. -/

set_option autoImplicit false

namespace FeatureFlags

namespace Rule

inductive Widened (rule : Rule) : Rule → Prop where
  | coverage (covered wider : Double) (held : rule.coverage = some covered) (unbounded : rule.range = none)
      (higher : covered.le wider) : Widened rule { rule with coverage := some wider }
  | range (low high lower higher : Double) (held : rule.range = some (low, high)) (below : lower.le low)
      (above : high.le higher) : Widened rule { rule with range := some (lower, higher) }

theorem Widened.includes {rule wider : Rule} (widened : rule.Widened wider) (hash : Option Number)
    (inside : rule.includes hash) : wider.includes hash := by
  cases widened with
  | coverage covered wider held unbounded higher =>
      obtain ⟨place, same, below⟩ := (rule.includes_covered covered held unbounded hash).mp inside
      have still : place.lt (.float wider) := Number.lt_of_lt_of_le below higher
      exact (includes_covered { rule with coverage := some wider } wider rfl unbounded hash).mpr ⟨place, same, still⟩
  | range low high lower higher held below above =>
      obtain ⟨place, same, reached, under⟩ := (rule.includes_ranged low high held hash).mp inside
      have lowered : (Number.float lower).le (.float low) := below
      have stillReached : (Number.float lower).le place := Number.le_trans lowered reached
      have stillUnder : place.lt (.float higher) := Number.lt_of_lt_of_le under above
      exact (includes_ranged _ lower higher rfl hash).mpr ⟨place, same, stillReached, stillUnder⟩

end Rule

namespace Setting

variable (setting : Setting)

structure Ramps (features : FeatureSet) (id : String) (index : Nat) (wider : Rule) : Prop where
  widened : ∃ feature rule, setting.features.get? id = some feature ∧ feature.rules[index]? = some rule ∧
    rule.Widened wider ∧ features.get? id = some { feature with rules := feature.rules.set index wider }
  kept : ∀ other, other ≠ id → features.get? other = setting.features.get? other

variable {setting} {features : FeatureSet} {id : String} {index : Nat} {wider : Rule}

-- Along a path through a feature its definition is not looked at, only that it has one.
theorem evaluate_along_beyond (defined : (setting.features.get? id).isSome) (redefined : (features.get? id).isSome)
    (kept : ∀ other, other ≠ id → features.get? other = setting.features.get? other) (path : List String)
    (through : id ∈ path) (other : String) :
    (setting.withFeatures features).evaluateAlong path other = setting.evaluateAlong path other := by
  induction path, other using evaluateAlong.induct setting with
  | case1 path other ih =>
      rw [evaluate_along_eq, evaluate_along_eq setting]
      by_cases same : other = id
      · subst other
        obtain ⟨feature, held⟩ := Option.isSome_iff_exists.mp defined
        obtain ⟨replaced, found⟩ := Option.isSome_iff_exists.mp redefined
        rw [setting.enter_of_met _ path id feature held through,
          (setting.withFeatures features).enter_of_met _ path id replaced found through]
      · have asked : ∀ parent ∈ setting.asked (setting.evaluateAlong (path ++ [other])) path other,
            setting.evaluateAlong (path ++ [other]) parent =
              (setting.withFeatures features).evaluateAlong (path ++ [other]) parent := by
          intro parent asks
          obtain ⟨fresh, feature, held, _⟩ := setting.asked_defined _ path other parent asks
          exact (ih feature held fresh parent (List.mem_append_left _ through)).symm
        rw [setting.enter_features features _ path other (kept other same)]
        exact (setting.enter_congr _ _ path other asked).symm

theorem in_rollout_widened {rule wider : Rule} (widened : rule.Widened wider)
    (inside : (setting.inRollout id rule).outcome = .ok true) : (setting.inRollout id wider).outcome = .ok true := by
  have bounded : rule.coverage.isSome ∨ rule.range.isSome := by
    cases widened with
    | coverage covered _ held => exact .inl (by simp [held])
    | range low high _ _ held => exact .inr (by simp [held])
  obtain ⟨name, identity, found, nonempty, included⟩ := (setting.in_rollout_iff id rule bounded).mp inside
  have still := widened.includes _ included
  cases widened with
  | coverage => exact (setting.in_rollout_iff id _ (.inl rfl)).mpr ⟨name, identity, found, nonempty, still⟩
  | range => exact (setting.in_rollout_iff id _ (.inr rfl)).mpr ⟨name, identity, found, nonempty, still⟩

theorem Fires.widened {evaluate : String → Run Evaluated} {rule wider : Rule} {value : Json}
    (fires : setting.Fires evaluate id rule value) (widened : rule.Widened wider) :
    setting.Fires evaluate id wider value := by
  have asked : rule.hasRollout = true := by
    cases widened with
    | coverage covered _ held | range _ _ _ _ held => simp [Rule.hasRollout, held]
  have inside := in_rollout_widened widened (fires.rollout asked)
  cases widened with
  | coverage | range => exact ⟨fires.prerequisites, fires.condition, fires.force, fun _ => inside, fires.variations⟩

theorem ramped_rule_decides (ramps : setting.Ramps features id index wider) (result : Evaluated)
    (forced : ForcedBy (setting.evaluate id) id index result) :
    ForcedBy ((setting.withFeatures features).evaluate id) id index { result with rule := some wider } := by
  obtain ⟨⟨feature, rule, defined, found, widened, changed⟩, kept⟩ := ramps
  obtain ⟨source, held, same, ⟨decides, undecided⟩⟩ := (setting.forced_by_iff id index result).mp forced
  cases defined.symm.trans same
  obtain ⟨deciding, sameFound, applied⟩ := decides
  cases found.symm.trans sameFound
  have nested : (setting.withFeatures features).evaluateAlong [id] = setting.evaluateAlong [id] :=
    funext fun other => evaluate_along_beyond (by simp [defined]) (by simp [changed]) kept [id] List.mem_cons_self other
  refine ((setting.withFeatures features).forced_by_iff id index _).mpr ⟨source, _, changed, ?_, ?_⟩
  · have replaced : (feature.rules.set index wider)[index]? = some wider :=
      List.getElem?_set_self (List.getElem?_eq_some_iff.mp found).1
    have still : setting.Decides (setting.evaluateAlong [id]) id wider { result with rule := some wider } := by
      cases (apply_rule_some_iff _ _ _ _ _ _).mp applied with
      | forced value fires => exact .forced value (fires.widened widened)
      | cyclic | gated => cases source
    exact ⟨wider, replaced, nested ▸ (apply_rule_some_iff setting _ id (0 + index) wider _).mpr still⟩
  · intro earlier before other otherFound
    rw [List.getElem?_set_ne (Nat.ne_of_gt before)] at otherFound
    exact nested ▸ undecided earlier before other otherFound

end Setting

def Rule.forHashes (low high : Double) : Rule := { Rule.requiring [] with range := some (low, high) }

def Beta.setting : Setting :=
  { features := [("beta", ⟨"beta", .bool false, [.forHashes (.ofRatio false 1 10) (.ofRatio false 1 5)]⟩)],
    attributes := [("id", .str "u2")], user := [], hash := bucketHash, sticky := false }

def Beta.wider : Rule := .forHashes (.ofRatio false 1 20) (.ofRatio false 1 2)

theorem ramped_rule_decides_beta : Beta.setting.Ramps [("beta", ⟨"beta", .bool false, [Beta.wider]⟩)] "beta" 0 Beta.wider ∧
    ForcedBy ((Beta.setting.withFeatures [("beta", ⟨"beta", .bool false, [Beta.wider]⟩)]).evaluate "beta") "beta" 0
      ⟨"beta", .bool true, .force, some Beta.wider⟩ := by
  have ramps : Beta.setting.Ramps [("beta", ⟨"beta", .bool false, [Beta.wider]⟩)] "beta" 0 Beta.wider := by
    refine ⟨⟨_, _, rfl, rfl, .range _ _ _ _ rfl (by decide +kernel) (by decide +kernel), rfl⟩, fun other different => ?_⟩
    simp only [FeatureSet.get?, Beta.setting, List.lookup_cons, beq_false_of_ne different, List.lookup_nil]
  have inside : (Beta.setting.inRollout "beta" (.forHashes (.ofRatio false 1 10) (.ofRatio false 1 5))).outcome = .ok true := by
    decide +kernel
  have forced : ForcedBy (Beta.setting.evaluate "beta") "beta" 0 ⟨"beta", .bool true, .force,
      some (.forHashes (.ofRatio false 1 10) (.ofRatio false 1 5))⟩ := by
    refine (Beta.setting.forced_by_iff "beta" 0 _).mpr ⟨rfl, _, rfl, Setting.decided_first ?_⟩
    refine (Setting.apply_rule_some_iff _ _ _ _ _ _).mpr (.forced (.bool true) ⟨?_, ?_, rfl, fun _ => inside, rfl⟩)
    · exact .passed fun _ among => absurd among List.not_mem_nil
    · intro condition held
      cases held
  exact ⟨ramps, Setting.ramped_rule_decides ramps _ forced⟩

end FeatureFlags
