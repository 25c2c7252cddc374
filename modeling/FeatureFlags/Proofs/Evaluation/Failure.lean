import FeatureFlags.Proofs.Condition.Failure
import FeatureFlags.Proofs.Evaluation.Rules
import FeatureFlags.Proofs.Feature.Parts

/-! A condition fails as it does on the attributes or on the value of another feature, and a rollout fails if
the attribute that identifies the caller is named by an array or an object. -/

set_option autoImplicit false

namespace FeatureFlags

variable {possible : EvaluationError → Prop}

abbrev InCondition (possible : EvaluationError → Prop) (error : ConditionError) : Prop := possible (.condition error)

structure Run.Ends {α : Type} (possible : EvaluationError → Prop) (run : Run α) (post : α → Prop) : Prop where
  failed : ∀ failure, run.outcome = .error failure → possible failure
  returned : ∀ value, run.outcome = .ok value → post value

namespace Run.Ends

variable {α β : Type}

theorem pure {value : α} {post : α → Prop} (holds : post value) : Run.Ends possible (Pure.pure value) post :=
  ⟨fun _ same => (nomatch same), fun _ same => Except.ok.inj same ▸ holds⟩

theorem done {value : α} : Run.Ends possible (Pure.pure value) fun _ => True := pure trivial

theorem note {step : Step} : Run.Ends possible (Traced.note step) fun _ => True :=
  ⟨fun _ same => (nomatch same), fun _ _ => trivial⟩

theorem bind {run : Run α} {next : α → Run β} {mid : α → Prop} {post : β → Prop} (first : run.Ends possible mid)
    (later : ∀ value, mid value → (next value).Ends possible post) : Run.Ends possible (run >>= next) post := by
  constructor
  · intro failure failed
    rw [Traced.bind_fails_iff] at failed
    rcases failed with early | ⟨value, returned, late⟩
    · exact first.failed failure early
    · exact (later value (first.returned value returned)).failed failure late
  · intro value returned
    rw [Traced.bind_returns_iff] at returned
    obtain ⟨middle, early, late⟩ := returned
    exact (later middle (first.returned middle early)).returned value late

end Run.Ends

theorem Run.of_verdict_ends {verdict : Condition.Verdict} (within : Possible (InCondition possible) verdict.outcome) :
    (Run.ofVerdict verdict).Ends possible fun _ => True := by
  refine ⟨fun failure failed => ?_, fun _ _ => trivial⟩
  obtain ⟨cause, raised, rfl⟩ := (map_error_error_iff _ _ _).mp failed
  exact within cause raised

theorem Json.null_counts {possible : ConditionError → Prop} : Json.null.Counts possible := by
  have childless (child : Json) : ¬ Json.Child child .null := id
  refine ⟨fun part held numeric => ?_, fun items held => nomatch Json.part_leaf childless held⟩
  rw [Json.part_leaf childless held] at numeric
  cases numeric

theorem Json.Counts.field {possible : ConditionError → Prop} {value : Json} (counts : value.Counts possible) (key : String) :
    (Json.obj [(key, value)]).Counts possible := by
  have parts (part : Json) (held : Json.Part part (.obj [(key, value)])) :
      part = .obj [(key, value)] ∨ Json.Part part value := by
    rcases Relation.ReflTransGen.cases_tail held with same | ⟨child, inside, other, member⟩
    · exact .inl same.symm
    · cases List.mem_singleton.mp member
      exact .inr inside
  refine ⟨fun part held => ?_, fun items held => ?_⟩
  · rcases parts part held with rfl | inside
    · exact fun numeric => nomatch numeric
    · exact counts.numbers part inside
  · rcases parts _ held with same | inside
    · cases same
    · exact counts.lengths items inside

def Json.Container : Json → Prop
  | .arr _ | .obj _ => True
  | _ => False

namespace Rule

structure NamesContainer (rule : Rule) : Prop where
  forced : rule.hasForce = true
  bounded : rule.coverage.isSome = true ∨ rule.range.isSome = true
  named : ∃ name, (rule.hashAttribute.bind Json.truthy? = some name ∨ rule.fallbackAttribute.bind Json.truthy? = some name) ∧
    name.Container

structure FailsWithin (possible : EvaluationError → Prop) (rule : Rule) : Prop where
  condition : ∀ condition, rule.condition = some condition → condition.Usable (InCondition possible)
  prerequisites : ∀ prerequisite ∈ rule.prerequisites, prerequisite.condition.Usable (InCondition possible)
  force : ∀ value, rule.force = some value → value.Counts (InCondition possible)
  name : rule.NamesContainer → possible .attributeName

end Rule

structure Feature.FailsWithin (possible : EvaluationError → Prop) (feature : Feature) : Prop where
  defaultValue : feature.defaultValue.Counts (InCondition possible)
  rules : ∀ rule ∈ feature.rules, rule.FailsWithin possible

namespace Prerequisite

variable (prerequisite : Prerequisite) (usable : prerequisite.condition.Usable (InCondition possible))

include usable

theorem weigh_ends (value : Json) (counts : value.Counts (InCondition possible)) :
    (prerequisite.weigh (some value)).Ends possible fun _ => True := by
  have matched := (Condition.fails_within _ usable).attributes (.value _) (counts.field "value")
  exact .bind (Run.of_verdict_ends matched) fun _ _ => .done

theorem check_ends (run : Run Evaluated) (ends : run.Ends possible fun result => result.value.Counts (InCondition possible)) :
    (prerequisite.check run).Ends possible fun _ => True := by
  refine ends.bind fun result counts => ?_
  rw [Evaluated.seen]
  split
  · exact .done
  · exact prerequisite.weigh_ends usable result.value counts

end Prerequisite

namespace Setting

variable (setting : Setting)

def DecidesCounted (possible : EvaluationError → Prop) (decided : Option Evaluated) : Prop :=
  ∀ result, decided = some result → result.value.Counts (InCondition possible)

theorem undecided_counted : DecidesCounted possible none := fun _ same => nomatch same

theorem null_counted (id : String) (source : Source) : DecidesCounted possible (some (.ofSource id source)) := by
  intro result same
  cases same
  exact Json.null_counts

theorem lookup_fails (name : Json) (failure : EvaluationError) (failed : setting.lookup name = .error failure) :
    failure = .attributeName ∧ name.Container := by
  cases name with
  | arr _ | obj _ =>
      cases failed
      exact ⟨rfl, trivial⟩
  | str name =>
      rw [lookup] at failed
      split at failed <;> cases failed
  | null | bool _ | num _ => cases failed

theorem identity_fails (primary fallback : Option Json) (failure : EvaluationError)
    (failed : setting.identity primary fallback = .error failure) : failure = .attributeName ∧
      ∃ name, (primary.bind Json.truthy? = some name ∨ fallback.bind Json.truthy? = some name) ∧ name.Container := by
  simp only [identity, bind_error_iff] at failed
  rcases failed with first | ⟨text, _, later⟩
  · obtain ⟨rfl, container⟩ := setting.lookup_fails _ failure first
    cases named : primary.bind Json.truthy? with
    | none =>
        rw [named] at container
        exact container.elim
    | some name =>
        rw [named] at container
        exact ⟨rfl, name, .inl rfl, container⟩
  · split at later
    · rename_i other named
      split at later
      · rw [bind_error_iff] at later
        rcases later with second | ⟨found, _, done⟩
        · obtain ⟨rfl, container⟩ := setting.lookup_fails _ failure second
          exact ⟨rfl, other, .inr named, container⟩
        · cases done
      · cases later
    · cases later

theorem in_rollout_ends (feature : String) (rule : Rule) (forced : rule.hasForce = true)
    (name : rule.NamesContainer → possible .attributeName) :
    (setting.inRollout feature rule).Ends possible fun _ => True := by
  unfold inRollout
  split
  · exact .done
  · rename_i asked
    have bounded : rule.coverage.isSome = true ∨ rule.range.isSome = true := by
      rw [Bool.and_eq_true, not_and_or] at asked
      simpa only [Bool.not_eq_true, Option.isNone_eq_false_iff] using asked
    have identified : Run.Ends possible
        (Traced.silent (setting.identity rule.hashAttribute rule.fallbackAttribute)) fun _ => True := by
      refine ⟨fun failure failed => ?_, fun _ _ => trivial⟩
      obtain ⟨rfl, named⟩ := setting.identity_fails _ _ failure failed
      exact name ⟨forced, bounded, named⟩
    refine identified.bind fun (_, identity) _ => ?_
    dsimp only
    split
    · exact .done
    · exact .bind .note fun _ _ => .done

theorem check_prerequisites_ends (evaluate : String → Run Evaluated) (prerequisites : List Prerequisite)
    (ends : ∀ id, (evaluate id).Ends possible fun result => result.value.Counts (InCondition possible))
    (usable : ∀ prerequisite ∈ prerequisites, prerequisite.condition.Usable (InCondition possible)) :
    (checkPrerequisites evaluate prerequisites).Ends possible fun _ => True := by
  induction prerequisites with
  | nil => exact .done
  | cons prerequisite rest ih =>
      obtain ⟨first, later⟩ := List.forall_mem_cons.mp usable
      rw [check_prerequisites_cons]
      refine (prerequisite.check_ends first _ (ends prerequisite.id)).bind fun outcome _ => ?_
      split
      · exact ih later
      · exact .done

theorem offer_ends (feature : String) (index : Nat) (rule : Rule) (included : Bool)
    (counts : ∀ value, rule.force = some value → value.Counts (InCondition possible)) :
    (offer feature index rule included).Ends possible (DecidesCounted possible) := by
  unfold offer
  split
  · exact .bind .note fun _ _ => .pure undecided_counted
  split
  · exact .bind .note fun _ _ => .pure undecided_counted
  split
  · rename_i value force
    refine .bind .note fun _ _ => .pure fun result same => ?_
    cases same
    exact counts value force
  · exact .pure undecided_counted

section

variable {setting} (attributes : (Json.obj setting.attributes).Counts (InCondition possible))

include attributes

theorem meets_condition_ends (rule : Rule) (within : rule.FailsWithin possible) :
    (setting.meetsCondition rule).Ends possible fun _ => True := by
  unfold meetsCondition
  split
  · rename_i condition held
    exact Run.of_verdict_ends ((Condition.fails_within _ (within.condition condition held)).attributes (.value _) attributes)
  · exact .done

theorem conclude_ends (feature : String) (index : Nat) (rule : Rule) (within : rule.FailsWithin possible)
    (outcome : PrerequisiteOutcome) :
    (setting.conclude feature index rule outcome).Ends possible (DecidesCounted possible) := by
  cases outcome with
  | cyclic => exact .pure (null_counted _ _)
  | gated => exact .bind .note fun _ _ => .pure (null_counted _ _)
  | failed => exact .bind .note fun _ _ => .pure undecided_counted
  | passed =>
      unfold conclude
      refine (meets_condition_ends attributes rule within).bind fun holds _ => ?_
      split
      · exact .bind .note fun _ _ => .pure undecided_counted
      split
      · rename_i asked
        have forced := (Bool.and_eq_true_iff.mp asked).1
        exact (setting.in_rollout_ends feature rule forced within.name).bind fun included _ =>
          offer_ends feature index rule included within.force
      · exact offer_ends feature index rule true within.force

variable (evaluate : String → Run Evaluated)
  (ends : ∀ id, (evaluate id).Ends possible fun result => result.value.Counts (InCondition possible))

include ends

theorem apply_rule_ends (feature : String) (index : Nat) (rule : Rule) (within : rule.FailsWithin possible) :
    (setting.applyRule evaluate feature index rule).Ends possible (DecidesCounted possible) := by
  rw [apply_rule_eq]
  refine .bind .note fun _ _ => ?_
  refine (check_prerequisites_ends evaluate rule.prerequisites ends within.prerequisites).bind fun outcome _ => ?_
  exact conclude_ends attributes feature index rule within outcome

theorem apply_rules_ends (feature : String) (index : Nat) (rules : List Rule)
    (within : ∀ rule ∈ rules, rule.FailsWithin possible) :
    (setting.applyRules evaluate feature index rules).Ends possible (DecidesCounted possible) := by
  induction rules generalizing index with
  | nil => exact .pure undecided_counted
  | cons rule rest ih =>
      obtain ⟨first, later⟩ := List.forall_mem_cons.mp within
      rw [apply_rules_cons]
      refine (apply_rule_ends attributes evaluate ends feature index rule first).bind fun decided counted => ?_
      split
      · exact .pure counted
      · exact ih (index + 1) later

end

variable {setting}

-- A feature is evaluated with the same attributes along every path, so its prerequisites end as it does.
theorem evaluate_along_ends (features : ∀ id feature, setting.features.get? id = some feature → feature.FailsWithin possible)
    (attributes : (Json.obj setting.attributes).Counts (InCondition possible)) (path : List String) (id : String) :
    (setting.evaluateAlong path id).Ends possible fun result => result.value.Counts (InCondition possible) := by
  induction path, id using evaluateAlong.induct setting with
  | case1 path id ih =>
      rw [evaluate_along_eq, enter]
      refine .bind .note fun _ _ => ?_
      split
      · exact .bind .note fun _ _ => .pure Json.null_counts
      · rename_i feature defined
        have within := features id feature defined
        split
        · exact .bind .note fun _ _ => .pure Json.null_counts
        · rename_i fresh
          have applied := apply_rules_ends attributes _ (ih feature defined fresh) id 0 feature.rules within.rules
          refine applied.bind fun decided counted => .pure ?_
          cases decided with
          | none => exact within.defaultValue
          | some result => exact counted result rfl

end Setting

section

variable {whole : Json} (usable : whole.Usable (InCondition possible)) (counts : whole.Counts (InCondition possible))

theorem Json.empty_usable {possible : ConditionError → Prop} : (Json.obj []).Usable possible := by
  have childless (child : Json) : ¬ Json.Child child (.obj []) := fun ⟨_, member⟩ => List.not_mem_nil member
  refine ⟨fun part held numeric => ?_, fun text failure held => nomatch Json.part_leaf childless held⟩
  rw [Json.part_leaf childless held] at numeric
  cases numeric

include usable

theorem Prerequisite.condition_usable {fields : Fields} (held : Json.Part (.obj fields) whole) :
    (Prerequisite.ofFields fields).condition.Usable (InCondition possible) := by
  rw [ofFields]
  dsimp only
  cases truthy : (fields.getD "condition").truthy? with
  | none => exact Json.empty_usable
  | some condition => exact usable.part ((Fields.part_of_truthy truthy).trans held)

include counts

theorem Rule.reads_within {object : Fields} {rule : Rule} (read : rule.ReadFrom object)
    (held : Json.Part (.obj object) whole) (name : rule.NamesContainer → possible .attributeName) :
    rule.FailsWithin possible := by
  refine ⟨?_, ?_, ?_, name⟩
  · intro condition given
    exact usable.part ((Fields.part_of_truthy (read.condition.symm.trans given)).trans held)
  · intro prerequisite ofRule
    obtain ⟨objects, listed, prerequisites⟩ := read.prerequisites
    rw [prerequisites] at ofRule
    obtain ⟨fields, among, rfl⟩ := List.mem_map.mp ofRule
    exact Prerequisite.condition_usable usable ((Fields.part_of_objects listed fields among).trans held)
  · intro value given
    exact counts.part ((Fields.part_of_get (read.force.symm.trans given)).trans held)

theorem Feature.reads_within {id : String} {fields : Fields} {objects : List Fields} {feature : Feature}
    (read : feature.ReadFrom id fields objects) (held : Json.Part (.obj fields) whole)
    (name : ∀ object ∈ objects, ∀ rule, Rule.ofFields object = .ok rule → rule.NamesContainer → possible .attributeName) :
    feature.FailsWithin possible := by
  constructor
  · rw [read.defaultValue, Fields.getD]
    cases found : fields.get? "defaultValue" with
    | none => exact Json.null_counts
    | some value => exact counts.part ((Fields.part_of_get found).trans held)
  · intro rule ofFeature
    obtain ⟨object, among, ruleRead⟩ := map_m_result _ _ _ read.rules rule ofFeature
    exact Rule.reads_within usable counts ((Rule.of_fields_iff object rule).mp ruleRead)
      ((Fields.part_of_objects read.listed object among).trans held) (name object among rule ruleRead)

end

def Fields.ListsRule (definitions object : Fields) : Prop :=
  ∃ id fields objects, (id, Json.obj fields) ∈ definitions ∧ Json.objects? (Fields.getD fields "rules") = some objects ∧
    object ∈ objects

-- Conditions of rules are about the attributes, those of prerequisites about values of features.
inductive EvaluationError.Caused (definitions attributes : Fields) : EvaluationError → Prop where
  | attributes (error : ConditionError) (caused : error.Caused (.obj definitions) (.obj attributes)) :
      Caused definitions attributes (.condition error)
  | values (error : ConditionError) (caused : error.Caused (.obj definitions) (.obj definitions)) :
      Caused definitions attributes (.condition error)
  | name (object : Fields) (rule : Rule) (listed : definitions.ListsRule object) (read : Rule.ofFields object = .ok rule)
      (names : rule.NamesContainer) : Caused definitions attributes .attributeName

theorem definitions_usable (definitions attributes : Fields) :
    (Json.obj definitions).Usable (InCondition (EvaluationError.Caused definitions attributes)) := by
  refine ⟨fun part held numeric failure failed => ?_, fun text failure held read unexpected => ?_⟩
  · exact .attributes failure (part_reads _ _ part (.inl held) numeric failure failed)
  · exact .attributes _ (.pattern text failure held read unexpected)

theorem definitions_counts (definitions attributes : Fields) :
    (Json.obj definitions).Counts (InCondition (EvaluationError.Caused definitions attributes)) := by
  refine ⟨fun part held numeric failure failed => ?_, fun items held numeric failure failed => ?_⟩
  · exact .values failure (part_reads _ _ part (.inr held) numeric failure failed)
  · exact .values failure (length_reads _ _ items held numeric failure failed)

theorem attributes_counts (definitions attributes : Fields) :
    (Json.obj attributes).Counts (InCondition (EvaluationError.Caused definitions attributes)) := by
  refine ⟨fun part held numeric failure failed => ?_, fun items held numeric failure failed => ?_⟩
  · exact .attributes failure (part_reads _ _ part (.inr held) numeric failure failed)
  · exact .attributes failure (length_reads _ _ items held numeric failure failed)

theorem accepted_fails_within {definitions attributes : Fields} {features : FeatureSet}
    (accepted : FeatureSet.ofDefinitions (Definition.ofFields definitions) = .ok features) (id : String) (feature : Feature)
    (defined : features.get? id = some feature) : feature.FailsWithin (EvaluationError.Caused definitions attributes) := by
  obtain ⟨⟨key, json⟩, member, decoded⟩ := FeatureSet.accepted_feature accepted defined
  obtain ⟨fields, objects, rfl, read⟩ := (Feature.of_json_iff key json feature).mp decoded
  refine Feature.reads_within (definitions_usable definitions attributes) (definitions_counts definitions attributes) read
    (.single ⟨key, member⟩) fun object among rule ruleRead names => ?_
  exact .name object rule ⟨key, fields, objects, member, read.listed, among⟩ ruleRead names

theorem Setting.evaluates_or_caused (setting : Setting) (definitions : Fields)
    (accepted : FeatureSet.ofDefinitions (Definition.ofFields definitions) = .ok setting.features) (id : String) :
    (∃ result, (setting.evaluate id).outcome = .ok result) ∨
      ∃ failure, (setting.evaluate id).outcome = .error failure ∧ failure.Caused definitions setting.attributes := by
  have ends := evaluate_along_ends (accepted_fails_within accepted) (attributes_counts definitions setting.attributes) [] id
  cases ended : (setting.evaluate id).outcome with
  | ok result => exact .inl ⟨result, rfl⟩
  | error failure => exact .inr ⟨failure, rfl, ends.failed failure ended⟩

namespace Raffle

def rule : Rule :=
  { condition := none, prerequisites := [], force := some (.bool true), coverage := some (.ofRatio false 1 2), range := none,
    seed := none, hashAttribute := some (.arr [.str "id"]), fallbackAttribute := none, hashVersion := none, variations := none }

def definitions : Fields :=
  [("raffle", .obj [("rules", .arr [.obj [("force", .bool true), ("coverage", .num (.float (.ofRatio false 1 2))),
    ("hashAttribute", .arr [.str "id"])]])])]

def setting : Setting :=
  { features := [("raffle", ⟨"raffle", .null, [rule]⟩)], attributes := [("id", .str "u1")], user := [], hash := bucketHash,
    sticky := false }

theorem accepted : FeatureSet.ofDefinitions (Definition.ofFields definitions) = .ok setting.features := rfl

theorem fails : (setting.evaluate "raffle").outcome = .error .attributeName := by
  rw [Setting.evaluate, Setting.evaluate_along_eq]
  rfl

end Raffle

theorem accepted_definitions_fail :
    ∃ definitions features attributes, FeatureSet.ofDefinitions (Definition.ofFields definitions) = .ok features ∧
      ((Setting.mk features attributes [] bucketHash false).evaluate "raffle").outcome = .error .attributeName :=
  ⟨Raffle.definitions, _, Raffle.setting.attributes, Raffle.accepted, Raffle.fails⟩

theorem evaluates_or_caused_raffle :
    FeatureSet.ofDefinitions (Definition.ofFields Raffle.definitions) = .ok Raffle.setting.features ∧
      EvaluationError.Caused Raffle.definitions [("id", .str "u1")] .attributeName := by
  refine ⟨Raffle.accepted, ?_⟩
  rcases Raffle.setting.evaluates_or_caused Raffle.definitions Raffle.accepted "raffle" with
    ⟨result, ended⟩ | ⟨_, ended, caused⟩
  · cases Raffle.fails.symm.trans ended
  · cases Raffle.fails.symm.trans ended
    exact caused

end FeatureFlags
