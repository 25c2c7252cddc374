import FeatureFlags.Proofs.Feature.Definitions
import FeatureFlags.Proofs.Feature.Reading
import FeatureFlags.Proofs.Json.Fields

/-! Whatever a definition is read to is in normal form: what is optional in a rule is there only with a value
that reading keeps. So writing what was read and reading that changes nothing. NaN comes back as any other
double does. -/

set_option autoImplicit false

namespace FeatureFlags

namespace Json

theorem non_null_again (json : Json) : json.nonNull?.bind nonNull? = json.nonNull? := by
  cases json <;> rfl

theorem truthy_again (json : Json) : json.truthy?.bind truthy? = json.truthy? := by
  by_cases holds : json.truthy
  · simp [truthy?, holds]
  · simp [truthy?, holds]

theorem get_non_null (held : Option Json) : (held.getD .null).nonNull? = held.bind nonNull? := by
  cases held <;> rfl

theorem get_truthy (held : Option Json) : (held.getD .null).truthy? = held.bind truthy? := by
  cases held <;> rfl

theorem objects_written (objects : List Fields) : (Json.arr (objects.map Json.obj)).objects? = some objects := by
  cases objects with
  | nil => rfl
  | cons first rest =>
      have nonempty : (Json.arr ((first :: rest).map Json.obj)).truthy = true := rfl
      rw [objects?, if_pos nonempty]
      refine map_m_written _ Json.obj (fun fields => ?_) (first :: rest)
      rfl

end Json

def Fields.present (parts : List (String × Option Json)) : Fields :=
  parts.flatMap fun (key, part) => (part.map fun value => (key, value)).toList

theorem Fields.get_present (parts : List (String × Option Json)) (distinct : (parts.map Prod.fst).Nodup) (key : String) :
    (Fields.present parts).get? key = (parts.lookup key).join := by
  induction parts with
  | nil => rfl
  | cons part rest ih =>
      obtain ⟨other, held⟩ := part
      obtain ⟨absent, distinct⟩ := List.nodup_cons.mp distinct
      have later := ih distinct
      by_cases same : key = other
      · subst other
        have unknown : rest.lookup key = none := by
          rw [List.lookup_eq_none_iff]
          intro part member
          have different : key ≠ part.1 := fun same => absent (same ▸ List.mem_map.mpr ⟨part, member, rfl⟩)
          exact bne_iff_ne.mpr different
        rw [unknown] at later
        cases held with
        | none => simpa [Fields.present] using later
        | some value => simp [Fields.present, Fields.get_cons]
      · have other : (key == other) = false := beq_eq_false_iff_ne.mpr same
        rw [List.lookup_cons, other, ← later]
        cases held with
        | none => simp [Fields.present]
        | some value => simp [Fields.present, Fields.get_cons, same]

namespace Prerequisite

structure Normal (prerequisite : Prerequisite) : Prop where
  condition : (prerequisite.condition.truthy?).getD (.obj []) = prerequisite.condition

def toFields (prerequisite : Prerequisite) : Fields :=
  [("id", .str prerequisite.id), ("condition", prerequisite.condition), ("gate", .bool prerequisite.gate)]

theorem of_fields_normal (fields : Fields) : (ofFields fields).Normal := by
  constructor
  simp only [ofFields]
  cases kept : (fields.getD "condition").truthy? with
  | none => rfl
  | some condition =>
      have again := (fields.getD "condition").truthy_again
      rw [kept, Option.bind_some] at again
      rw [Option.getD_some, again, Option.getD_some]

theorem of_fields_to_fields (prerequisite : Prerequisite) (normal : prerequisite.Normal) :
    ofFields prerequisite.toFields = prerequisite := by
  obtain ⟨id, condition, gate⟩ := prerequisite
  have kept := normal.condition
  change (⟨id, (condition.truthy?).getD (.obj []), gate⟩ : Prerequisite) = _
  rw [kept]

end Prerequisite

namespace Rule

structure Normal (rule : Rule) : Prop where
  condition : rule.condition.bind Json.truthy? = rule.condition
  prerequisites : ∀ prerequisite ∈ rule.prerequisites, prerequisite.Normal
  hashAttribute : rule.hashAttribute.bind Json.nonNull? = rule.hashAttribute
  fallbackAttribute : rule.fallbackAttribute.bind Json.nonNull? = rule.fallbackAttribute
  variations : rule.variations.bind Json.nonNull? = rule.variations

theorem ReadFrom.normal {fields : Fields} {rule : Rule} (read : rule.ReadFrom fields) : rule.Normal := by
  refine ⟨?_, fun prerequisite member => ?_, ?_, ?_, ?_⟩
  · rw [read.condition, Json.truthy_again]
  · obtain ⟨objects, _, same⟩ := read.prerequisites
    rw [same] at member
    obtain ⟨object, _, rfl⟩ := List.mem_map.mp member
    exact Prerequisite.of_fields_normal object
  · rw [read.hashAttribute, Json.non_null_again]
  · rw [read.fallbackAttribute, Json.non_null_again]
  · rw [read.variations, Json.non_null_again]

def parts (rule : Rule) : List (String × Option Json) :=
  [("condition", rule.condition),
    ("parentConditions", if rule.prerequisites.isEmpty then none
      else some (.arr ((rule.prerequisites.map Prerequisite.toFields).map Json.obj))),
    ("force", rule.force), ("coverage", rule.coverage.map double),
    ("range", rule.range.map fun (low, high) => .arr [double low, double high]), ("seed", rule.seed.map Json.str),
    ("hashAttribute", rule.hashAttribute), ("fallbackAttribute", rule.fallbackAttribute),
    ("hashVersion", rule.hashVersion.map Json.int), ("variations", rule.variations)]

theorem to_fields_eq (rule : Rule) : rule.toFields = Fields.present rule.parts := by
  have entries {α : Type} (key : String) (write : α → Json) (part : Option α) :
      entry key write part = ((part.map write).map fun value => (key, value)).toList := by
    cases part <;> rfl
  simp only [toFields, Fields.present, parts, entries]
  cases rule.prerequisites with
  | nil => simp
  | cons first rest => simp [Prerequisite.toJson, Prerequisite.toFields]

theorem get_to_fields (rule : Rule) (key : String) : rule.toFields.get? key = (rule.parts.lookup key).join := by
  have distinct : (rule.parts.map Prod.fst).Nodup := by
    change ["condition", "parentConditions", "force", "coverage", "range", "seed", "hashAttribute",
      "fallbackAttribute", "hashVersion", "variations"].Nodup
    decide
  rw [to_fields_eq]
  exact Fields.get_present rule.parts distinct key

theorem read_optional_written {α : Type} (convert : Json → Except Json.ConversionError α) (write : α → Json)
    (kept : ∀ value, (write value).nonNull? = some (write value)) (back : ∀ value, convert (write value) = .ok value)
    (part : Option α) : readOptional convert ((part.map write).getD .null) = .ok part := by
  cases part with
  | none => rfl
  | some value =>
      rw [Option.map_some, Option.getD_some, readOptional, kept]
      simp only [back]
      rfl

theorem read_range_written (range : Option (Double × Double)) :
    readRange ((range.map fun (low, high) => Json.arr [double low, double high]).getD .null) = .ok range := by
  cases range <;> rfl

theorem objects_of_prerequisites (rule : Rule) :
    ((rule.toFields).getD "parentConditions").objects? = some (rule.prerequisites.map Prerequisite.toFields) := by
  rw [Fields.getD, get_to_fields]
  change ((if rule.prerequisites.isEmpty then none else some _).getD Json.null).objects? = _
  cases held : rule.prerequisites with
  | nil => rfl
  | cons first rest => exact Json.objects_written _

theorem read_from_written (rule : Rule) (normal : rule.Normal) : rule.ReadFrom rule.toFields := by
  have back : (rule.prerequisites.map Prerequisite.toFields).map Prerequisite.ofFields = rule.prerequisites := by
    rw [List.map_map]
    refine (List.map_congr_left fun prerequisite member => ?_).trans (List.map_id _)
    exact prerequisite.of_fields_to_fields (normal.prerequisites prerequisite member)
  constructor
  case prerequisites => exact ⟨_, rule.objects_of_prerequisites, back.symm⟩
  case condition =>
    rw [Fields.getD, Json.get_truthy, get_to_fields]
    exact normal.condition.symm
  case force =>
    rw [get_to_fields]
    rfl
  case coverage =>
    rw [Fields.getD, get_to_fields]
    exact read_optional_written _ double (fun _ => rfl) (fun _ => rfl) rule.coverage
  case range =>
    rw [Fields.getD, get_to_fields]
    exact read_range_written rule.range
  case seed =>
    rw [Fields.getD, Json.get_non_null, get_to_fields]
    change rule.seed = ((rule.seed.map Json.str).bind Json.nonNull?).map Json.display
    cases rule.seed <;> rfl
  case hashVersion =>
    rw [Fields.getD, get_to_fields]
    exact read_optional_written _ Json.int (fun _ => rfl) (fun _ => rfl) rule.hashVersion
  case hashAttribute =>
    rw [Fields.getD, Json.get_non_null, get_to_fields]
    exact normal.hashAttribute.symm
  case fallbackAttribute =>
    rw [Fields.getD, Json.get_non_null, get_to_fields]
    exact normal.fallbackAttribute.symm
  case variations =>
    rw [Fields.getD, Json.get_non_null, get_to_fields]
    exact normal.variations.symm

end Rule

namespace Feature

def Normal (feature : Feature) : Prop := ∀ rule ∈ feature.rules, rule.Normal

theorem of_json_normal (id : String) (json : Json) (feature : Feature) (read : Feature.ofJson id json = .ok feature) :
    feature.Normal := by
  obtain ⟨fields, objects, _, parts⟩ := (of_json_iff id json feature).mp read
  intro rule member
  obtain ⟨object, _, ruleRead⟩ := map_m_result _ _ _ parts.rules rule member
  exact ((Rule.of_fields_iff object rule).mp ruleRead).normal

theorem of_json_to_json (feature : Feature) (normal : feature.Normal) :
    Feature.ofJson feature.id feature.toJson = .ok feature := by
  have written : feature.rules.map Rule.toJson = (feature.rules.map Rule.toFields).map Json.obj := by
    rw [List.map_map]
    rfl
  have rules : (feature.rules.map Rule.toFields).mapM Rule.ofFields = .ok feature.rules := by
    rw [map_m_ok_iff, List.forall₂_map_left_iff, List.forall₂_same]
    intro rule member
    exact (Rule.of_fields_iff rule.toFields rule).mpr (rule.read_from_written (normal rule member))
  rw [of_json_iff, toJson, written]
  exact ⟨_, feature.rules.map Rule.toFields, rfl, rfl, rfl, Json.objects_written _, rules⟩

end Feature

namespace FeatureSet

def toFields (features : FeatureSet) : Fields := features.map fun (id, feature) => (id, feature.toJson)

theorem set_new (id : String) (feature : Feature) (features : FeatureSet) (fresh : id ∉ features.ids) :
    FeatureSet.set id feature features = features ++ [(id, feature)] := by
  induction features with
  | nil => rfl
  | cons entry rest ih =>
      obtain ⟨other, old⟩ := entry
      obtain ⟨different, later⟩ := not_or.mp fun member => fresh (List.mem_cons.mpr member)
      rw [FeatureSet.set, if_neg (Ne.symm different), ih later, List.cons_append]

theorem mem_add (features : FeatureSet) (feature : Feature) (entry : String × Feature)
    (member : entry ∈ features.add feature) : entry.2 = feature ∨ entry ∈ features := by
  rw [add] at member
  induction features with
  | nil => exact .inl (congrArg Prod.snd (List.mem_singleton.mp member))
  | cons first rest ih =>
      obtain ⟨other, old⟩ := first
      rw [FeatureSet.set] at member
      split at member
      · rcases List.mem_cons.mp member with rfl | later
        · exact .inl rfl
        · exact .inr (List.mem_cons_of_mem _ later)
      · rcases List.mem_cons.mp member with rfl | later
        · exact .inr List.mem_cons_self
        · exact (ih later).imp_right (List.mem_cons_of_mem _)

theorem mem_added (read : List Feature) (entry : String × Feature) (member : entry ∈ read.foldl add []) :
    entry.2 ∈ read := by
  induction read using List.reverseRecOn with
  | nil => exact absurd member List.not_mem_nil
  | append_singleton read feature ih =>
      rw [List.foldl_append] at member
      rcases mem_add _ feature entry member with same | earlier
      · rw [same]
        exact List.mem_concat_self
      · exact List.mem_append_left _ (ih earlier)

theorem added_again (features : FeatureSet) (keyed : features.KeyedById) (distinct : features.ids.Nodup) :
    (features.map Prod.snd).foldl add [] = features := by
  induction features using List.reverseRecOn with
  | nil => rfl
  | append_singleton features entry ih =>
      obtain ⟨id, feature⟩ := entry
      obtain ⟨keyedBefore, own⟩ := List.forall_mem_append.mp keyed
      have same : feature.id = id := own (id, feature) List.mem_cons_self
      rw [ids, List.map_append] at distinct
      have fresh : id ∉ FeatureSet.ids features := fun member =>
        (List.nodup_append.mp distinct).2.2 id member id List.mem_cons_self rfl
      rw [List.map_append, List.foldl_append, ih keyedBefore (List.nodup_append.mp distinct).1]
      change FeatureSet.set feature.id feature features = _
      rw [same]
      exact set_new id feature features fresh

theorem of_definitions_parts (fields : Fields) (features : FeatureSet)
    (read : FeatureSet.ofDefinitions (Definition.ofFields fields) = .ok features) :
    features.KeyedById ∧ features.ids.Nodup ∧ ∀ entry ∈ features, entry.2.Normal := by
  have keyed := of_definitions_keyed _ features read
  rw [of_definitions_eq] at read
  cases decoded : (Definition.ofFields fields).mapM Definition.decode with
  | error error =>
      rw [decoded] at read
      cases read
  | ok added =>
      rw [decoded] at read
      cases read
      refine ⟨keyed, ?_, fun entry member => ?_⟩
      · rw [(holds_added added).ids]
        exact erase_dups_nodup _
      · obtain ⟨definition, given, decodes⟩ :=
          map_m_result _ _ _ decoded entry.2 (mem_added added entry member)
        obtain ⟨field, _, rfl⟩ := List.mem_map.mp given
        exact Feature.of_json_normal field.1 field.2 entry.2 decodes

theorem of_definitions_to_fields (features : FeatureSet) (keyed : features.KeyedById) (distinct : features.ids.Nodup)
    (normal : ∀ entry ∈ features, entry.2.Normal) :
    FeatureSet.ofDefinitions (Definition.ofFields features.toFields) = .ok features := by
  have decoded : (Definition.ofFields features.toFields).mapM Definition.decode = .ok (features.map Prod.snd) := by
    rw [map_m_ok_iff, Definition.ofFields, toFields, List.map_map, List.forall₂_map_left_iff,
      List.forall₂_map_right_iff, List.forall₂_same]
    intro entry member
    change Feature.ofJson entry.1 entry.2.toJson = .ok entry.2
    rw [← keyed entry member]
    exact entry.2.of_json_to_json (normal entry member)
  rw [of_definitions_eq, decoded, Except.map, added_again features keyed distinct]

end FeatureSet

theorem reading_undoes_writing :
    (∀ id raw feature, Feature.ofJson id raw = .ok feature →
      Feature.ofJson id feature.toJson = .ok feature ∧
        ∀ again, Feature.ofJson id feature.toJson = .ok again → again.toJson = feature.toJson) ∧
    ∀ fields features, FeatureSet.ofDefinitions (Definition.ofFields fields) = .ok features →
      ∃ again, FeatureSet.ofDefinitions (Definition.ofFields features.toFields) = .ok again ∧
        again.toFields = features.toFields ∧
        ∀ (setting : Setting) (id : String),
          ({ setting with features := again } : Setting).evaluate id = ({ setting with features } : Setting).evaluate id := by
  constructor
  · intro id raw feature read
    have own := Feature.of_json_id id raw feature read
    have back := feature.of_json_to_json (Feature.of_json_normal id raw feature read)
    rw [own] at back
    refine ⟨back, fun again readAgain => ?_⟩
    cases back.symm.trans readAgain
    rfl
  · intro fields features read
    obtain ⟨keyed, distinct, normal⟩ := FeatureSet.of_definitions_parts fields features read
    exact ⟨features, features.of_definitions_to_fields keyed distinct normal, rfl, fun _ _ => rfl⟩

-- Reading drops the empty condition and the range of one end, makes texts of the prerequisite's name and of the
-- seed, and keeps that null is forced.
def Checkout.definition : Json :=
  .obj [("rules", .arr [.obj [("condition", .obj []), ("force", .null), ("range", .arr [.int 0]), ("seed", .int 7),
    ("parentConditions", .arr [.obj [("id", .int 3), ("gate", .str "yes")]]), ("hashVersion", .str " 2 ")]])]

def Checkout.feature : Feature :=
  { id := "checkout", defaultValue := .null, rules := [
      { condition := none, prerequisites := [⟨"3", .obj [], true⟩], force := some .null, coverage := none, range := none,
        seed := some "7", hashAttribute := none, fallbackAttribute := none, hashVersion := some 2, variations := none }] }

theorem reading_undoes_writing_checkout :
    Feature.ofJson "checkout" Checkout.definition = .ok Checkout.feature ∧
      Feature.ofJson "checkout" Checkout.feature.toJson = .ok Checkout.feature ∧
      FeatureSet.ofDefinitions (Definition.ofFields [("checkout", Checkout.definition)]) =
        .ok [("checkout", Checkout.feature)] ∧
      ∃ again, FeatureSet.ofDefinitions (Definition.ofFields (FeatureSet.toFields [("checkout", Checkout.feature)])) =
        .ok again := by
  have read : Feature.ofJson "checkout" Checkout.definition = .ok Checkout.feature := rfl
  have together : FeatureSet.ofDefinitions (Definition.ofFields [("checkout", Checkout.definition)]) =
      .ok [("checkout", Checkout.feature)] := rfl
  obtain ⟨again, readAgain, _⟩ := reading_undoes_writing.2 _ _ together
  exact ⟨read, (reading_undoes_writing.1 _ _ _ read).1, together, again, readAgain⟩

end FeatureFlags
