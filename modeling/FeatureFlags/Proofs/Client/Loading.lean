import FeatureFlags.Proofs.Feature.Definitions
import FeatureFlags.Proofs.Feature.Oversized
import FeatureFlags.Proofs.Repository.Loading

/-! Whatever the reply, a load of features answers whether it succeeded, unless a definition that it loaded
has a number that no rule can hold, or the time to live is an integer that is too large for a double. -/

set_option autoImplicit false

namespace FeatureFlags

namespace Feature

inductive Ends (id : String) (json : Json) : Prop where
  | read (feature : Feature) (read : Feature.ofJson id json = .ok feature)
  | reported (error : FeatureError) (refused : Feature.ofJson id json = .error error) (own : error.isReported)
      (code : error.report.code = "INVALID_FEATURE")
  | escaped (wanted : Json.NumberKind) (refused : Feature.ofJson id json = .error (.tooLarge wanted))
      (oversized : Oversized json wanted)

theorem ends (id : String) (json : Json) : Ends id json := by
  cases read : Feature.ofJson id json with
  | ok feature => exact .read feature read
  | error error =>
      cases error with
      | tooLarge wanted => exact .escaped wanted read (of_json_too_large id json wanted read)
      | notAnObject _ | rulesNotObjects _ | invalidRule _ _ => exact .reported _ read rfl rfl

end Feature

theorem FeatureSet.of_definitions_error (fields : Fields) (error : FeatureError)
    (refused : FeatureSet.ofDefinitions (Definition.ofFields fields) = .error error) :
    ∃ entry ∈ fields, Feature.ofJson entry.1 entry.2 = .error error := by
  rw [of_definitions_eq] at refused
  cases decoded : (Definition.ofFields fields).mapM Definition.decode with
  | ok read =>
      rw [decoded] at refused
      cases refused
  | error cause =>
      rw [decoded] at refused
      cases refused
      obtain ⟨definition, among, failed⟩ := map_m_error _ _ _ decoded
      obtain ⟨entry, member, rfl⟩ := List.mem_map.mp among
      exact ⟨entry, member, failed⟩

theorem Reply.loaded_too_large (reply : Reply) (url : String) (ttl : Number)
    (failed : reply.loaded url ttl = .error .ttlTooLarge) : ∃ value, ttl = .int value ∧ Double.ofInt? value = none := by
  rw [loaded] at failed
  cases fetched : reply.features url with
  | error error =>
      rw [fetched] at failed
      cases failed
  | ok features =>
      simp only [fetched] at failed
      split at failed
      · rename_i large
        exact ttl.int_of_unread large.2
      · cases failed

theorem Repository.load_too_large (repository : Repository) (reply : Reply) (host key : String) (ttl : Number)
    (failed : (repository.load reply host key ttl).outcome = .error .ttlTooLarge) :
    ∃ value, ttl = .int value ∧ Double.ofInt? value = none := by
  cases repository.loads reply host key ttl with
  | held entry found loads =>
      rw [loads] at failed
      cases failed
  | stored features seconds missing loaded positive lasts loads =>
      rw [loads] at failed
      cases failed
  | unstored missing unkept loads =>
      rw [loads] at failed
      exact reply.loaded_too_large _ ttl failed

namespace Client

def loads (client : Client) (reply : Reply) : Except LoadFailure Fields :=
  (client.repository.load reply client.apiHost client.clientKey client.cacheTtl).outcome

inductive LoadEnds (client : Client) (reply : Reply) : Prop where
  | answered (success : Bool) (answer : (client.perform (.loadFeatures reply)).answer = .ok (.loaded success))
  | oversized (loaded : Fields) (id : String) (json : Json) (wanted : Json.NumberKind)
      (loads : client.loads reply = .ok loaded) (among : (id, json) ∈ loaded) (oversized : Feature.Oversized json wanted)
      (answer : (client.perform (.loadFeatures reply)).answer = .error (.feature (.tooLarge wanted)))
  | timeToLive (value : Int) (held : client.cacheTtl = .int value) (large : Double.ofInt? value = none)
      (answer : (client.perform (.loadFeatures reply)).answer = .error .ttlTooLarge)

theorem load_answer_failed (client : Client) (reply : Reply) (failure : LoadFailure)
    (failed : client.loads reply = .error failure) : (client.perform (.loadFeatures reply)).answer = match failure with
      | .reported _ => .ok (.loaded false)
      | .ttlTooLarge => .error .ttlTooLarge := by
  rw [loads] at failed
  simp only [perform, loadFeatures, failed]
  cases failure <;> rfl

theorem load_answer_loaded (client : Client) (reply : Reply) (loaded : Fields) (loads : client.loads reply = .ok loaded) :
    (client.perform (.loadFeatures reply)).answer = match FeatureSet.ofDefinitions (Definition.ofFields loaded) with
      | .ok _ => .ok (.loaded true)
      | .error error => if error.isReported then .ok (.loaded false) else .error (.feature error) := by
  rw [Client.loads] at loads
  simp only [perform, loadFeatures, loads, applyLoaded]
  cases FeatureSet.ofDefinitions (Definition.ofFields loaded) with
  | ok features => rfl
  | error error => cases error <;> rfl

theorem load_ends (client : Client) (reply : Reply) : client.LoadEnds reply := by
  cases loads : client.loads reply with
  | error failure =>
      have answer := load_answer_failed client reply failure loads
      cases failure with
      | reported error => exact .answered false answer
      | ttlTooLarge =>
          obtain ⟨value, held, large⟩ := Repository.load_too_large _ _ _ _ _ loads
          exact .timeToLive value held large answer
  | ok loaded =>
      have answer := load_answer_loaded client reply loaded loads
      cases read : FeatureSet.ofDefinitions (Definition.ofFields loaded) with
      | ok features =>
          rw [read] at answer
          exact .answered true answer
      | error error =>
          rw [read] at answer
          cases error with
          | tooLarge wanted =>
              obtain ⟨⟨id, json⟩, among, refused⟩ := FeatureSet.of_definitions_error loaded _ read
              exact .oversized loaded id json wanted loads among (Feature.of_json_too_large id json wanted refused) answer
          | notAnObject _ | rulesNotObjects _ | invalidRule _ _ => exact .answered false answer

theorem loading_ends (id : String) (json : Json) (client : Client) (reply : Reply) :
    Feature.Ends id json ∧
    (∀ wanted feature, Feature.Oversized json wanted → Feature.ofJson id json ≠ .ok feature) ∧
    client.LoadEnds reply := by
  refine ⟨Feature.ends id json, fun wanted feature oversized => ?_, load_ends client reply⟩
  exact Feature.oversized_unread id json wanted oversized feature

def Endless.definition : Json := .obj [("rules", .arr [.obj [("hashVersion", .num (.float (.infinite false)))]])]

def Endless.reply : Reply := .response 200
  "\x7b\"features\":\x7b\"f\":\x7b\"rules\":[\x7b\"hashVersion\":Infinity\x7d]\x7d\x7d\x7d".toUTF8.toList

def Endless.client : Client :=
  { clientKey := "sdk-1", apiHost := "http://gb.test/", cacheTtl := .int 30, repository := .fresh (.int 10),
    hash := bucketHash, sticky := false, features := [], attributes := [], user := [] }

theorem infinite_version_escapes :
    Feature.ofJson "f" Endless.definition = .error (.tooLarge .integer) ∧
      ∃ wanted, (Endless.client.perform (.loadFeatures Endless.reply)).answer = .error (.feature (.tooLarge wanted)) := by
  have fails : (Endless.client.perform (.loadFeatures Endless.reply)).answer.toBool = false := by decide +kernel
  have lasts : (Double.ofInt? 30).isSome := by decide +kernel
  refine ⟨rfl, ?_⟩
  cases load_ends Endless.client Endless.reply with
  | answered success answer =>
      rw [answer] at fails
      cases fails
  | oversized loaded id json wanted loads among oversized answer => exact ⟨wanted, answer⟩
  | timeToLive value held large answer =>
      cases held
      rw [large] at lasts
      cases lasts

end Client
end FeatureFlags
