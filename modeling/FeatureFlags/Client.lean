import FeatureFlags.Evaluation.Log
import FeatureFlags.Json.Mapping
import FeatureFlags.Repository

/-! A client: features, attributes and a user, which operations replace as a whole or not at all. -/

set_option autoImplicit false

namespace FeatureFlags

structure Client where
  clientKey : String
  apiHost : String
  cacheTtl : Number
  repository : Repository
  hash : HashFunction
  sticky : Bool
  features : FeatureSet
  attributes : Fields
  user : Fields

inductive Definition where
  | raw (json : Json)
  | read (feature : Feature)

inductive Operation where
  | setFeatures (definitions : Json)
  | setDefinitions (definitions : List (String × Definition))
  | setAttributes (attributes : Json)
  | setUser (user : Json)
  -- The reply is the one that a request made now gets.
  | loadFeatures (reply : Reply)
  | evaluate (id : String)
  | getValue (id : String) (fallback : Json)
  | getAllValues
  | clearCache
  | advance (seconds : Double)

inductive OperationError where
  | feature (error : FeatureError)
  | notAMap
  | mapping (error : Json.MappingError)
  | evaluation (error : EvaluationError)
  | ttlTooLarge

inductive Answer where
  | nothing
  | loaded (success : Bool)
  | result (result : Evaluated)
  | value (json : Json)
  | values (values : Fields)

inductive ClientStep where
  | evaluation (step : Step)
  | loading (record : Record)
  | featuresSet (count : Nat)
  | loadFailed (report : Report)

structure Performed where
  client : Client
  log : List ClientStep
  requested : Option String
  answer : Except OperationError Answer

-- A feature that was read already keeps its own id.
def FeatureSet.ofDefinitions (definitions : List (String × Definition)) :
    Except FeatureError FeatureSet :=
  definitions.foldlM (fun (features : FeatureSet) (id, definition) =>
    match definition with
    | .raw json => do return features.set id (← Feature.ofJson id json)
    | .read feature => return features.set feature.id feature) []

def Definition.ofFields (fields : Fields) : List (String × Definition) :=
  fields.map fun (id, json) => (id, .raw json)

namespace Client

def setting (client : Client) : Setting :=
  { features := client.features, attributes := client.attributes, user := client.user,
    hash := client.hash, sticky := client.sticky }

def unchanged (client : Client) (answer : Except OperationError Answer) : Performed :=
  ⟨client, [], none, answer⟩

def setDefinitions (client : Client) (definitions : List (String × Definition)) : Performed :=
  match FeatureSet.ofDefinitions definitions with
  | .ok features =>
      ⟨{ client with features }, [.featuresSet features.length], none, .ok .nothing⟩
  | .error error => client.unchanged (.error (.feature error))

def applyLoaded (client : Client) (loaded : Fields) : Performed :=
  match FeatureSet.ofDefinitions (Definition.ofFields loaded) with
  | .ok features =>
      ⟨{ client with features }, [.featuresSet features.length], none, .ok (.loaded true)⟩
  | .error error =>
      if error.isReported then
        ⟨client, [.loadFailed error.report], none, .ok (.loaded false)⟩
      else client.unchanged (.error (.feature error))

def loadFeatures (client : Client) (reply : Reply) : Performed :=
  let loading := client.repository.load reply client.apiHost client.clientKey client.cacheTtl
  let client := { client with repository := loading.repository }
  let record := ClientStep.loading (loading.record client.apiHost)
  match loading.outcome with
  | .error .ttlTooLarge => ⟨client, [record], loading.requested, .error .ttlTooLarge⟩
  | .error (.reported error) =>
      ⟨client, [record, .loadFailed error.report], loading.requested, .ok (.loaded false)⟩
  | .ok loaded =>
      let applied := client.applyLoaded loaded
      { applied with log := record :: applied.log, requested := loading.requested }

def evaluation {α : Type} (client : Client) (run : Run α) (answer : α → Answer) : Performed :=
  ⟨client, run.log.map .evaluation, none,
    (run.outcome.mapError OperationError.evaluation).map answer⟩

def orFallback (fallback : Json) (result : Evaluated) : Answer :=
  .value (if result.value.isNull then fallback else result.value)

def allValues (setting : Setting) : Run Fields :=
  setting.features.mapM fun (id, _) => do return (id, (← setting.evaluate id).value)

def perform (client : Client) : Operation → Performed
  | .setFeatures (.obj fields) => client.setDefinitions (Definition.ofFields fields)
  | .setFeatures _ => client.unchanged (.error .notAMap)
  | .setDefinitions definitions => client.setDefinitions definitions
  | .setAttributes json => match json.toFields with
    | .ok attributes => ({ client with attributes } : Client).unchanged (.ok .nothing)
    | .error error => client.unchanged (.error (.mapping error))
  | .setUser json => match json.toFields with
    | .ok user => ({ client with user } : Client).unchanged (.ok .nothing)
    | .error error => client.unchanged (.error (.mapping error))
  | .loadFeatures reply => client.loadFeatures reply
  | .evaluate id => client.evaluation (client.setting.evaluate id) .result
  | .getValue id fallback => client.evaluation (client.setting.evaluate id) (orFallback fallback)
  | .getAllValues => client.evaluation (allValues client.setting) .values
  | .clearCache =>
      ({ client with repository := client.repository.clear } : Client).unchanged (.ok .nothing)
  | .advance seconds =>
      ({ client with repository := client.repository.advance seconds } : Client).unchanged
        (.ok .nothing)

end Client

def ClientStep.record? : ClientStep → Option Record
  | .evaluation step => step.record?
  | .loading record => some record
  | .featuresSet count => some ⟨.debug, "features_set", [("count", .int count)]⟩
  | .loadFailed report =>
      some ⟨.warning, "load_features_failed",
        [("code", .str report.code), ("error", .str report.text)]⟩

def ClientStep.call? : ClientStep → Option HashCall
  | .evaluation step => step.call?
  | _ => none

end FeatureFlags
