import FeatureFlags.Cache
import FeatureFlags.Json.Encoding
import FeatureFlags.Log
import FeatureFlags.Report

/-! A load is answered from the cache while its entry is fresh; otherwise it makes one request, and what it
decodes is stored if the time to live is positive. -/

set_option autoImplicit false

namespace FeatureFlags

inductive Reply where
  | response (status : Nat) (body : Json.Bytes)
  | failure (name : String)

inductive LoadError where
  | transport (url : String) (name : String)
  | status (url : String) (status : Nat)
  | unreadable (url : String) (error : Json.ReadError)
  | noFeatures (url : String)
deriving DecidableEq, Repr

inductive LoadFailure where
  | reported (error : LoadError)
  | ttlTooLarge
deriving DecidableEq, Repr

namespace LoadError

def report : LoadError → Report
  | .transport url _ | .status url _ => .fetch ("Failed to fetch features from " ++ url ++ ": ")
  | .unreadable url _ => .decode ("Response from " ++ url ++ " is not valid JSON")
  | .noFeatures url => .decode ("Response from " ++ url ++ " has no features object")

end LoadError

namespace Reply

def decode (url : String) (body : Json.Bytes) : Except LoadError Fields :=
  match Json.parseBytes body with
  | .error error => .error (.unreadable url error)
  | .ok (.obj fields) => match Fields.get? fields "features" with
    | some (.obj features) => .ok features
    | _ => .error (.noFeatures url)
  | .ok _ => .error (.noFeatures url)

def features (url : String) : Reply → Except LoadError Fields
  | .failure name => .error (.transport url name)
  | .response status body =>
      if 200 ≤ status ∧ status < 300 then decode url body else .error (.status url status)

end Reply

structure Repository where
  cache : Cache Fields
  timeout : Number

structure Loading where
  repository : Repository
  requested : Option String
  outcome : Except LoadFailure Fields

namespace Repository

def dropSlashes (host : List Char) : List Char := (host.reverse.dropWhile (· == '/')).reverse

def featuresUrl (host key : String) : String :=
  String.ofList (dropSlashes host.toList) ++ "/api/features/" ++ key

def cacheKey (host key : String) : String := host ++ "::" ++ key

def startTime : Double := Double.ofRatio false 1000 1

def fresh (timeout : Number) : Repository := ⟨.empty startTime, timeout⟩

def store (cache : Cache Fields) (key : String) (features : Fields) (ttl : Number) :
    Except LoadFailure (Cache Fields) :=
  if (Number.int 0).lt ttl then match ttl.toDouble? with
    | some seconds => .ok (cache.set key features seconds)
    | none => .error .ttlTooLarge
  else .ok cache

-- The reply is the one that a request made now gets.
def load (repository : Repository) (reply : Reply) (host key : String) (ttl : Number) : Loading :=
  match repository.cache.get (cacheKey host key) with
  | (some features, cache) => ⟨{ repository with cache }, none, .ok features⟩
  | (none, cache) =>
      let url := featuresUrl host key
      let stored : Except LoadFailure (Fields × Cache Fields) := do
        let features ← (reply.features url).mapError .reported
        return (features, ← store cache (cacheKey host key) features ttl)
      match stored with
      | .ok (features, cache) => ⟨{ repository with cache }, some url, .ok features⟩
      | .error error => ⟨{ repository with cache }, some url, .error error⟩

def clear (repository : Repository) : Repository :=
  { repository with cache := repository.cache.clear }

def advance (repository : Repository) (seconds : Double) : Repository :=
  { repository with cache := repository.cache.advance seconds }

end Repository

def Loading.record (loading : Loading) (host : String) : Record :=
  match loading.requested with
  | some url => ⟨.debug, "fetching_features", [("url", .str url)]⟩
  | none => ⟨.debug, "features_cache_hit", [("api_host", .str host)]⟩

end FeatureFlags
