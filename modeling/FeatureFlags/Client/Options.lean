import FeatureFlags.Client
import FeatureFlags.Config

set_option autoImplicit false

namespace FeatureFlags

structure ClientOptions where
  clientKey : String := ({} : Config).clientKey
  apiHost : String := ({} : Config).apiHost
  cacheTtl : Number := .int 60
  -- Of the repository that is made where none is given.
  timeout : Number := .float ({} : Config).timeout
  repository : Option Repository := none
  sticky : Bool := ({} : Config).sticky
  hash : HashFunction := bucketHash
  attributes : Json := .null
  user : Json := .null
  features : Json := .null

def Config.toOptions (config : Config) : ClientOptions :=
  { clientKey := config.clientKey, apiHost := config.apiHost, cacheTtl := .float config.cacheTtl,
    timeout := .float config.timeout, sticky := config.sticky }

def Config.threshold (config : Config) : Except ThresholdError Nat := Threshold.ofName config.log.level

namespace Client

def ofOptions (options : ClientOptions) : Except OperationError Client := do
  let attributes ← options.attributes.toFieldsOrEmpty.mapError .mapping
  let user ← options.user.toFieldsOrEmpty.mapError .mapping
  let client : Client :=
    { clientKey := options.clientKey, apiHost := options.apiHost, cacheTtl := options.cacheTtl,
      repository := options.repository.getD (.fresh options.timeout), hash := options.hash,
      sticky := options.sticky, features := [], attributes, user }
  if options.features.truthy then
    let performed := client.perform (.setFeatures options.features)
    let _ ← performed.answer
    return performed.client
  else return client

end Client
end FeatureFlags
