import FeatureFlags.Config.Field
import FeatureFlags.Report
import FeatureFlags.Yaml.Reader

/-! Settings of a client, read from a YAML document, which is refused with the names of all settings that do
not fit. -/

set_option autoImplicit false

namespace FeatureFlags

structure LogSettings where
  level : String := "INFO"
  format : LogFormat := .json

structure Config where
  apiHost : String := "https://cdn.growthbook.io"
  clientKey : String := ""
  cacheTtl : Double := Double.ofRatio false 60 1
  timeout : Double := Double.ofRatio false 10 1
  sticky : Bool := false
  log : LogSettings := {}

inductive ConfigError where
  | unreadable (path : String)
  | malformed (path : String)
  | invalid (names : List String)
deriving DecidableEq, Repr

namespace ConfigError

def report : ConfigError → Report
  | .unreadable path => .config ("Failed to read config file: " ++ path)
  | .malformed path => .config ("Failed to parse YAML: " ++ path)
  | .invalid _ => .config "Config validation failed"

def names? : ConfigError → Option (List String)
  | .invalid names => some names
  | _ => none

end ConfigError

inductive ConfigFailure where
  | reported (error : ConfigError)
  | defective (defect : Yaml.Defect)
deriving DecidableEq, Repr

namespace Config

abbrev Check := Except (List String)

def faults {α : Type} : Check α → List String
  | .ok _ => []
  | .error names => names

def field {α : Type} (entries : List (String × Yaml)) (name : String) (read? : Yaml → Option α)
    (default : α) : Check α :=
  match entries.lookup name with
  | none => .ok default
  | some value => match read? value with
    | some setting => .ok setting
    | none => .error [name]

def checkLog : Yaml → Check LogSettings
  | .map entries =>
      let level := field entries "level" Field.text? ({} : LogSettings).level
      let format := field entries "format" Field.format? ({} : LogSettings).format
      match level, format with
      | .ok level, .ok format => .ok { level, format }
      | _, _ => .error ((faults format ++ faults level).map ("log." ++ ·))
  | _ => .error ["log"]

def checkEntries (entries : List (String × Yaml)) : Check Config :=
  let base : Config := {}
  let apiHost := field entries "api_host" Field.text? base.apiHost
  let clientKey := field entries "client_key" Field.text? base.clientKey
  let cacheTtl := field entries "cache_ttl" Field.duration? base.cacheTtl
  let timeout := field entries "timeout" Field.limit? base.timeout
  let sticky := field entries "sticky_bucketing" Field.flag? base.sticky
  let log : Check LogSettings := match entries.lookup "log" with
    | none => .ok base.log
    | some value => checkLog value
  match apiHost, clientKey, cacheTtl, timeout, sticky, log with
  | .ok apiHost, .ok clientKey, .ok cacheTtl, .ok timeout, .ok sticky, .ok log =>
      .ok { apiHost, clientKey, cacheTtl, timeout, sticky, log }
  | _, _, _, _, _, _ =>
      .error (faults apiHost ++ faults cacheTtl ++ faults clientKey ++ faults log ++
        faults sticky ++ faults timeout)

def check : Yaml → Check Config
  | .map entries => checkEntries entries
  | _ => .error [""]

def settingsOf (document : Yaml) : Yaml :=
  if document.truthy then match document with
    | .map entries => match entries.lookup "gbflags" with
      | some (.map inner) => .map inner
      | _ => document
    | _ => document
  else .map []

def load (path : String) (content : Option String) : Except ConfigFailure Config :=
  match content with
  | none => .error (.reported (.unreadable path))
  | some text => match Yaml.read text with
    | .error .malformed => .error (.reported (.malformed path))
    | .error (.defective defect) => .error (.defective defect)
    | .ok document => (check (settingsOf document)).mapError fun names => .reported (.invalid names)

end Config
end FeatureFlags
