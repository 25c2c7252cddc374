import FeatureFlags.Json

set_option autoImplicit false

namespace FeatureFlags

inductive Level where
  | debug
  | info
  | warning
  | error
  | critical
deriving DecidableEq, Repr

namespace Level

def name : Level → String
  | .debug => "debug"
  | .info => "info"
  | .warning => "warning"
  | .error => "error"
  | .critical => "critical"

def weight : Level → Nat
  | .debug => 10
  | .info => 20
  | .warning => 30
  | .error => 40
  | .critical => 50

def ofName? (name : String) : Option Level :=
  [debug, info, warning, error, critical].find? fun level => level.name == name

end Level

inductive ThresholdError where
  | formatText
  | styleTable
deriving DecidableEq, Repr

namespace Threshold

-- Characters outside ASCII whose upper case is in ASCII.
def upperCases : List (Char × List Char) :=
  [('ı', ['I']), ('ſ', ['S']), ('ß', ['S', 'S']), ('ﬀ', ['F', 'F']), ('ﬁ', ['F', 'I']),
    ('ﬂ', ['F', 'L']), ('ﬃ', ['F', 'F', 'I']), ('ﬄ', ['F', 'F', 'L']), ('ﬅ', ['S', 'T']),
    ('ﬆ', ['S', 'T'])]

def upper (c : Char) : List Char := (upperCases.lookup c).getD [c.toUpper]

def named : List (String × Nat) :=
  [("NOTSET", 0), ("DEBUG", 10), ("INFO", 20), ("WARN", 30), ("WARNING", 30), ("ERROR", 40),
    ("CRITICAL", 50), ("FATAL", 50)]

def ofName (name : String) : Except ThresholdError Nat :=
  let name := String.ofList (name.toList.flatMap upper)
  if name = "BASIC_FORMAT" then .error .formatText
  else if name = "_STYLES" then .error .styleTable
  else .ok ((named.lookup name).getD Level.info.weight)

end Threshold

structure Record where
  level : Level
  event : String
  fields : Fields

inductive LogFormat where
  | json
  | text
deriving DecidableEq, Repr

namespace LogFormat

def name : LogFormat → String
  | .json => "json"
  | .text => "text"

def ofName (name : String) : LogFormat := if name = LogFormat.text.name then .text else .json

end LogFormat

namespace Record

def passes (record : Record) (threshold : Nat) : Bool := threshold ≤ record.level.weight

def loggerName : String := "gbflags"

def lineFields (record : Record) (time : Json) : Fields :=
  [("event", .str record.event), ("logger", .str loggerName), ("level", .str record.level.name),
    ("timestamp", time)].foldl (fun fields (key, value) => Fields.set key value fields) record.fields

end Record
end FeatureFlags
