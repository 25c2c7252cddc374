set_option autoImplicit false

namespace FeatureFlags

structure Report where
  code : String
  message : String
deriving DecidableEq, Repr

namespace Report

def text (report : Report) : String := report.code ++ ": " ++ report.message

def fetch (message : String) : Report := ⟨"FETCH_ERROR", message⟩

def decode (message : String) : Report := ⟨"DECODE_ERROR", message⟩

def invalidFeature (message : String) : Report := ⟨"INVALID_FEATURE", message⟩

def config (message : String) : Report := ⟨"CONFIG_ERROR", message⟩

end Report
end FeatureFlags
