set_option autoImplicit false

namespace FeatureFlags.Yaml

inductive Tag where
  | null
  | bool
  | int
  | float
  | text
  | timestamp
  | binary
  | list
  | map
  | set
  | pairs
  | merge
  -- The key of the entry that stands for its map where a scalar is wanted.
  | default
  | unknown
deriving DecidableEq, Repr

namespace Tag

def family : String := "tag:yaml.org,2002:"

def named : List (String × Tag) :=
  [("null", .null), ("bool", .bool), ("int", .int), ("float", .float), ("str", .text),
    ("timestamp", .timestamp), ("binary", .binary), ("seq", .list), ("map", .map), ("set", .set),
    ("omap", .pairs), ("pairs", .pairs), ("merge", .merge), ("value", .default)]

def ofName (name : String) : Tag :=
  ((named.map fun (last, tag) => (family ++ last, tag)).lookup name).getD .unknown

def isCollection : Tag → Bool
  | .list | .map | .set | .pairs => true
  | _ => false

end Tag
end FeatureFlags.Yaml
