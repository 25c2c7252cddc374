import FeatureFlags.Json
import FeatureFlags.Text.Quoted

/-! `Json.literal` is the text of a value inside a container, where texts are quoted; `Json.plainText` is the
one that is compared, hashed and ordered. -/

set_option autoImplicit false

namespace FeatureFlags.Json

mutual
def literal : Json → String
  | .null => "None"
  | .bool value => if value then "True" else "False"
  | .num value => value.exactText
  | .str value => Text.quoted value
  | .arr items => "[" ++ String.intercalate ", " (literalItems items) ++ "]"
  | .obj fields => "\x7b" ++ String.intercalate ", " (literalFields fields) ++ "\x7d"
termination_by structural json => json
def literalItems : List Json → List String
  | [] => []
  | item :: rest => literal item :: literalItems rest
termination_by structural json => json
def literalFields : List (String × Json) → List String
  | [] => []
  | (key, value) :: rest => (Text.quoted key ++ ": " ++ literal value) :: literalFields rest
termination_by structural json => json
end

def display : Json → String
  | .str value => value
  | value => literal value

def plainText : Json → String
  | .null => ""
  | .bool value => if value then "true" else "false"
  | .num value => value.plainText
  | value => display value

end FeatureFlags.Json
