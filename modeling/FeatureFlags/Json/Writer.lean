import FeatureFlags.Json
import FeatureFlags.Text.Digits
import FeatureFlags.Text.Surrogate

/-! JSON text of a value, in which integers and doubles read back as what they were. -/

set_option autoImplicit false

namespace FeatureFlags.Json

namespace Writer

def unitEscape (unit : Nat) : List Char := '\\' :: 'u' :: Text.hexDigits 4 unit

def codeEscape (c : Char) : List Char :=
  if c.toNat < 0x10000 then unitEscape c.toNat
  else
    let (high, low) := Text.Surrogate.split c.toNat
    unitEscape high ++ unitEscape low

def isAscii (c : Char) : Bool := 0x20 ≤ c.toNat && c.toNat < 0x7f

def isPlain (c : Char) : Bool := 0x20 ≤ c.toNat

def escaped (plain : Char → Bool) (c : Char) : List Char :=
  if c = '\x22' ∨ c = '\\' then ['\\', c]
  else if c = '\n' then ['\\', 'n']
  else if c = '\r' then ['\\', 'r']
  else if c = '\t' then ['\\', 't']
  else if c = '\x0c' then ['\\', 'f']
  else if c = '\x08' then ['\\', 'b']
  else if plain c then [c]
  else codeEscape c

def string (plain : Char → Bool) (text : String) : String :=
  String.ofList ('\x22' :: text.toList.flatMap (escaped plain) ++ ['\x22'])

def number : Number → String
  | .float .nan => "NaN"
  | .float (.infinite negative) => if negative then "-Infinity" else "Infinity"
  | value => value.exactText

end Writer

mutual
def writeWith (plain : Char → Bool) : Json → String
  | .null => "null"
  | .bool value => if value then "true" else "false"
  | .num value => Writer.number value
  | .str value => Writer.string plain value
  | .arr items => "[" ++ String.intercalate ", " (writeItems plain items) ++ "]"
  | .obj fields => "\x7b" ++ String.intercalate ", " (writeFields plain fields) ++ "\x7d"
termination_by structural json => json
def writeItems (plain : Char → Bool) : List Json → List String
  | [] => []
  | item :: rest => writeWith plain item :: writeItems plain rest
termination_by structural json => json
def writeFields (plain : Char → Bool) : Fields → List String
  | [] => []
  | (key, value) :: rest =>
      (Writer.string plain key ++ ": " ++ writeWith plain value) :: writeFields plain rest
termination_by structural json => json
end

def write (json : Json) : String := json.writeWith Writer.isAscii

def writeUnicode (json : Json) : String := json.writeWith Writer.isPlain

end FeatureFlags.Json
