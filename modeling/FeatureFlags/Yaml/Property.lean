import FeatureFlags.Numeral
import FeatureFlags.Text.Digits
import FeatureFlags.Yaml.Failure
import FeatureFlags.Yaml.Line

/-! A tag is a handle that stands for the start of its name, and the rest of the name. -/

set_option autoImplicit false

namespace FeatureFlags.Yaml

inductive Directive where
  | version (major : Nat)
  | handle (name : String) (stands : String)
  | other
deriving DecidableEq, Repr

structure WrittenTag where
  handle : Option String
  rest : String
deriving DecidableEq, Repr

namespace Property

def isNameChar (c : Char) : Bool := c.isAlphanum || c == '-' || c == '_'

def atSpace (rest : List Char) : Bool := rest.head? == some ' ' || atBreak rest

def nameEnds : List Char := ['?', ':', ',', ']', '\x7d', '%', '@', '\x60']

def readName (rest : List Char) : Except Failure (String × List Char) :=
  let name := rest.takeWhile isNameChar
  let after := rest.dropWhile isNameChar
  if !name.isEmpty && (atGap after || after.head?.any nameEnds.contains) then
    .ok (String.ofList name, after)
  else .error .malformed

def uriMarks : List Char :=
  ['-', ';', '/', '?', ':', '@', '&', '=', '+', '$', ',', '_', '.', '!', '~', '*', '\x27', '(', ')', '[',
    ']']

def isUriChar (c : Char) : Bool := c.isAlphanum || uriMarks.contains c

def escapedBytes? : List Char → Option (List UInt8 × List Char)
  | '%' :: high :: low :: rest =>
      if Text.isDigitIn 16 high && Text.isDigitIn 16 low then
        (escapedBytes? rest).map fun (others, rest) =>
          (UInt8.ofNat (Text.valueIn 16 [high, low]) :: others, rest)
      else none
  | '%' :: _ => none
  | rest => some ([], rest)

def readUri : Nat → List Char → List Char → Except Failure (String × List Char)
  | 0, _, _ => .error .malformed
  | fuel + 1, name, rest =>
      let finished := if name.isEmpty then .error .malformed else .ok (String.ofList name, rest)
      match rest with
      | [] => finished
      | c :: after =>
          if c = '%' then
            match (escapedBytes? rest).bind fun (escaped, after) =>
              (String.fromUTF8? ⟨escaped.toArray⟩).map (·, after) with
            | some (part, after) => readUri fuel (name ++ part.toList) after
            | none => .error .malformed
          else if isUriChar c then readUri fuel (name ++ [c]) after
          else finished

def uri (rest : List Char) : Except Failure (String × List Char) := readUri (rest.length + 1) [] rest

def readHandle : List Char → Except Failure (String × List Char)
  | '!' :: rest =>
      if rest.head? = some ' ' then .ok ("!", rest)
      else
        let name := rest.takeWhile isNameChar
        match rest.dropWhile isNameChar with
        | '!' :: after => .ok ("!" ++ String.ofList name ++ "!", after)
        | _ => .error .malformed
  | _ => .error .malformed

def readTagParts (rest : List Char) : Except Failure (WrittenTag × List Char) :=
  match rest.drop 1 with
  | '<' :: name => do
      let (name, after) ← uri name
      if after.head? = some '>' then .ok (⟨none, name⟩, after.drop 1) else .error .malformed
  | after =>
      if atGap after then .ok (⟨none, "!"⟩, after)
      else do
        let word := after.takeWhile fun c => !(c == ' ' || isBreak c)
        let (handle, after) ← if word.contains '!' then readHandle rest else .ok ("!", after)
        let (name, after) ← uri after
        .ok (⟨some handle, name⟩, after)

def readTag (rest : List Char) : Except Failure (WrittenTag × List Char) := do
  let (tag, after) ← readTagParts rest
  if atSpace after then .ok (tag, after) else .error .malformed

def dropSpaces (rest : List Char) : List Char := rest.dropWhile (· == ' ')

def readVersionPart (rest : List Char) : Except Failure (Nat × List Char) :=
  let digits := rest.takeWhile Char.isDigit
  if digits.isEmpty then .error .malformed
  else if Numeral.digitLimit < digits.length then .error (.defective .tooManyDigits)
  else .ok (Text.valueIn 10 digits, rest.dropWhile Char.isDigit)

def readVersion (rest : List Char) : Except Failure (Directive × List Char) := do
  let (major, after) ← readVersionPart (dropSpaces rest)
  if after.head? = some '.' then
    let (_, after) ← readVersionPart (after.drop 1)
    if atSpace after then .ok (.version major, after) else .error .malformed
  else .error .malformed

def readHandleDirective (rest : List Char) : Except Failure (Directive × List Char) := do
  let (name, after) ← readHandle (dropSpaces rest)
  if after.head? = some ' ' then
    let (stands, after) ← uri (dropSpaces after)
    if atSpace after then .ok (.handle name stands, after) else .error .malformed
  else .error .malformed

def readDirective (rest : List Char) : Except Failure (Directive × List Char) := do
  let name := String.ofList (rest.takeWhile isNameChar)
  let after := rest.dropWhile isNameChar
  if name.isEmpty || !atSpace after then .error .malformed
  else
    let (directive, after) ←
      if name = "YAML" then readVersion after
      else if name = "TAG" then readHandleDirective after
      else .ok (.other, after.dropWhile (!isBreak ·))
    match Line.dropComment? after with
    | some lineEnd => .ok (directive, lineEnd)
    | none => .error .malformed

end Property
end FeatureFlags.Yaml
