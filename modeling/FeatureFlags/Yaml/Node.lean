import FeatureFlags.Yaml.Scalar

/-! A node has its value at hand, or the fault for which there is none: among the faults in a node that of
least depth counts, and of several at one depth the first. -/

set_option autoImplicit false

namespace FeatureFlags.Yaml

structure Fault where
  depth : Nat
  failure : Failure

namespace Fault

def below (fault : Fault) : Fault := { fault with depth := fault.depth + 1 }

def least (a b : Option Fault) : Option Fault :=
  match a, b with
  | some a, some b => if b.depth < a.depth then some b else some a
  | some a, none => some a
  | none, b => b

def first (faults : List (Option Fault)) : Option Fault := faults.foldl least none

end Fault

structure Outcome where
  value : Yaml
  fault : Option Fault

namespace Outcome

def refused (depth : Nat) (failure : Failure) : Outcome := ⟨.null, some ⟨depth, failure⟩⟩

def ofReading : Scalar.Reading Yaml → Outcome
  | .ok value => ⟨value, none⟩
  | .error failure => refused 0 failure

end Outcome

inductive Node where
  | scalar (tag : Tag) (content : Option String) (outcome : Outcome)
  | list (tag : Tag) (items : List Node) (outcome : Outcome)
  -- A map, with its entries before and after merging. A map that cannot merge what its merge keys hold
  -- has none after.
  | map (tag : Tag) (entries : List (Node × Node)) (merged : Option (List (Node × Node)))
      (outcome : Outcome)

namespace Node

abbrev Entries := List (Node × Node)

def tag : Node → Tag
  | .scalar tag .. => tag
  | .list tag .. => tag
  | .map tag .. => tag

def outcome : Node → Outcome
  | .scalar _ _ outcome => outcome
  | .list _ _ outcome => outcome
  | .map _ _ _ outcome => outcome

mutual
def content? : Node → Option (Option String)
  | .scalar _ content _ => some content
  | .list .. => none
  | .map _ entries _ _ => defaultContent? entries
def defaultContent? : List (Node × Node) → Option (Option String)
  | [] => none
  | (key, value) :: rest => if key.tag = .default then content? value else defaultContent? rest
end

def scalarOutcome (tag : Tag) (content : Option (Option String)) : Outcome :=
  match content with
  | some content => .ofReading (Scalar.value tag content)
  | none => .refused 0 .malformed

def ofScalar (tag : Tag) (content : Option String) : Node :=
  .scalar tag content
    (if tag.isCollection then .refused 1 .malformed else scalarOutcome tag (some content))

def absent : Node := ofScalar .null (some "")

def pair? : Node → Option (Node × Node)
  | .map _ [entry] _ _ => some entry
  | _ => none

def itemFault (item : Node) : Option Fault := item.outcome.fault.map Fault.below

def pairFault (item : Node) : Option Fault :=
  match pair? item with
  | some (key, value) => Fault.least (itemFault key) (itemFault value)
  | none => some ⟨1, .malformed⟩

def listOutcome (tag : Tag) (items : List Node) : Outcome :=
  match tag with
  | .list => ⟨.list (items.map fun item => item.outcome.value), Fault.first (items.map itemFault)⟩
  | .pairs => ⟨.list (items.map fun _ => .foreign), Fault.first (items.map pairFault)⟩
  | tag => .refused (if tag.isCollection then 1 else 0) .malformed

def ofItems (tag : Tag) (items : List Node) : Node := .list tag items (listOutcome tag items)

-- The entries that a merge key adds: those of a map, or of each map in a list, where the first map
-- wins.
def mergedEntries? : Node → Option Entries
  | .map _ _ merged _ => merged
  | .list _ items _ => do
      let maps ← items.mapM fun item => match item with
        | .map _ _ merged _ => merged
        | _ => none
      some maps.reverse.flatten
  | .scalar .. => none

def merge? (entries : Entries) : Option Entries := do
  let (merging, own) := entries.partition fun (key, _) => key.tag == .merge
  let added ← merging.mapM fun (_, value) => mergedEntries? value
  some (added.flatten ++ own)

def keyOutcome (key : Node) : Outcome :=
  match key with
  | .scalar .default content _ => scalarOutcome .text (some content)
  | key => key.outcome

def keyFault (key : Node) : Option Fault :=
  if key.tag.isCollection then some ⟨1, .malformed⟩ else (keyOutcome key).fault.map Fault.below

def entryFault (entry : Node × Node) : Option Fault :=
  Fault.least (keyFault entry.1) (itemFault entry.2)

def entriesValue (entries : Entries) : List (String × Yaml) :=
  entries.foldl (fun values (key, value) => match (keyOutcome key).value with
    | .text name => setEntry name value.outcome.value values
    | _ => values) []

def mapOutcome (tag : Tag) (entries : Entries) (merged : Option Entries) : Outcome :=
  if tag = .map ∨ tag = .set then
    match merged with
    | none => .refused 1 .malformed
    | some merged =>
        let value := if tag = .map then .map (entriesValue merged)
          else .list (merged.map fun (key, _) => (keyOutcome key).value)
        ⟨value, Fault.first (merged.map entryFault)⟩
  else if tag.isCollection then .refused 1 .malformed
  else scalarOutcome tag (defaultContent? entries)

def ofEntries (tag : Tag) (entries : Entries) : Node :=
  let merged := merge? entries
  .map tag entries merged (mapOutcome tag entries merged)

def result (root : Node) : Except Failure Yaml :=
  match root.outcome.fault with
  | some fault => .error fault.failure
  | none => .ok root.outcome.value

end Node
end FeatureFlags.Yaml
