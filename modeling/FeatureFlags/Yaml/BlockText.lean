import FeatureFlags.Yaml.Cursor
import FeatureFlags.Yaml.Failure

/-! Lines of text under a mark, all indented by the same width. In a folded text a break between two lines
that begin with text is a space. -/

set_option autoImplicit false

namespace FeatureFlags.Yaml.BlockText

inductive Chomping where
  | none
  | one
  | all
deriving DecidableEq, Repr

structure Header where
  chomping : Chomping := .one
  indent : Option Nat := .none

def chomping? : Char → Option Chomping
  | '+' => some .all
  | '-' => some .none
  | _ => Option.none

def digit? (c : Char) : Option Nat := if c.isDigit then some (c.toNat - '0'.toNat) else Option.none

def headerMarks (rest : List Char) : Header × List Char :=
  match rest with
  | [] => ({}, [])
  | c :: after => match chomping? c, digit? c with
    | some chomping, _ => match after with
      | d :: more => match digit? d with
        | some width => ({ chomping, indent := some width }, more)
        | Option.none => ({ chomping }, after)
      | [] => ({ chomping }, [])
    | Option.none, some width => match after with
      | d :: more => match chomping? d with
        | some chomping => ({ chomping, indent := some width }, more)
        | Option.none => ({ indent := some width }, after)
      | [] => ({ indent := some width }, [])
    | Option.none, Option.none => ({}, rest)

def readHeader (rest : List Char) : Except Failure (Header × List Char) :=
  let (header, after) := headerMarks rest
  if header.indent = some 0 ∨ !(atBreak after || after.head? == some ' ') then .error .malformed
  else match Line.dropComment? after with
    | some lineEnd => .ok (header, lineEnd)
    | Option.none => .error .malformed

def skipIndent (indent : Nat) (cursor : Cursor) : Cursor :=
  cursor.skip (spaces (cursor.rest.take (indent - cursor.column))).length

def skipEmptyLines (indent : Nat) : Nat → List Char → Cursor → List Char × Cursor
  | 0, breaks, cursor => (breaks, cursor)
  | fuel + 1, breaks, cursor =>
      let line := skipIndent indent cursor
      match line.rest with
      | [] => (breaks, line)
      | c :: _ =>
          if isBreak c then skipEmptyLines indent fuel (breaks ++ [Line.breakText c]) (line.skip 1)
          else (breaks, line)

def widest (gap : List Char) : Nat :=
  (gap.foldl (fun (column, widest) c =>
    if c = ' ' then (column + 1, max widest (column + 1)) else (0, widest)) (0, 0)).2

structure Lines where
  text : List Char
  lastBreak : List Char
  breaks : List Char
  cursor : Cursor

def startsBlank (line : List Char) : Bool := line.head?.any isBlank

def joint (folded : Bool) (lastBreak breaks line next : List Char) : List Char :=
  if folded && lastBreak == ['\n'] && !startsBlank line && !startsBlank next then
    if breaks.isEmpty then [' '] else []
  else lastBreak

def readLines (folded : Bool) (indent : Nat) : Nat → Lines → Lines
  | 0, lines => lines
  | fuel + 1, lines =>
      let start := lines.cursor
      if start.column ≠ indent ∨ start.rest.isEmpty then lines
      else
        let line := start.rest.takeWhile (!isBreak ·)
        let lineEnd := start.skip line.length
        let lastBreak := (lineEnd.rest.take 1).map Line.breakText
        let (breaks, cursor) := skipEmptyLines indent (lineEnd.rest.length + 1) [] (lineEnd.skip 1)
        let text := lines.text ++ lines.breaks ++ line
        if cursor.column = indent ∧ !cursor.rest.isEmpty then
          readLines folded indent fuel
            ⟨text ++ joint folded lastBreak breaks line cursor.rest, lastBreak, breaks, cursor⟩
        else ⟨text, lastBreak, breaks, cursor⟩

-- The cursor at the first line that is not empty, the line breaks before it, and the indentation. It is
-- at least `least`, and without a width in the header it is the widest that the spaces before the first
-- text show.
def openLines (least : Nat) (header : Header) (cursor : Cursor) : Nat × List Char × Cursor :=
  match header.indent with
  | some width =>
      let indent := least + width - 1
      (indent, skipEmptyLines indent (cursor.rest.length + 1) [] cursor)
  | Option.none =>
      let gap := cursor.rest.takeWhile fun c => c == ' ' || isBreak c
      (max least (widest gap), Line.breaks gap, cursor.skip gap.length)

def read (folded : Bool) (least : Nat) (cursor : Cursor) : Except Failure (List Char × Cursor) := do
  let (header, lineEnd) ← readHeader cursor.rest
  let (indent, breaks, start) := openLines least header ((cursor.moveTo lineEnd).skip 1)
  let lines := readLines folded indent (start.rest.length + 1) ⟨[], [], breaks, start⟩
  let tail := match header.chomping with
    | .none => []
    | .one => lines.lastBreak
    | .all => lines.lastBreak ++ lines.breaks
  return (lines.text ++ tail, lines.cursor)

end FeatureFlags.Yaml.BlockText
