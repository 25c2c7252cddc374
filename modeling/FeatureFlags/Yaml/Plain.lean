import FeatureFlags.Yaml.Cursor

/-! Text without quotes, which may go on over several lines. A colon before a gap ends it and a number sign
after one, and in a flow collection so do the marks of the collection. -/

set_option autoImplicit false

namespace FeatureFlags.Yaml

structure Plain where
  text : List Char
  cursor : Cursor
  endsLine : Bool

namespace Plain

def isFlowMark (c : Char) : Bool :=
  c == ',' || c == '[' || c == ']' || c == '\x7b' || c == '\x7d'

def cannotStart : List Char :=
  ['-', '?', ':', ',', '[', ']', '\x7b', '\x7d', '#', '&', '*', '!', '|', '>', '\x27', '\x22', '%', '@',
    '\x60']

def starts (flow : Bool) (c : Char) (rest : List Char) : Bool :=
  !cannotStart.contains c && !isGap c ||
    !atGap rest && (c == '-' || !flow && (c == '?' || c == ':'))

def endsKey (flow : Bool) : List Char → Bool
  | [] => true
  | c :: _ => isGap c || flow && isFlowMark c

def piece (flow : Bool) : List Char → List Char
  | [] => []
  | c :: rest =>
      if isGap c || c == ':' && endsKey flow rest || flow && (isFlowMark c || c == '?') then []
      else c :: piece flow rest

def breaksFrom (breaks : List Char) (position : Position) : List Char → List Char × Cursor
  | [] => (breaks, ⟨position, []⟩)
  | c :: rest =>
      if isBreak c then
        if Line.isMark rest then ([], ⟨position.next c, rest⟩)
        else breaksFrom (breaks ++ [Line.breakText c]) (position.next c) rest
      else if c = ' ' then breaksFrom breaks (position.next c) rest
      else (breaks, ⟨position, c :: rest⟩)

def readPieces (flow : Bool) (indent : Nat) : Nat → List Char → Cursor → Plain
  | 0, read, cursor => ⟨read, cursor, false⟩
  | fuel + 1, read, cursor =>
      let next := piece flow cursor.rest
      let read := read ++ next
      let after := cursor.skip next.length
      let blanks := spaces after.rest
      let reached := after.skip blanks.length
      let endsLine := !reached.rest.isEmpty && atBreak reached.rest
      let (gap, start) :=
        if endsLine then
          let (breaks, start) := breaksFrom [] reached.position reached.rest
          (Line.fold breaks, start)
        else (blanks, reached)
      if gap.isEmpty || (piece flow start.rest).isEmpty || start.rest.head? == some '#' ||
          !flow && start.column < indent then
        ⟨read, start, endsLine⟩
      else readPieces flow indent fuel (read ++ gap) start

def read (flow : Bool) (indent : Nat) (cursor : Cursor) : Plain :=
  readPieces flow indent (cursor.rest.length + 1) [] cursor

end Plain
end FeatureFlags.Yaml
