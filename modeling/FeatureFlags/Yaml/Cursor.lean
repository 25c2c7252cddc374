import FeatureFlags.Yaml.Line

/-! What is left of a document, and where that is. A byte order mark takes no column. -/

set_option autoImplicit false

namespace FeatureFlags.Yaml

structure Position where
  index : Nat
  line : Nat
  column : Nat

namespace Position

def start : Position := ⟨0, 0, 0⟩

def next (position : Position) (c : Char) : Position :=
  if isBreak c then ⟨position.index + 1, position.line + 1, 0⟩
  else if c = '\ufeff' then ⟨position.index + 1, position.line, position.column⟩
  else ⟨position.index + 1, position.line, position.column + 1⟩

end Position

structure Cursor where
  position : Position
  rest : List Char

namespace Cursor

def column (cursor : Cursor) : Nat := cursor.position.column

def skipFrom (position : Position) : Nat → List Char → Cursor
  | 0, rest => ⟨position, rest⟩
  | _, [] => ⟨position, []⟩
  | count + 1, c :: rest => skipFrom (position.next c) count rest

def skip (cursor : Cursor) (count : Nat) : Cursor := skipFrom cursor.position count cursor.rest

def moveTo (cursor : Cursor) (rest : List Char) : Cursor :=
  cursor.skip (cursor.rest.length - rest.length)

def tokenGap (comment : Bool) : List Char → List Char
  | [] => []
  | c :: rest =>
      if isBreak c then c :: tokenGap false rest
      else if comment || c == ' ' then c :: tokenGap comment rest
      else if c = '#' then c :: tokenGap true rest
      else []

def atMark (cursor : Cursor) : Bool := cursor.column == 0 && Line.isMark cursor.rest

end Cursor
end FeatureFlags.Yaml
