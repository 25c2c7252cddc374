/-! A line break between two pieces of a text folds: one line feed is a space, and of several the first is
dropped. -/

set_option autoImplicit false

namespace FeatureFlags.Yaml

def isBreak (c : Char) : Bool := c == '\n' || c == '\x85' || c == '\u2028' || c == '\u2029'

def isBlank (c : Char) : Bool := c == ' ' || c == '\t'

def isGap (c : Char) : Bool := isBlank c || isBreak c

def atGap : List Char → Bool
  | [] => true
  | c :: _ => isGap c

def atBreak : List Char → Bool
  | [] => true
  | c :: _ => isBreak c

def spaces (chars : List Char) : List Char := chars.takeWhile (· == ' ')

namespace Line

def breakText (c : Char) : Char := if c = '\x85' then '\n' else c

def breaks (gap : List Char) : List Char := (gap.filter isBreak).map breakText

def fold : List Char → List Char
  | [] => []
  | first :: more =>
      if first = '\n' then if more.isEmpty then [' '] else more
      else first :: more

def startMark : List Char := ['-', '-', '-']

def endMark : List Char := ['.', '.', '.']

def isMark (line : List Char) : Bool :=
  (startMark.isPrefixOf line || endMark.isPrefixOf line) && atGap (line.drop 3)

def holdsMark : List Char → Bool
  | [] => false
  | c :: rest => isBreak c && isMark rest || holdsMark rest

def dropComment? (rest : List Char) : Option (List Char) :=
  let rest := rest.dropWhile (· == ' ')
  let rest := if rest.head? = some '#' then rest.dropWhile (!isBreak ·) else rest
  if atBreak rest then some rest else none

-- Writes every line end as a line feed. A line feed after a carriage return ends no further line.
def normalize (afterReturn : Bool) : List Char → List Char
  | [] => []
  | c :: rest =>
      if c = '\r' then '\n' :: normalize true rest
      else if afterReturn && c == '\n' then normalize false rest
      else c :: normalize false rest

end Line
end FeatureFlags.Yaml
