import FeatureFlags.Yaml.BlockText
import FeatureFlags.Yaml.Plain
import FeatureFlags.Yaml.Quoted
import FeatureFlags.Yaml.Token

/-! Only a colon shows that what stands before it is a key, so each place where a key may have begun is kept
until the colon comes, its line ends, or it gets too long; then the token of the key is put in at that place.
-/

set_option autoImplicit false

namespace FeatureFlags.Yaml

structure KeyStart where
  token : Nat
  required : Bool
  position : Position

namespace KeyStart

def lengthLimit : Nat := 1024

def isStale (start : KeyStart) (position : Position) : Bool :=
  start.position.line != position.line || start.position.index + lengthLimit < position.index

end KeyStart

structure TokenReader where
  cursor : Cursor
  -- The newest token comes first.
  tokens : List Token := []
  columns : List Nat := []
  key : Option KeyStart := none
  outer : List (Option KeyStart) := []
  keyAllowed : Bool := true

namespace TokenReader

def inFlow (reader : TokenReader) : Bool := !reader.outer.isEmpty

def column (reader : TokenReader) : Nat := reader.cursor.column

def add (reader : TokenReader) (token : Token) : TokenReader :=
  { reader with tokens := token :: reader.tokens }

def insert (reader : TokenReader) (index : Nat) (token : Token) : TokenReader :=
  { reader with tokens := reader.tokens.insertIdx (reader.tokens.length - index) token }

def skip (reader : TokenReader) (count : Nat) : TokenReader :=
  { reader with cursor := reader.cursor.skip count }

def closeBlocks (reader : TokenReader) (column : Option Nat) : TokenReader :=
  if reader.inFlow then reader
  else
    let isClosed (block : Nat) : Bool := column.all (· < block)
    { reader with
      tokens := (reader.columns.takeWhile isClosed).map (fun _ => .blockEnd) ++ reader.tokens
      columns := reader.columns.dropWhile isClosed }

def openBlock (reader : TokenReader) (column index : Nat) (start : Token) : TokenReader :=
  if reader.columns.head?.all (· < column) then
    { reader.insert index start with columns := column :: reader.columns }
  else reader

def giveUp (start : Option KeyStart) : Except Failure (Option KeyStart) :=
  match start with
  | some start => if start.required then .error .malformed else .ok none
  | none => .ok none

def dropKey (reader : TokenReader) : Except Failure TokenReader :=
  return { reader with key := ← giveUp reader.key }

def dropIfStale (position : Position) (start : Option KeyStart) : Except Failure (Option KeyStart) :=
  if start.any (·.isStale position) then giveUp start else .ok start

def dropStaleKeys (reader : TokenReader) : Except Failure TokenReader := do
  let position := reader.cursor.position
  return { reader with
    key := ← dropIfStale position reader.key
    outer := ← reader.outer.mapM (dropIfStale position) }

def markKey (reader : TokenReader) : Except Failure TokenReader :=
  if reader.keyAllowed then do
    let reader ← reader.dropKey
    return { reader with key := some {
      token := reader.tokens.length
      required := !reader.inFlow && reader.columns.head? == some reader.column
      position := reader.cursor.position } }
  else .ok reader

def readBoundary (reader : TokenReader) (read : List Char → Except Failure (Token × List Char)) :
    Except Failure TokenReader := do
  let reader ← (reader.closeBlocks none).dropKey
  let (token, after) ← read reader.cursor.rest
  return { reader.add token with cursor := reader.cursor.moveTo after, keyAllowed := false }

def directiveLine (rest : List Char) : Except Failure (Token × List Char) := do
  let (directive, after) ← Property.readDirective (rest.drop 1)
  return (.directive directive, after)

def documentMark (rest : List Char) : Except Failure (Token × List Char) :=
  .ok (if Line.startMark.isPrefixOf rest then .documentStart else .documentEnd, rest.drop 3)

def openFlow (reader : TokenReader) (start : Token) : Except Failure TokenReader := do
  let reader ← reader.markKey
  return { (reader.add start).skip 1 with
    key := none, outer := reader.key :: reader.outer, keyAllowed := true }

def closeFlow (reader : TokenReader) (stop : Token) : Except Failure TokenReader :=
  match reader.outer with
  | [] => .error .malformed
  | around :: outer => do
      let reader ← reader.dropKey
      return { (reader.add stop).skip 1 with key := around, outer, keyAllowed := false }

def readComma (reader : TokenReader) : Except Failure TokenReader := do
  let reader ← reader.dropKey
  return { (reader.add .comma).skip 1 with keyAllowed := true }

def openBlockHere (reader : TokenReader) (start : Token) : Except Failure TokenReader :=
  if reader.inFlow then .ok reader
  else if reader.keyAllowed then .ok (reader.openBlock reader.column reader.tokens.length start)
  else .error .malformed

def readItem (reader : TokenReader) : Except Failure TokenReader := do
  let reader ← (← reader.openBlockHere .blockListStart).dropKey
  return { (reader.add .item).skip 1 with keyAllowed := true }

def readKey (reader : TokenReader) : Except Failure TokenReader := do
  let reader ← (← reader.openBlockHere .blockMapStart).dropKey
  return { (reader.add .key).skip 1 with keyAllowed := !reader.inFlow }

def readValue (reader : TokenReader) : Except Failure TokenReader :=
  match reader.key with
  | some start =>
      let reader := reader.insert start.token .key
      let reader :=
        if reader.inFlow then reader
        else reader.openBlock start.position.column start.token .blockMapStart
      .ok { (reader.add .value).skip 1 with key := none, keyAllowed := false }
  | none => do
      let reader ← reader.openBlockHere .blockMapStart
      return { (reader.add .value).skip 1 with keyAllowed := !reader.inFlow }

def readWord (reader : TokenReader) (read : List Char → Except Failure (Token × List Char)) :
    Except Failure TokenReader := do
  let reader ← reader.markKey
  let (token, after) ← read reader.cursor.rest
  return { reader.add token with cursor := reader.cursor.moveTo after, keyAllowed := false }

def aliasWord (rest : List Char) : Except Failure (Token × List Char) := do
  let (name, after) ← Property.readName (rest.drop 1)
  return (.aliasOf name, after)

def anchorWord (rest : List Char) : Except Failure (Token × List Char) := do
  let (name, after) ← Property.readName (rest.drop 1)
  return (.anchor name, after)

def tagWord (rest : List Char) : Except Failure (Token × List Char) := do
  let (tag, after) ← Property.readTag rest
  return (.tag tag, after)

def quotedWord (quote : Char) (rest : List Char) : Except Failure (Token × List Char) := do
  let (content, after) ← Quoted.read quote (rest.drop 1)
  return (.scalar false content, after)

def textIndent (reader : TokenReader) : Nat :=
  match reader.columns with
  | [] => 0
  | column :: _ => column + 1

def readBlockText (reader : TokenReader) (folded : Bool) : Except Failure TokenReader := do
  let reader ← reader.dropKey
  let (chars, cursor) ← BlockText.read folded (max 1 reader.textIndent) (reader.cursor.skip 1)
  return { reader.add (.scalar false (some (String.ofList chars))) with cursor, keyAllowed := true }

def readPlain (reader : TokenReader) : Except Failure TokenReader := do
  let reader ← reader.markKey
  let plain := Plain.read reader.inFlow reader.textIndent reader.cursor
  return { reader.add (.scalar true (some (String.ofList plain.text))) with
    cursor := plain.cursor, keyAllowed := plain.endsLine }

def readAt (reader : TokenReader) (c : Char) (rest : List Char) : Except Failure TokenReader :=
  let flow := reader.inFlow
  if c = '%' ∧ reader.column = 0 then reader.readBoundary directiveLine
  else if reader.cursor.atMark then reader.readBoundary documentMark
  else if c = '[' then reader.openFlow .flowListStart
  else if c = '\x7b' then reader.openFlow .flowMapStart
  else if c = ']' then reader.closeFlow .flowListEnd
  else if c = '\x7d' then reader.closeFlow .flowMapEnd
  else if c = ',' then reader.readComma
  else if c = '-' ∧ atGap rest then reader.readItem
  else if c = '?' ∧ (flow ∨ atGap rest) then reader.readKey
  else if c = ':' ∧ (flow ∨ atGap rest) then reader.readValue
  else if c = '*' then reader.readWord aliasWord
  else if c = '&' then reader.readWord anchorWord
  else if c = '!' then reader.readWord tagWord
  else if (c = '|' ∨ c = '>') ∧ !flow then reader.readBlockText (c == '>')
  else if Quoted.isQuote c then reader.readWord (quotedWord c)
  else if Plain.starts flow c rest then reader.readPlain
  else .error .malformed

def toNextToken (reader : TokenReader) : Except Failure TokenReader := do
  let gap := Cursor.tokenGap false reader.cursor.rest
  let reader ← ({ reader.skip gap.length with
    keyAllowed := reader.keyAllowed || !reader.inFlow && gap.any isBreak }).dropStaleKeys
  return reader.closeBlocks (some reader.column)

def step (reader : TokenReader) : Except Failure TokenReader := do
  let reader ← reader.toNextToken
  match reader.cursor.rest with
  | [] => (reader.closeBlocks none).dropKey
  | c :: rest => reader.readAt c rest

-- The tokens up to a failure. A token that may be the start of a key cannot be told from one that is
-- none before the failure, so it is not among them.
def breakOff (reader : TokenReader) (failure : Failure) : List Token :=
  let starts := (reader.key :: reader.outer).filterMap fun start => start.map (·.token)
  let count := starts.foldl min reader.tokens.length
  reader.tokens.reverse.take count ++ [.broken failure]

def readAll : Nat → TokenReader → List Token
  | 0, reader => reader.tokens.reverse
  | fuel + 1, reader => match reader.dropStaleKeys with
    | .error failure => reader.breakOff failure
    | .ok reader => match reader.step with
      | .error failure => reader.breakOff failure
      | .ok next =>
          if reader.cursor.rest.isEmpty then next.tokens.reverse else readAll fuel next

end TokenReader

namespace Token

def readAll (text : List Char) : List Token :=
  let start : Cursor := ⟨.start, text⟩
  let reader : TokenReader := { cursor := if text.head? = some '\ufeff' then start.skip 1 else start }
  reader.readAll (text.length + 2)

end Token
end FeatureFlags.Yaml
