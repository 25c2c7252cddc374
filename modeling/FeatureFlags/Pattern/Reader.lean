import FeatureFlags.Numeral
import FeatureFlags.Pattern
import FeatureFlags.Text.Digits

/-! Flags may stand at the very start of a pattern or scope over a group; a backslash before a letter must
have a meaning. Repetition counts are bounded, and a look-behind must match texts of one length only. -/

set_option autoImplicit false

namespace FeatureFlags.Pattern

inductive ReadError where
  | malformed
  | countTooLarge
  | bothAlphabets
deriving DecidableEq, Repr

structure Flags where
  ignoreCase : Bool
  multiLine : Bool
  dotAll : Bool
  verbose : Bool
  ascii : Bool
  unicode : Bool
deriving DecidableEq, Repr

namespace Flags

def none : Flags := ⟨false, false, false, false, false, false⟩

def alphabet (flags : Flags) : Alphabet := if flags.ascii then .ascii else .unicode

def caseRule (flags : Flags) : CaseRule :=
  if flags.ignoreCase then .ignore flags.alphabet else .exact

def on? (flags : Flags) : Char → Option Flags
  | 'i' => some { flags with ignoreCase := true }
  | 'm' => some { flags with multiLine := true }
  | 's' => some { flags with dotAll := true }
  | 'x' => some { flags with verbose := true }
  | 'a' => if flags.unicode then .none else some { flags with ascii := true }
  | 'u' => if flags.ascii then .none else some { flags with unicode := true }
  | _ => .none

def off? (flags : Flags) : Char → Option Flags
  | 'i' => some { flags with ignoreCase := true }
  | 'm' => some { flags with multiLine := true }
  | 's' => some { flags with dotAll := true }
  | 'x' => some { flags with verbose := true }
  | _ => .none

def overlap (a b : Flags) : Bool :=
  a.ignoreCase && b.ignoreCase || a.multiLine && b.multiLine || a.dotAll && b.dotAll ||
    a.verbose && b.verbose

def union (a b : Flags) : Flags :=
  { ignoreCase := a.ignoreCase || b.ignoreCase, multiLine := a.multiLine || b.multiLine,
    dotAll := a.dotAll || b.dotAll, verbose := a.verbose || b.verbose,
    ascii := a.ascii || b.ascii, unicode := a.unicode || b.unicode }

def within (flags added removed : Flags) : Flags :=
  { ignoreCase := (flags.ignoreCase || added.ignoreCase) && !removed.ignoreCase,
    multiLine := (flags.multiLine || added.multiLine) && !removed.multiLine,
    dotAll := (flags.dotAll || added.dotAll) && !removed.dotAll,
    verbose := (flags.verbose || added.verbose) && !removed.verbose,
    ascii := if added.ascii || added.unicode then added.ascii else flags.ascii,
    unicode := if added.ascii || added.unicode then added.unicode else flags.unicode }

end Flags

structure Width where
  least : Nat
  most : Option Nat
deriving DecidableEq

namespace Width

def zero : Width := ⟨0, some 0⟩

def one : Width := ⟨1, some 1⟩

def add (a b : Width) : Width :=
  ⟨a.least + b.least, a.most.bind fun x => b.most.map (x + ·)⟩

def join (a b : Width) : Width :=
  ⟨min a.least b.least, a.most.bind fun x => b.most.map (max x)⟩

def times (least : Nat) (most : Option Nat) (width : Width) : Width :=
  ⟨width.least * least, if width.most = some 0 then some 0 else
    width.most.bind fun x => most.map (x * ·)⟩

end Width

def width (groups : List (Nat × Width)) : Pattern → Width
  | .empty | .anchor _ | .lookAhead .. | .lookBehind .. => .zero
  | .literal .. | .any _ | .oneOf .. => .one
  | .seq first second => (width groups first).add (width groups second)
  | .alt first second => (width groups first).join (width groups second)
  | .group body | .capture _ body | .atomic body => width groups body
  | .repeated _ least most body => (width groups body).times least most
  | .backReference index _ => (groups.lookup index).getD .zero
  | .ifCaptured _ yes no => (width groups yes).join (width groups no)

namespace Reader

-- What has been read so far: the groups opened, named and closed, the group count when the outermost
-- look-behind under way began, the groups that conditionals ask about, and whether some look-behind
-- matches texts of several lengths.
structure Progress where
  rest : List Char
  opened : Nat
  names : List (String × Nat)
  closed : List (Nat × Width)
  behind : Option Nat
  asked : List Nat
  variableBehind : Bool

abbrev Read (α : Type) := Except ReadError α

inductive Token where
  | plain (c : Char)
  | escaped (c : Char)
deriving DecidableEq

def token? : List Char → Read (Option (Token × List Char))
  | [] => return none
  | '\\' :: c :: rest => return some (.escaped c, rest)
  | '\\' :: [] => throw .malformed
  | c :: rest => return some (.plain c, rest)

def readUntil (stop : Char) (read : List Char) : List Char → Read (List Char × List Char)
  | [] => throw .malformed
  | '\\' :: c :: rest => readUntil stop (c :: '\\' :: read) rest
  | c :: rest => if c = stop then return (read.reverse, rest) else readUntil stop (c :: read) rest

def skipLine : List Char → List Char
  | [] => []
  | '\\' :: _ :: rest => skipLine rest
  | c :: rest => if c = '\n' then rest else skipLine rest

def readHex (count : Nat) (rest : List Char) : Read (Nat × List Char) :=
  let digits := (rest.take count).takeWhile (Text.isDigitIn 16)
  if digits.length = count then return (Text.valueIn 16 digits, rest.drop count) else throw .malformed

def controlEscape? : Char → Option Nat
  | 'a' => some 0x07
  | 'f' => some 0x0c
  | 'n' => some 0x0a
  | 'r' => some 0x0d
  | 't' => some 0x09
  | 'v' => some 0x0b
  | '\\' => some 0x5c
  | _ => none

def classEscape? (alphabet : Alphabet) : Char → Option SetItem
  | 'd' => some (.ofClass .digit alphabet false)
  | 'D' => some (.ofClass .digit alphabet true)
  | 's' => some (.ofClass .space alphabet false)
  | 'S' => some (.ofClass .space alphabet true)
  | 'w' => some (.ofClass .word alphabet false)
  | 'W' => some (.ofClass .word alphabet true)
  | _ => none

def anchorEscape? (alphabet : Alphabet) : Char → Option Anchor
  | 'A' => some .textStart
  | 'Z' => some .textEnd
  | 'b' => some (.wordBoundary alphabet)
  | 'B' => some (.insideWord alphabet)
  | _ => none

def codeEscape (c : Char) (rest : List Char) : Read (Nat × List Char) :=
  if c = 'x' then readHex 2 rest
  else if c = 'u' then readHex 4 rest
  else if c = 'U' then do
    let (code, after) ← readHex 8 rest
    if code < 0x110000 then return (code, after) else throw .malformed
  else if c.isAlpha then throw .malformed
  else return (c.toNat, rest)

def setEscape (alphabet : Alphabet) (c : Char) (rest : List Char) : Read (SetItem × List Char) :=
  if c = 'b' then return (.single 0x08, rest)
  else match controlEscape? c, classEscape? alphabet c with
  | some code, _ => return (.single code, rest)
  | none, some item => return (item, rest)
  | none, none =>
      if Text.isDigitIn 8 c then
        let more := (rest.take 2).takeWhile (Text.isDigitIn 8)
        let code := Text.valueIn 8 (c :: more)
        if code ≤ 0xff then return (.single code, rest.drop more.length) else throw .malformed
      else if c.isDigit then throw .malformed
      else do
        let (code, after) ← codeEscape c rest
        return (.single code, after)

def readSetItem (alphabet : Alphabet) (rest : List Char) : Read (SetItem × Bool × List Char) := do
  match ← token? rest with
  | none => throw .malformed
  | some (.plain c, after) => return (.single c.toNat, c == ']', after)
  | some (.escaped c, after) =>
      let (item, after) ← setEscape alphabet c after
      return (item, false, after)

-- The items of a set up to its closing bracket, which counts as a character in first place.
def readSet (alphabet : Alphabet) : Nat → List SetItem → List Char → Read (List SetItem × List Char)
  | 0, _, _ => throw .malformed
  | fuel + 1, items, rest => do
      let (first, closes, after) ← readSetItem alphabet rest
      if closes && !items.isEmpty then return (items.reverse, after)
      else match after with
        | '-' :: afterDash =>
            let (last, ends, afterLast) ← readSetItem alphabet afterDash
            if ends then return ((.single '-'.toNat :: first :: items).reverse, afterLast)
            else match first, last with
              | .single low, .single high =>
                  if high < low then throw .malformed
                  else readSet alphabet fuel (.range low high :: items) afterLast
              | _, _ => throw .malformed
        | _ => readSet alphabet fuel (first :: items) after

def countLimit : Nat := 4294967295

-- The bounds of a repetition after its opening brace; none when the brace is just a character.
def readBounds (rest : List Char) : Read (Option (Nat × Option Nat × List Char)) :=
  let low := rest.takeWhile Char.isDigit
  let afterLow := rest.dropWhile Char.isDigit
  let (high, afterHigh) := match afterLow with
    | ',' :: more => (more.takeWhile Char.isDigit, more.dropWhile Char.isDigit)
    | _ => (low, afterLow)
  match rest, afterHigh with
  | c :: _, close :: after =>
      if c = '\x7d' ∨ close ≠ '\x7d' then return none
      else
        let least := Numeral.natOfDigits low
        let most := if high.isEmpty then none else some (Numeral.natOfDigits high)
        if countLimit ≤ least || most.any (countLimit ≤ ·) then throw .countTooLarge
        else if most.any (· < least) then throw .malformed
        else return some (least, most, after)
  | _, _ => return none

def isIdentifier (name : List Char) : Bool :=
  match name with
  | [] => false
  | c :: _ => !Text.isDigit c && name.all Text.isWord

def readFlagLetters (turn : Flags → Char → Option Flags) :
    Flags → List Char → Read (Flags × Char × List Char)
  | _, [] => throw .malformed
  | flags, c :: rest => match turn flags c with
    | some flags => readFlagLetters turn flags rest
    | none => if c = ')' ∨ c = ':' ∨ c = '-' then return (flags, c, rest) else throw .malformed

inductive FlagGroup where
  | wholePattern (added : Flags)
  | oneGroup (added removed : Flags)

def readFlags (rest : List Char) : Read (FlagGroup × List Char) := do
  let (added, stop, after) ← readFlagLetters Flags.on? .none rest
  if stop = ')' then
    if rest.head? = some ')' then throw .malformed else return (.wholePattern added, after)
  else if stop = ':' then return (.oneGroup added .none, after)
  else
    let (removed, stop, afterRemoved) ← readFlagLetters Flags.off? .none after
    if stop ≠ ':' ∨ after.head? = some ':' ∨ added.overlap removed then throw .malformed
    else return (.oneGroup added removed, afterRemoved)

def isVerboseSpace (c : Char) : Bool := CharClass.isAsciiSpace c

def readLeadingFlags : Nat → Flags → List Char → Read (Flags × List Char)
  | 0, flags, rest => return (flags, rest)
  | fuel + 1, flags, rest => match rest with
    | '(' :: '?' :: '#' :: comment => do
        let (_, after) ← readUntil ')' [] comment
        readLeadingFlags fuel flags after
    | '(' :: '?' :: c :: _ =>
        if (Flags.none.on? c).isSome then do
          match ← readFlags (rest.drop 2) with
          | (.wholePattern added, after) => readLeadingFlags fuel (flags.union added) after
          | (.oneGroup .., _) => return (flags, rest)
        else return (flags, rest)
    | c :: after =>
        if flags.verbose && isVerboseSpace c then readLeadingFlags fuel flags after
        else if flags.verbose && c == '#' then readLeadingFlags fuel flags (skipLine after)
        else return (flags, rest)
    | [] => return (flags, rest)

-- A group may be referred to once it is closed, and inside a look-behind only if it was there before.
def checkReference (progress : Progress) (index : Nat) : Read Unit :=
  match progress.behind with
  | none => return ()
  | some opened =>
      if (progress.closed.lookup index).isSome && index ≤ opened then return ()
      else throw .malformed

def backReference (flags : Flags) (progress : Progress) (index : Nat) : Read Pattern := do
  if (progress.closed.lookup index).isNone then throw .malformed
  checkReference progress index
  return .backReference index flags.caseRule

def readDigitEscape (flags : Flags) (progress : Progress) (c : Char) (rest : List Char) :
    Read (Pattern × List Char) :=
  if c = '0' then
    let more := (rest.take 2).takeWhile (Text.isDigitIn 8)
    return (.literal (Text.valueIn 8 more) flags.caseRule, rest.drop more.length)
  else match rest with
    | d :: e :: after =>
        if [c, d, e].all (Text.isDigitIn 8) then
          let code := Text.valueIn 8 [c, d, e]
          if code ≤ 0xff then return (.literal code flags.caseRule, after) else throw .malformed
        else if d.isDigit then do
          return (← backReference flags progress (Text.valueIn 10 [c, d]), e :: after)
        else do return (← backReference flags progress (Text.valueIn 10 [c]), rest)
    | [d] =>
        if d.isDigit then do return (← backReference flags progress (Text.valueIn 10 [c, d]), [])
        else do return (← backReference flags progress (Text.valueIn 10 [c]), rest)
    | [] => do return (← backReference flags progress (Text.valueIn 10 [c]), [])

def readEscape (flags : Flags) (progress : Progress) (c : Char) (rest : List Char) :
    Read (Pattern × List Char) :=
  match anchorEscape? flags.alphabet c, classEscape? flags.alphabet c, controlEscape? c with
  | some place, _, _ => return (.anchor place, rest)
  | none, some item, _ => return (.oneOf false [item] .exact, rest)
  | none, none, some code => return (.literal code flags.caseRule, rest)
  | none, none, none =>
      if c.isDigit then readDigitEscape flags progress c rest
      else do
        let (code, after) ← codeEscape c rest
        return (.literal code flags.caseRule, after)

def sequence : List Pattern → Pattern
  | [] => .empty
  | [item] => item
  | last :: earlier => .seq (sequence earlier) last

def repeatLast (least : Nat) (most : Option Nat) (rest : List Char) (items : List Pattern) :
    Read (List Pattern × List Char) :=
  let (greed, after) : Greed × List Char := match rest with
    | '?' :: after => (.lazy, after)
    | '+' :: after => (.possessive, after)
    | _ => (.greedy, rest)
  match items with
  | [] | .anchor _ :: _ | .repeated .. :: _ => throw .malformed
  | item :: earlier => return (.repeated greed least most item :: earlier, after)

def openGroup (name : Option String) (progress : Progress) : Read (Nat × Progress) :=
  let index := progress.opened + 1
  match name with
  | none => return (index, { progress with opened := index })
  | some name =>
      if (progress.names.lookup name).isSome then throw .malformed
      else return (index, { progress with opened := index, names := (name, index) :: progress.names })

def conditionGroup (progress : Progress) (name : List Char) : Read Nat :=
  if isIdentifier name then
    match progress.names.lookup (String.ofList name) with
    | some index => return index
    | none => throw .malformed
  else match Numeral.toInt? (String.ofList name) with
    | .ok index => if 0 < index then return index.toNat else throw .malformed
    | .error _ => throw .malformed

def expectClose (progress : Progress) : Read Progress :=
  match progress.rest with
  | ')' :: rest => return { progress with rest := rest }
  | _ => throw .malformed

mutual
def readAlternatives : Nat → Flags → Progress → Read (Pattern × Progress)
  | 0, _, _ => throw .malformed
  | fuel + 1, flags, progress => do
      let (first, progress) ← readSequence fuel flags [] progress
      match progress.rest with
      | '|' :: rest =>
          let (others, progress) ← readAlternatives fuel flags { progress with rest := rest }
          return (.alt first others, progress)
      | _ => return (first, progress)
def readSequence : Nat → Flags → List Pattern → Progress → Read (Pattern × Progress)
  | 0, _, _, _ => throw .malformed
  | fuel + 1, flags, items, progress => do
      let go := fun (items : List Pattern) (rest : List Char) =>
        readSequence fuel flags items { progress with rest := rest }
      match ← token? progress.rest with
      | none => return (sequence items, progress)
      | some (.escaped c, rest) =>
          let (item, rest) ← readEscape flags progress c rest
          go (item :: items) rest
      | some (.plain c, rest) =>
          if c = '|' ∨ c = ')' then return (sequence items, progress)
          else if flags.verbose && isVerboseSpace c then go items rest
          else if flags.verbose && c == '#' then go items (skipLine rest)
          else if c = '[' then
            let (negated, rest) := match rest with
              | '^' :: rest => (true, rest)
              | _ => (false, rest)
            let (members, rest) ← readSet flags.alphabet (rest.length + 1) [] rest
            go (.oneOf negated members flags.caseRule :: items) rest
          else if c = '*' then
            let (items, rest) ← repeatLast 0 none rest items
            go items rest
          else if c = '+' then
            let (items, rest) ← repeatLast 1 none rest items
            go items rest
          else if c = '?' then
            let (items, rest) ← repeatLast 0 (some 1) rest items
            go items rest
          else if c = '\x7b' then
            match ← readBounds rest with
            | none => go (.literal c.toNat flags.caseRule :: items) rest
            | some (least, most, rest) =>
                let (items, rest) ← repeatLast least most rest items
                go items rest
          else if c = '.' then go (.any flags.dotAll :: items) rest
          else if c = '^' then
            go (.anchor (if flags.multiLine then .lineStart else .textStart) :: items) rest
          else if c = '$' then
            go (.anchor (if flags.multiLine then .lineEnd else .lastLineEnd) :: items) rest
          else if c = '(' then
            let (item, progress) ← readGroup fuel flags { progress with rest := rest }
            readSequence fuel flags (item.elim items (· :: items)) progress
          else go (.literal c.toNat flags.caseRule :: items) rest
def readGroup : Nat → Flags → Progress → Read (Option Pattern × Progress)
  | 0, _, _ => throw .malformed
  | fuel + 1, flags, progress => match progress.rest with
    | '?' :: ':' :: rest => do
        let (body, progress) ← readBody fuel flags { progress with rest := rest }
        return (some (.group body), progress)
    | '?' :: '>' :: rest => do
        let (body, progress) ← readBody fuel flags { progress with rest := rest }
        return (some (.atomic body), progress)
    | '?' :: '#' :: rest => do
        let (_, rest) ← readUntil ')' [] rest
        return (none, { progress with rest := rest })
    | '?' :: '=' :: rest => do
        let (body, progress) ← readBody fuel flags { progress with rest := rest }
        return (some (.lookAhead false body), progress)
    | '?' :: '!' :: rest => do
        let (body, progress) ← readBody fuel flags { progress with rest := rest }
        return (some (.lookAhead true body), progress)
    | '?' :: '<' :: '=' :: rest => readLookBehind fuel flags false { progress with rest := rest }
    | '?' :: '<' :: '!' :: rest => readLookBehind fuel flags true { progress with rest := rest }
    | '?' :: 'P' :: '<' :: rest => do
        let (name, rest) ← readUntil '>' [] rest
        if !isIdentifier name then throw .malformed
        readCapture fuel flags (some (String.ofList name)) { progress with rest := rest }
    | '?' :: 'P' :: '=' :: rest => do
        let (name, rest) ← readUntil ')' [] rest
        match progress.names.lookup (String.ofList name) with
        | none => throw .malformed
        | some index =>
            let item ← backReference flags progress index
            return (some item, { progress with rest := rest })
    | '?' :: '(' :: rest => do
        let (name, rest) ← readUntil ')' [] rest
        let index ← conditionGroup progress name
        checkReference progress index
        let (yes, progress) ← readSequence fuel flags []
          { progress with rest := rest, asked := index :: progress.asked }
        let (no, progress) ← match progress.rest with
          | '|' :: rest => readSequence fuel flags [] { progress with rest := rest }
          | _ => pure (Pattern.empty, progress)
        return (some (.ifCaptured index yes no), ← expectClose progress)
    | '?' :: rest => do
        match ← readFlags rest with
        | (.wholePattern _, _) => throw .malformed
        | (.oneGroup added removed, rest) =>
            let (body, progress) ←
              readBody fuel (flags.within added removed) { progress with rest := rest }
            return (some (.group body), progress)
    | _ => readCapture fuel flags none progress
def readBody : Nat → Flags → Progress → Read (Pattern × Progress)
  | 0, _, _ => throw .malformed
  | fuel + 1, flags, progress => do
      let (body, progress) ← readAlternatives fuel flags progress
      return (body, ← expectClose progress)
def readCapture : Nat → Flags → Option String → Progress → Read (Option Pattern × Progress)
  | 0, _, _, _ => throw .malformed
  | fuel + 1, flags, name, progress => do
      let (index, progress) ← openGroup name progress
      let (body, progress) ← readBody fuel flags progress
      return (some (.capture index body),
        { progress with closed := (index, width progress.closed body) :: progress.closed })
def readLookBehind : Nat → Flags → Bool → Progress → Read (Option Pattern × Progress)
  | 0, _, _, _ => throw .malformed
  | fuel + 1, flags, negated, progress => do
      let outer := progress.behind
      let (body, progress) ←
        readBody fuel flags { progress with behind := some (outer.getD progress.opened) }
      let size := width progress.closed body
      return (some (.lookBehind negated size.least body),
        { progress with
          behind := outer,
          variableBehind := progress.variableBehind || size.most != some size.least })
end

end Reader

def read (text : String) : Except ReadError Pattern := do
  let chars := text.toList
  let (flags, rest) ← Reader.readLeadingFlags (chars.length + 1) .none chars
  let (pattern, progress) ←
    Reader.readAlternatives (4 * chars.length + 4) flags ⟨rest, 0, [], [], none, [], false⟩
  if !progress.rest.isEmpty || progress.asked.any (progress.opened < ·) then throw .malformed
  else if flags.ascii && flags.unicode then throw .bothAlphabets
  else if progress.variableBehind then throw .malformed
  else return pattern

end FeatureFlags.Pattern
