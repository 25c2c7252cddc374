import FeatureFlags.Text.Blank
import FeatureFlags.Text.DecimalDigit
import FeatureFlags.Text.Word
import FeatureFlags.Text.CaseFold

/-! The flags in force at a leaf of a pattern are part of the leaf. -/

set_option autoImplicit false

namespace FeatureFlags

inductive Alphabet where
  | ascii
  | unicode
deriving DecidableEq, Repr

inductive CaseRule where
  | exact
  | ignore (alphabet : Alphabet)
deriving DecidableEq, Repr

inductive CharClass where
  | digit
  | space
  | word
deriving DecidableEq, Repr

inductive SetItem where
  | single (code : Nat)
  | range (low high : Nat)
  | ofClass (charClass : CharClass) (alphabet : Alphabet) (negated : Bool)
deriving DecidableEq, Repr

inductive Anchor where
  | textStart
  | lineStart
  | textEnd
  -- The end of the text or the place before a line feed that ends it.
  | lastLineEnd
  | lineEnd
  | wordBoundary (alphabet : Alphabet)
  | insideWord (alphabet : Alphabet)
deriving DecidableEq, Repr

inductive Greed where
  | greedy
  | lazy
  | possessive
deriving DecidableEq, Repr

-- A pattern. Groups that capture are numbered from 1; `width` of a look-behind is the length of all
-- texts its body matches.
inductive Pattern where
  | empty
  | literal (code : Nat) (rule : CaseRule)
  | any (lineFeed : Bool)
  | oneOf (negated : Bool) (items : List SetItem) (rule : CaseRule)
  | anchor (place : Anchor)
  | seq (first second : Pattern)
  | alt (first second : Pattern)
  | group (body : Pattern)
  | capture (index : Nat) (body : Pattern)
  | atomic (body : Pattern)
  | repeated (greed : Greed) (least : Nat) (most : Option Nat) (body : Pattern)
  | lookAhead (negated : Bool) (body : Pattern)
  | lookBehind (negated : Bool) (width : Nat) (body : Pattern)
  | backReference (index : Nat) (rule : CaseRule)
  | ifCaptured (index : Nat) (yes no : Pattern)
deriving Repr

namespace CharClass

def isAsciiSpace (c : Char) : Bool :=
  c == ' ' || c == '\t' || c == '\n' || c == '\r' || c == '\x0b' || c == '\x0c'

def contains (charClass : CharClass) (alphabet : Alphabet) (c : Char) : Bool :=
  match charClass, alphabet with
  | .digit, .ascii => c.isDigit
  | .digit, .unicode => Text.isDigit c
  | .space, .ascii => isAsciiSpace c
  | .space, .unicode => Text.isBlank c
  | .word, .ascii => c.isAlphanum || c == '_'
  | .word, .unicode => Text.isWord c

end CharClass

namespace CaseRule

def fold : CaseRule → Nat → Nat
  | .exact, code => code
  | .ignore .ascii, code => Text.foldAscii code
  | .ignore .unicode, code => Text.fold code

def variants : CaseRule → Nat → List Nat
  | .exact, code => [code]
  | .ignore .ascii, code => Text.variantsAscii code
  | .ignore .unicode, code => Text.variants code

end CaseRule

namespace SetItem

def contains (rule : CaseRule) (c : Char) : SetItem → Bool
  | .single code => rule.fold code == rule.fold c.toNat
  | .range low high => (rule.variants c.toNat).any fun code => low ≤ code && code ≤ high
  | .ofClass charClass alphabet negated => charClass.contains alphabet c != negated

end SetItem

end FeatureFlags
