import FeatureFlags.Pattern

/-! Searching by backtracking: the first way to match in the order that the pattern prescribes is taken. A
repetition goes on after its least count only while it makes progress, so a match always ends. -/

set_option autoImplicit false

namespace FeatureFlags.Pattern

structure Cursor where
  before : List Char
  after : List Char
  captured : List (Nat × List Char)

namespace Cursor

def position (cursor : Cursor) : Nat := cursor.before.length

def next? (cursor : Cursor) : Option (Char × Cursor) :=
  match cursor.after with
  | [] => none
  | c :: rest => some (c, { cursor with before := c :: cursor.before, after := rest })

def back? (cursor : Cursor) (count : Nat) : Option Cursor :=
  if count ≤ cursor.before.length then
    some { cursor with
      before := cursor.before.drop count,
      after := (cursor.before.take count).reverse ++ cursor.after }
  else none

def since (cursor : Cursor) (start : Cursor) : List Char :=
  (cursor.before.take (cursor.before.length - start.before.length)).reverse

def capture (cursor : Cursor) (index : Nat) (text : List Char) : Cursor :=
  { cursor with captured := (index, text) :: cursor.captured }

def skipText? (rule : CaseRule) : List Char → Cursor → Option Cursor
  | [], cursor => some cursor
  | expected :: rest, cursor => match cursor.next? with
    | some (c, following) =>
        if rule.fold c.toNat == rule.fold expected.toNat then skipText? rule rest following
        else none
    | none => none

def wordBefore (cursor : Cursor) (alphabet : Alphabet) : Bool :=
  cursor.before.head?.any (CharClass.word.contains alphabet)

def wordAfter (cursor : Cursor) (alphabet : Alphabet) : Bool :=
  cursor.after.head?.any (CharClass.word.contains alphabet)

def isEmptyText (cursor : Cursor) : Bool := cursor.before.isEmpty && cursor.after.isEmpty

-- Whether an anchor holds at a place. In an empty text no place is at or inside a word.
def satisfies (cursor : Cursor) : Anchor → Bool
  | .textStart => cursor.before.isEmpty
  | .lineStart => cursor.before.head?.all (· == '\n')
  | .textEnd => cursor.after.isEmpty
  | .lastLineEnd => cursor.after.isEmpty || cursor.after == ['\n']
  | .lineEnd => cursor.after.head?.all (· == '\n')
  | .wordBoundary alphabet =>
      !cursor.isEmptyText && cursor.wordBefore alphabet != cursor.wordAfter alphabet
  | .insideWord alphabet =>
      !cursor.isEmptyText && cursor.wordBefore alphabet == cursor.wordAfter alphabet

end Cursor

-- A way to match: it goes on from a place with what is still to be matched.
abbrev Matcher := Cursor → (Cursor → Option Cursor) → Option Cursor

-- Whether a repetition that was at place `last` before its previous round may have another round.
def mayRepeat (most : Option Nat) (count : Nat) (last : Option Nat) (cursor : Cursor) : Bool :=
  most.all (count < ·) && last != some cursor.position

def greedy (body : Matcher) (least : Nat) (most : Option Nat) :
    Nat → Nat → Option Nat → Matcher
  | 0, _, _, cursor, finish => finish cursor
  | rounds + 1, count, last, cursor, finish =>
      if count < least then
        body cursor fun reached => greedy body least most rounds (count + 1) last reached finish
      else if mayRepeat most count last cursor then
        (body cursor fun reached =>
          greedy body least most rounds (count + 1) (some cursor.position) reached finish).orElse
          fun _ => finish cursor
      else finish cursor

def lazy (body : Matcher) (least : Nat) (most : Option Nat) :
    Nat → Nat → Option Nat → Matcher
  | 0, _, _, cursor, finish => finish cursor
  | rounds + 1, count, last, cursor, finish =>
      if count < least then
        body cursor fun reached => lazy body least most rounds (count + 1) last reached finish
      else (finish cursor).orElse fun _ =>
        if mayRepeat most count last cursor then
          body cursor fun reached =>
            lazy body least most rounds (count + 1) (some cursor.position) reached finish
        else none

def possessive (body : Matcher) (least : Nat) (most : Option Nat) :
    Nat → Nat → Option Nat → Cursor → Option Cursor
  | 0, _, _, cursor => some cursor
  | rounds + 1, count, last, cursor =>
      if count < least then
        (body cursor some).bind (possessive body least most rounds (count + 1) last)
      else if mayRepeat most count last cursor then
        match body cursor some with
        | some reached =>
            possessive body least most rounds (count + 1) (some cursor.position) reached
        | none => some cursor
      else some cursor

def roundLimit (least : Nat) (cursor : Cursor) : Nat := least + cursor.after.length + 2

def nextChar (accepts : Char → Bool) : Matcher := fun cursor finish =>
  match cursor.next? with
  | some (c, following) => if accepts c then finish following else none
  | none => none

def matcher : Pattern → Matcher
  | .empty, cursor, finish => finish cursor
  | .literal code rule, cursor, finish =>
      nextChar (fun c => rule.fold code == rule.fold c.toNat) cursor finish
  | .any lineFeed, cursor, finish => nextChar (fun c => lineFeed || c != '\n') cursor finish
  | .oneOf negated items rule, cursor, finish =>
      nextChar (fun c => items.any (SetItem.contains rule c) != negated) cursor finish
  | .anchor place, cursor, finish => if cursor.satisfies place then finish cursor else none
  | .seq first second, cursor, finish =>
      matcher first cursor fun reached => matcher second reached finish
  | .alt first second, cursor, finish =>
      (matcher first cursor finish).orElse fun _ => matcher second cursor finish
  | .group body, cursor, finish => matcher body cursor finish
  | .capture index body, cursor, finish =>
      matcher body cursor fun reached => finish (reached.capture index (reached.since cursor))
  | .atomic body, cursor, finish => (matcher body cursor some).bind finish
  | .repeated greed least most body, cursor, finish =>
      let rounds := roundLimit least cursor
      match greed with
      | .greedy => greedy (matcher body) least most rounds 0 none cursor finish
      | .lazy => lazy (matcher body) least most rounds 0 none cursor finish
      | .possessive =>
          (possessive (matcher body) least most rounds 0 none cursor).bind finish
  | .lookAhead negated body, cursor, finish =>
      match matcher body cursor some with
      | some reached => if negated then none else finish { cursor with captured := reached.captured }
      | none => if negated then finish cursor else none
  | .lookBehind negated width body, cursor, finish =>
      match (cursor.back? width).bind fun start => matcher body start some with
      | some reached => if negated then none else finish { cursor with captured := reached.captured }
      | none => if negated then finish cursor else none
  | .backReference index rule, cursor, finish =>
      match cursor.captured.lookup index with
      | some text => (cursor.skipText? rule text).bind finish
      | none => none
  | .ifCaptured index yes no, cursor, finish =>
      if (cursor.captured.lookup index).isSome then matcher yes cursor finish
      else matcher no cursor finish

def searchFrom (pattern : Pattern) : List Char → List Char → Bool
  | before, [] => (matcher pattern ⟨before, [], []⟩ some).isSome
  | before, c :: after =>
      (matcher pattern ⟨before, c :: after, []⟩ some).isSome ||
        searchFrom pattern (c :: before) after

def search (pattern : Pattern) (text : String) : Bool := searchFrom pattern [] text.toList

end FeatureFlags.Pattern
