import FeatureFlags.Text.Digits
import FeatureFlags.Yaml.Line

set_option autoImplicit false

namespace FeatureFlags.Yaml

structure Clock where
  hour : Nat
  minute : Nat
  second : Nat
  offset : Nat

def Clock.isReal (clock : Clock) : Bool :=
  clock.hour < 24 && clock.minute < 60 && clock.second < 60 && clock.offset < 24 * 60

structure Timestamp where
  year : Nat
  month : Nat
  day : Nat
  clock : Option Clock

namespace Timestamp

def number? (least most : Nat) (chars : List Char) : Option (Nat × List Char) :=
  let digits := (chars.take most).takeWhile Char.isDigit
  if least ≤ digits.length then some (Text.valueIn 10 digits, chars.drop digits.length) else none

def follow? (mark : Char) : List Char → Option (List Char)
  | [] => none
  | c :: rest => if c = mark then some rest else none

def zone? (chars : List Char) : Option Nat :=
  match chars.dropWhile isBlank with
  | [] => if chars.isEmpty then some 0 else none
  | ['Z'] => some 0
  | sign :: rest =>
      if sign = '+' ∨ sign = '-' then do
        let (hours, rest) ← number? 1 2 rest
        if rest.isEmpty then some (hours * 60)
        else do
          let (minutes, rest) ← number? 2 2 (← follow? ':' rest)
          if rest.isEmpty then some (hours * 60 + minutes) else none
      else none

def clock? (chars : List Char) : Option Clock := do
  let (hour, rest) ← number? 1 2 chars
  let (minute, rest) ← number? 2 2 (← follow? ':' rest)
  let (second, rest) ← number? 2 2 (← follow? ':' rest)
  let rest := match rest with
    | '.' :: fraction => fraction.dropWhile Char.isDigit
    | rest => rest
  some ⟨hour, minute, second, ← zone? rest⟩

def timeAfterDate? (chars : List Char) : Option Clock :=
  match chars with
  | [] => none
  | c :: rest =>
      if c = 'T' ∨ c = 't' then clock? rest
      else if isBlank c then clock? (rest.dropWhile isBlank)
      else none

def ofChars? (chars : List Char) : Option Timestamp := do
  let (year, rest) ← number? 4 4 chars
  let (month, rest) ← number? 1 2 (← follow? '-' rest)
  let (day, rest) ← number? 1 2 (← follow? '-' rest)
  if rest.isEmpty then some ⟨year, month, day, none⟩
  else some ⟨year, month, day, some (← timeAfterDate? rest)⟩

def isLeap (year : Nat) : Bool := year % 4 == 0 && (year % 100 != 0 || year % 400 == 0)

def daysIn (year month : Nat) : Nat :=
  if month = 2 then if isLeap year then 29 else 28
  else if [4, 6, 9, 11].contains month then 30
  else if 1 ≤ month ∧ month ≤ 12 then 31
  else 0

def isReal (timestamp : Timestamp) : Bool :=
  1 ≤ timestamp.year && 1 ≤ timestamp.day &&
    timestamp.day ≤ daysIn timestamp.year timestamp.month && timestamp.clock.all Clock.isReal

end Timestamp
end FeatureFlags.Yaml
