import LogDigest.Decimal.Reading
import LogDigest.Text.Reader

/-!
# TOML dates and times

A moment is a date, a time, or both with an optional offset.  Its text is normal: `T` stands
between date and time, seconds keep at most nine digits after the point and no zeros at the end,
and the offset is `Z` or has a sign, which is plus for zero.
-/

namespace LogDigest.Toml.Grammar

open Reader

def numeralIn (count low high : Nat) : Reader (List Char) := do
  let digits ← exactly count Char.isDigit
  let n := Decimal.digitsValue digits
  guard (low ≤ n ∧ n ≤ high)
  return digits

def isLeap (year : Nat) : Bool :=
  year % 4 == 0 && (year % 100 != 0 || year % 400 == 0)

def daysIn (year month : Nat) : Nat :=
  if month = 2 then if isLeap year then 29 else 28
  else if month = 4 ∨ month = 6 ∨ month = 9 ∨ month = 11 then 30
  else 31

def date : Reader (List Char) := do
  let year ← exactly 4 Char.isDigit
  char '-'
  let month ← numeralIn 2 1 12
  char '-'
  let day ← numeralIn 2 1 31
  guard (Decimal.digitsValue day ≤
    daysIn (Decimal.digitsValue year) (Decimal.digitsValue month))
  return year ++ '-' :: month ++ '-' :: day

def secondFraction : Reader (List Char) := do
  char '.'
  let digits := (← takeSome Char.isDigit).take 9
  let kept := (digits.reverse.dropWhile (· == '0')).reverse
  return if kept.isEmpty then [] else '.' :: kept

structure Limits where
  hour : Nat
  offsetHour : Nat
  offsetMinute : Nat

def time (limits : Limits) : Reader (List Char) := do
  let hour ← numeralIn 2 0 limits.hour
  char ':'
  let minute ← numeralIn 2 0 59
  char ':'
  let second ← numeralIn 2 0 60
  let fraction ← optional secondFraction
  return hour ++ ':' :: minute ++ ':' :: second ++ fraction.getD []

def twoDigits (n : Nat) : List Char :=
  [Nat.digitChar (n / 10), Nat.digitChar (n % 10)]

def offsetText (isBehind : Bool) (minutes : Nat) : List Char :=
  (if isBehind && minutes != 0 then '-' else '+') ::
    twoDigits (minutes / 60) ++ ':' :: twoDigits (minutes % 60)

def offset (limits : Limits) : Reader (List Char) :=
  giving ['Z'] (satisfy fun c => c == 'Z' || c == 'z') <|> do
    let sign ← satisfy fun c => c == '+' || c == '-'
    let hour ← numeralIn 2 0 limits.offsetHour
    char ':'
    let minute ← numeralIn 2 0 limits.offsetMinute
    let minutes := 60 * Decimal.digitsValue hour + Decimal.digitsValue minute
    guard (minutes ≤ 1440)
    return offsetText (sign == '-') minutes

def timeOfDate (limits : Limits) : Reader (List Char) := do
  discard (satisfy fun c => c == 'T' || c == 't' || c == ' ')
  let time ← time limits
  let offset ← optional (offset limits)
  return 'T' :: time ++ offset.getD []

def momentWithin (limits : Limits) : Reader (List Char) :=
  (do
    let date ← date
    let time ← optional (timeOfDate limits)
    return date ++ time.getD []) <|> time limits

def moment : Reader (List Char) :=
  momentWithin ⟨23, 23, 59⟩

/-- A moment that a tagged string spells.  It may name the hour after the last one, and give the
minutes of an offset as it likes. -/
def taggedMoment : Reader (List Char) :=
  momentWithin ⟨24, 99, 99⟩

end LogDigest.Toml.Grammar
