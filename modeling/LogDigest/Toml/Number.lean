import LogDigest.Decimal.Reading
import LogDigest.Toml.Basic
import LogDigest.Toml.Quotation

/-!
# TOML numbers

Single underscores may stand between digits.  Integers have 64 bits; a floating-point number that
is too large for its range is refused, unless it is negative.
-/

namespace LogDigest.Toml.Grammar

open Reader

/-- Digits that follow others: an underscore counts only right before a digit. -/
def moreDigits (isDigit : Char → Bool) : List Char → List Char × List Char
  | '_' :: c :: rest =>
    if isDigit c then
      let (digits, left) := moreDigits isDigit rest
      (c :: digits, left)
    else ([], '_' :: c :: rest)
  | c :: rest =>
    if isDigit c then
      let (digits, left) := moreDigits isDigit rest
      (c :: digits, left)
    else ([], c :: rest)
  | [] => ([], [])

def digits (isDigit : Char → Bool) : Reader (List Char) := do
  let first ← satisfy isDigit
  let more ← fun s => some (moreDigits isDigit s)
  return first :: more

/-- The digits of a whole number, which starts with zero only if it is zero. -/
def wholeDigits : Reader (List Char) :=
  giving ['0'] (char '0') <|> digits Char.isDigit

def sign : Reader Bool :=
  giving true (char '-') <|> giving false (char '+') <|> pure false

def based (mark : String) (base : Nat) (isDigit : Char → Bool) : Reader Int := do
  word mark
  let digits ← digits isDigit
  let n := digits.foldl (fun n c => base * n + (Text.hexValue? c).getD 0) 0
  guard (n < UInt64.size / 2)
  return n

def decimal : Reader Int := do
  let negative ← sign
  let n := Decimal.digitsValue (← wholeDigits)
  guard (if negative then n ≤ UInt64.size / 2 else n < UInt64.size / 2)
  return if negative then -(n : Int) else n

def integer : Reader Int :=
  based "0x" 16 Text.isHexDigit <|>
    based "0o" 8 (fun c => '0' ≤ c && c ≤ '7') <|>
    based "0b" 2 (fun c => c == '0' || c == '1') <|> decimal

def exponent : Reader Int := do
  discard (satisfy fun c => c == 'e' || c == 'E')
  let negative ← sign
  let n := Decimal.digitsValue (← digits Char.isDigit)
  return if negative then -(n : Int) else n

def numeral : Reader Float := do
  let negative ← sign
  let whole ← wholeDigits
  let fraction ← optional (char '.' *> digits Char.isDigit)
  let exponent ← optional exponent
  guard (fraction.isSome || exponent.isSome)
  let places := fraction.getD []
  let x := Decimal.nearest (Decimal.digitsValue (whole ++ places))
    (exponent.getD 0 - places.length)
  guard (negative || !x.isInf)
  return Decimal.signed negative x

def named : Reader Float := do
  let negative ← sign
  let x ← giving (1 / 0) (word "inf") <|> giving (0 / 0) (word "nan")
  return Decimal.signed negative x

def float : Reader Float :=
  numeral <|> named

end LogDigest.Toml.Grammar
