import LogDigest.Json.Basic

/-!
# Number literals

The written form of a JSON number and the number it stands for.  A literal without fraction and
exponent is a whole number as long as it fits 64 bits.  Every other literal is read as a
floating-point number: as many leading digits as fit 64 bits are taken as they stand, the others
only move the decimal point, and one multiplication or division by a power of ten scales the
result.
-/

namespace LogDigest.Json

def isDigit (c : Char) : Bool :=
  '0' ≤ c && c ≤ '9'

def digitValue (c : Char) : Nat :=
  c.toNat - '0'.toNat

def digitsValue (digits : List Char) : Nat :=
  digits.foldl (fun n c => 10 * n + digitValue c) 0

structure Literal where
  negative : Bool
  whole : List Char
  fraction : Option (List Char)
  /-- The sign, true if negative, and the digits of the exponent. -/
  exponent : Option (Bool × List Char)

namespace Literal

def leading (s : List Char) : List Char :=
  s.takeWhile isDigit

def afterDigits (s : List Char) : List Char :=
  s.dropWhile isDigit

def fraction? (s : List Char) : Option (Option (List Char) × List Char) :=
  match s with
  | '.' :: rest =>
    if (leading rest).isEmpty then none else some (some (leading rest), afterDigits rest)
  | _ => some (none, s)

/-- Reads a sign, true if negative; no sign counts as positive. -/
def sign (s : List Char) : Bool × List Char :=
  match s with
  | '-' :: rest => (true, rest)
  | '+' :: rest => (false, rest)
  | _ => (false, s)

def exponent? (s : List Char) : Option (Option (Bool × List Char) × List Char) :=
  match s with
  | [] => some (none, s)
  | c :: rest =>
    if c = 'e' ∨ c = 'E' then
      let digits := leading (sign rest).2
      if digits.isEmpty then none
      else some (some ((sign rest).1, digits), afterDigits (sign rest).2)
    else some (none, s)

/-- Reads the digits, fraction and exponent that follow the sign of a literal.  The whole part
has no leading zero. -/
def unsigned? (negative : Bool) (s : List Char) : Option (Literal × List Char) :=
  let whole := leading s
  if whole.isEmpty || (whole.head? == some '0' && whole.length != 1) then none
  else
    match fraction? (afterDigits s) with
    | none => none
    | some (fraction, rest) =>
      match exponent? rest with
      | none => none
      | some (exponent, rest) => some (⟨negative, whole, fraction, exponent⟩, rest)

def read? (s : List Char) : Option (Literal × List Char) :=
  match s with
  | '-' :: rest => unsigned? true rest
  | _ => unsigned? false s

/-- Appends digits to a significand as long as it fits 64 bits; also gives the digits left
over. -/
def absorb (significand : Nat) : List Char → Nat × List Char
  | [] => (significand, [])
  | c :: rest =>
    let next := 10 * significand + digitValue c
    if next < UInt64.size then absorb next rest else (significand, c :: rest)

def maxPower : Nat := 308

def powerOfTen (n : Nat) : Float :=
  Float.ofScientific 1 false n

/-- Scales a number by a power of ten; `none` beyond the range. -/
def scaled? (x : Float) (exponent : Int) : Option Float :=
  if exponent.natAbs ≤ maxPower then
    if 0 ≤ exponent then
      let y := x * powerOfTen exponent.natAbs
      if y.isInf then none else some y
    else some (x / powerOfTen exponent.natAbs)
  else if x == 0 then some x
  else if 0 ≤ exponent then none
  else scaled? (x / powerOfTen maxPower) (exponent + maxPower)
termination_by exponent.natAbs
decreasing_by simp only [maxPower] at *; omega

/-- The exponent from which on a literal is taken to be infinite or zero without scaling. -/
def exponentLimit : Nat := UInt32.size / 2

def magnitude? (literal : Literal) : Option Float :=
  let (significand, skipped) := absorb 0 literal.whole
  let fraction := literal.fraction.getD []
  let (significand, ignored) := absorb significand fraction
  let shift : Int := (skipped.length : Int) - ((fraction.length - ignored.length : Nat) : Int)
  let x := significand.toUInt64.toFloat
  match literal.exponent with
  | none => scaled? x shift
  | some (negative, digits) =>
    let exponent := digitsValue digits
    if exponent < exponentLimit then
      scaled? x (if negative then shift - exponent else shift + exponent)
    else if significand ≠ 0 ∧ ¬ negative then none
    else some 0

def integer? (literal : Literal) : Option Nat :=
  match literal.fraction, literal.exponent with
  | none, none =>
    match absorb 0 literal.whole with
    | (significand, []) => some significand
    | _ => none
  | _, _ => none

/-- The number that a literal stands for, if it is in range.  A negative zero and negative
numbers below the 64-bit range are floating-point numbers. -/
def value? (literal : Literal) : Option JsonNumber :=
  match literal.integer? with
  | some n =>
    if !literal.negative then some (.integer n)
    else if 0 < n && n ≤ UInt64.size / 2 then some (.integer (-n))
    else some (.float (-n.toUInt64.toFloat))
  | none => literal.magnitude?.map fun x => .float (if literal.negative then -x else x)

theorem length_leading_add (s : List Char) :
    (leading s).length + (afterDigits s).length = s.length := by
  simp only [leading, afterDigits, ← List.length_append, List.takeWhile_append_dropWhile]

theorem length_of_fraction? {s rest : List Char} {f : Option (List Char)}
    (h : fraction? s = some (f, rest)) : rest.length ≤ s.length := by
  unfold fraction? at h
  split at h
  · next tail =>
    have := length_leading_add tail
    split at h
    · cases h
    · cases h
      simp only [List.length_cons]
      omega
  · cases h
    exact Nat.le_refl _

theorem length_sign_le (s : List Char) : (sign s).2.length ≤ s.length := by
  unfold sign
  split <;> simp

theorem length_of_exponent? {s rest : List Char} {e : Option (Bool × List Char)}
    (h : exponent? s = some (e, rest)) : rest.length ≤ s.length := by
  unfold exponent? at h
  split at h
  · cases h
    exact Nat.le_refl _
  · next c tail =>
    have hsign := length_sign_le tail
    have hdigits := length_leading_add (sign tail).2
    split at h
    · dsimp only at h
      split at h
      · cases h
      · cases h
        simp only [List.length_cons]
        omega
    · cases h
      exact Nat.le_refl _

theorem length_of_unsigned? {negative : Bool} {s rest : List Char} {literal : Literal}
    (h : unsigned? negative s = some (literal, rest)) : rest.length < s.length := by
  have hdigits := length_leading_add s
  unfold unsigned? at h
  dsimp only at h
  split at h
  · cases h
  · next hwhole =>
    have hpos : 0 < (leading s).length := by
      cases hd : leading s with
      | nil => simp [hd] at hwhole
      | cons _ _ => simp
    split at h
    · cases h
    · next hf =>
      split at h
      · cases h
      · next he =>
        cases h
        have := length_of_fraction? hf
        have := length_of_exponent? he
        omega

theorem length_of_read? {s rest : List Char} {literal : Literal}
    (h : read? s = some (literal, rest)) : rest.length < s.length := by
  unfold read? at h
  split at h
  · have := length_of_unsigned? h
    simp only [List.length_cons]
    omega
  · exact length_of_unsigned? h

end Literal

end LogDigest.Json
