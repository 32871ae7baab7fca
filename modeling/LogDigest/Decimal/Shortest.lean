/-!
# Shortest decimals

The decimal with the fewest digits among those that round to a given binary floating-point
number, and of those the nearest to it.  All comparisons are made exactly, on natural numbers.
-/

namespace LogDigest.Decimal

inductive Tie where
  | even
  | up

/-- A positive binary number `mantissa · 2 ^ exponent` as stored, where `narrow` says that the
gap to its lower neighbour is half the gap to its upper one. -/
structure Binary where
  mantissa : Nat
  exponent : Int
  narrow : Bool

/-- The decimal `0.d₁d₂…dₖ · 10 ^ point`, its digits most significant first. -/
structure Digits where
  digits : List Char
  point : Int

namespace Binary

def ofFloat (x : Float) : Binary :=
  let bits := x.toBits.toNat
  let fraction : Nat := bits % Nat.pow 2 52
  let biased : Nat := bits / Nat.pow 2 52 % Nat.pow 2 11
  if biased = 0 then ⟨fraction, -1074, false⟩
  else ⟨Nat.pow 2 52 + fraction, (biased : Int) - 1075, fraction = 0 && biased > 1⟩

def powerOfTen (n : Int) : Nat × Nat :=
  if 0 ≤ n then (Nat.pow 10 n.toNat, 1) else (1, Nat.pow 10 (-n).toNat)

def quarter (b : Binary) : Nat × Nat :=
  let e := b.exponent - 2
  if 0 ≤ e then (Nat.pow 2 e.toNat, 1) else (1, Nat.pow 2 (-e).toNat)

/-- The least `p` such that the number is below `10 ^ p`. -/
def point (b : Binary) : Int :=
  let (num, den) := b.quarter
  let scaled := 4 * b.mantissa * num * Nat.pow 10 343 / den
  (Nat.toDigits 10 scaled).length - 343

/-- The candidate with `k` digits, as a multiple of the `k`-th decimal place, if one of the two
neighbours of the number on that decimal grid rounds to the number. -/
def candidate? (b : Binary) (tie : Tie) (p : Int) (k : Nat) : Option Nat :=
  let (quarterNum, quarterDen) := b.quarter
  let (unitNum, unitDen) := powerOfTen (p - k)
  let num := quarterNum * unitDen
  let den := quarterDen * unitNum
  let value := 4 * b.mantissa * num
  let low := (4 * b.mantissa - (if b.narrow then 1 else 2)) * num
  let high := (4 * b.mantissa + 2) * num
  let closed := b.mantissa % 2 == 0
  let down := value / den
  let downHits := low < down * den || (closed && low == down * den)
  let upHits := (down + 1) * den < high || (closed && (down + 1) * den == high)
  let remainder := value - down * den
  match downHits, upHits with
  | false, false => none
  | true, false => some down
  | false, true => some (down + 1)
  | true, true =>
    if 2 * remainder < den then some down
    else if den < 2 * remainder then some (down + 1)
    else match tie with
      | .up => some (down + 1)
      | .even => some (if down % 2 == 0 then down else down + 1)

/-- The first number of digits that has a candidate, with the candidate; 17 digits always
suffice. -/
def found? (b : Binary) (tie : Tie) : Option (Nat × Nat) :=
  let p := b.point
  (List.range 17).findSome? fun i => (b.candidate? tie p (i + 1)).map fun n => (i + 1, n)

end Binary

def Digits.ofCandidate (p : Int) : Option (Nat × Nat) → Digits
  | none => ⟨[], p⟩
  | some (k, n) =>
    let digits := Nat.toDigits 10 n
    ⟨(digits.reverse.dropWhile (· == '0')).reverse, p - k + digits.length⟩

def Binary.shortest (b : Binary) (tie : Tie) : Digits :=
  .ofCandidate b.point (b.found? tie)

end LogDigest.Decimal
