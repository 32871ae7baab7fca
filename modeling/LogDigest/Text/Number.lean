/-!
# Numbers in texts

Whole numbers of 64 bits are spelled by decimal digits after an optional sign, of which a number
without sign admits only the plus.  Hexadecimal digits have letters of either case from ten on.
-/

namespace LogDigest.Text

/-! ## Integers -/

def natural? (s : List Char) : Option Nat :=
  if s.isEmpty || !s.all Char.isDigit then none
  else some (s.foldl (fun n c => 10 * n + (c.toNat - '0'.toNat)) 0)

def withoutPlus (s : List Char) : List Char :=
  match s with
  | '+' :: rest => rest
  | _ => s

def unsigned64? (s : List Char) : Option Nat :=
  (natural? (withoutPlus s)).filter (· < UInt64.size)

/-- The number from `-2 ^ 63` up to, but not including, `2 ^ 63` that a text spells. -/
def signed64? (s : List Char) : Option Int :=
  match s with
  | '-' :: digits => ((natural? digits).filter (· ≤ UInt64.size / 2)).map fun n => -(n : Int)
  | _ => ((natural? (withoutPlus s)).filter (· < UInt64.size / 2)).map fun n => (n : Int)

/-! ## Hexadecimal digits -/

def hexValue? (c : Char) : Option Nat :=
  if '0' ≤ c ∧ c ≤ '9' then some (c.toNat - '0'.toNat)
  else if 'a' ≤ c ∧ c ≤ 'f' then some (c.toNat - 'a'.toNat + 10)
  else if 'A' ≤ c ∧ c ≤ 'F' then some (c.toNat - 'A'.toNat + 10)
  else none

def isHexDigit (c : Char) : Bool :=
  (hexValue? c).isSome

def hexNumber (digits : List Char) : Nat :=
  digits.foldl (fun n c => 16 * n + (hexValue? c).getD 0) 0

def hexChar? (digits : List Char) : Option Char :=
  let n := hexNumber digits
  if n.isValidChar then some (Char.ofNat n) else none

end LogDigest.Text
