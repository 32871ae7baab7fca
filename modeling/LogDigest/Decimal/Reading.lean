/-!
# Reading decimals

The floating-point number nearest to a decimal, and the decimals that stand for numbers in texts:
digits with an optional point among, before or after them, an optional exponent, and the names of
infinity and of no number.
-/

namespace LogDigest.Decimal

/-- The number nearest to `significand · 10 ^ exponent`.  Decimals far outside the range are
recognised by their order of magnitude. -/
def nearest (significand : Nat) (exponent : Int) : Float :=
  let magnitude := (Nat.toDigits 10 significand).length + exponent
  if significand = 0 || magnitude < -400 then 0
  else if 400 < magnitude then 1 / 0
  else Float.ofScientific significand (exponent < 0) exponent.natAbs

def signed (negative : Bool) (x : Float) : Float :=
  if negative then -x else x

def sign (s : List Char) : Bool × List Char :=
  match s with
  | '-' :: rest => (true, rest)
  | '+' :: rest => (false, rest)
  | _ => (false, s)

def digitsValue (digits : List Char) : Nat :=
  digits.foldl (fun n c => 10 * n + (c.toNat - '0'.toNat)) 0

/-- The exponent that a text spells after its mark: a sign and at least one digit. -/
def exponent? (s : List Char) : Option Int :=
  let (negative, digits) := sign s
  if digits.isEmpty || !digits.all Char.isDigit then none
  else some (if negative then -(digitsValue digits : Int) else digitsValue digits)

/-- The number that digits, a fraction and an exponent spell.  There is at least one digit before
or after the point. -/
def numeral? (s : List Char) : Option Float := do
  let whole := s.takeWhile Char.isDigit
  let rest := s.dropWhile Char.isDigit
  let (fraction, rest) := match rest with
    | '.' :: rest => (rest.takeWhile Char.isDigit, rest.dropWhile Char.isDigit)
    | _ => ([], rest)
  if whole.isEmpty && fraction.isEmpty then none
  let exponent ← match rest with
    | [] => some 0
    | c :: rest => if c == 'e' || c == 'E' then exponent? rest else none
  return nearest (digitsValue (whole ++ fraction)) (exponent - fraction.length)

def float? (s : List Char) : Option Float :=
  let (negative, magnitude) := sign s
  let name := String.ofList (magnitude.map Char.toLower)
  if name = "inf" || name = "infinity" then some (signed negative (1 / 0))
  else if name = "nan" then some (0 / 0)
  else (numeral? magnitude).map (signed negative)

end LogDigest.Decimal
