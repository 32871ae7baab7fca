import LogDigest.Decimal.Shortest

/-!
# Layouts of decimal numbers

A layout fixes how the shortest decimal of a floating-point number is written down: where
positional notation ends, whether a whole number keeps a fraction, and how ties are broken.
-/

namespace LogDigest.Decimal

structure Layout where
  /-- Whether a number is written positionally, by the exponent of its leading digit. -/
  positional : Int → Bool
  /-- What follows the digits of a whole number in positional notation. -/
  wholeSuffix : String
  tie : Tie

def zeros (count : Nat) : List Char :=
  List.replicate count '0'

def positionalText (layout : Layout) (d : Digits) : List Char :=
  if d.point ≤ 0 then
    '0' :: '.' :: zeros (-d.point).toNat ++ d.digits
  else
    let width := d.point.toNat
    if d.digits.length ≤ width then
      d.digits ++ zeros (width - d.digits.length) ++ layout.wholeSuffix.toList
    else d.digits.take width ++ '.' :: d.digits.drop width

def scientificText (d : Digits) : List Char :=
  let exponent := d.point - 1
  let mantissa := match d.digits with
    | [] => []
    | [lead] => [lead]
    | lead :: rest => lead :: '.' :: rest
  mantissa ++ 'e' :: (if exponent < 0 then '-' else '+') :: Nat.toDigits 10 exponent.natAbs

def text (layout : Layout) (x : Float) : List Char :=
  if x.isNaN then ['N', 'a', 'N']
  else
    let negative := UInt64.size / 2 ≤ x.toBits.toNat
    let magnitude :=
      if x.isInf then ['i', 'n', 'f']
      else if x == 0 then '0' :: layout.wholeSuffix.toList
      else
        let d := (Binary.ofFloat x).shortest layout.tie
        if layout.positional (d.point - 1) then positionalText layout d else scientificText d
    if negative then '-' :: magnitude else magnitude

/-- The layout of numbers in a JSON document: positional from `1e-5` up to, but not including,
`1e16`, and always recognisable as a floating-point number. -/
def jsonLayout : Layout :=
  ⟨fun exponent => -5 ≤ exponent && exponent ≤ 15, ".0", .even⟩

/-- The layout of a number that stands in for a text: positional throughout, and a whole number
shows no fraction. -/
def plainLayout : Layout :=
  ⟨fun _ => true, "", .up⟩

/-- The layout of a number quoted in a message: as `plainLayout`, but a whole number keeps its
fraction. -/
def messageLayout : Layout :=
  ⟨fun _ => true, ".0", .up⟩

end LogDigest.Decimal
