import LogDigest.Decimal.Layout
import LogDigest.Decimal.Reading
import LogDigest.Pattern.Reader
import LogDigest.Text.Number

/-!
# Fields of spans

A directive may ask that a span has a field, and that the field has a value.  Values are truth
values, numbers, and patterns for everything else; they are ordered by kind first.
-/

namespace LogDigest

inductive LogValue where
  | boolean (value : Bool)
  | float (value : Float)
  | natural (value : Nat)
  /-- An integer with a minus sign. -/
  | negative (value : Int)
  /-- A pattern for any other value, by its text. -/
  | pattern (text : String)

namespace LogValue

/-- The value that a text gives, unless it can only be a pattern and is none that can be used. -/
def ofText? (text : List Char) : Option LogValue :=
  if text = "true".toList then some (.boolean true)
  else if text = "false".toList then some (.boolean false)
  else match Text.unsigned64? text, Text.signed64? text, Decimal.float? text with
    | some n, _, _ => some (.natural n)
    | none, some n, _ => some (.negative n)
    | none, none, some x => some (.float x)
    | none, none, none =>
      if (Pattern.ofText? text).any Pattern.isUsable then some (.pattern (String.ofList text))
      else none

def text : LogValue → String
  | .boolean value => toString value
  | .float value => String.ofList (Decimal.text Decimal.plainLayout value)
  | .natural value => toString value
  | .negative value => toString value
  | .pattern text => text

def rank : LogValue → Nat
  | .boolean _ => 0
  | .float _ => 1
  | .natural _ => 2
  | .negative _ => 3
  | .pattern _ => 4

/-- The order of floating-point numbers, of which no number comes last. -/
def floatOrder (a b : Float) : Ordering :=
  if a.isNaN || b.isNaN then compare a.isNaN b.isNaN
  else if a < b then .lt
  else if b < a then .gt
  else .eq

def order : LogValue → LogValue → Ordering
  | .boolean a, .boolean b => compare a b
  | .float a, .float b => floatOrder a b
  | .natural a, .natural b => compare a b
  | .negative a, .negative b => compare a b
  | .pattern a, .pattern b => compare a b
  | a, b => compare a.rank b.rank

end LogValue

structure LogField where
  name : String
  value : Option LogValue := none

namespace LogField

/-- The field that a text gives: a name, or a name with a value after an equals sign.  A further
equals sign ends the value. -/
def ofText? (text : List Char) : Option LogField :=
  if text.isEmpty then none
  else match text.splitOn '=' with
    | name :: value :: _ =>
      (LogValue.ofText? value).map fun value => { name := String.ofList name, value := some value }
    | _ => some { name := String.ofList text }

def text (field : LogField) : String :=
  match field.value with
  | some value => field.name ++ "=" ++ value.text
  | none => field.name

def order (a b : LogField) : Ordering :=
  (compare a.value.isSome b.value.isSome).then <| (compare a.name b.name).then <|
    match a.value, b.value with
    | some a, some b => a.order b
    | _, _ => .eq

end LogField

end LogDigest
