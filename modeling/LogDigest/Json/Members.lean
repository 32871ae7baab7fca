import LogDigest.Json.Reader
import LogDigest.Text.Reader

/-!
# Members as written

The members of an object in the order in which they stand, repeated keys included.  A value of the
right form may exceed the limits that documents have: its nesting, the range of its numbers, and
halves of surrogate pairs do not matter as long as nobody asks for the value.
-/

namespace LogDigest.Json

open Reader

/-! ## Values that nobody asks for -/

namespace Skim

def blanks : Reader Unit :=
  discard (takeWhile isSpace)

def isRaw (c : Char) : Bool :=
  0x20 ≤ c.toNat && c != '"' && c != '\\'

def escape : Reader Unit := do
  char '\\'
  discard (satisfy fun c => ['"', '\\', '/', 'b', 'f', 'n', 'r', 't'].contains c) <|> do
    char 'u'
    discard (exactly 4 Text.isHexDigit)

def string : Reader Unit := do
  char '"'
  discard (many (discard (takeSome isRaw) <|> escape))
  char '"'

def number : Reader Unit := fun s =>
  (Literal.read? s).map fun (_, rest) => ((), rest)

def scalar : Reader Unit :=
  word "null" <|> word "true" <|> word "false" <|> string <|> number

def array (value : Reader Unit) : Reader Unit := do
  char '['
  discard (separated (value <* blanks) (char ',')) <|> blanks
  char ']'

def object (value : Reader Unit) : Reader Unit := do
  char '{'
  discard (separated (blanks *> string *> blanks *> char ':' *> value <* blanks) (char ',')) <|>
    blanks
  char '}'

def value : (depth : Nat) → Reader Unit
  | 0 => blanks *> scalar
  | depth + 1 => blanks *> (scalar <|> array (value depth) <|> object (value depth))

end Skim

/-! ## Members -/

def limited : Reader (Option Json) := fun s =>
  match value? (maxDepth - 1) s with
  | some (value, rest) => some (some value, rest.1)
  | none => (Skim.value s.length s).map fun (_, rest) => (none, rest)

def key : Reader String := do
  char '"'
  stringBody? []

def membersAsWritten : Reader (List (String × Option Json)) := do
  Skim.blanks
  char '{'
  let members ← separated (do
    Skim.blanks
    let key ← key
    Skim.blanks
    char ':'
    let value ← limited
    Skim.blanks
    return (key, value)) (char ',') <|> giving [] Skim.blanks
  char '}'
  Skim.blanks
  return members

def readMembers? (s : List Char) : Option (List (String × Option Json)) :=
  membersAsWritten.run? s

end LogDigest.Json
