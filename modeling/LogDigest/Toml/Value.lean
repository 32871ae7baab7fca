import LogDigest.Toml.Basic
import LogDigest.Toml.Moment
import LogDigest.Toml.Number

/-!
# Reading TOML values

Arrays may run over several lines, with comments between their items; a table in braces has to
stand on one line.  Both nest at most `maxDepth` deep, and a dotted key has at most `maxDepth`
parts.
-/

namespace LogDigest.Toml.Grammar

open Reader

def maxDepth : Nat := 79

def comment : Reader Unit := do
  char '#'
  discard (takeWhile isPlain)

def gap : Reader Unit := do
  spaces
  discard (many (optional comment *> newline *> spaces))

def isKeyChar (c : Char) : Bool :=
  c.isAlphanum || c == '_' || c == '-'

def keyPart : Reader String :=
  String.ofList <$> (takeSome isKeyChar <|> basic <|> literal)

/-- A dotted key: the parts before the last, and the last. -/
def key : Reader (List String × String) := do
  let parts ← separated (spaces *> keyPart <* spaces) (char '.')
  guard (parts.length ≤ maxDepth)
  return (parts.dropLast, parts.getLastD "")

def entry (value : Reader Toml) : Reader ((List String × String) × Toml) := do
  let key ← key
  char '='
  spaces
  return (key, ← value)

def scalar : Reader Toml :=
  (fun s => .text (String.ofList s)) <$> quotation <|>
    (fun s => .moment (String.ofList s)) <$> moment <|>
    .float <$> float <|> .integer <$> integer <|>
    giving (.boolean true) (word "true") <|> giving (.boolean false) (word "false")

def array (value : Reader Toml) : Reader Toml := do
  char '['
  let items ← optional (separated (gap *> value <* gap) (char ','))
  if items.isSome then discard (optional (char ','))
  gap
  char ']'
  return .array (items.getD [])

def ofEntries? (entries : List ((List String × String) × Toml)) : Option Toml :=
  Draft.toml <$> entries.foldlM (fun draft entry =>
    Draft.assign entry.1.1 entry.1.2 entry.2 draft) Draft.fresh

def inlineTable (value : Reader Toml) : Reader Toml := do
  char '{'
  let entries ← optional (separated (entry value <* spaces) (char ','))
  spaces
  char '}'
  StateT.lift (ofEntries? (entries.getD []))

def value : (depth : Nat) → Reader Toml
  | 0 => scalar
  | depth + 1 => scalar <|> array (value depth) <|> inlineTable (value depth)

end LogDigest.Toml.Grammar
