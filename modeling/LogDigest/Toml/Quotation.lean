import LogDigest.Text.Number
import LogDigest.Text.Reader

/-!
# TOML strings

Strings in double quotes know escapes, strings in single quotes are verbatim.  Between tripled
quotes a string may run over several lines: a line break right after the opening quotes does not
count, every other one counts as a line feed, and up to two quotes may stand before the closing
ones.
-/

namespace LogDigest.Toml.Grammar

open Reader

def isPlain (c : Char) : Bool :=
  c == '\t' || (0x20 ≤ c.toNat && c.toNat != 0x7F)

def isSpace (c : Char) : Bool :=
  c == ' ' || c == '\t'

def spaces : Reader Unit :=
  discard (takeWhile isSpace)

def newline : Reader Unit :=
  word "\n" <|> word "\r\n"

def numbered (count : Nat) : Reader Char := do
  let digits ← exactly count Text.isHexDigit
  StateT.lift (Text.hexChar? digits)

def escape : Reader Char := do
  char '\\'
  match ← next with
  | 'b' => return Char.ofNat 8
  | 't' => return '\t'
  | 'n' => return '\n'
  | 'f' => return Char.ofNat 12
  | 'r' => return '\r'
  | '"' => return '"'
  | '\\' => return '\\'
  | 'u' => numbered 4
  | 'U' => numbered 8
  | _ => failure

def isBasic (c : Char) : Bool :=
  isPlain c && c != '"' && c != '\\'

def isLiteral (c : Char) : Bool :=
  isPlain c && c != '\''

def basic : Reader (List Char) := do
  char '"'
  let pieces ← many (takeSome isBasic <|> (fun c => [c]) <$> escape)
  char '"'
  return pieces.flatten

def literal : Reader (List Char) := do
  char '\''
  let body ← takeWhile isLiteral
  char '\''
  return body

def innerQuotes (quote : Char) : Reader (List Char) := do
  let quotes ← takeSome (· == quote)
  guard (quotes.length < 3)
  return quotes

/-- The closing quotes after a string of several lines, without those that belong to it. -/
def closingQuotes (quote : Char) : Reader (List Char) := do
  let quotes ← takeWhile (· == quote)
  guard (3 ≤ quotes.length ∧ quotes.length ≤ 5)
  return quotes.drop 3

/-- A backslash at the end of a line, with the blanks and line breaks after it. -/
def continuation : Reader Unit := do
  char '\\'
  spaces
  newline
  discard (many (discard (takeSome isSpace) <|> newline))

def multiline (quote : Char) (piece : Reader (List Char)) : Reader (List Char) := do
  word (String.ofList [quote, quote, quote])
  discard (optional newline)
  let pieces ← many (piece <|> giving ['\n'] newline <|> innerQuotes quote)
  let last ← closingQuotes quote
  return pieces.flatten ++ last

def multilineBasic : Reader (List Char) :=
  multiline '"' (takeSome isBasic <|> giving [] continuation <|> (fun c => [c]) <$> escape)

def multilineLiteral : Reader (List Char) :=
  multiline '\'' (takeSome isLiteral)

def quotation : Reader (List Char) :=
  multilineBasic <|> basic <|> multilineLiteral <|> literal

end LogDigest.Toml.Grammar
