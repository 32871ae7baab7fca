import LogDigest.Pattern.Basic
import LogDigest.Text.Number

/-!
# Escapes in patterns

A backslash gives a letter a meaning and takes it from a sign.  Digits stand for nothing there,
since a pattern does not refer to its own groups, and no properties of characters are known by
name.
-/

namespace LogDigest.Pattern.Grammar

open Reader

/-- A character by its number in hexadecimal digits: a fixed count of them, or any in braces. -/
def numbered (isLoose : Bool) (count : Nat) : Reader Atom := do
  let digit := satisfy Text.isHexDigit
  gap isLoose
  if (← optional (closed isLoose (char '{'))).isSome then
    let digits ← many (closed isLoose digit)
    char '}'
    guard (!digits.isEmpty)
    return .literal (← StateT.lift (Text.hexChar? digits)) false
  else
    let first ← digit
    let more ← (List.replicate (count - 1) ()).mapM fun _ => gap isLoose *> digit
    return .literal (← StateT.lift (Text.hexChar? (first :: more))) (count == 2)

def wordBorderNames : List String :=
  ["start", "end", "start-half", "end-half"]

/-- A border of a word, from after its letter.  Braces that do not start with a letter or a hyphen
do not belong to it. -/
def wordBorder (isLoose : Bool) : Reader Atom := do
  let isNameChar (c : Char) : Bool := c.isAlpha || c == '-'
  match ← get with
  | '{' :: inside =>
    let next ← StateT.lift (if isLoose then afterGap false inside else inside).head?
    if isNameChar next then
      closed isLoose (char '{')
      let name ← many (closed isLoose (satisfy isNameChar))
      char '}'
      guard (wordBorderNames.contains (String.ofList name))
  | _ => pure ()
  return .wordBorder

def escape (isLoose : Bool) : Reader Atom := do
  match ← next with
  | 'x' => numbered isLoose 2
  | 'u' => numbered isLoose 4
  | 'U' => numbered isLoose 8
  | 'a' => return .literal '\x07' false
  | 'f' => return .literal '\x0c' false
  | 'n' => return .literal '\n' false
  | 'r' => return .literal '\r' false
  | 't' => return .literal '\t' false
  | 'v' => return .literal '\x0b' false
  | 'A' | 'z' => return .border
  | 'b' => wordBorder isLoose
  | 'B' | '<' | '>' => return .wordBorder
  | 'd' | 's' | 'w' => return .shorthand false
  | 'D' | 'S' | 'W' => return .shorthand true
  | c => do
    guard (isAscii c && !c.isAlphanum)
    return .literal c false

end LogDigest.Pattern.Grammar
