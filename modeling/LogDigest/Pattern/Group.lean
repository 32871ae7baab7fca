import LogDigest.Pattern.Basic
import LogDigest.Text.NumeralTable

/-!
# Groups in patterns

A group may start with a name in angle brackets, or with switches that turn modes on, and after a
hyphen off, from there to its end.  Switches without a group hold to the end of the group around
them.
-/

namespace LogDigest.Pattern

/-! ## Switches -/

/-- The letters that switch a mode; the others of them have no bearing on what is usable. -/
def switchLetters : List Char :=
  ['i', 'm', 's', 'u', 'R', 'U', 'x']

abbrev Switches : Type := List Char

def Switches.state? (switches : Switches) (letter : Char) : Option Bool :=
  if switches.contains letter then some ((switches.takeWhile (· != '-')).contains letter)
  else none

def Mode.switched (mode : Mode) (switches : Switches) : Mode where
  foldsCase := (switches.state? 'i').getD mode.foldsCase
  isUnicode := (switches.state? 'u').getD mode.isUnicode
  isLoose := (switches.state? 'x').getD mode.isLoose

namespace Grammar

open Reader

/-- Switches, of which each stands once, with no hyphen at the end. -/
def switches : Reader Switches := do
  let switches ← takeWhile fun c => switchLetters.contains c || c == '-'
  guard (switches.eraseDups.length = switches.length ∧ switches.getLast? ≠ some '-')
  return switches

/-! ## Names -/

def isNameStart (c : Char) : Bool :=
  c == '_' || Text.isLetter c

def isNameChar (c : Char) : Bool :=
  ['_', '.', '[', ']'].contains c || Text.alphanumerics.contains c

def groupName : Reader (List Char) := do
  let first ← satisfy isNameStart
  let more ← takeWhile isNameChar
  char '>'
  return first :: more

/-! ## Openings -/

inductive Opening where
  | group (name : Option (List Char))
  | switchedGroup (switches : Switches)
  | switches (switches : Switches)

def opening (isLoose : Bool) : Reader Opening := do
  gap isLoose
  if (← optional (word "?P<" <|> word "?<")).isSome then
    return .group (some (← groupName))
  else if (← optional (char '?')).isSome then
    let switches ← switches
    match ← next with
    | ':' => return .switchedGroup switches
    | ')' => guard (!switches.isEmpty) *> return .switches switches
    | _ => failure
  else return .group none

end Grammar

end LogDigest.Pattern
