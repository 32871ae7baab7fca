import LogDigest.Decimal.Reading
import LogDigest.Pattern.CharSet
import LogDigest.Pattern.Group

/-!
# Reading patterns

A pattern is read from left to right.  Groups that are not closed yet are kept as levels, each with
its earlier branches, the parts of its current branch and the mode that holds there.
-/

namespace LogDigest.Pattern

namespace Grammar

open Reader

/-! ## Counts -/

def decimal (isLoose : Bool) : Reader Nat := do
  discard (takeWhile Text.isBlank)
  let digits ← many (closed isLoose (satisfy Char.isDigit))
  discard (takeWhile Text.isBlank)
  let n := LogDigest.Decimal.digitsValue digits
  guard (!digits.isEmpty && n < UInt32.size)
  return n

def count (isLoose : Bool) : Reader Count := do
  gap isLoose
  let least ← decimal isLoose
  if (← optional (closed isLoose (char ','))).isSome then
    if (← optional (char '}')).isSome then return ⟨least, none⟩
    else
      let most ← decimal isLoose
      char '}'
      guard (least ≤ most)
      return ⟨least, some most⟩
  else
    char '}'
    return ⟨least, some least⟩

/-! ## Levels -/

/-- A group, or the whole pattern, of which a part is read.  What was read last comes first. -/
structure Level where
  mode : Mode := {}
  branches : List Pattern := []
  parts : List Pattern := []

namespace Level

def add (level : Level) (part : Pattern) : Level :=
  { level with parts := part :: level.parts }

def branch (level : Level) : Pattern :=
  ofParts level.parts.reverse

def fork (level : Level) : Level :=
  { level with branches := level.branch :: level.branches, parts := [] }

def body (level : Level) : Pattern :=
  match level.branches with
  | [] => level.branch
  | branches => choice (level.branch :: branches).reverse

/-- Repeats the last part, unless there is none or only switches. -/
def repeatLast? (level : Level) (count : Count) : Option Level :=
  match level.parts with
  | [] => none
  | turn :: _ => none
  | part :: parts => some { level with parts := repetition count part :: parts }

end Level

/-! ## Drafts -/

structure Draft where
  level : Level := {}
  outer : List Level := []
  names : List (List Char) := []

namespace Draft

def isLoose (draft : Draft) : Bool :=
  draft.level.mode.isLoose

def add (draft : Draft) (part : Pattern) : Draft :=
  { draft with level := draft.level.add part }

def addAtom (draft : Draft) (part : Atom) : Draft :=
  draft.add (.atom draft.level.mode part)

def enter (draft : Draft) (mode : Mode) : Draft :=
  { draft with level := { mode }, outer := draft.level :: draft.outer }

def open? (draft : Draft) : Opening → Option Draft
  | .group none => some (draft.enter draft.level.mode)
  | .group (some name) =>
    if draft.names.contains name then none
    else some { draft.enter draft.level.mode with names := name :: draft.names }
  | .switchedGroup switches => some (draft.enter (draft.level.mode.switched switches))
  | .switches switches =>
    let level := draft.level.add turn
    some { draft with level := { level with mode := level.mode.switched switches } }

def close? (draft : Draft) : Option Draft :=
  match draft.outer with
  | [] => none
  | level :: outer => some { draft with level := level.add (group draft.level.body), outer }

/-- The draft with its last part repeated; a question mark behind the count only says how eagerly
to match. -/
def repeated (draft : Draft) (count : Count) : Reader Draft := do
  discard (optional (char '?'))
  let level ← StateT.lift (draft.level.repeatLast? count)
  return { draft with level }

def finish? (draft : Draft) : Option Pattern :=
  if draft.outer.isEmpty then some draft.level.body else none

end Draft

/-! ## Patterns -/

def part (draft : Draft) : Char → Reader Draft
  | '(' => do StateT.lift (draft.open? (← opening draft.isLoose))
  | ')' => StateT.lift draft.close?
  | '|' => return { draft with level := draft.level.fork }
  | '[' => do return draft.add (.set draft.level.mode (← set draft.isLoose))
  | '?' => draft.repeated ⟨0, some 1⟩
  | '*' => draft.repeated ⟨0, none⟩
  | '+' => draft.repeated ⟨1, none⟩
  | '{' => do
    let count ← count draft.isLoose
    gap draft.isLoose
    draft.repeated count
  | '.' => return draft.addAtom .anyChar
  | '^' => return draft.addAtom .border
  | '$' => return draft.addAtom .border
  | '\\' => do return draft.addAtom (← escape draft.isLoose)
  | c => return draft.addAtom (.literal c false)

def patternStep (draft : Draft) : Reader (Pattern ⊕ Draft) := do
  gap draft.isLoose
  match ← get with
  | [] => .inl <$> StateT.lift draft.finish?
  | _ => .inr <$> part draft (← next)

def pattern : Reader Pattern :=
  steps patternStep {}

end Grammar

def ofText? (text : List Char) : Option Pattern :=
  Grammar.pattern.run? text

end LogDigest.Pattern
