import LogDigest.Pattern.Escape

/-!
# Sets in patterns

Brackets hold a set of characters: characters, ranges, classes with a name, escapes and sets in
further brackets, side by side for their union, or with a doubled sign between them for another
combination.  A caret at the start negates a set, and hyphens and a closing bracket right after it
are characters.
-/

namespace LogDigest.Pattern

def CharSet.ofAtom? : Atom → Option CharSet
  | .literal c _ => some (.literal c)
  | .shorthand isNegated => some (.shorthand isNegated)
  | _ => none

namespace Grammar

open Reader

structure SetDraft where
  isNegated : Bool
  left : Option CharSet := none
  /-- What stands after it, last first. -/
  items : List CharSet

namespace SetDraft

def add (draft : SetDraft) (set : CharSet) : SetDraft :=
  { draft with items := set :: draft.items }

def members (draft : SetDraft) : CharSet :=
  let right := CharSet.ofList draft.items.reverse
  match draft.left with
  | some left => .combined left right
  | none => right

def combine (draft : SetDraft) : SetDraft :=
  { draft with left := some draft.members, items := [] }

def close (draft : SetDraft) : CharSet :=
  .bracketed draft.isNegated draft.members

end SetDraft

def setStart (isLoose : Bool) : Reader SetDraft := do
  gap isLoose
  let caret ← optional (closed isLoose (char '^'))
  let hyphens ← many (closed isLoose (char '-'))
  let bracket ← if hyphens.isEmpty then optional (closed isLoose (char ']')) else pure none
  let literals := hyphens.map (fun _ => .literal '-') ++ bracket.toList.map fun _ => .literal ']'
  return { isNegated := caret.isSome, items := literals }

def classNames : List String :=
  ["alnum", "alpha", "ascii", "blank", "cntrl", "digit", "graph", "lower", "print", "punct",
    "space", "upper", "word", "xdigit"]

def namedClass : Reader CharSet := do
  char ':'
  let caret ← optional (char '^')
  let name ← takeWhile (· != ':')
  word ":]"
  guard (classNames.contains (String.ofList name))
  return .named caret.isSome

def setAtom (isLoose : Bool) (first : Char) : Reader Atom :=
  if first = '\\' then escape isLoose else return .literal first false

/-- A range or what stands for itself.  A hyphen makes a range unless a closing bracket or another
hyphen follows. -/
def range (isLoose : Bool) (first : Char) : Reader CharSet := do
  let first ← setAtom isLoose first
  gap isLoose
  match ← get with
  | '-' :: rest =>
    if [some ']', some '-'].contains (ahead? isLoose rest) then
      StateT.lift (CharSet.ofAtom? first)
    else
      closed isLoose (char '-')
      match first, ← setAtom isLoose (← next) with
      | .literal first _, .literal last _ => do
        guard (first ≤ last)
        return .range first last
      | _, _ => failure
  | _ => StateT.lift (CharSet.ofAtom? first)

abbrev OpenSets : Type := SetDraft × List SetDraft

def setStep (isLoose : Bool) (open_ : OpenSets) : Reader (CharSet ⊕ OpenSets) := do
  let (draft, outer) := open_
  gap isLoose
  match ← next with
  | '[' =>
    (fun named => .inr (draft.add named, outer)) <$> namedClass <|>
      (fun inner => .inr (inner, draft :: outer)) <$> setStart isLoose
  | ']' =>
    match outer with
    | [] => return .inl draft.close
    | parent :: outer => return .inr (parent.add draft.close, outer)
  | c =>
    if (['&', '-', '~'].contains c && (← get).head? == some c) then
      discard next
      return .inr (draft.combine, outer)
    else return .inr (draft.add (← range isLoose c), outer)

def set (isLoose : Bool) : Reader CharSet := do
  steps (setStep isLoose) (← setStart isLoose, [])

end Grammar

end LogDigest.Pattern
