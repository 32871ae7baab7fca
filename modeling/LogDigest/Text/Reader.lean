/-!
# Readers

A reader takes something off the start of a text.  A reader that fails takes nothing, so that
another can be tried in its place.
-/

namespace LogDigest

abbrev Reader (α : Type) : Type := StateT (List Char) Option α

namespace Reader

variable {α β : Type}

def satisfy (p : Char → Bool) : Reader Char := fun s =>
  match s with
  | c :: rest => if p c then some (c, rest) else none
  | [] => none

def next : Reader Char :=
  satisfy fun _ => true

def char (c : Char) : Reader Unit :=
  discard (satisfy (· == c))

def word (text : String) : Reader Unit := fun s =>
  let expected := text.toList
  if expected.isPrefixOf s then some ((), s.drop expected.length) else none

def takeWhile (p : Char → Bool) : Reader (List Char) := fun s =>
  some (s.takeWhile p, s.dropWhile p)

def takeSome (p : Char → Bool) : Reader (List Char) := fun s =>
  match s.takeWhile p with
  | [] => none
  | taken => some (taken, s.dropWhile p)

def exactly (count : Nat) (p : Char → Bool) : Reader (List Char) := fun s =>
  let taken := s.take count
  if taken.length = count ∧ taken.all p then some (taken, s.drop count) else none

def atEnd : Reader Unit := fun s =>
  if s.isEmpty then some ((), s) else none

def giving (a : α) (reader : Reader β) : Reader α :=
  (fun _ => a) <$> reader

/-- What a reader takes when it is used for as long as it succeeds and takes something. -/
def manyFrom (reader : Reader α) (s : List Char) : List α × List Char :=
  match reader s with
  | none => ([], s)
  | some (a, rest) =>
    if rest.length < s.length then
      let (more, left) := manyFrom reader rest
      (a :: more, left)
    else ([], s)
termination_by s.length

def many (reader : Reader α) : Reader (List α) := fun s =>
  some (manyFrom reader s)

/-- What steps from a state on come to.  A step gives the result or the state after it, and steps go
on only for as long as they take something. -/
def steps {σ : Type} (step : σ → Reader (α ⊕ σ)) (state : σ) : Reader α := fun s =>
  match step state s with
  | none => none
  | some (.inl a, rest) => some (a, rest)
  | some (.inr state, rest) => if rest.length < s.length then steps step state rest else none
termination_by s => s.length

def separated (item : Reader α) (separator : Reader β) : Reader (List α) := do
  let first ← item
  let more ← many (separator *> item)
  return first :: more

def run? (reader : Reader α) (s : List Char) : Option α :=
  match reader s with
  | some (a, []) => some a
  | _ => none

end Reader

end LogDigest
