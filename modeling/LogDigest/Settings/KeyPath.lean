import LogDigest.Settings.Node
import LogDigest.Text.Number
import LogDigest.Text.Reader

/-!
# Key paths

The keys at the top of a source are paths: a point leads to an entry of a table and a number in
brackets to an item of a list, where negative numbers count from the end.  A key that does not
read as a path stands for itself.
-/

namespace LogDigest.Settings

inductive Step where
  | key (name : String)
  | index (position : Int)
  deriving DecidableEq, Repr

/-- The text of a path.  A point stands before a name, unless the name comes first or after a
position. -/
def Step.pathText : List Step → String
  | [] => ""
  | .key name :: .key next :: rest => name ++ "." ++ pathText (.key next :: rest)
  | .key name :: rest => name ++ pathText rest
  | .index position :: rest => "[" ++ toString position ++ "]" ++ pathText rest

/-- A path from the top of a tree: the steps to the node that holds the target, and the step from
there to the target. -/
structure KeyPath where
  way : List Step := []
  last : Step
  deriving DecidableEq, Repr

namespace KeyPath

def ofSteps (first : Step) : List Step → KeyPath
  | [] => { last := first }
  | next :: rest =>
    let path := ofSteps next rest
    { path with way := first :: path.way }

open Reader

def isNameChar (c : Char) : Bool :=
  c.isAlphanum || c == '_' || c == '-' || c == ' '

def name : Reader Step :=
  (fun name => .key (String.ofList name)) <$> takeSome isNameChar

def position : Reader Step := do
  let blanks := discard (takeWhile fun c => c == ' ' || c == '\t')
  char '['
  blanks
  let sign ← optional (char '-')
  let digits ← takeSome Char.isDigit
  blanks
  char ']'
  .index <$> StateT.lift (Text.signed64? (if sign.isSome then '-' :: digits else digits))

def reader : Reader KeyPath := do
  return ofSteps (← name) (← many (char '.' *> name <|> position))

def ofKey (key : String) : KeyPath :=
  (reader.run? key.toList).getD { last := .key key }

end KeyPath

namespace Node

def place (number : Int) (length : Nat) : Nat :=
  if number < 0 then length - number.natAbs else number.toNat

def item (node : Node) (number : Int) : Node :=
  node.items.getD (place number node.items.length) absent

/-- Sets the item of a list at a number; the list is filled up to there with absent items.  A node
that is no list gives way to one. -/
def putItem (node : Node) (number : Int) (value : Node) : Node :=
  let place := place number node.items.length
  let origin := match node with
    | .list origin _ => origin
    | _ => none
  .list origin (node.items.take place ++ List.replicate (place - node.items.length) absent ++
    value :: node.items.drop (place + 1))

/-- Changes the node at the end of some steps.  Names count as they are written, and nodes that do
not have the shape for a step give way. -/
def reach (edit : Node → Node) : List Step → Node → Node
  | [], node => edit node
  | .key name :: steps, node =>
    node.put name (reach edit steps ((node.child? name).getD absent))
  | .index number :: steps, node =>
    node.putItem number (reach edit steps (node.item number))

/-- Sets what one step leads to.  An entry is merged into what is there, an item replaces it. -/
def set (node : Node) (step : Step) (value : Node) : Node :=
  match step with
  | .key name => node.assign name value
  | .index number => node.putItem number value

def setKey (node : Node) (key : String) (value : Node) : Node :=
  let path := KeyPath.ofKey key
  node.reach (fun holder => holder.set path.last value) path.way

end Node

end LogDigest.Settings
