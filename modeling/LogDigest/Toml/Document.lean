import LogDigest.Text.Basic
import LogDigest.Toml.Basic
import LogDigest.Toml.Moment
import LogDigest.Toml.Value

/-!
# TOML documents

A document is a sequence of statements, each on a line of its own; a line may also be blank or
hold a comment only.  The statements build up one table.

A table whose first key is the tag of moments stands for the moment that this entry spells, and its
other entries do not count.  Every other table stands for itself.
-/

namespace LogDigest.Toml

/-! ## Tagged moments -/

def momentTag : String := "$__toml_private_datetime"

def taggedMoment? : Toml → Option Toml
  | .text spelled =>
    (fun s => moment (String.ofList s)) <$> Grammar.taggedMoment.run? spelled.toList
  | _ => none

mutual

def resolved? : Toml → Option Toml
  | .array items => array <$> resolvedItems? items
  | .table [] => some (.table [])
  | .table ((key, value) :: rest) =>
    if key = momentTag then taggedMoment? value
    else do
      let value ← resolved? value
      return .table ((key, value) :: (← resolvedEntries? rest))
  | value => some value

def resolvedItems? : List Toml → Option (List Toml)
  | [] => some []
  | item :: rest => do return (← resolved? item) :: (← resolvedItems? rest)

def resolvedEntries? : List (String × Toml) → Option (List (String × Toml))
  | [] => some []
  | (key, value) :: rest => do return (key, ← resolved? value) :: (← resolvedEntries? rest)

end

/-! ## Statements -/

open Reader Grammar

inductive Statement where
  | entry (path : List String) (key : String) (value : Toml)
  | table (path : List String) (key : String)
  /-- Adds a table to an array of tables and makes it the current one. -/
  | item (path : List String) (key : String)

namespace Statement

def reader : Reader Statement :=
  (fun (key : List String × String) => item key.1 key.2) <$>
      (word "[[" *> Grammar.key <* word "]]") <|>
    (fun (key : List String × String) => table key.1 key.2) <$>
      (char '[' *> Grammar.key <* char ']') <|>
    (fun (part : (List String × String) × Toml) => entry part.1.1 part.1.2 part.2) <$>
      Grammar.entry (Grammar.value Grammar.maxDepth)

end Statement

/-! ## Lines -/

def lineEnd : Reader Unit := do
  spaces
  discard (optional comment)
  newline <|> atEnd

def line : Reader (Option Statement) :=
  spaces *> (some <$> Statement.reader <* lineEnd <|> giving none lineEnd)

def statements : Reader (List Statement) := do
  return (← many line).filterMap id

structure Progress where
  root : Draft := Draft.fresh
  current : List String := []

def Progress.step (progress : Progress) : Statement → Option Progress
  | .entry path key value => do
    let root ← progress.root.reach .passed (Draft.assign path key value) progress.current
    return { progress with root }
  | .table path key => do
    let root ← progress.root.reach .passed (Draft.openTable key) path
    return { root, current := path ++ [key] }
  | .item path key => do
    let root ← progress.root.reach .passed (Draft.openItem key) path
    return { root, current := path ++ [key] }

def ofStatements? (statements : List Statement) : Option Draft :=
  Progress.root <$> statements.foldlM Progress.step {}

def parse? (source : String) : Option (List (String × Toml)) := do
  let draft ← ofStatements? (← statements.run? (Text.withoutMark source.toList))
  match ← draft.toml.resolved? with
  | .table entries => some entries
  | _ => none

end LogDigest.Toml
