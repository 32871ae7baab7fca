import LogDigest.Text.AlphanumericTable
import LogDigest.Text.Basic
import LogDigest.Text.Reader

/-!
# Environments

The variables of an environment, and the files that add to them.  Such a file holds one assignment
an entry: `name=value`, with blanks around the sign, after the word `export` if one likes.  An
entry is a line, or several if quotes stay open at the end of a line.  The first entry that is no
assignment ends the file.
-/

namespace LogDigest

abbrev Environment : Type := List (String × String)

namespace Environment

def get? (environment : Environment) (name : String) : Option String :=
  environment.lookup name

def add (environment : Environment) (name value : String) : Environment :=
  match environment.get? name with
  | some _ => environment
  | none => environment ++ [(name, value)]

def ofBlock (block : String) : Environment :=
  (block.toList.splitOn '\x00').filterMap fun entry =>
    match entry.dropWhile (· != '=') with
    | _ :: value => some (String.ofList (entry.takeWhile (· != '=')), String.ofList value)
    | [] => none

/-! ## Entries -/

inductive Phase where
  | plain
  | blank
  | escape
  | strong
  | strongEscape
  | weak
  | weakEscape
  | comment
  deriving DecidableEq, Repr

def Phase.next (phase : Phase) (c : Char) : Phase :=
  let opening : Phase :=
    if c = '\\' then .escape
    else if c = '"' then .weak
    else if c = '\'' then .strong
    else .plain
  match phase with
  | .plain => if Text.isBlank c ∧ c ≠ '\n' ∧ c ≠ '\r' then .blank else opening
  | .blank => if c = '#' then .comment else opening
  | .escape => .plain
  | .strong => if c = '\\' then .strongEscape else if c = '\'' then .plain else .strong
  | .strongEscape => .strong
  | .weak => if c = '\\' then .weakEscape else if c = '"' then .plain else .weak
  | .weakEscape => .weak
  | .comment => if c = '\n' then .plain else .comment

/-- The entries of a file, without comments and line breaks; `held` is the start of the current
entry, last character first.  The last entry may be broken off. -/
def entriesFrom (phase : Phase) (held : List Char) : List Char → List (Option (List Char))
  | [] =>
    match phase with
    | .plain => if held.isEmpty then [] else [some held.reverse]
    | .comment => [some held.reverse]
    | _ => [none]
  | c :: rest =>
    let next := if c = '#' ∧ held.all Text.isBlank then .comment else phase.next c
    if next = .comment then entriesFrom next held rest
    else if c = '\n' ∧ next = .plain then
      let entry := match phase, held with
        | .comment, _ => held
        | _, '\r' :: line => line
        | _, line => line
      some entry.reverse :: entriesFrom .plain [] rest
    else entriesFrom next (c :: held) rest

/-! ## Assignments -/

/-- How far a value has been read.  Where double quotes are open around an escape or a reference,
`quoted` says so. -/
inductive ValuePhase where
  | bare
  | weak
  | strong
  | escape (quoted : Bool)
  /-- After a dollar sign, with the name so far, last character first. -/
  | reference (quoted : Bool) (name : List Char)
  /-- After a dollar sign and a brace. -/
  | braced (quoted : Bool) (name : List Char)
  /-- After a blank that ends the value. -/
  | ended

def ValuePhase.within (quoted : Bool) : ValuePhase :=
  if quoted then .weak else .bare

/-- The value of a variable that is referred to by its reversed name. -/
def referenced (environment : Environment) (name : List Char) : List Char :=
  ((environment.get? (String.ofList name.reverse)).getD "").toList

/-- Reads a value; `done` is what it has come to so far, last character first. -/
def valueFrom (environment : Environment) (phase : ValuePhase) (done : List Char) :
    List Char → Option (List Char)
  | [] =>
    match phase with
    | .bare => some done.reverse
    | .ended => some done.reverse
    | .escape false => some done.reverse
    | .reference false name => some (done.reverse ++ environment.referenced name)
    | _ => none
  | c :: rest =>
    match phase with
    | .ended =>
      if c = ' ' ∨ c = '\t' then valueFrom environment .ended done rest
      else if c = '#' then some done.reverse
      else none
    | .escape quoted =>
      if c = 'n' then valueFrom environment (.within quoted) ('\n' :: done) rest
      else if ['\\', '\'', '"', '$', ' '].contains c then
        valueFrom environment (.within quoted) (c :: done) rest
      else none
    | .strong =>
      if c = '\'' then valueFrom environment .bare done rest
      else valueFrom environment .strong (c :: done) rest
    | .reference quoted name =>
      if Text.alphanumerics.contains c then
        valueFrom environment (.reference quoted (c :: name)) done rest
      else if c = '{' ∧ name.isEmpty then valueFrom environment (.braced quoted []) done rest
      else
        let done := (environment.referenced name).reverse ++ done
        if c = '$' then valueFrom environment (.reference quoted []) done rest
        else valueFrom environment (.within quoted) (c :: done) rest
    | .braced quoted name =>
      if c = '}' then
        valueFrom environment (.within quoted) ((environment.referenced name).reverse ++ done) rest
      else valueFrom environment (.braced quoted (c :: name)) done rest
    | .weak =>
      if c = '$' then valueFrom environment (.reference true []) done rest
      else if c = '"' then valueFrom environment .bare done rest
      else if c = '\\' then valueFrom environment (.escape true) done rest
      else valueFrom environment .weak (c :: done) rest
    | .bare =>
      if c = '$' then valueFrom environment (.reference false []) done rest
      else if c = '\'' then valueFrom environment .strong done rest
      else if c = '"' then valueFrom environment .weak done rest
      else if c = '\\' then valueFrom environment (.escape false) done rest
      else if c = ' ' ∨ c = '\t' then valueFrom environment .ended done rest
      else valueFrom environment .bare (c :: done) rest

open Reader in
def name : Reader String := do
  let first ← satisfy fun c => c.isAlpha || c == '_'
  let more ← takeWhile fun c => c.isAlphanum || c == '_' || c == '.'
  return String.ofList (first :: more)

open Reader in
def target : Reader String := do
  let blanks := discard (takeWhile Text.isBlank)
  let exported := word "export" *> blanks *> name <* blanks <* char '='
  name <* blanks <* char '=' <|> exported

/-- The assignment that an entry makes; an entry may also be empty.  Blanks around it do not
count. -/
def assignment? (environment : Environment) (entry : List Char) :
    Option (Option (String × String)) :=
  match Text.trim entry with
  | [] => some none
  | bare => do
    let (name, rest) ← target bare
    let value := Text.trimStart rest
    if value.head? = some '#' then return some (name, "")
    return some (name, String.ofList (← environment.valueFrom .bare [] value))

def addEntries (environment : Environment) : List (Option (List Char)) → Environment
  | some entry :: rest =>
    match environment.assignment? entry with
    | some (some (name, value)) => (environment.add name value).addEntries rest
    | some none => environment.addEntries rest
    | none => environment
  | _ => environment

def addFile (environment : Environment) (source : String) : Environment :=
  environment.addEntries (entriesFrom .plain [] (Text.withoutMark source.toList))

end Environment

end LogDigest
