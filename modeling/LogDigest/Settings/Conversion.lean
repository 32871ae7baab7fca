import LogDigest.Decimal.Reading
import LogDigest.Plan
import LogDigest.Settings.Error

/-!
# Conversions

How the value of a node stands for what a key wants.  Scalars convert freely into each other, as
far as they have a meaning there; lists and tables do not convert to scalars.
-/

namespace LogDigest.Settings

abbrev Conversion (α : Type) : Type := Except SettingsError α

namespace Node

def mistyped {α : Type} (node : Node) (wanted : Wanted) : Conversion α :=
  .error (.conversion node.found wanted [] node.origin)

def toText (node : Node) : Conversion String :=
  match node with
  | .scalar _ (.text value) => .ok value
  | .scalar _ (.boolean value) => .ok (toString value)
  | .scalar _ (.integer value) => .ok (toString value)
  | .scalar _ (.float value) => .ok (String.ofList (Decimal.text Decimal.plainLayout value))
  | node => node.mistyped .text

/-- The text that a node stands for, unless it is absent. -/
def toOptionalText (node : Node) : Conversion (Option String) :=
  match node with
  | .scalar _ .nil => .ok none
  | node => some <$> node.toText

def affirmations : List String :=
  ["true", "on", "yes"]

def negations : List String :=
  ["false", "off", "no"]

/-- The truth value that a node stands for.  Words count in any case. -/
def toBoolean (node : Node) : Conversion Bool :=
  match node with
  | .scalar _ (.boolean value) => .ok value
  | .scalar _ (.integer value) => .ok (value != 0)
  | .scalar _ (.float value) => .ok (value != 0)
  | .scalar origin (.text value) =>
    let word := Text.lowered value
    if word = "1" ∨ word ∈ affirmations then .ok true
    else if word = "0" ∨ word ∈ negations then .ok false
    else (Node.scalar origin (.text word)).mistyped .boolean
  | node => node.mistyped .boolean

/-- The natural number of 64 bits that a node stands for.  A floating-point number is rounded, a
half away from zero, and cut to the range. -/
def toNatural (node : Node) : Conversion Nat :=
  match node with
  | .scalar _ (.boolean value) => .ok value.toNat
  | .scalar _ (.integer value) =>
    if value < 0 then node.mistyped .natural else .ok value.toNat
  | .scalar _ (.float value) => .ok value.round.toUInt64.toNat
  | .scalar _ (.text value) =>
    let word := Text.lowered value
    if word ∈ affirmations then .ok 1
    else if word ∈ negations then .ok 0
    else match Text.unsigned64? value.toList with
      | some n => .ok n
      | none => node.mistyped .integer
  | node => node.mistyped .integer

def texts? : List Node → Option (List String)
  | [] => some []
  | .scalar _ (.text value) :: rest => (texts? rest).map (value :: ·)
  | _ :: _ => none

/-- The names that a list of names stands for: blanks around names and empty names do not
count. -/
def listedNames (names : List String) : List String :=
  (names.map Text.trimmed).filter (· != "")

/-- The fields that a node names: a text with commas, or a list of texts. -/
def toFieldNames (node : Node) : Conversion (List String) :=
  match node with
  | .scalar _ (.text value) => .ok (fieldNames value)
  | .list _ items =>
    match texts? items with
    | some names => .ok (listedNames names)
    | none => .error .fieldList
  | _ => .error .fieldList

/-- The choice that a node makes: a text, or the only key of a table.  Case does not matter. -/
def toChoice {α : Type} (choice : String) (options : List (String × α)) (node : Node) :
    Conversion α :=
  let named (given : String) : Conversion α :=
    match options.lookup (Text.lowered given) with
    | some a => .ok a
    | none => .error (.unknownChoice choice given)
  match node with
  | .scalar _ (.text given) => named given
  | .table _ [(given, _)] => named given
  | _ => .error (.choiceShape choice)

end Node

/-! ## Sections -/

abbrev Section : Type := List (String × Step × Node)

namespace Section

def ofEntries (names : List String) (entries : List (String × Node)) : Section :=
  names.filterMap fun name => (entries.lookup name).map fun node => (name, .key name, node)

/-- The fields that a node gives: those of a table by name, those of a list by position.  Other
items do not matter. -/
def ofNode (shape : Shape) (names : List String) : Node → Conversion Section
  | .table _ entries => .ok (ofEntries names entries)
  | .list _ items =>
    .ok ((names.zip items).mapIdx fun i (name, node) => (name, .index i, node))
  | node => .error (.shape node.found shape)

def read {α : Type} (fields : Section) (name : String) (default : α)
    (convert : Node → Conversion α) : Conversion α :=
  match fields.lookup name with
  | some (step, node) => (convert node).mapError (SettingsError.within step)
  | none => .ok default

end Section

def itemsFrom {α : Type} (convert : Node → Conversion α) (position : Nat) :
    List Node → Conversion (List α)
  | [] => .ok []
  | node :: rest => do
    let item ← (convert node).mapError (SettingsError.within (.index position))
    return item :: (← itemsFrom convert (position + 1) rest)

end LogDigest.Settings
