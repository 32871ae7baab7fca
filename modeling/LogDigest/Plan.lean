import LogDigest.Json.Members
import LogDigest.Text.Basic

/-!
# Plans

A plan says what to show of a document: a template if there is one that applies, and otherwise
the values of some of its top-level fields.
-/

namespace LogDigest

def defaultFields : List String :=
  ["message", "msg", "level", "error"]

structure Plan where
  template : Option String := none
  fields : List String := defaultFields
  deriving DecidableEq, Repr

/-- The names of a field list written with commas; blanks around names and empty names do not
count. -/
def fieldNames (raw : String) : List String :=
  ((raw.toList.splitOn ',').map Text.trim).filterMap fun name =>
    if name.isEmpty then none else some (String.ofList name)

namespace Plan

def templateOf? : Json → Option (Option String)
  | .null => some none
  | .string text => some (some text)
  | _ => none

def texts? : List Json → Option (List String)
  | [] => some []
  | .string text :: rest => (texts? rest).map (text :: ·)
  | _ => none

def fieldsOf? : Json → Option (List String)
  | .array items => texts? items
  | _ => none

/-- The plan that the members of an object describe.  Either part may be left out but not be
given twice; other members do not matter. -/
def ofMembers? (members : List (String × Option Json)) : Option Plan := do
  let given := fun key => (members.filter (·.1 == key)).map (·.2)
  let template ← match given "template" with
    | [] => some none
    | [value] => value.bind templateOf?
    | _ => none
  let fields ← match given "fields" with
    | [] => some defaultFields
    | [value] => value.bind fieldsOf?
    | _ => none
  return { template, fields }

def ofItems? : List Json → Option Plan
  | [] => some {}
  | [template] => (templateOf? template).map fun template => { template }
  | [template, fields] => do
    return { template := ← templateOf? template, fields := ← fieldsOf? fields }
  | _ => none

def parse? (text : String) : Option Plan :=
  match Json.readMembers? text.toList with
  | some members => ofMembers? members
  | none =>
    match Json.parse? text with
    | some (.array items) => ofItems? items
    | _ => none

end Plan

end LogDigest
