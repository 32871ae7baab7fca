import LogDigest.Decimal.Layout
import LogDigest.Settings.KeyPath
import LogDigest.Text.Quoted

/-!
# What is wrong with settings

A value that cannot stand for the plain value that its key wants is reported with its path and its
source.  Where a whole section, a list or one of several choices is wanted, the report names these
instead.
-/

namespace LogDigest

namespace Settings

inductive Found where
  | scalar (value : Scalar)
  | list
  | table

def Node.found : Node → Found
  | .scalar _ value => .scalar value
  | .list _ _ => .list
  | .table _ _ => .table

/-- The name of what was found; `integerName` says what an integer is called. -/
def Found.label (integerName : String) : Found → String
  | .scalar .nil => "unit value"
  | .scalar (.boolean value) => "boolean `" ++ toString value ++ "`"
  | .scalar (.integer value) => integerName ++ " `" ++ toString value ++ "`"
  | .scalar (.float value) =>
    "floating point `" ++ String.ofList (Decimal.text Decimal.messageLayout value) ++ "`"
  | .scalar (.text value) => "string " ++ Text.quoted value
  | .list => "sequence"
  | .table => "map"

inductive Wanted where
  | text
  | boolean
  | integer
  | natural
  deriving DecidableEq, Repr

def Wanted.label : Wanted → String
  | .text => "a string"
  | .boolean => "a boolean"
  | .integer => "an integer"
  | .natural => "an unsigned 64 bit or less integer"

inductive Shape where
  | formatter
  | output
  | logging
  | profile
  | list
  deriving DecidableEq, Repr

def Shape.label : Shape → String
  | .formatter => "struct FormatterConfig"
  | .output => "struct OutputConfig"
  | .logging => "struct LoggingConfig"
  | .profile => "struct ProfileConfig"
  | .list => "a sequence"

end Settings

open Settings in
inductive SettingsError where
  /-- A source, which has a name if it is a file, is no TOML document. -/
  | malformed (file : Option String)
  /-- A value does not convert to what its key wants. -/
  | conversion (found : Found) (wanted : Wanted) (path : List Step) (origin : Option String)
  /-- A value stands where a section or a list is wanted. -/
  | shape (found : Found) (wanted : Shape)
  | missing (field : String)
  /-- A profile in a list has too few items. -/
  | incomplete (length : Nat)
  /-- Fields to show are neither a text nor a list of texts. -/
  | fieldList
  | unknownChoice (choice : String) (given : String)
  /-- A value that is neither a text nor a table of one entry stands where a choice is wanted. -/
  | choiceShape (choice : String)

namespace SettingsError

open Settings

def message : SettingsError → String
  | .malformed none => "the settings are not a TOML document"
  | .malformed (some file) => file ++ " is not a TOML document"
  | .conversion found wanted path origin =>
    "invalid type: " ++ found.label "64-bit integer" ++ ", expected " ++ wanted.label ++
      " for key `" ++ Step.pathText path ++ "`" ++
      match origin with
      | some origin => " in " ++ origin
      | none => ""
  | .shape found wanted =>
    "invalid type: " ++ found.label "integer" ++ ", expected " ++ wanted.label
  | .missing field => "missing field `" ++ field ++ "`"
  | .incomplete length =>
    "invalid length " ++ toString length ++ ", expected struct ProfileConfig with 5 elements"
  | .fieldList => "data did not match any variant of untagged enum FieldList"
  | .unknownChoice choice given =>
    "enum " ++ choice ++ " does not have variant constructor " ++ given
  | .choiceShape choice =>
    "value of enum " ++ choice ++
      " should be represented by either string or table with exactly one key"

def within (step : Step) : SettingsError → SettingsError
  | .conversion found wanted path origin => .conversion found wanted (step :: path) origin
  | error => error

end SettingsError

end LogDigest
