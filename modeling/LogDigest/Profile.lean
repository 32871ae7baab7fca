import LogDigest.Plan
import LogDigest.Text.AlphanumericTable

/-!
# Profiles

A profile is a plan with an identifier, a name and a description.  Lengths are counted in bytes.
-/

namespace LogDigest

structure Profile where
  id : String
  name : String
  template : Option String := none
  fields : List String := defaultFields
  description : Option String := none
  deriving DecidableEq, Repr

namespace Profile

/-- The identifier of the profile that the general settings make up. -/
def defaultId : String := "default"

inductive Fault where
  | idLength
  | idCharacters
  | nameLength
  | templateLength
  | blankField
  deriving DecidableEq, Repr

def maxIdLength : Nat := 64

def maxNameLength : Nat := 256

def maxTemplateLength : Nat := 4096

/-- The characters of identifiers: letters and numbers of every script, dash and underscore. -/
def isIdChar (c : Char) : Bool :=
  Text.alphanumerics.contains c || c == '-' || c == '_'

def hasLength (text : String) (most : Nat) : Bool :=
  0 < text.utf8ByteSize && text.utf8ByteSize ≤ most

def fault? (profile : Profile) : Option Fault :=
  if !hasLength profile.id maxIdLength then some .idLength
  else if !profile.id.toList.all isIdChar then some .idCharacters
  else if !hasLength profile.name maxNameLength then some .nameLength
  else if profile.template.any fun template => maxTemplateLength < template.utf8ByteSize then
    some .templateLength
  else if profile.fields.any fun field => field.toList.all Text.isBlank then some .blankField
  else none

def plan (profile : Profile) : Plan :=
  ⟨profile.template, profile.fields⟩

end Profile

inductive ProfileError where
  | notFound (id : String)
  | alreadyExists (id : String)
  | invalid (fault : Profile.Fault)
  deriving DecidableEq, Repr

def ProfileError.message : ProfileError → String
  | .notFound id => "Profile not found: " ++ id
  | .alreadyExists id => "Profile already exists: " ++ id
  | .invalid .idLength => "Invalid profile ID: ID must be 1-64 characters"
  | .invalid .idCharacters =>
    "Invalid profile ID: ID must contain only alphanumeric, dash, or underscore"
  | .invalid .nameLength => "Invalid profile: Name must be 1-256 characters"
  | .invalid .templateLength => "Invalid profile: Template must be at most 4096 characters"
  | .invalid .blankField => "Invalid profile: Summary fields must not be blank"

end LogDigest
