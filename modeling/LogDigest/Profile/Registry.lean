import LogDigest.Profile

/-!
# The registry of profiles

A registry is a store of profiles by key.  Profiles are added under their identifiers; what was
added is never changed or removed.
-/

namespace LogDigest

/-- The profiles stored so far, each with its key, in the order in which the keys came. -/
structure Registry where
  entries : List (String × Profile) := []

namespace Registry

def size (registry : Registry) : Nat :=
  registry.entries.length

def get? (registry : Registry) (key : String) : Option Profile :=
  registry.entries.lookup key

/-- Stores a profile in a list of entries, in place of one with the same key. -/
def putEntry (key : String) (profile : Profile) :
    List (String × Profile) → List (String × Profile)
  | [] => [(key, profile)]
  | (k, p) :: rest =>
    if k = key then (key, profile) :: rest else (k, p) :: putEntry key profile rest

def put (registry : Registry) (key : String) (profile : Profile) : Registry :=
  ⟨putEntry key profile registry.entries⟩

/-- A use of a registry, which may change the registry and may fail.  What was changed before a
failure stays changed. -/
abbrev Access (α : Type) : Type := ExceptT ProfileError (StateM Registry) α

/-- Adds a profile and gives it back.  What is wrong with the profile itself comes before a clash
of identifiers. -/
def create (profile : Profile) : Access Profile := do
  match profile.fault? with
  | some fault => throw (.invalid fault)
  | none =>
    let registry ← getThe Registry
    match registry.get? profile.id with
    | some _ => throw (.alreadyExists profile.id)
    | none =>
      set (registry.put profile.id profile)
      return profile

/-- The profile with an identifier, or the error that there is none. -/
def get (registry : Registry) (id : String) : Except ProfileError Profile :=
  match registry.get? id with
  | some profile => .ok profile
  | none => .error (.notFound id)

def add (registry : Registry) (profile : Profile) : Except ProfileError Registry :=
  match (create profile).run.run registry with
  | (.ok _, registry) => .ok registry
  | (.error error, _) => .error error

def addAll (registry : Registry) : List Profile → Except ProfileError Registry
  | [] => .ok registry
  | profile :: rest =>
    match registry.add profile with
    | .ok registry => registry.addAll rest
    | .error error => .error error

end Registry

end LogDigest
