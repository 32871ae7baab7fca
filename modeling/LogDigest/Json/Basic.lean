/-!
# JSON values

Objects list their members in ascending order of keys, each key once: `Json.ofMembers` is the
only way a document is given its objects, and of two members with one key it keeps the later.
-/

namespace LogDigest

/-- A number keeps whether it was a whole number of at most 64 bits. -/
inductive JsonNumber where
  | integer (value : Int)
  | float (value : Float)

inductive Json where
  | null
  | bool (value : Bool)
  | number (value : JsonNumber)
  | string (value : String)
  | array (items : List Json)
  | object (members : List (String × Json))

namespace Json

/-- Puts a member into an ascending list of members, in place of one with the same key. -/
def insertMember (key : String) (value : Json) :
    List (String × Json) → List (String × Json)
  | [] => [(key, value)]
  | (k, v) :: rest =>
    if key < k then (key, value) :: (k, v) :: rest
    else if key = k then (key, value) :: rest
    else (k, v) :: insertMember key value rest

def ofMembers (members : List (String × Json)) : Json :=
  .object (members.foldl (fun sorted member => insertMember member.1 member.2 sorted) [])

def members : Json → List (String × Json)
  | .object members => members
  | _ => []

def get? (doc : Json) (key : String) : Option Json :=
  doc.members.lookup key

def isContainer : Json → Bool
  | .array _ => true
  | .object _ => true
  | _ => false

end Json

end LogDigest
