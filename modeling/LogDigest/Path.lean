import LogDigest.Json.Printer
import LogDigest.Template.Reference
import LogDigest.Text.LowerCase
import LogDigest.Text.Number

/-!
# Paths into documents

A path names a field of a document by segments between dots.  Documents may nest a field or
write its dotted name as one key, at any level, so that every run of segments may be a key.  A
key equal to the whole path wins at the top.  Otherwise the path is followed step by step: at an
object shorter runs of segments come before longer ones, for one run the exact key comes before
those that differ in letter case, and a dead end goes back to the next choice.
-/

namespace LogDigest

/-- The text that shows a value: strings as they are, everything else as compact JSON. -/
def Json.display : Json → String
  | .string value => value
  | doc => doc.compact

namespace Path

def wrapped? (s : List Char) : Option (List Char) :=
  match Template.reference? s with
  | some ((_, path), []) => some path
  | _ => none

/-- A path without surrounding blanks, and without the reference it may still be wrapped in. -/
def normalize (raw : List Char) : List Char :=
  let bare := Text.trim raw
  match wrapped? bare with
  | some path => Text.trim path
  | none => bare

def segments (path : List Char) : List (List Char) :=
  path.splitOn '.'

def keyOf (names : List (List Char)) : String :=
  String.ofList (['.'].intercalate names)

/-- The ways to split a list after a non-empty beginning, the shortest beginning first. -/
def splits {α : Type} : List α → List (List α × List α)
  | [] => []
  | x :: rest => ([x], rest) :: (splits rest).map fun (front, back) => (x :: front, back)

/-- The values of the members that a key names: the exact member first, then in order those
whose keys differ from it in letter case only. -/
def candidates (members : List (String × Json)) (key : String) : List Json :=
  let folded := Text.lower key.toList
  (members.lookup key).toList ++
    (members.filter fun (k, _) => k != key && Text.lower k.toList == folded).map (·.2)

def index? (s : List Char) : Option Nat :=
  Text.unsigned64? s

def descend : (steps : Nat) → Json → List (List Char) → Option Json
  | _, value, [] => some value
  | 0, _, _ :: _ => none
  | steps + 1, .array items, name :: rest =>
    match index? name with
    | some i =>
      match items[i]? with
      | some item => descend steps item rest
      | none => none
    | none => none
  | steps + 1, .object members, name :: rest =>
    (splits (name :: rest)).findSome? fun (names, rest) =>
      (candidates members (keyOf names)).findSome? fun child => descend steps child rest
  | _, _, _ :: _ => none

end Path

/-- The value that a path names in a document, reached in at most `depth` steps. -/
def Json.find? (doc : Json) (path : String) (depth : Nat) : Option Json :=
  let bare := Path.normalize path.toList
  match doc.get? (String.ofList bare) with
  | some value => some value
  | none => Path.descend depth doc (Path.segments bare)

end LogDigest
