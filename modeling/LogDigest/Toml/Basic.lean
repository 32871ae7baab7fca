/-!
# TOML values

Dates and times are kept as their text.  The entries of a table have distinct keys.

The entries of a table may come from several places of a document: its own header, the headers of
tables below it, and dotted keys.  A draft remembers which of them a table comes from, because
they exclude each other: a table has at most one header, a table made by dotted keys has none, and
dotted keys do not add to a table with a header of its own.
-/

namespace LogDigest

inductive Toml where
  | text (value : String)
  | integer (value : Int)
  | float (value : Float)
  | boolean (value : Bool)
  | moment (text : String)
  | array (items : List Toml)
  | table (entries : List (String × Toml))

namespace Toml

/-! ## Tables in the making -/

inductive Standing where
  /-- From a header of its own, or as the root of a document. -/
  | header
  /-- From the headers of tables below it. -/
  | passed
  /-- From dotted keys. -/
  | dotted
  deriving DecidableEq, Repr

inductive Draft where
  | value (value : Toml)
  | table (standing : Standing) (entries : List (String × Draft))
  /-- The tables of an array of tables, last first. -/
  | tables (items : List Draft)

namespace Draft

def fresh : Draft :=
  .table .header []

def put (key : String) (entry : Draft) : List (String × Draft) → List (String × Draft)
  | [] => [(key, entry)]
  | (k, e) :: rest => if k = key then (key, entry) :: rest else (k, e) :: put key entry rest

def admits (manner : Standing) : Draft → Bool
  | .value _ => false
  | .table standing _ => manner != .dotted || standing != .header
  | .tables _ => true

/-- Changes the table that keys lead to.  Tables that are not there yet are made; in an array of
tables the way goes through its last one. -/
def reach (manner : Standing) (edit : Draft → Option Draft) :
    List String → Draft → Option Draft
  | [], draft => edit draft
  | key :: path, .table standing entries => do
    let next := (entries.lookup key).getD (.table manner [])
    guard (next.admits manner)
    let edited ← match next with
      | .tables (last :: earlier) =>
        (fun last => tables (last :: earlier)) <$> reach manner edit path last
      | next => reach manner edit path next
    return .table standing (put key edited entries)
  | _ :: _, _ => none

/-- Gives a header to an entry of a table, which then counts as its latest entry. -/
def openTable (key : String) : Draft → Option Draft
  | .table standing entries =>
    match entries.lookup key with
    | none => some (.table standing (put key fresh entries))
    | some (.table .passed below) =>
      some (.table standing (entries.filter (·.1 != key) ++ [(key, .table .header below)]))
    | some _ => none
  | _ => none

def openItem (key : String) : Draft → Option Draft
  | .table standing entries =>
    match entries.lookup key with
    | none => some (.table standing (put key (.tables [fresh]) entries))
    | some (.tables items) =>
      some (.table standing (put key (.tables (fresh :: items)) entries))
    | some _ => none
  | _ => none

/-- Sets an entry that a table does not have yet.  The table must stem from dotted keys if the
entry does, and must not otherwise. -/
def set (key : String) (leaf : Toml) (isDotted : Bool) : Draft → Option Draft
  | .table standing entries =>
    if (standing == .dotted) == isDotted && (entries.lookup key).isNone then
      some (.table standing (put key (.value leaf) entries))
    else none
  | _ => none

def assign (path : List String) (key : String) (leaf : Toml) : Draft → Option Draft :=
  reach .dotted (set key leaf !path.isEmpty) path

mutual

def toml : Draft → Toml
  | .value leaf => leaf
  | .table _ entries => .table (entriesToml entries)
  | .tables items => .array (itemsToml items).reverse

def entriesToml : List (String × Draft) → List (String × Toml)
  | [] => []
  | (key, entry) :: rest => (key, toml entry) :: entriesToml rest

def itemsToml : List Draft → List Toml
  | [] => []
  | item :: rest => toml item :: itemsToml rest

end

end Draft

end Toml

end LogDigest
