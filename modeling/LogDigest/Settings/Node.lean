import LogDigest.Text.LowerCase
import LogDigest.Toml.Basic

/-!
# Trees of settings

The tree that settings are read from.  A node knows which source gave it, so that a message can
name the source; a table that was put together from several sources has none.  The entries of a
table have distinct keys.
-/

namespace LogDigest.Settings

inductive Scalar where
  /-- The place of a list item that no source gives. -/
  | nil
  | boolean (value : Bool)
  | integer (value : Int)
  | float (value : Float)
  | text (value : String)

inductive Node where
  | scalar (origin : Option String) (value : Scalar)
  | list (origin : Option String) (items : List Node)
  | table (origin : Option String) (entries : List (String × Node))

namespace Node

def origin : Node → Option String
  | .scalar origin _ => origin
  | .list origin _ => origin
  | .table origin _ => origin

def absent : Node :=
  .scalar none .nil

def empty : Node :=
  .table none []

def entries : Node → List (String × Node)
  | .table _ entries => entries
  | _ => []

def items : Node → List Node
  | .list _ items => items
  | _ => []

def child? (node : Node) (key : String) : Option Node :=
  node.entries.lookup key

def putEntry (key : String) (node : Node) : List (String × Node) → List (String × Node)
  | [] => [(key, node)]
  | (k, n) :: rest => if k = key then (key, node) :: rest else (k, n) :: putEntry key node rest

/-- Sets an entry of a table.  A node that is no table gives way to one. -/
def put (node : Node) (key : String) (value : Node) : Node :=
  match node with
  | .table origin entries => .table origin (putEntry key value entries)
  | _ => .table none [(key, value)]

mutual

/-- Merges a value into an entry of a table, under the lower-case form of its key.  A table is
merged entry by entry, every other value replaces what was there. -/
def assign (node : Node) (key : String) : Node → Node
  | .table _ entries =>
    let key := Text.lowered key
    node.put key (assignAll ((node.child? key).getD empty) entries)
  | value => node.put (Text.lowered key) value

def assignAll (node : Node) : List (String × Node) → Node
  | [] => node
  | (key, value) :: rest => assignAll (assign node key value) rest

end

mutual

def ofToml (origin : Option String) : Toml → Node
  | .text s => .scalar origin (.text s)
  | .integer i => .scalar origin (.integer i)
  | .float x => .scalar origin (.float x)
  | .boolean b => .scalar origin (.boolean b)
  | .moment s => .scalar origin (.text s)
  | .array items => .list origin (itemsOfToml origin items)
  | .table entries => .table origin (entriesOfToml origin entries)

def itemsOfToml (origin : Option String) : List Toml → List Node
  | [] => []
  | item :: rest => ofToml origin item :: itemsOfToml origin rest

def entriesOfToml (origin : Option String) : List (String × Toml) → List (String × Node)
  | [] => []
  | (key, entry) :: rest => (key, ofToml origin entry) :: entriesOfToml origin rest

end

end Node

end LogDigest.Settings
