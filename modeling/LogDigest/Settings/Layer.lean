import LogDigest.Environment
import LogDigest.Settings
import LogDigest.Settings.Files
import LogDigest.Toml.Document

/-!
# Layers of settings

A source of settings is a layer of keys with values.  Later layers are merged over earlier ones,
and all of them over the defaults.
-/

namespace LogDigest.Settings

/-- What one source gives: keys, which stand for paths, with their values. -/
abbrev Layer : Type := List (String × Node)

namespace Layer

def ofToml (origin : Option String) (entries : List (String × Toml)) : Layer :=
  Node.entriesOfToml origin entries

def variableStart : String := "kjf_"

def pointed : List Char → List Char
  | '_' :: '_' :: rest => '.' :: pointed rest
  | c :: rest => c :: pointed rest
  | [] => []

/-- The key that a variable sets.  The case of its name does not matter. -/
def variableKey? (name : String) : Option String :=
  let lowered := Text.lower name.toList
  let start := variableStart.toList
  if start.isPrefixOf lowered then
    some (String.ofList (pointed (lowered.drop start.length)))
  else none

/-- The value of a variable: a truth value, an integer of 64 bits, a floating-point number, or
else a text. -/
def variableValue (value : String) : Scalar :=
  let lowered := Text.lowered value
  if lowered = "true" then .boolean true
  else if lowered = "false" then .boolean false
  else match Text.signed64? value.toList with
    | some i => .integer i
    | none =>
      match Decimal.float? value.toList with
      | some x => .float x
      | none => .text value

def ofEnvironment (environment : Environment) : Layer :=
  environment.filterMap fun (name, value) =>
    (variableKey? name).map fun key =>
      (key, .scalar (some "the environment") (variableValue value))

def onto (layer : Layer) (node : Node) : Node :=
  layer.foldl (fun node entry => node.setKey entry.1 entry.2) node

end Layer

def builtIn (value : Scalar) : Node :=
  .scalar none value

def defaults : Node :=
  .table none [
    ("formatter", .table none [("max_depth", builtIn (.integer 64))]),
    ("output", .table none [("mode", builtIn (.text "html")),
      ("passthrough", builtIn (.boolean true))]),
    ("logging", .table none [("level", builtIn (.text "info")),
      ("format", builtIn (.text "pretty"))]),
    ("active_profile", builtIn (.text Profile.defaultId))]

/-- The tree of layers, of which later ones come over earlier ones. -/
def merged (layers : List Layer) : Node :=
  let given := layers.foldl (fun node layer => layer.onto node) Node.empty
  Layer.onto given.entries defaults

def ofLayers (layers : List Layer) : Conversion Settings :=
  ofEntries (merged layers).entries

def ofToml (source : String) : Except SettingsError Settings :=
  match Toml.parse? source with
  | some entries => ofLayers [Layer.ofToml none entries]
  | none => .error (.malformed none)

/-! ## Files -/

/-- The layer of a file of settings; there is nothing in it if there is no such file. -/
def fileLayer (files : Files) (name : String) : Except SettingsError Layer :=
  match files.settings? name with
  | none => .ok []
  | some (path, source) =>
    match Toml.parse? (String.ofList (Text.withoutMark source.toList)) with
    | some entries => .ok (Layer.ofToml (some path) entries)
    | none => .error (.malformed (some path))

def variablesPath : String := ".env"

/-- An environment with the variables of the file that adds to it. -/
def completed (files : Files) (environment : Environment) : Environment :=
  match files variablesPath with
  | some source => environment.addFile source
  | none => environment

def generalName : String := "config/default"

/-- The name of the file of settings for the mode of a run. -/
def modeName (environment : Environment) : String :=
  "config/" ++ (environment.get? "RUN_MODE").getD "development"

/-- The settings of a directory and an environment.  The file of the mode comes over the general
file, and the environment over both. -/
def load (files : Files) (environment : Environment) : Except SettingsError Settings := do
  let environment := completed files environment
  let general ← fileLayer files generalName
  let special ← fileLayer files (modeName environment)
  ofLayers [general, special, Layer.ofEnvironment environment]

end LogDigest.Settings
