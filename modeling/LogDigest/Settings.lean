import LogDigest.Profile.Registry
import LogDigest.Settings.Conversion
import LogDigest.Stream.Line

/-!
# Settings

The settings of a run: what to show of documents, how to present lines, what to log, and further
profiles.  They are decoded from a tree; a field that the tree does not give has its default.
-/

namespace LogDigest

namespace Settings

/-- What to show of documents, and how deep paths may descend. -/
structure Formatter where
  template : Option String := none
  fields : List String := defaultFields
  depth : Nat := 64
  deriving DecidableEq, Repr

structure Output where
  medium : Medium := .html
  showDetails : Bool := false
  passthrough : Bool := true
  /-- Whether the tally is reported at the end. -/
  reportMetrics : Bool := false
  deriving DecidableEq, Repr

inductive LogFormat where
  | pretty
  | json
  deriving DecidableEq, Repr

structure Logging where
  level : String := "info"
  format : LogFormat := .pretty
  deriving DecidableEq, Repr

end Settings

open Settings in
structure Settings where
  formatter : Formatter := {}
  output : Output := {}
  logging : Logging := {}
  /-- The profiles besides the default one. -/
  profiles : List Profile := []
  activeProfile : String := Profile.defaultId
  deriving DecidableEq, Repr

namespace Settings

/-! ## Decoding -/

def Formatter.ofNode (node : Node) : Conversion Formatter := do
  let fields ← Section.ofNode .formatter ["template", "summary_fields", "max_depth"] node
  return {
    template := ← fields.read "template" none Node.toOptionalText
    fields := ← fields.read "summary_fields" defaultFields Node.toFieldNames
    depth := ← fields.read "max_depth" 64 Node.toNatural }

def mediaNames : List (String × Medium) :=
  [("html", .html), ("plain", .plain)]

def Output.ofNode (node : Node) : Conversion Output := do
  let fields ← Section.ofNode .output
    ["mode", "show_details", "passthrough", "report_metrics"] node
  return {
    medium := ← fields.read "mode" .html (Node.toChoice "OutputMode" mediaNames)
    showDetails := ← fields.read "show_details" false Node.toBoolean
    passthrough := ← fields.read "passthrough" true Node.toBoolean
    reportMetrics := ← fields.read "report_metrics" false Node.toBoolean }

def formatNames : List (String × LogFormat) :=
  [("pretty", .pretty), ("json", .json)]

def Logging.ofNode (node : Node) : Conversion Logging := do
  let fields ← Section.ofNode .logging ["level", "format"] node
  return {
    level := ← fields.read "level" "info" Node.toText
    format := ← fields.read "format" .pretty (Node.toChoice "LogFormat" formatNames) }

def required (node : Node) (field : String) (value : Option String) : Conversion String :=
  match value, node with
  | some value, _ => .ok value
  | none, .list _ items => .error (.incomplete items.length)
  | none, _ => .error (.missing field)

def profileOfNode (node : Node) : Conversion Profile := do
  let fields ← Section.ofNode .profile
    ["id", "name", "template", "summary_fields", "description"] node
  let id ← fields.read "id" none fun node => some <$> node.toText
  let name ← fields.read "name" none fun node => some <$> node.toText
  let template ← fields.read "template" none Node.toOptionalText
  let shown ← fields.read "summary_fields" defaultFields Node.toFieldNames
  let description ← fields.read "description" none Node.toOptionalText
  return {
    id := ← required node "id" id
    name := ← required node "name" name
    template, fields := shown, description }

def profilesOfNode (node : Node) : Conversion (List Profile) :=
  match node with
  | .list _ items => itemsFrom profileOfNode 0 items
  | node => .error (.shape node.found .list)

def ofEntries (entries : List (String × Node)) : Conversion Settings := do
  let fields := Section.ofEntries
    ["formatter", "output", "logging", "profiles", "active_profile"] entries
  return {
    formatter := ← fields.read "formatter" {} Formatter.ofNode
    output := ← fields.read "output" {} Output.ofNode
    logging := ← fields.read "logging" {} Logging.ofNode
    profiles := ← fields.read "profiles" [] profilesOfNode
    activeProfile := ← fields.read "active_profile" Profile.defaultId Node.toText }

/-! ## What settings ask for -/

def view (settings : Settings) : View :=
  ⟨settings.output.medium, settings.formatter.depth⟩

def options (settings : Settings) : Stream.Options :=
  ⟨settings.output.showDetails, settings.output.passthrough⟩

/-- The profile that the section on what to show makes up. -/
def defaultProfile (settings : Settings) : Profile where
  id := Profile.defaultId
  name := "Default"
  template := settings.formatter.template
  fields := settings.formatter.fields

/-- The registry of the default profile and the further ones. -/
def registry (settings : Settings) : Except ProfileError Registry :=
  Registry.addAll {} (settings.defaultProfile :: settings.profiles)

end Settings

end LogDigest
