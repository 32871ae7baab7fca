import LogDigest.Proofs.Settings.Decoding
import LogDigest.Settings.Layer

/-!
# What layers assign

A layer says something about single keys.  It may give a key in the table of its section or by a
path, and it may give a key again.  A table does not stand for its keys as a whole: keys that it
does not hold are not assigned.
-/

namespace LogDigest.Settings

/-- The keys whose values have no keys themselves: scalars, choices and lists of fields. -/
inductive Key where
  | template
  | fields
  | depth
  | medium
  | showDetails
  | passthrough
  | reportMetrics
  | level
  | format
  | activeProfile
  deriving DecidableEq, Repr

/-- The names of the sections that hold keys. -/
def sectionNames : List String :=
  ["formatter", "output", "logging"]

namespace Key

def all : List Key :=
  [.template, .fields, .depth, .medium, .showDetails, .passthrough, .reportMetrics, .level,
    .format, .activeProfile]

/-- The section that holds a key; one key stands beside the sections. -/
def part? : Key → Option String
  | .template | .fields | .depth => some "formatter"
  | .medium | .showDetails | .passthrough | .reportMetrics => some "output"
  | .level | .format => some "logging"
  | .activeProfile => none

/-- The name of a key where it stands. -/
def name : Key → String
  | .template => "template"
  | .fields => "summary_fields"
  | .depth => "max_depth"
  | .medium => "mode"
  | .showDetails => "show_details"
  | .passthrough => "passthrough"
  | .reportMetrics => "report_metrics"
  | .level => "level"
  | .format => "format"
  | .activeProfile => "active_profile"

def top (key : Key) : String :=
  key.part?.getD key.name

def nameIn? (part : String) (key : Key) : Option String :=
  if key.part? = some part then some key.name else none

/-! ### Values -/

def Value : Key → Type
  | .template => Option String
  | .fields => List String
  | .depth => Nat
  | .medium => Medium
  | .showDetails | .passthrough | .reportMetrics => Bool
  | .level => String
  | .format => LogFormat
  | .activeProfile => String

/-- The value that a node stands for under a key. -/
def convert (node : Node) : (key : Key) → Conversion key.Value
  | .template => node.toOptionalText
  | .fields => node.toFieldNames
  | .depth => node.toNatural
  | .medium => node.toChoice "OutputMode" mediaNames
  | .showDetails | .passthrough | .reportMetrics => node.toBoolean
  | .level => node.toText
  | .format => node.toChoice "LogFormat" formatNames
  | .activeProfile => node.toText

/-- The value of a key in settings. -/
def get (settings : Settings) : (key : Key) → key.Value
  | .template => settings.formatter.template
  | .fields => settings.formatter.fields
  | .depth => settings.formatter.depth
  | .medium => settings.output.medium
  | .showDetails => settings.output.showDetails
  | .passthrough => settings.output.passthrough
  | .reportMetrics => settings.output.reportMetrics
  | .level => settings.logging.level
  | .format => settings.logging.format
  | .activeProfile => settings.activeProfile

/-- Whether a key takes a node for its value. -/
def Accepts (key : Key) (node : Node) : Prop :=
  ∃ value, key.convert node = .ok value

instance (key : Key) (node : Node) : Decidable (key.Accepts node) :=
  match h : key.convert node with
  | .ok value => isTrue ⟨value, h⟩
  | .error _ => isFalse fun ⟨_, hvalue⟩ => nomatch h.symm.trans hvalue

/-- What becomes of a key: the value of the node that it is given, or else its value in sections
that nobody gives. -/
def Takes (key : Key) (given : Option Node) (value : key.Value) : Prop :=
  match given with
  | some node => key.convert node = .ok value
  | none => key.get {} = value

/-! ### Names -/

/-- The key of a section, or beside the sections, that a name stands for in any case. -/
def find? (part? : Option String) (name : String) : Option Key :=
  all.find? fun key => key.part? = part? ∧ key.name = Text.lowered name

theorem mem_all (key : Key) : key ∈ all := by
  cases key <;> decide

theorem eq_of_name {key other : Key} (hpart : key.part? = other.part?)
    (hname : key.name = other.name) : key = other := by
  revert hpart hname
  cases key <;> cases other <;> decide

theorem find?_eq_some_iff {part? : Option String} {name : String} {key : Key} :
    find? part? name = some key ↔ key.part? = part? ∧ key.name = Text.lowered name := by
  have hsound : ∀ {found}, find? part? name = some found →
      found.part? = part? ∧ found.name = Text.lowered name := by
    intro found hfound
    have hfits := List.find?_some hfound
    exact of_decide_eq_true hfits
  refine ⟨hsound, ?_⟩
  rintro ⟨hpart, hname⟩
  cases hfound : find? part? name with
  | none =>
    have hall := List.find?_eq_none.1 hfound key key.mem_all
    exact absurd (decide_eq_true ⟨hpart, hname⟩) hall
  | some other =>
    obtain ⟨hother, hothername⟩ := hsound hfound
    rw [eq_of_name (hother.trans hpart.symm) (hothername.trans hname.symm)]

theorem nameIn?_eq_some_iff {key other : Key} {part : String} (h : other.part? = some part) :
    key.nameIn? part = some other.name ↔ key = other := by
  rw [nameIn?]
  split
  · next hkey =>
    rw [Option.some_inj]
    exact ⟨eq_of_name (hkey.trans h.symm), congrArg name⟩
  · next hkey => exact ⟨nofun, fun heq => absurd (heq ▸ h) hkey⟩

theorem lowered_name (key : Key) : Text.lowered key.name = key.name := by
  cases key <;> decide +kernel

theorem mem_sectionNames {key : Key} {part : String} (h : key.part? = some part) :
    part ∈ sectionNames := by
  cases key <;> cases h <;> decide

theorem name_not_mem_sectionNames {key : Key} (h : key.part? = none) :
    key.name ∉ sectionNames := by
  revert h
  cases key <;> decide

theorem part?_eq_some_iff {key : Key} {part : String} (h : part ∈ sectionNames) :
    key.part? = some part ↔ key.top = part := by
  rw [top]
  cases hpart : key.part? with
  | none =>
    refine ⟨nofun, fun heq => ?_⟩
    rw [← heq] at h
    exact absurd h (name_not_mem_sectionNames hpart)
  | some other => exact Option.some_inj

theorem top_eq_name_iff {key other : Key} (h : other.part? = none) :
    key.top = other.name ↔ key = other := by
  constructor
  · intro heq
    rw [top] at heq
    cases hpart : key.part? with
    | none => exact eq_of_name (hpart.trans h.symm) (by rwa [hpart] at heq)
    | some part =>
      rw [hpart, Option.getD_some] at heq
      exact absurd (heq ▸ mem_sectionNames hpart) (name_not_mem_sectionNames h)
  · rintro rfl
    rw [top, h, Option.getD_none]

end Key

/-! ## Assignments -/

def Node.isTable : Node → Bool
  | .table _ _ => true
  | _ => false

/-- Keys with the values that they are given, one after the other. -/
abbrev Assignments : Type := List (Key × Node)

namespace Assignments

/-- The value that a key is given last. -/
def last? (assigned : Assignments) (key : Key) : Option Node :=
  assigned.reverse.lookup key

/-- The assignments of sources one after the other, if every source makes assignments. -/
def gather? {α : Type} (assign? : α → Option Assignments) : List α → Option Assignments
  | [] => some []
  | source :: rest => do
    return (← assign? source) ++ (← gather? assign? rest)

/-- What an entry of a section, or beside the sections, assigns: a value without entries to a
key. -/
def ofValue? (part? : Option String) (entry : String × Node) : Option Assignments :=
  if entry.2.isTable then none
  else (Key.find? part? entry.1).map fun key => [(key, entry.2)]

/-- What an entry at the top of a layer assigns.  The name of a section leads to a table of keys;
the case of names does not matter, except for a section before a point. -/
def ofTop? (entry : String × Node) : Option Assignments :=
  match KeyPath.ofKey entry.1, entry.2 with
  | ⟨[], .key part⟩, .table _ entries =>
    if Text.lowered part ∈ sectionNames then
      gather? (ofValue? (some (Text.lowered part))) entries
    else none
  | ⟨[], .key name⟩, value => ofValue? none (name, value)
  | ⟨[.key part], .key name⟩, value => ofValue? (some part) (name, value)
  | _, _ => none

section Lemmas

variable {assigned more : Assignments} {key : Key} {node : Node} {part? : Option String}

theorem last?_append : last? (assigned ++ more) key = (last? more key).or (last? assigned key) := by
  rw [last?, List.reverse_append, List.lookup_append]
  rfl

theorem last?_singleton {other : Key} :
    last? [(other, node)] key = if key = other then some node else none := by
  rw [last?, List.reverse_singleton, lookup_cons_eq_ite, List.lookup_nil]

theorem mem_of_last? (h : last? assigned key = some node) : (key, node) ∈ assigned :=
  List.mem_reverse.1 (mem_of_lookup_eq_some h)

theorem gather?_cons_eq_some_iff {α : Type} {assign? : α → Option Assignments} {source : α}
    {sources : List α} :
    gather? assign? (source :: sources) = some assigned ↔
      ∃ first rest, assign? source = some first ∧ gather? assign? sources = some rest ∧
        first ++ rest = assigned := by
  simp only [gather?, Option.bind_eq_bind, Option.bind_eq_some_iff, Option.pure_def,
    Option.some_inj]
  constructor
  · rintro ⟨first, hfirst, rest, hrest, heq⟩
    exact ⟨first, rest, hfirst, hrest, heq⟩
  · rintro ⟨first, rest, hfirst, hrest, heq⟩
    exact ⟨first, hfirst, rest, hrest, heq⟩

theorem ofValue?_eq_some_iff {name : String} :
    ofValue? part? (name, node) = some assigned ↔
      ∃ key, node.isTable = false ∧ key.part? = part? ∧ key.name = Text.lowered name ∧
        [(key, node)] = assigned := by
  rw [ofValue?]
  split
  · next htable => simp [htable]
  · next hvalue =>
    simp only [Option.map_eq_some_iff, Key.find?_eq_some_iff, Bool.not_eq_true] at hvalue ⊢
    simp only [hvalue, true_and, and_assoc]

/-- An entry that assigns something is a section, or the value of a key under its name or path. -/
theorem ofTop?_cases {name : String} (h : ofTop? (name, node) = some assigned) :
    (∃ part origin entries, KeyPath.ofKey name = ⟨[], .key part⟩ ∧ node = .table origin entries ∧
      Text.lowered part ∈ sectionNames ∧
      gather? (ofValue? (some (Text.lowered part))) entries = some assigned) ∨
    (∃ last, KeyPath.ofKey name = ⟨[], .key last⟩ ∧ ofValue? none (last, node) = some assigned) ∨
    ∃ part last, KeyPath.ofKey name = ⟨[.key part], .key last⟩ ∧
      ofValue? (some part) (last, node) = some assigned := by
  rw [ofTop?] at h
  split at h
  · next part origin entries hpath hnode =>
    split at h
    · next hpart => exact .inl ⟨part, origin, entries, hpath, hnode, hpart, h⟩
    · cases h
  · next last hpath _ => exact .inr (.inl ⟨last, hpath, h⟩)
  · next part last hpath => exact .inr (.inr ⟨part, last, hpath, h⟩)
  · cases h

theorem gather?_singleton {α : Type} {assign? : α → Option Assignments} {source : α}
    (h : assign? source = some assigned) : gather? assign? [source] = some assigned :=
  gather?_cons_eq_some_iff.2 ⟨assigned, [], h, rfl, List.append_nil assigned⟩

theorem ofTop?_section {part : String} (h : part ∈ sectionNames) (origin : Option String)
    (entries : List (String × Node)) :
    ofTop? (part, .table origin entries) = gather? (ofValue? (some part)) entries := by
  have hpath : KeyPath.ofKey part = ⟨[], .key part⟩ := by
    revert part
    decide +kernel
  have hlowered : Text.lowered part = part := by
    revert part
    decide +kernel
  simp only [ofTop?, hpath, hlowered, if_pos h]

theorem ofTop?_value (hpart : key.part? = none) (hnode : node.isTable = false) :
    ofTop? (key.name, node) = some [(key, node)] := by
  have hpath : KeyPath.ofKey key.name = ⟨[], .key key.name⟩ := by
    revert hpart
    cases key <;> decide +kernel
  have hvalue : ofValue? none (key.name, node) = some [(key, node)] :=
    ofValue?_eq_some_iff.2 ⟨key, hnode, hpart, key.lowered_name.symm, rfl⟩
  cases node with
  | table origin entries => cases hnode
  | scalar | list => simp only [ofTop?, hpath, hvalue]

end Lemmas

end Assignments

/-- What a layer assigns, if it assigns values to keys and does nothing else. -/
def Layer.assignments? (layer : Layer) : Option Assignments :=
  Assignments.gather? Assignments.ofTop? layer

end LogDigest.Settings
