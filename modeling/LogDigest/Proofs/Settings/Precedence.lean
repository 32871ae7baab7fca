import LogDigest.Proofs.Settings.Override

/-!
# Which layer a key has its value from

The environment comes before the file of the mode, this file before the general one, and what is
built in comes last.
-/

namespace LogDigest.Settings

open Assignments Node

variable {node child : Node} {part : String} {value : (key : Key) → key.Value}

/-! ## Decoding -/

def ofValues (value : (key : Key) → key.Value) : Settings where
  formatter := ⟨value .template, value .fields, value .depth⟩
  output :=
    ⟨value .medium, value .showDetails, value .passthrough, value .reportMetrics⟩
  logging := ⟨value .level, value .format⟩
  activeProfile := value .activeProfile

private theorem get_ofValues (key : Key) : key.get (ofValues value) = value key := by
  cases key <;> rfl

namespace Key

variable {key : Key} {result : key.Value}

theorem Takes.of_child (hpart : key.part? = some part) (hchild : node.child? part = some child)
    (h : key.Takes (valueAt node key) result) : key.Takes (child.child? key.name) result := by
  rwa [valueAt, top, hpart, Option.getD_some, hchild, Option.bind_some, valueBelow, hpart] at h

theorem Takes.of_no_child (hpart : key.part? = some part) (hchild : node.child? part = none)
    (h : key.Takes (valueAt node key) result) : key.get {} = result := by
  rwa [valueAt, top, hpart, Option.getD_some, hchild] at h

theorem Takes.read {names : List String} {entries : List (String × Node)}
    (h : key.Takes (entries.lookup key.name) result) (hname : key.name ∈ names) :
    (Section.ofEntries names entries).read key.name (key.get {}) (fun node => key.convert node) =
      .ok result :=
  (Section.read_ofEntries_eq_ok_iff hname).2 h

theorem Takes.eq_of_convert {given : Option Node} {value : key.Value}
    (h : key.Takes given result)
    (hgiven : (given.bind fun node => (key.convert node).toOption) = some value) :
    result = value := by
  cases given with
  | none => cases hgiven
  | some node =>
    have hconvert : key.convert node = .ok result := h
    rw [Option.bind_some, hconvert] at hgiven
    exact Option.some.inj hgiven

end Key

theorem Formatter.ofNode_eq_ok (hnode : KeysOf "formatter" node)
    (h : ∀ key : Key, key.part? = some "formatter" → key.Takes (node.child? key.name) (value key)) :
    Formatter.ofNode node = .ok (ofValues value).formatter := by
  obtain ⟨origin, heq⟩ := hnode.eq_table
  rw [heq, Formatter.ofNode]
  refine bind_eq_ok_iff.2 ⟨_, rfl, ?_⟩
  refine bind_eq_ok_iff.2 ⟨_, (h .template rfl).read (by decide), ?_⟩
  refine bind_eq_ok_iff.2 ⟨_, (h .fields rfl).read (by decide), ?_⟩
  exact bind_eq_ok_iff.2 ⟨_, (h .depth rfl).read (by decide), rfl⟩

theorem Output.ofNode_eq_ok (hnode : KeysOf "output" node)
    (h : ∀ key : Key, key.part? = some "output" → key.Takes (node.child? key.name) (value key)) :
    Output.ofNode node = .ok (ofValues value).output := by
  obtain ⟨origin, heq⟩ := hnode.eq_table
  rw [heq, Output.ofNode]
  refine bind_eq_ok_iff.2 ⟨_, rfl, ?_⟩
  refine bind_eq_ok_iff.2 ⟨_, (h .medium rfl).read (by decide), ?_⟩
  refine bind_eq_ok_iff.2 ⟨_, (h .showDetails rfl).read (by decide), ?_⟩
  refine bind_eq_ok_iff.2 ⟨_, (h .passthrough rfl).read (by decide), ?_⟩
  exact bind_eq_ok_iff.2 ⟨_, (h .reportMetrics rfl).read (by decide), rfl⟩

theorem Logging.ofNode_eq_ok (hnode : KeysOf "logging" node)
    (h : ∀ key : Key, key.part? = some "logging" → key.Takes (node.child? key.name) (value key)) :
    Logging.ofNode node = .ok (ofValues value).logging := by
  obtain ⟨origin, heq⟩ := hnode.eq_table
  rw [heq, Logging.ofNode]
  refine bind_eq_ok_iff.2 ⟨_, rfl, ?_⟩
  refine bind_eq_ok_iff.2 ⟨_, (h .level rfl).read (by decide), ?_⟩
  exact bind_eq_ok_iff.2 ⟨_, (h .format rfl).read (by decide), rfl⟩

private theorem read_part {α : Type} {result default : α} {ofNode : Node → Conversion α}
    {names : List String} (hname : part ∈ names) (hpart : part ∈ sectionNames)
    (hnode : KeysOnly node) (h : ∀ key : Key, key.Takes (valueAt node key) (value key))
    (hsection : ∀ {child}, KeysOf part child →
      (∀ key : Key, key.part? = some part → key.Takes (child.child? key.name) (value key)) →
      ofNode child = .ok result)
    (hdefault : (∀ key : Key, key.part? = some part → key.get {} = value key) →
      default = result) :
    (Section.ofEntries names node.entries).read part default ofNode = .ok result := by
  refine (Section.read_ofEntries_eq_ok_iff hname).2 ?_
  cases hchild : node.entries.lookup part with
  | none => exact hdefault fun key hkey => (h key).of_no_child hkey hchild
  | some child =>
    have hkeys := hnode.keysOf hpart
    rw [child?, hchild] at hkeys
    exact hsection hkeys fun key hkey => (h key).of_child hkey hchild

theorem Node.KeysOnly.lookup_profiles (hnode : KeysOnly node) :
    node.entries.lookup "profiles" = none := by
  cases hchild : node.entries.lookup "profiles" with
  | none => rfl
  | some child =>
    rcases hnode.fits_child? hchild with ⟨⟨key, -, hname⟩, -⟩ | ⟨hpart, -⟩
    · exact absurd hname (by cases key <;> decide)
    · exact absurd hpart (by decide)

private theorem ofEntries_eq_ok (hnode : KeysOnly node)
    (h : ∀ key : Key, key.Takes (valueAt node key) (value key)) :
    ofEntries node.entries = .ok (ofValues value) := by
  rw [ofEntries]
  refine bind_eq_ok_iff.2 ⟨(ofValues value).formatter, ?_, ?_⟩
  · refine read_part (by decide) (by decide) hnode h Formatter.ofNode_eq_ok fun hnone => ?_
    rw [ofValues, ← hnone .template rfl, ← hnone .fields rfl, ← hnone .depth rfl]
    rfl
  refine bind_eq_ok_iff.2 ⟨(ofValues value).output, ?_, ?_⟩
  · refine read_part (by decide) (by decide) hnode h Output.ofNode_eq_ok fun hnone => ?_
    rw [ofValues, ← hnone .medium rfl, ← hnone .showDetails rfl, ← hnone .passthrough rfl,
      ← hnone .reportMetrics rfl]
    rfl
  refine bind_eq_ok_iff.2 ⟨(ofValues value).logging, ?_, ?_⟩
  · refine read_part (by decide) (by decide) hnode h Logging.ofNode_eq_ok fun hnone => ?_
    rw [ofValues, ← hnone .level rfl, ← hnone .format rfl]
    rfl
  refine bind_eq_ok_iff.2 ⟨[], ?_, ?_⟩
  · refine (Section.read_ofEntries_eq_ok_iff (by decide)).2 ?_
    rw [hnode.lookup_profiles]
  refine bind_eq_ok_iff.2 ⟨value .activeProfile, ?_, rfl⟩
  have hactive : Key.activeProfile.Takes (node.child? "active_profile") (value .activeProfile) := by
    have htakes := h .activeProfile
    have hvalue : valueAt node .activeProfile = node.child? "active_profile" :=
      Option.bind_fun_some _
    rwa [hvalue] at htakes
  exact hactive.read (by decide)

/-! ## What is built in -/

private theorem keysOnly_empty : KeysOnly Node.empty :=
  TableOf.empty

private theorem keysOnly_defaults : KeysOnly defaults := by
  have hvalue : ∀ (key : Key) scalar, IsValue key.part? key.name (builtIn scalar) :=
    fun key _ => ⟨⟨key, rfl, rfl⟩, rfl⟩
  refine ⟨rfl, by decide, ?_⟩
  simp only [defaults, Node.entries, List.forall_mem_cons]
  refine ⟨.inr ⟨by decide, rfl, by decide, ?_⟩, .inr ⟨by decide, rfl, by decide, ?_⟩,
    .inr ⟨by decide, rfl, by decide, ?_⟩, .inl (hvalue .activeProfile _), nofun⟩
  · exact List.forall_mem_cons.2 ⟨hvalue .depth _, nofun⟩
  · exact List.forall_mem_cons.2
      ⟨hvalue .medium _, List.forall_mem_cons.2 ⟨hvalue .passthrough _, nofun⟩⟩
  · exact List.forall_mem_cons.2
      ⟨hvalue .level _, List.forall_mem_cons.2 ⟨hvalue .format _, nofun⟩⟩

/-- What is built into the tree of defaults and what is built into the sections agree. -/
theorem takes_defaults (key : Key) : key.Takes (valueAt defaults key) (key.get {}) := by
  cases key <;> rfl

/-! ## Layers -/

/-- Layers change the defaults of the keys that they assign and no others. -/
theorem merged_changed {layers : List Layer} {assigned : Assignments}
    (h : gather? Layer.assignments? layers = some assigned) :
    Changed KeysOnly valueAt assigned defaults (merged layers) := by
  have hgiven := keysOnly_empty.ontoAll h
  -- Layers are merged with each other first, and what comes of it is a layer over the defaults.
  obtain ⟨given, hassigned, hlast⟩ := hgiven.kept.assignments?
  have hmerged := keysOnly_defaults.onto hassigned
  refine ⟨hmerged.kept, fun key => ?_⟩
  rw [merged, hmerged.value, hlast, hgiven.value]
  exact congrArg (Option.or · _) Option.or_none

/-- Layers that assign values to keys, and nothing that a key does not take in the end, give
settings. -/
theorem ofLayers_takes {layers : List Layer} {assigned : Assignments}
    (h : gather? Layer.assignments? layers = some assigned)
    (haccepted : ∀ key node, last? assigned key = some node → key.Accepts node) :
    ∃ settings, ofLayers layers = .ok settings ∧ settings.profiles = [] ∧
      ∀ key : Key, key.Takes (last? assigned key) (key.get settings) := by
  have htakes : ∀ key : Key, ∃ value, key.Takes (last? assigned key) value := by
    intro key
    cases hlast : last? assigned key with
    | none => exact ⟨_, rfl⟩
    | some node => exact haccepted key node hlast
  obtain ⟨value, hvalue⟩ := Classical.skolem.1 htakes
  have hmerged := merged_changed h
  refine ⟨ofValues value, ofEntries_eq_ok hmerged.kept fun key => ?_, rfl, fun key => ?_⟩
  · have hkey := hvalue key
    rw [hmerged.value]
    cases hlast : last? assigned key with
    | none =>
      rw [hlast] at hkey
      rw [Option.none_or, ← hkey]
      exact takes_defaults key
    | some node => rwa [hlast] at hkey
  · rw [get_ofValues]
    exact hvalue key

/-! ## Sources -/

/-- What a file of settings assigns, if it assigns values to keys and does nothing else. -/
def fileAssignments? (files : Files) (name : String) : Option Assignments :=
  (fileLayer files name).toOption.bind Layer.assignments?

/-- What the variables of an environment assign, if those that give settings assign values to
keys. -/
def variableAssignments? (environment : Environment) : Option Assignments :=
  Layer.assignments? (Layer.ofEnvironment environment)

private theorem fileAssignments?_eq_some {files : Files} {name : String} {assigned : Assignments}
    (h : fileAssignments? files name = some assigned) :
    ∃ layer, fileLayer files name = .ok layer ∧ layer.assignments? = some assigned := by
  rw [fileAssignments?] at h
  cases hlayer : fileLayer files name with
  | error error =>
    rw [hlayer] at h
    cases h
  | ok layer =>
    rw [hlayer] at h
    exact ⟨layer, rfl, h⟩

/-- The value that a key is given: by the environment, or else by the file of the mode, or else by
the general file. -/
def given? (general special ambient : Assignments) (key : Key) : Option Node :=
  (ambient.last? key).or ((special.last? key).or (general.last? key))

theorem given?_eq_last? {general special ambient : Assignments} {key : Key} :
    given? general special ambient key = last? (general ++ (special ++ ambient)) key := by
  rw [last?_append, last?_append, Option.or_assoc, given?]

/-- Where the files of settings and the environment assign values to keys and do nothing else, and
every key takes the value that comes first, this is the value that it has.  A source leaves the keys
that it does not assign as they are, whichever others of their section it assigns, and a key that no
source assigns has its value in the default sections. -/
theorem load_overrides {files : Files} {environment : Environment}
    {general special ambient : Assignments}
    (hgeneral : fileAssignments? files "config/default" = some general)
    (hspecial : fileAssignments? files
      ("config/" ++ ((completed files environment).get? "RUN_MODE").getD "development") =
        some special)
    (hambient : variableAssignments? (completed files environment) = some ambient)
    (haccepted : ∀ key : Key, ∀ node ∈ given? general special ambient key, key.Accepts node) :
    ∃ settings, load files environment = .ok settings ∧ settings.profiles = [] ∧
      ∀ key : Key, key.Takes (given? general special ambient key) (key.get settings) := by
  obtain ⟨first, hfirst, hbase⟩ := fileAssignments?_eq_some hgeneral
  obtain ⟨second, hsecond, hmode⟩ := fileAssignments?_eq_some hspecial
  have hlayers : gather? Layer.assignments?
      [first, second, Layer.ofEnvironment (completed files environment)] =
        some (general ++ (special ++ ambient)) :=
    gather?_cons_eq_some_iff.2 ⟨_, _, hbase,
      gather?_cons_eq_some_iff.2 ⟨_, _, hmode, gather?_singleton hambient, rfl⟩, rfl⟩
  obtain ⟨settings, hsettings, hprofiles, hkeys⟩ := ofLayers_takes hlayers fun key node hlast =>
    haccepted key node (given?_eq_last?.trans hlast)
  refine ⟨settings, ?_, hprofiles, fun key => given?_eq_last? ▸ hkeys key⟩
  rw [load]
  exact bind_eq_ok_iff.2 ⟨first, hfirst, bind_eq_ok_iff.2 ⟨second, hsecond, hsettings⟩⟩

/-- A directory with a general file and one for the mode `staging`. -/
def staged : Files :=
  Files.ofList [
    ("config/default.toml",
      "[formatter]\nmax_depth = 8\n[output]\nmode = \"plain\"\n[logging]\nlevel = \"warn\"\n"),
    ("config/staging.toml",
      "[formatter]\nmax_depth = 16\n[output]\n[logging]\nlevel = \"debug\"\n")]

/-- An environment for the mode `staging` that gives a key. -/
def stagedEnvironment : Environment :=
  [("RUN_MODE", "staging"), ("KJF_FORMATTER__MAX_DEPTH", "3")]

/-- The depth is given by all sources, the level by both files and the medium by the general file
only. -/
theorem load_overrides_staged :
    ∃ settings, load staged stagedEnvironment = .ok settings ∧ settings.formatter.depth = 3 ∧
      settings.logging.level = "debug" ∧ settings.output.medium = .plain := by
  have hmode : "config/" ++
      ((completed staged stagedEnvironment).get? "RUN_MODE").getD "development" =
        "config/staging" := by
    decide +kernel
  have hassigned : ((fileAssignments? staged "config/default").any fun general =>
      (fileAssignments? staged "config/staging").any fun special =>
        (variableAssignments? (completed staged stagedEnvironment)).any fun ambient =>
          (∀ assignment ∈ general ++ (special ++ ambient), assignment.1.Accepts assignment.2) ∧
          ((given? general special ambient .depth).bind fun node => node.toNatural.toOption) =
            some 3 ∧
          ((given? general special ambient .level).bind fun node => node.toText.toOption) =
            some "debug" ∧
          ((given? general special ambient .medium).bind fun node =>
            (node.toChoice "OutputMode" mediaNames).toOption) = some .plain) := by
    decide +kernel
  simp only [Option.any_eq_true, decide_eq_true_eq] at hassigned
  obtain ⟨general, hgeneral, special, hspecial, ambient, hambient, haccepted, hdepth, hlevel,
    hmedium⟩ := hassigned
  rw [← hmode] at hspecial
  obtain ⟨settings, hload, -, htakes⟩ := load_overrides hgeneral hspecial hambient
    fun key node hgiven => haccepted (key, node) (mem_of_last? (given?_eq_last?.symm.trans hgiven))
  exact ⟨settings, hload, (htakes .depth).eq_of_convert hdepth,
    (htakes .level).eq_of_convert hlevel, (htakes .medium).eq_of_convert hmedium⟩

end LogDigest.Settings
