import LogDigest.Proofs.Settings.Keys

/-!
# Layers over layers

The tree of layers that assign values to keys holds these keys, each once, in the tables of their
sections.  A layer that is merged over such a tree changes the keys that it assigns and leaves the
others as they are.  So every key has the value that the last layer gives it.
-/

namespace LogDigest.Settings

open Assignments

/-! ## Tables -/

namespace Node

variable {node value : Node} {key other : String} {entries : List (String × Node)}

theorem lookup_putEntry : (putEntry key value entries).lookup other =
    if other = key then some value else entries.lookup other := by
  induction entries with
  | nil => rw [putEntry, lookup_cons_eq_ite]
  | cons entry rest ih =>
    obtain ⟨k, n⟩ := entry
    rw [putEntry]
    by_cases hk : k = key
    · rw [if_pos hk, lookup_cons_eq_ite, lookup_cons_eq_ite, hk]
      split <;> rfl
    · rw [if_neg hk, lookup_cons_eq_ite, lookup_cons_eq_ite, ih]
      by_cases hother : other = k
      · rw [if_pos hother, if_pos hother, if_neg (hother ▸ hk)]
      · rw [if_neg hother, if_neg hother]

theorem mem_putEntry {entry : String × Node} (h : entry ∈ putEntry key value entries) :
    entry = (key, value) ∨ entry ∈ entries := by
  induction entries with
  | nil => exact .inl (List.mem_singleton.1 h)
  | cons first rest ih =>
    obtain ⟨k, n⟩ := first
    rw [putEntry] at h
    split at h
    · exact (List.mem_cons.1 h).imp_right (List.mem_cons_of_mem _)
    · rcases List.mem_cons.1 h with rfl | hrest
      · exact .inr List.mem_cons_self
      · exact (ih hrest).imp_right (List.mem_cons_of_mem _)

theorem nodup_putEntry (h : (entries.map Prod.fst).Nodup) :
    ((putEntry key value entries).map Prod.fst).Nodup := by
  induction entries with
  | nil => exact List.pairwise_singleton _ _
  | cons first rest ih =>
    obtain ⟨k, n⟩ := first
    obtain ⟨hnew, hrest⟩ := List.nodup_cons.1 h
    rw [putEntry]
    split
    · next hk => exact List.nodup_cons.2 ⟨hk ▸ hnew, hrest⟩
    · next hk =>
      refine List.nodup_cons.2 ⟨fun hmem => ?_, ih hrest⟩
      obtain ⟨entry, hentry, hfirst⟩ := List.mem_map.1 hmem
      rcases mem_putEntry hentry with rfl | hold
      · exact hk hfirst.symm
      · exact hnew (hfirst ▸ List.mem_map_of_mem hold)

structure TableOf (fits : String → Node → Prop) (node : Node) : Prop where
  isTable : node.isTable = true
  distinct : (node.entries.map Prod.fst).Nodup
  fits : ∀ entry ∈ node.entries, fits entry.1 entry.2

namespace TableOf

variable {fits : String → Node → Prop}

theorem empty : TableOf fits .empty :=
  ⟨rfl, List.nodup_nil, fun _ hmem => nomatch hmem⟩

theorem eq_table (h : TableOf fits node) : ∃ origin, node = .table origin node.entries := by
  cases node with
  | table origin entries => exact ⟨origin, rfl⟩
  | scalar | list => exact absurd h.isTable Bool.false_ne_true

theorem put (h : TableOf fits node) (hvalue : fits key value) :
    TableOf fits (node.put key value) := by
  obtain ⟨origin, heq⟩ := h.eq_table
  rw [heq, Node.put]
  refine ⟨rfl, nodup_putEntry h.distinct, fun entry hmem => ?_⟩
  rcases mem_putEntry hmem with rfl | hold
  · exact hvalue
  · exact h.fits entry hold

theorem child?_put (h : TableOf fits node) :
    (node.put key value).child? other = if other = key then some value else node.child? other := by
  obtain ⟨origin, heq⟩ := h.eq_table
  rw [heq, Node.put]
  exact lookup_putEntry

theorem fits_child? (h : TableOf fits node) (hchild : node.child? key = some value) :
    fits key value :=
  h.fits (key, value) (mem_of_lookup_eq_some hchild)

end TableOf

/-! ## Trees of keys -/

/-- A value under the name of a key that stands in a section, or beside the sections. -/
def IsValue (part? : Option String) (name : String) (value : Node) : Prop :=
  (∃ key : Key, key.part? = part? ∧ key.name = name) ∧ value.isTable = false

def KeysOf (part : String) (node : Node) : Prop :=
  TableOf (IsValue (some part)) node

def KeysOnly (node : Node) : Prop :=
  TableOf (fun name child => IsValue none name child ∨ name ∈ sectionNames ∧ KeysOf name child) node

def valueIn (part : String) (node : Node) (key : Key) : Option Node :=
  (key.nameIn? part).bind node.child?

def valueBelow (key : Key) (child : Node) : Option Node :=
  match key.part? with
  | some _ => child.child? key.name
  | none => some child

def valueAt (node : Node) (key : Key) : Option Node :=
  (node.child? key.top).bind (valueBelow key)

end Node

/-! ## Merging -/

namespace Node

variable {node value : Node} {assigned : Assignments} {part : String}

/-- What merging leaves of a node: its kind is kept, and of the keys in view those have changed
that are assigned. -/
structure Changed (Kept : Node → Prop) (view : Node → Key → Option Node) (assigned : Assignments)
    (before after : Node) : Prop where
  kept : Kept after
  value : ∀ key, view after key = (last? assigned key).or (view before key)

/-- If every step of a fold changes what its source assigns, so does the fold. -/
theorem Changed.foldl {α : Type} {assign? : α → Option Assignments} {op : Node → α → Node}
    {Kept : Node → Prop} {view : Node → Key → Option Node}
    (hstep : ∀ {node source assigned}, Kept node → assign? source = some assigned →
      Changed Kept view assigned node (op node source))
    {sources : List α} (hsources : gather? assign? sources = some assigned) (hnode : Kept node) :
    Changed Kept view assigned node (sources.foldl op node) := by
  induction sources generalizing node assigned with
  | nil =>
    cases hsources
    exact ⟨hnode, fun _ => rfl⟩
  | cons source rest ih =>
    obtain ⟨first, others, hfirst, hothers, rfl⟩ := gather?_cons_eq_some_iff.1 hsources
    have hstepped := hstep hnode hfirst
    have hrest := ih hothers hstepped.kept
    refine ⟨hrest.kept, fun key => ?_⟩
    rw [List.foldl_cons, hrest.value, hstepped.value, last?_append, Option.or_assoc]

theorem assignAll_eq_foldl (node : Node) (entries : List (String × Node)) :
    node.assignAll entries =
      entries.foldl (fun node entry => node.assign entry.1 entry.2) node := by
  induction entries generalizing node with
  | nil => rfl
  | cons entry rest ih => rw [assignAll, ih, List.foldl_cons]

theorem assign_value (h : value.isTable = false) (node : Node) (name : String) :
    node.assign name value = node.put (Text.lowered name) value := by
  cases value with
  | table => cases h
  | scalar | list => rfl

theorem KeysOf.assign {entry : String × Node} (h : KeysOf part node)
    (hentry : ofValue? (some part) entry = some assigned) :
    Changed (KeysOf part) (valueIn part) assigned node (node.assign entry.1 entry.2) := by
  obtain ⟨other, hvalue, hpart, hname, rfl⟩ := ofValue?_eq_some_iff.1 hentry
  rw [assign_value hvalue, ← hname]
  refine ⟨h.put ⟨⟨other, hpart, rfl⟩, hvalue⟩, fun key => ?_⟩
  rw [last?_singleton, valueIn, valueIn]
  by_cases hkey : key = other
  · rw [if_pos hkey, (Key.nameIn?_eq_some_iff hpart).2 hkey, Option.bind_some, h.child?_put,
      if_pos rfl]
    rfl
  · rw [if_neg hkey, Option.none_or]
    cases hin : key.nameIn? part with
    | none => rfl
    | some name =>
      have hname : name ≠ other.name := fun heq =>
        hkey ((Key.nameIn?_eq_some_iff hpart).1 (hin.trans (congrArg some heq)))
      rw [Option.bind_some, Option.bind_some, h.child?_put, if_neg hname]

theorem KeysOf.assignAll {entries : List (String × Node)} (h : KeysOf part node)
    (hentries : gather? (ofValue? (some part)) entries = some assigned) :
    Changed (KeysOf part) (valueIn part) assigned node (node.assignAll entries) := by
  rw [assignAll_eq_foldl]
  exact Changed.foldl KeysOf.assign hentries h

/-- A section of a tree, which has no keys yet if it is not there. -/
theorem KeysOnly.keysOf (h : KeysOnly node) (hpart : part ∈ sectionNames) :
    KeysOf part ((node.child? part).getD empty) := by
  cases hchild : node.child? part with
  | none => exact TableOf.empty
  | some child =>
    rcases h.fits_child? hchild with ⟨⟨key, hkey, hname⟩, -⟩ | ⟨-, hkeys⟩
    · exact absurd (hname ▸ hpart) (Key.name_not_mem_sectionNames hkey)
    · exact hkeys

theorem valueAt_eq_valueIn {key : Key} (hpart : part ∈ sectionNames)
    (hkey : key.part? = some part) (node : Node) :
    valueAt node key = valueIn part ((node.child? part).getD empty) key := by
  have htop := (Key.part?_eq_some_iff hpart).1 hkey
  rw [valueAt, htop, valueIn, Key.nameIn?, if_pos hkey, Option.bind_some]
  cases node.child? part with
  | none => rfl
  | some child => rw [Option.bind_some, valueBelow, hkey, Option.getD_some]

/-- Values that are merged into a section of a tree change their keys and no others. -/
theorem KeysOnly.putSection {entries : List (String × Node)} (h : KeysOnly node)
    (hpart : part ∈ sectionNames)
    (hentries : gather? (ofValue? (some part)) entries = some assigned) :
    Changed KeysOnly valueAt assigned node
      (node.put part (((node.child? part).getD empty).assignAll entries)) := by
  obtain ⟨hkeys, hvalues⟩ := (h.keysOf hpart).assignAll hentries
  refine ⟨h.put (.inr ⟨hpart, hkeys⟩), fun key => ?_⟩
  by_cases hkey : key.part? = some part
  · rw [valueAt_eq_valueIn hpart hkey, valueAt_eq_valueIn hpart hkey, h.child?_put, if_pos rfl,
      Option.getD_some, hvalues]
  · have htop : key.top ≠ part := fun heq => hkey ((Key.part?_eq_some_iff hpart).2 heq)
    have hnone : last? assigned key = none := by
      have hvalue := hvalues key
      rw [valueIn, valueIn, Key.nameIn?, if_neg hkey] at hvalue
      exact (hvalue.trans Option.or_none).symm
    rw [valueAt, valueAt, h.child?_put, if_neg htop, hnone, Option.none_or]

/-- A value that is merged into a tree beside the sections changes its key and no other. -/
theorem KeysOnly.putValue {name : String} (h : KeysOnly node)
    (hentry : ofValue? none (name, value) = some assigned) :
    Changed KeysOnly valueAt assigned node (node.assign name value) := by
  obtain ⟨other, hvalue, hpart, hname, rfl⟩ := ofValue?_eq_some_iff.1 hentry
  rw [assign_value hvalue, ← hname]
  refine ⟨h.put (.inl ⟨⟨other, hpart, rfl⟩, hvalue⟩), fun key => ?_⟩
  rw [valueAt, valueAt, h.child?_put, last?_singleton]
  simp only [Key.top_eq_name_iff hpart]
  split
  · next heq =>
    subst heq
    rw [Option.bind_some, valueBelow, hpart]
    rfl
  · rfl

theorem KeysOnly.setKey {entry : String × Node} (h : KeysOnly node)
    (hentry : ofTop? entry = some assigned) :
    Changed KeysOnly valueAt assigned node (node.setKey entry.1 entry.2) := by
  obtain ⟨name, value⟩ := entry
  rcases ofTop?_cases hentry with
    ⟨part, origin, entries, hpath, rfl, hpart, hentries⟩ | ⟨last, hpath, hvalue⟩ |
      ⟨part, last, hpath, hvalue⟩
  · rw [Node.setKey, hpath]
    exact h.putSection hpart hentries
  · rw [Node.setKey, hpath]
    exact h.putValue hvalue
  · -- A path starts from an absent node where its section is missing.  A value turns that into a
    -- table just as it does an empty one.
    obtain ⟨key, hleaf, hpart, -⟩ := ofValue?_eq_some_iff.1 hvalue
    have hreach : node.setKey name value =
        node.put part (((node.child? part).getD empty).assignAll [(last, value)]) := by
      rw [Node.setKey, hpath]
      show node.put part (((node.child? part).getD absent).assign last value) =
        node.put part (((node.child? part).getD empty).assign last value)
      cases node.child? part with
      | none =>
        rw [Option.getD_none, Option.getD_none, assign_value hleaf, assign_value hleaf]
        rfl
      | some child => rfl
    rw [hreach]
    exact h.putSection (Key.mem_sectionNames hpart) (gather?_singleton hvalue)

theorem KeysOnly.onto {layer : Layer} (h : KeysOnly node)
    (hlayer : layer.assignments? = some assigned) :
    Changed KeysOnly valueAt assigned node (layer.onto node) :=
  Changed.foldl KeysOnly.setKey hlayer h

/-- Layers that are merged one after the other change the keys that they assign and no others. -/
theorem KeysOnly.ontoAll {layers : List Layer} (h : KeysOnly node)
    (hlayers : gather? Layer.assignments? layers = some assigned) :
    Changed KeysOnly valueAt assigned node
      (layers.foldl (fun node layer => layer.onto node) node) :=
  Changed.foldl KeysOnly.onto hlayers h

/-! ## Trees as layers -/

/-- What entries with distinct names assign to a key is what the entry under its name does. -/
theorem gather?_distinct {assign? : String × Node → Option Assignments}
    {entries : List (String × Node)} (wanted : Key → Option String)
    (view : Key → Node → Option Node) (hdistinct : (entries.map Prod.fst).Nodup)
    (hentry : ∀ entry ∈ entries, ∃ assigned, assign? entry = some assigned ∧ ∀ key,
      last? assigned key = if wanted key = some entry.1 then view key entry.2 else none) :
    ∃ assigned, gather? assign? entries = some assigned ∧ ∀ key,
      last? assigned key =
        (wanted key).bind fun name => (entries.lookup name).bind (view key) := by
  induction entries with
  | nil =>
    refine ⟨[], rfl, fun key => ?_⟩
    cases wanted key <;> rfl
  | cons entry rest ih =>
    obtain ⟨name, node⟩ := entry
    obtain ⟨hnew, hrest⟩ := List.nodup_cons.1 hdistinct
    obtain ⟨first, hfirst, hview⟩ := hentry (name, node) List.mem_cons_self
    obtain ⟨others, hothers, hviews⟩ :=
      ih hrest fun entry hmem => hentry entry (List.mem_cons_of_mem _ hmem)
    refine ⟨first ++ others, gather?_cons_eq_some_iff.2 ⟨first, others, hfirst, hothers, rfl⟩,
      fun key => ?_⟩
    rw [last?_append, hview, hviews]
    cases wanted key with
    | none => rfl
    | some sought =>
      rw [Option.bind_some, Option.bind_some, lookup_cons_eq_ite]
      -- The first entry of a name is found, but the last assignment counts: no other has the name.
      by_cases hsought : sought = name
      · have hnone : rest.lookup sought = none := by
          rw [List.lookup_eq_none_iff]
          intro entry hmem
          refine bne_iff_ne.2 fun heq => hnew ?_
          exact List.mem_map.2 ⟨entry, hmem, heq.symm.trans hsought⟩
        rw [hnone, if_pos hsought, if_pos (congrArg some hsought)]
        rfl
      · rw [if_neg hsought, if_neg fun heq => hsought (Option.some_inj.1 heq), Option.or_none]

theorem ofValue?_of_isValue {part? : Option String} {name : String} (h : IsValue part? name value) :
    ∃ key : Key, key.part? = part? ∧ key.name = name ∧
      ofValue? part? (name, value) = some [(key, value)] := by
  obtain ⟨⟨key, hpart, hname⟩, hvalue⟩ := h
  refine ⟨key, hpart, hname, ofValue?_eq_some_iff.2 ⟨key, hvalue, hpart, ?_, rfl⟩⟩
  rw [← hname, key.lowered_name]

theorem KeysOf.gather? (h : KeysOf part node) :
    ∃ assigned, Assignments.gather? (ofValue? (some part)) node.entries = some assigned ∧ ∀ key,
      last? assigned key = valueIn part node key := by
  have hentry : ∀ entry ∈ node.entries, ∃ assigned,
      ofValue? (some part) entry = some assigned ∧ ∀ key,
        last? assigned key =
          if key.nameIn? part = some entry.1 then some entry.2 else none := by
    intro entry hmem
    obtain ⟨other, hpart, hname, hassigned⟩ := ofValue?_of_isValue (h.fits entry hmem)
    refine ⟨_, hassigned, fun key => ?_⟩
    rw [last?_singleton, ← hname]
    simp only [Key.nameIn?_eq_some_iff hpart]
  obtain ⟨assigned, hassigned, hlast⟩ :=
    gather?_distinct (Key.nameIn? part) (fun _ => some) h.distinct hentry
  refine ⟨assigned, hassigned, fun key => ?_⟩
  rw [hlast, valueIn]
  simp only [Option.bind_fun_some]
  rfl

theorem KeysOnly.assignments? (h : KeysOnly node) :
    ∃ assigned, Layer.assignments? node.entries = some assigned ∧ ∀ key,
      last? assigned key = valueAt node key := by
  have hentry : ∀ entry ∈ node.entries, ∃ assigned, ofTop? entry = some assigned ∧ ∀ key,
      last? assigned key =
        if some key.top = some entry.1 then valueBelow key entry.2 else none := by
    rintro ⟨name, child⟩ hmem
    have hfits := h.fits _ hmem
    simp only [Option.some_inj] at hfits ⊢
    rcases hfits with ⟨⟨other, hpart, rfl⟩, hvalue⟩ | ⟨hpart, hkeys⟩
    · refine ⟨[(other, child)], ofTop?_value hpart hvalue, fun key => ?_⟩
      rw [last?_singleton]
      simp only [Key.top_eq_name_iff hpart]
      split
      · next heq => rw [heq, valueBelow, hpart]
      · rfl
    · obtain ⟨assigned, hassigned, hlast⟩ := hkeys.gather?
      obtain ⟨origin, hchild⟩ := hkeys.eq_table
      refine ⟨assigned, ?_, fun key => ?_⟩
      · rw [hchild, ofTop?_section hpart]
        exact hassigned
      · rw [hlast, valueIn, Key.nameIn?]
        simp only [← Key.part?_eq_some_iff hpart]
        split
        · next hkey => rw [valueBelow, hkey, Option.bind_some]
        · rfl
  exact gather?_distinct (fun key => some key.top) valueBelow h.distinct hentry

end Node

end LogDigest.Settings
