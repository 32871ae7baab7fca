import LogDigest.Proofs.Path.Normalize
import LogDigest.Proofs.Path.Search
import LogDigest.Proofs.Text.Splitting

/-!
# Leaves of documents

A document names its leaves by the keys that lead to them.  How a key groups several names by dots,
and in which case it writes them, makes no difference to where a path leads: if no path of a leaf
begins another one, every derivation along such a path ends at its leaf.
-/

namespace LogDigest.Path

/-! ## Leaves and their paths -/

/-- Anything but an object that has members. -/
def IsLeaf : Json → Prop
  | .object (_ :: _) => False
  | _ => True

/-- A leaf inside a document, with the keys of the objects that lead to it. -/
inductive Leaf : Json → List String → Json → Prop where
  | member {members : List (String × Json)} {key : String} {value : Json}
      (named : (key, value) ∈ members) (isLeaf : IsLeaf value) :
      Leaf (.object members) [key] value
  | nested {members : List (String × Json)} {key : String} {child value : Json}
      {keys : List String} (named : (key, child) ∈ members) (leaf : Leaf child keys value) :
      Leaf (.object members) (key :: keys) value

/-- The keys that lead to a leaf, joined by dots. -/
def fullPath (keys : List String) : List Char :=
  ['.'].intercalate (keys.map String.toList)

/-- Two texts that differ at most in the case of ASCII letters. -/
def Alike (s t : List Char) : Prop :=
  s.map Char.toLower = t.map Char.toLower

def folded (names : List (List Char)) : List (List Char) :=
  names.map (List.map Char.toLower)

/-- The paths of the leaves are ASCII. -/
def AsciiPaths (doc : Json) : Prop :=
  ∀ keys value, Leaf doc keys value → ∀ c ∈ fullPath keys, c.toNat < 0x80

/-- The paths of the leaves are ASCII, and the names of none are the first names of another one,
or all of them, whatever the case of their letters. -/
structure Unambiguous (doc : Json) : Prop where
  ascii : AsciiPaths doc
  apart : ∀ keys keys' value value', Leaf doc keys value → Leaf doc keys' value' →
    folded (segments (fullPath keys)) <+: folded (segments (fullPath keys')) → keys = keys'

/-- Two documents with the same paths of leaves and the same values at them. -/
def SameLeaves (doc other : Json) : Prop :=
  ∀ path value, (∃ keys, Leaf doc keys value ∧ fullPath keys = path) ↔
    ∃ keys, Leaf other keys value ∧ fullPath keys = path

theorem Leaf.keys_ne_nil {doc value : Json} {keys : List String} (h : Leaf doc keys value) :
    keys ≠ [] := by
  cases h with
  | member => exact List.cons_ne_nil _ _
  | nested => exact List.cons_ne_nil _ _

theorem Leaf.not_isLeaf {doc value : Json} {keys : List String} (h : Leaf doc keys value) :
    ¬ IsLeaf doc := by
  have hmember : ∀ {members : List (String × Json)} {member : String × Json},
      member ∈ members → ¬ IsLeaf (.object members) := by
    intro members member hmem
    cases members with
    | nil => exact absurd hmem List.not_mem_nil
    | cons => exact id
  cases h with
  | member named => exact hmember named
  | nested named => exact hmember named

theorem exists_leaf_of_not_isLeaf {doc : Json} (hdoc : doc.Ordered) (h : ¬ IsLeaf doc) :
    ∃ keys value, Leaf doc keys value := by
  induction hdoc with
  | @object members _ _ ih =>
    cases members with
    | nil => exact absurd trivial h
    | cons member rest =>
      have hmember : member ∈ member :: rest := List.mem_cons_self
      by_cases hleaf : IsLeaf member.2
      · exact ⟨_, _, .member hmember hleaf⟩
      · obtain ⟨keys, value, hvalue⟩ := ih member hmember hleaf
        exact ⟨_, _, .nested hmember hvalue⟩
  | _ => exact absurd trivial h

theorem Leaf.unique {doc value value' : Json} {keys : List String} (hdoc : doc.Ordered)
    (h : Leaf doc keys value) (h' : Leaf doc keys value') : value = value' := by
  induction h with
  | member named =>
    cases h' with
    | member named' => exact Json.value_unique hdoc.ascending named named'
    | nested _ leaf => exact absurd rfl leaf.keys_ne_nil
  | nested named leaf ih =>
    cases h' with
    | member => exact absurd rfl leaf.keys_ne_nil
    | nested named' leaf' =>
      have hchild := Json.value_unique hdoc.ascending named named'
      subst hchild
      exact ih (hdoc.value named) leaf'

/-! ## Names -/

private theorem segments_cons (c : Char) (s : List Char) :
    segments (c :: s) = if c = '.' then [] :: segments s
      else (segments s).modifyHead (List.cons c) := by
  rw [segments, List.splitOn, List.splitOnP_cons_eq_if_modifyHead]
  simp only [beq_iff_eq]
  rfl

private theorem toLower_eq_dot_iff (c : Char) : c.toLower = '.' ↔ c = '.' := by
  have hdot : '.'.toNat = 46 := rfl
  rw [← Char.toNat_inj, ← Char.toNat_inj, Text.toNat_toLower, hdot]
  split <;> omega

theorem segments_map_toLower (path : List Char) :
    segments (path.map Char.toLower) = folded (segments path) := by
  induction path with
  | nil => rfl
  | cons c s ih =>
    rw [List.map_cons, segments_cons, segments_cons, ih]
    by_cases hc : c = '.'
    · subst hc
      rfl
    · rw [if_neg hc, if_neg (mt (toLower_eq_dot_iff c).mp hc)]
      cases segments s with
      | nil => rfl
      | cons first rest => rfl

theorem Alike.folded_segments {path path' : List Char} (h : Alike path path') :
    folded (segments path) = folded (segments path') := by
  rw [← segments_map_toLower, ← segments_map_toLower, h]

/-- A key spells a run of names in some case exactly if its segments are these names. -/
theorem alike_keyOf_iff {key : String} {names : List (List Char)} (hsome : names ≠ [])
    (hdots : ∀ name ∈ names, '.' ∉ name) :
    Alike key.toList (keyOf names).toList ↔ folded (segments key.toList) = folded names := by
  have hnames : segments (keyOf names).toList = names := by
    rw [keyOf, String.toList_ofList]
    exact List.splitOn_intercalate '.' hdots hsome
  constructor
  · intro h
    rw [h.folded_segments, hnames]
  · intro h
    have hkey : segments (key.toList.map Char.toLower) =
        segments ((keyOf names).toList.map Char.toLower) := by
      rw [segments_map_toLower, segments_map_toLower, h, hnames]
    have hjoined := congrArg (['.'].intercalate ·) hkey
    simpa only [Alike, segments, List.intercalate_splitOn] using hjoined

private theorem mem_joined {names : List (List Char)} {c : Char} (h : c ∈ ['.'].intercalate names) :
    c = '.' ∨ ∃ name ∈ names, c ∈ name := by
  induction names with
  | nil => exact absurd h List.not_mem_nil
  | cons name rest ih =>
    cases rest with
    | nil => exact .inr ⟨name, List.mem_cons_self, by simpa using h⟩
    | cons next rest =>
      rw [List.intercalate_cons_cons, List.mem_append, List.mem_append, List.mem_singleton] at h
      rcases h with (hname | hdot) | hrest
      · exact .inr ⟨name, List.mem_cons_self, hname⟩
      · exact .inl hdot
      · obtain hdot | ⟨other, hother, hc⟩ := ih hrest
        · exact .inl hdot
        · exact .inr ⟨other, List.mem_cons_of_mem _ hother, hc⟩

private theorem mem_joined_of_mem {names : List (List Char)} {name : List Char} {c : Char}
    (hname : name ∈ names) (hc : c ∈ name) : c ∈ ['.'].intercalate names := by
  induction names with
  | nil => exact absurd hname List.not_mem_nil
  | cons first rest ih =>
    cases rest with
    | nil =>
      rw [List.mem_singleton] at hname
      simpa [← hname] using hc
    | cons next rest =>
      rw [List.intercalate_cons_cons, List.mem_append, List.mem_append]
      rcases List.mem_cons.mp hname with rfl | hrest
      · exact .inl (.inl hc)
      · exact .inr (ih hrest)

def namesOf (keys : List String) : List (List Char) :=
  keys.flatMap fun key => segments key.toList

theorem segments_fullPath {keys : List String} (h : keys ≠ []) :
    segments (fullPath keys) = namesOf keys := by
  induction keys with
  | nil => exact absurd rfl h
  | cons key rest ih =>
    cases rest with
    | nil => simp [fullPath, namesOf]
    | cons next rest =>
      have happend : fullPath (key :: next :: rest) =
          key.toList ++ '.' :: fullPath (next :: rest) := by
        simp [fullPath]
      rw [happend, segments, List.splitOn_append_cons_self]
      show segments key.toList ++ segments _ = _
      rw [ih (List.cons_ne_nil _ _)]
      rfl

@[simp] theorem namesOf_cons (key : String) (keys : List String) :
    namesOf (key :: keys) = segments key.toList ++ namesOf keys :=
  List.flatMap_cons

@[simp] theorem namesOf_nil : namesOf [] = [] := rfl

@[simp] theorem folded_append (names names' : List (List Char)) :
    folded (names ++ names') = folded names ++ folded names' :=
  List.map_append

@[simp] theorem folded_eq_nil_iff {names : List (List Char)} : folded names = [] ↔ names = [] :=
  List.map_eq_nil_iff

private theorem length_le_length_namesOf (keys : List String) :
    keys.length ≤ (namesOf keys).length := by
  induction keys with
  | nil => exact Nat.le_refl _
  | cons key rest ih =>
    have hkey := List.length_pos_of_ne_nil (segments_ne_nil key.toList)
    rw [namesOf_cons, List.length_append, List.length_cons]
    omega

private theorem namesOf_ne_nil {keys : List String} (h : keys ≠ []) : namesOf keys ≠ [] := by
  rw [← segments_fullPath h]
  exact segments_ne_nil _

/-! ## Derivations to leaves -/

def AsciiKeys (doc : Json) : Prop :=
  ∀ keys value, Leaf doc keys value → ∀ key ∈ keys, ∀ c ∈ key.toList, c.toNat < 0x80

/-- Names that are ASCII and hold no dots, as the segments of an ASCII path do. -/
def AsciiNames (names : List (List Char)) : Prop :=
  ∀ name ∈ names, '.' ∉ name ∧ ∀ c ∈ name, c.toNat < 0x80

section

variable {members : List (String × Json)} {key : String} {child value : Json}
  {names front rest : List (List Char)} {keys : List String} {steps : List Step}

theorem AsciiKeys.inside (h : AsciiKeys (.object members)) (hnamed : (key, child) ∈ members) :
    AsciiKeys child := by
  intro keys value hleaf key' hkey'
  exact h _ _ (.nested hnamed hleaf) key' (List.mem_cons_of_mem _ hkey')

theorem AsciiKeys.named (h : AsciiKeys (.object members)) (hdoc : (Json.object members).Ordered)
    (hnamed : (key, child) ∈ members) : ∀ c ∈ key.toList, c.toNat < 0x80 := by
  by_cases hleaf : IsLeaf child
  · exact h _ _ (.member hnamed hleaf) key List.mem_cons_self
  · obtain ⟨keys, value, hvalue⟩ := exists_leaf_of_not_isLeaf (hdoc.value hnamed) hleaf
    exact h _ _ (.nested hnamed hvalue) key List.mem_cons_self

private theorem ascii_keyOf (h : AsciiNames front) :
    ∀ c ∈ (keyOf front).toList, c.toNat < 0x80 := by
  rw [keyOf, String.toList_ofList]
  intro c hc
  obtain rfl | ⟨name, hname, hc⟩ := mem_joined hc
  · decide
  · exact (h name hname).2 c hc

/-- Among ASCII keys those that a run of names may lead through spell the names in some case. -/
theorem lower_eq_lower_keyOf_iff (hkey : ∀ c ∈ key.toList, c.toNat < 0x80) (hsome : front ≠ [])
    (hfront : AsciiNames front) :
    Text.lower key.toList = Text.lower (keyOf front).toList ↔
      folded (segments key.toList) = folded front := by
  rw [Text.lower_of_ascii hkey, Text.lower_of_ascii (ascii_keyOf hfront)]
  exact alike_keyOf_iff hsome fun name hname => (hfront name hname).1

private theorem exists_takes (hsome : front ≠ []) (hnamed : (key, child) ∈ members)
    (halike : Text.lower key.toList = Text.lower (keyOf front).toList) :
    ∃ step, Takes (.object members) (front ++ rest) step rest child := by
  by_cases hkey : key = keyOf front
  · subst hkey
    exact ⟨_, .exact hsome hnamed⟩
  · exact ⟨_, .folded hsome hnamed hkey halike⟩

theorem Takes.exists_key {doc : Json} {step : Step} (h : Takes doc names step rest child)
    (hdoc : ¬ IsLeaf doc) :
    ∃ members key front, doc = .object members ∧ names = front ++ rest ∧ front ≠ [] ∧
      (key, child) ∈ members ∧ Text.lower key.toList = Text.lower (keyOf front).toList := by
  cases h with
  | item => exact absurd trivial hdoc
  | exact nonempty named => exact ⟨_, _, _, rfl, rfl, nonempty, named, rfl⟩
  | folded nonempty named _ alike => exact ⟨_, _, _, rfl, rfl, nonempty, named, alike⟩

/-- A leaf lies at the end of a derivation along its names, with a step for each of its keys. -/
theorem Leaf.exists_derives {doc : Json} (h : Leaf doc keys value) (hdoc : doc.Ordered)
    (hkeys : AsciiKeys doc) (hnames : AsciiNames names)
    (hfolded : folded names = folded (namesOf keys)) :
    ∃ steps, Derives doc names steps value ∧ steps.length = keys.length := by
  induction h generalizing names with
  | @member members key value named _ =>
    have hkey : folded (segments key.toList) = folded names := by simp [hfolded, namesOf]
    have hsome : names ≠ [] := by
      rintro rfl
      exact segments_ne_nil _ (List.map_eq_nil_iff.mp hkey)
    have halike := (lower_eq_lower_keyOf_iff (hkeys.named hdoc named) hsome hnames).mpr hkey
    obtain ⟨step, htakes⟩ : ∃ step, Takes (.object members) (names ++ []) step [] value :=
      exists_takes hsome named halike
    rw [List.append_nil] at htakes
    exact ⟨[step], .step htakes (.done value), rfl⟩
  | @nested members key child value keys named _ ih =>
    obtain ⟨front, rest, rfl, hfront, hrest⟩ := List.map_eq_append_iff.mp
      (show names.map _ = folded (segments key.toList) ++ folded (namesOf keys) by
        rw [← folded, hfolded]; simp [namesOf, folded])
    have hsome : front ≠ [] := by
      rintro rfl
      exact segments_ne_nil _ (List.map_eq_nil_iff.mp hfront.symm)
    have hnames' := List.forall_mem_append.mp hnames
    have hascii := hkeys.named hdoc named
    have halike := (lower_eq_lower_keyOf_iff hascii hsome hnames'.1).mpr hfront.symm
    obtain ⟨step, htakes⟩ := exists_takes hsome named halike
    obtain ⟨steps, hderives, hlength⟩ := ih (hdoc.value named) (hkeys.inside named) hnames'.2 hrest
    exact ⟨step :: steps, .step htakes hderives, by simp [hlength]⟩

/-- Every derivation from an object stays on the way to some leaf, and ends there if it takes all
names of the leaf and no others. -/
theorem Derives.exists_leaf {doc : Json} (h : Derives doc names steps value)
    (hdoc : doc.Ordered) (hkeys : AsciiKeys doc) (hnames : AsciiNames names) (hsome : names ≠ [])
    (hobject : ¬ IsLeaf doc) :
    ∃ keys leaf, Leaf doc keys leaf ∧
      (folded names <+: folded (namesOf keys) ∨ folded (namesOf keys) <+: folded names) ∧
      (folded names = folded (namesOf keys) → value = leaf) := by
  induction h with
  | done => exact absurd rfl hsome
  | @step doc child value names rest step steps takes derives ih =>
    obtain ⟨members, key, front, rfl, rfl, hfront, hnamed, halike⟩ := takes.exists_key hobject
    obtain ⟨hnames, hnames'⟩ := List.forall_mem_append.mp hnames
    have hkey := (lower_eq_lower_keyOf_iff (hkeys.named hdoc hnamed) hfront hnames).mp halike
    by_cases hleaf : IsLeaf child
    · -- A leaf is where the derivation ends, unless it leads into an array.
      refine ⟨[key], child, .member hnamed hleaf, .inr ?_, ?_⟩
      · simp [hkey]
      · intro heq
        have hrest : rest = [] := by simpa [hkey] using heq
        rw [hrest] at derives
        exact (derives_nil_iff.mp derives).2.symm
    · by_cases hrest : rest = []
      · -- The derivation ends at an object, short of the leaves inside it.
        subst hrest
        obtain ⟨keys, leaf, hbelow⟩ := exists_leaf_of_not_isLeaf (hdoc.value hnamed) hleaf
        refine ⟨key :: keys, leaf, .nested hnamed hbelow, .inl ?_, ?_⟩
        · simp [hkey]
        · intro heq
          have hnone : namesOf keys = [] := by simpa [hkey] using heq
          exact absurd hnone (namesOf_ne_nil hbelow.keys_ne_nil)
      · obtain ⟨keys, leaf, hbelow, hmeets, hends⟩ :=
          ih (hdoc.value hnamed) (hkeys.inside hnamed) hnames' hrest hleaf
        refine ⟨key :: keys, leaf, .nested hnamed hbelow, ?_, ?_⟩
        · simpa [hkey] using hmeets
        · intro heq
          exact hends (by simpa [hkey] using heq)

end

/-! ## Paths of leaves -/

theorem AsciiPaths.keys {doc : Json} (h : AsciiPaths doc) : AsciiKeys doc := by
  intro keys value hleaf key hkey c hc
  exact h keys value hleaf c (mem_joined_of_mem (List.mem_map_of_mem hkey) hc)

theorem asciiNames_segments {path : List Char} (h : ∀ c ∈ path, c.toNat < 0x80) :
    AsciiNames (segments path) := by
  intro name hname
  exact ⟨Text.not_mem_of_mem_splitOn hname, fun c hc => h c (Text.mem_of_mem_splitOn hname hc)⟩

theorem Alike.ascii {path path' : List Char} (h : Alike path path')
    (hascii : ∀ c ∈ path', c.toNat < 0x80) : ∀ c ∈ path, c.toNat < 0x80 := by
  intro c hc
  have hlower : c.toLower ∈ path'.map Char.toLower := by
    rw [← h]
    exact List.mem_map_of_mem hc
  obtain ⟨c', hc', heq⟩ := List.mem_map.mp hlower
  have hnat := congrArg Char.toNat heq
  have hlt := hascii c' hc'
  rw [Text.toNat_toLower, Text.toNat_toLower] at hnat
  split at hnat <;> split at hnat <;> omega

/-- A path that leads to a leaf of the value `value`, while no other leaf lies on its way or
behind it. -/
structure LeadsTo (doc : Json) (path : List Char) (value : Json) : Prop where
  ascii : ∀ c ∈ path, c.toNat < 0x80
  paths : AsciiPaths doc
  leaf : ∃ keys, Leaf doc keys value ∧ folded (segments path) = folded (namesOf keys)
  sole : ∀ keys value', Leaf doc keys value' →
    folded (segments path) <+: folded (namesOf keys) ∨
      folded (namesOf keys) <+: folded (segments path) →
    folded (segments path) = folded (namesOf keys) ∧ value' = value

theorem LeadsTo.eq_of_derives {doc value value' : Json} {path : List Char} {steps : List Step}
    (h : LeadsTo doc path value) (hdoc : doc.Ordered)
    (hderives : Derives doc (segments path) steps value') : value' = value := by
  obtain ⟨_, htarget, -⟩ := h.leaf
  obtain ⟨keys, leaf, hleaf, hmeets, hends⟩ :=
    hderives.exists_leaf hdoc h.paths.keys (asciiNames_segments h.ascii) (segments_ne_nil _)
      htarget.not_isLeaf
  obtain ⟨hnames, rfl⟩ := h.sole keys leaf hleaf hmeets
  exact hends hnames

theorem LeadsTo.find? {doc value : Json} {path : String} {depth : Nat}
    (h : LeadsTo doc path.toList value) (hdoc : doc.Ordered) (hbare : IsBare path.toList)
    (hdepth : (segments path.toList).length ≤ depth) : doc.find? path depth = some value := by
  have hpath : String.ofList (normalize path.toList) = path := by
    rw [normalize_of_isBare hbare, String.ofList_toList]
  rw [Json.find?, hpath, normalize_of_isBare hbare]
  cases hget : doc.get? path with
  | some direct =>
    -- The whole path as a key is one step of a derivation, so it can only be the leaf.
    have hmem := (get?_eq_some_iff hdoc).mp hget
    cases doc with
    | object members =>
      rw [← String.ofList_toList (s := path), ← keyOf_segments] at hmem
      have hderives := Derives.step (.exact (segments_ne_nil _) hmem) (.done direct)
      rw [List.append_nil] at hderives
      exact congrArg some (h.eq_of_derives hdoc hderives)
    | _ => exact absurd hmem List.not_mem_nil
  | none =>
    show descend depth doc (segments path.toList) = some value
    cases hfound : descend depth doc (segments path.toList) with
    | some found =>
      obtain ⟨steps, hleast⟩ := (descend_eq_some_iff hdoc).mp hfound
      exact congrArg some (h.eq_of_derives hdoc hleast.derives)
    | none =>
      obtain ⟨keys, hleaf, hnames⟩ := h.leaf
      obtain ⟨steps, hderives, hlength⟩ :=
        hleaf.exists_derives hdoc h.paths.keys (asciiNames_segments h.ascii) hnames
      have hlong := (descend_eq_none_iff hdoc).mp hfound steps value hderives
      have hshort := length_le_length_namesOf keys
      have hcount := congrArg List.length hnames
      simp only [folded, List.length_map] at hcount
      omega

theorem Unambiguous.leadsTo {doc value : Json} {keys : List String} {path : List Char}
    (h : Unambiguous doc) (hdoc : doc.Ordered) (hleaf : Leaf doc keys value)
    (halike : Alike path (fullPath keys)) : LeadsTo doc path value := by
  have hnames : folded (segments path) = folded (segments (fullPath keys)) :=
    halike.folded_segments
  refine ⟨halike.ascii (h.ascii keys value hleaf), h.ascii, ?_, ?_⟩
  · rw [segments_fullPath hleaf.keys_ne_nil] at hnames
    exact ⟨keys, hleaf, hnames⟩
  · intro keys' value' hleaf' hmeets
    rw [← segments_fullPath hleaf'.keys_ne_nil, hnames] at hmeets
    have hkeys : keys = keys' := by
      rcases hmeets with hfront | hfront
      · exact h.apart _ _ _ _ hleaf hleaf' hfront
      · exact (h.apart _ _ _ _ hleaf' hleaf hfront).symm
    subst hkeys
    rw [← segments_fullPath hleaf.keys_ne_nil]
    exact ⟨hnames, hleaf'.unique hdoc hleaf⟩

theorem LeadsTo.of_sameLeaves {doc other value : Json} {path : List Char}
    (h : LeadsTo doc path value) (hsame : SameLeaves doc other) : LeadsTo other path value := by
  -- Each leaf of the other document is one of the first with the same path and value.
  have hback : ∀ {keys value'}, Leaf other keys value' →
      ∃ keys', Leaf doc keys' value' ∧ fullPath keys' = fullPath keys := by
    intro keys value' hleaf
    exact (hsame _ _).mpr ⟨keys, hleaf, rfl⟩
  refine ⟨h.ascii, ?_, ?_, ?_⟩
  · intro keys value' hleaf
    obtain ⟨keys', hleaf', hpath⟩ := hback hleaf
    rw [← hpath]
    exact h.paths keys' value' hleaf'
  · obtain ⟨keys, hleaf, hnames⟩ := h.leaf
    obtain ⟨keys', hleaf', hpath⟩ := (hsame _ _).mp ⟨keys, hleaf, rfl⟩
    refine ⟨keys', hleaf', ?_⟩
    rw [hnames, ← segments_fullPath hleaf.keys_ne_nil, ← hpath,
      segments_fullPath hleaf'.keys_ne_nil]
  · intro keys value' hleaf hmeets
    obtain ⟨keys', hleaf', hpath⟩ := hback hleaf
    have hnames : namesOf keys = namesOf keys' := by
      rw [← segments_fullPath hleaf.keys_ne_nil, ← segments_fullPath hleaf'.keys_ne_nil, hpath]
    rw [hnames] at hmeets ⊢
    exact h.sole keys' value' hleaf' hmeets

/-- A path that names a leaf in some case leads to that leaf, and to the same value in every
document that has the same leaves, however it groups their names into keys. -/
theorem find?_leaf (doc : Json.Document) (value : Json) (keys : List String) (path : String)
    (depth : Nat) (hpaths : Unambiguous doc.json) (hleaf : Leaf doc.json keys value)
    (halike : Alike path.toList (fullPath keys)) (hbare : IsBare path.toList)
    (hdepth : (segments (fullPath keys)).length ≤ depth) :
    doc.json.find? path depth = some value ∧
      ∀ other : Json.Document, SameLeaves doc.json other.json →
        other.json.find? path depth = doc.json.find? path depth := by
  have hleads := hpaths.leadsTo doc.ordered hleaf halike
  have hlength : (segments path.toList).length ≤ depth := by
    have hcount := congrArg List.length halike.folded_segments
    simp only [folded, List.length_map] at hcount
    omega
  have hfound := hleads.find? doc.ordered hbare hlength
  refine ⟨hfound, ?_⟩
  intro other hsame
  rw [hfound, (hleads.of_sameLeaves hsame).find? other.ordered hbare hlength]

private theorem leaf_object_iff {members : List (String × Json)} {keys : List String}
    {value : Json} :
    Leaf (.object members) keys value ↔ ∃ member ∈ members,
      (keys = [member.1] ∧ value = member.2 ∧ IsLeaf member.2 ∨
        ∃ rest, keys = member.1 :: rest ∧ Leaf member.2 rest value) := by
  constructor
  · intro h
    cases h with
    | member named isLeaf => exact ⟨_, named, .inl ⟨rfl, rfl, isLeaf⟩⟩
    | nested named leaf => exact ⟨_, named, .inr ⟨_, rfl, leaf⟩⟩
  · rintro ⟨⟨key, child⟩, named, ⟨rfl, rfl, isLeaf⟩ | ⟨rest, rfl, leaf⟩⟩
    · exact .member named isLeaf
    · exact .nested named leaf

private theorem not_leaf_string (text : String) (keys : List String) (value : Json) :
    ¬ Leaf (.string text) keys value := by
  intro h
  cases h

/-- `a.B.C` names a leaf that one document keeps below `A` under `b.c`, and another one deeper. -/
theorem find?_leaf_mixed :
    (Json.object [("A", .object [("b.c", .string "found")]), ("a.d", .object [])]).find?
        "a.B.C" 3 = some (.string "found") ∧
      (Json.object [("A", .object [("b", .object [("c", .string "found")])]),
        ("a.d", .object [])]).find? "a.B.C" 3 = some (.string "found") := by
  generalize hdoc : Json.object [("A", .object [("b.c", .string "found")]), ("a.d", .object [])] =
    doc
  generalize hother : Json.object [("A", .object [("b", .object [("c", .string "found")])]),
    ("a.d", .object [])] = other
  have hempty : (Json.object []).Ordered := .object .nil (by simp)
  have houter : ∀ value, value.Ordered →
      (Json.object [("A", value), ("a.d", .object [])]).Ordered := fun value hvalue =>
    Json.ordered_pair (by decide) hvalue hempty
  have hleaves : ∀ keys value, Leaf doc keys value ↔
      keys = ["A", "b.c"] ∧ value = .string "found" ∨ keys = ["a.d"] ∧ value = .object [] := by
    intro keys value
    simp [← hdoc, leaf_object_iff, not_leaf_string, IsLeaf]
  have hleaves' : ∀ keys value, Leaf other keys value ↔
      keys = ["A", "b", "c"] ∧ value = .string "found" ∨ keys = ["a.d"] ∧ value = .object [] := by
    intro keys value
    simp [← hother, leaf_object_iff, not_leaf_string, IsLeaf]
  have hsame : SameLeaves doc other := by
    intro path value
    simp only [hleaves, hleaves', or_and_right, exists_or, and_assoc, exists_eq_left]
    rfl
  have hpaths : Unambiguous doc := by
    constructor
    · intro keys value hleaf
      rcases (hleaves keys value).mp hleaf with ⟨rfl, -⟩ | ⟨rfl, -⟩ <;> simp [fullPath]
    · intro keys keys' value value' hleaf hleaf'
      rcases (hleaves keys value).mp hleaf with ⟨rfl, -⟩ | ⟨rfl, -⟩ <;>
        rcases (hleaves keys' value').mp hleaf' with ⟨rfl, -⟩ | ⟨rfl, -⟩ <;> decide
  have hbare : IsBare "a.B.C".toList :=
    ⟨by simp, Text.stops_cons rfl, Text.stops_cons rfl⟩
  have hordered : doc.Ordered := hdoc ▸ houter _ (Json.ordered_single _ (.string _))
  have hordered' : other.Ordered :=
    hother ▸ houter _ (Json.ordered_single _ (Json.ordered_single _ (.string _)))
  have halike : Alike "a.B.C".toList (fullPath ["A", "b.c"]) := by
    rw [Alike]
    decide
  have hfound := find?_leaf ⟨doc, hordered⟩ (.string "found") ["A", "b.c"] "a.B.C" 3 hpaths
    ((hleaves _ _).mpr (.inl ⟨rfl, rfl⟩)) halike hbare (by decide)
  exact ⟨hfound.1, (hfound.2 ⟨other, hordered'⟩ hsame).trans hfound.1⟩

end LogDigest.Path
