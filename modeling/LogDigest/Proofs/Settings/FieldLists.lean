import LogDigest.Proofs.Profile.Limits
import LogDigest.Proofs.Settings.Decoding
import LogDigest.Proofs.Template.Grammar
import LogDigest.Proofs.Text.Splitting
import LogDigest.Proofs.Text.Trimming

/-!
# Field lists

Fields are named in a text with commas or in a list of texts.  Cutting the text at its commas gives
the list, and both go through the same reading of a list, which trims the names and leaves out the
empty ones.  A trimmed name that is not empty has a character that is no blank, so that profiles
which come from settings are never refused for a blank field.
-/

namespace LogDigest.Settings

open Text (Stops isBlank)

variable {name raw : String} {names : List String}

/-! ## The names of a list -/

theorem listedNames_cons (name : String) (rest : List String) :
    Node.listedNames (name :: rest) =
      if Text.trimmed name = "" then Node.listedNames rest
      else Text.trimmed name :: Node.listedNames rest := by
  rw [Node.listedNames, List.map_cons, List.filter_cons]
  by_cases hempty : Text.trimmed name = ""
  · rw [if_pos hempty, if_neg (by simp [hempty])]
    rfl
  · rw [if_neg hempty, if_pos (by simp [hempty])]
    rfl

theorem mem_listedNames_iff :
    name ∈ Node.listedNames names ↔ name ≠ "" ∧ ∃ given ∈ names, Text.trimmed given = name := by
  rw [Node.listedNames, List.mem_filter, List.mem_map, bne_iff_ne, and_comm]

theorem fieldNames_eq (raw : String) :
    fieldNames raw = Node.listedNames ((raw.toList.splitOn ',').map String.ofList) := by
  rw [fieldNames]
  induction raw.toList.splitOn ',' with
  | nil => rfl
  | cons part rest ih =>
    have htrimmed : Text.trimmed (String.ofList part) = String.ofList (Text.trim part) := by
      rw [Text.trimmed, String.toList_ofList]
    rw [List.map_cons, List.map_cons, listedNames_cons, htrimmed, ← ih]
    cases Text.trim part with
    | nil => rfl
    | cons c trimmed =>
      rw [if_neg (by simp)]
      rfl

theorem fieldNames_intercalate (h : ∀ name ∈ names, ',' ∉ name.toList) :
    fieldNames (",".intercalate names) = Node.listedNames names := by
  rw [fieldNames_eq, String.toList_intercalate]
  cases names with
  | nil => decide
  | cons first rest =>
    have hparts : ∀ part ∈ (first :: rest).map String.toList, ',' ∉ part := by
      intro part hpart
      obtain ⟨name, hname, rfl⟩ := List.mem_map.1 hpart
      exact h name hname
    have hsplit := List.splitOn_intercalate ',' hparts (by simp)
    rw [show ",".toList = [','] from rfl, hsplit, List.map_map]
    simp only [Function.comp_def, String.ofList_toList, List.map_id']

/-! ## Texts with commas -/

/-- The names that a text with commas can give: they are not empty, and have no comma in them and
no blanks at their ends. -/
structure IsFieldName (name : String) : Prop where
  ne_empty : name ≠ ""
  comma : ',' ∉ name.toList
  first : Stops isBlank name.toList
  last : Stops isBlank name.toList.reverse

private theorem isFieldName_of_mem (h : name ∈ fieldNames raw) : IsFieldName name := by
  rw [fieldNames_eq, mem_listedNames_iff] at h
  obtain ⟨hempty, given, hgiven, rfl⟩ := h
  obtain ⟨part, hpart, rfl⟩ := List.mem_map.1 hgiven
  have htrimmed : (Text.trimmed (String.ofList part)).toList = Text.trim part := by
    rw [Text.trimmed, String.toList_ofList, String.toList_ofList]
  refine ⟨hempty, ?_, ?_, ?_⟩
  · rw [htrimmed]
    exact fun hcomma => Text.not_mem_of_mem_splitOn hpart (Text.mem_of_mem_trim hcomma)
  · rw [htrimmed]
    exact Text.stops_trim part
  · rw [htrimmed]
    exact Text.stops_reverse_trim part

inductive Item where
  | blank (blanks : Template.Blanks)
  | name (before : Template.Blanks) (name : String) (isName : IsFieldName name)
      (after : Template.Blanks)

namespace Item

def text : Item → String
  | .blank blanks => String.ofList blanks.1
  | .name before name _ after => String.ofList before.1 ++ name ++ String.ofList after.1

def name? : Item → Option String
  | .blank _ => none
  | .name _ name _ _ => some name

theorem comma_not_mem_blanks (blanks : Template.Blanks) : ',' ∉ blanks.1 := by
  intro hcomma
  have hblank : isBlank ',' = true := blanks.2 ',' hcomma
  exact absurd hblank (by decide)

theorem comma_not_mem_text (item : Item) : ',' ∉ item.text.toList := by
  cases item with
  | blank blanks =>
    rw [text, String.toList_ofList]
    exact comma_not_mem_blanks blanks
  | name before name isName after =>
    simp only [text, String.toList_append, String.toList_ofList, List.mem_append, not_or]
    exact ⟨⟨comma_not_mem_blanks before, isName.comma⟩, comma_not_mem_blanks after⟩

theorem trimmed_text (item : Item) : Text.trimmed item.text = item.name?.getD "" := by
  cases item with
  | blank blanks =>
    have htrim : Text.trim (blanks.1 ++ ([] ++ [])) = [] :=
      Text.trim_append blanks.2 (List.forall_mem_nil _) Text.stops_nil Text.stops_nil
    rw [List.append_nil, List.append_nil] at htrim
    rw [text, Text.trimmed, String.toList_ofList, htrim]
    rfl
  | name before name isName after =>
    have htrim := Text.trim_append before.2 after.2 isName.first isName.last
    rw [text, Text.trimmed, String.toList_append, String.toList_append, String.toList_ofList,
      String.toList_ofList, List.append_assoc, htrim, String.ofList_toList]
    rfl

end Item

/-- Names are given back in order, whatever blanks and blank items stand between them. -/
theorem fieldNames_items (items : List Item) :
    fieldNames (",".intercalate (items.map Item.text)) = items.filterMap Item.name? := by
  have hcommas : ∀ text ∈ items.map Item.text, ',' ∉ text.toList := by
    intro text htext
    obtain ⟨item, -, rfl⟩ := List.mem_map.1 htext
    exact item.comma_not_mem_text
  rw [fieldNames_intercalate hcommas]
  induction items with
  | nil => rfl
  | cons item items ih =>
    rw [List.map_cons, listedNames_cons, item.trimmed_text, ih fun text htext =>
      hcommas text (List.mem_cons_of_mem _ htext)]
    cases item with
    | blank blanks => rfl
    | name before name isName after => exact if_neg isName.ne_empty

/-! ## Lists of texts -/

private theorem texts?_map (items : List (Option String × String)) :
    Node.texts? (items.map fun item => .scalar item.1 (.text item.2)) =
      some (items.map Prod.snd) := by
  induction items with
  | nil => rfl
  | cons item items ih =>
    rw [List.map_cons, Node.texts?, ih]
    rfl

/-- A list of texts without commas names the same fields as the text that joins them. -/
theorem toFieldNames_list {origin origin' : Option String} {items : List (Option String × String)}
    (h : ∀ item ∈ items, ',' ∉ item.2.toList) :
    (Node.list origin (items.map fun item => .scalar item.1 (.text item.2))).toFieldNames =
      (Node.scalar origin' (.text (",".intercalate (items.map Prod.snd)))).toFieldNames := by
  have hcommas : ∀ name ∈ items.map Prod.snd, ',' ∉ name.toList := by
    intro name hname
    obtain ⟨item, hitem, rfl⟩ := List.mem_map.1 hname
    exact h item hitem
  simp only [Node.toFieldNames, texts?_map, fieldNames_intercalate hcommas]

/-! ## Fields of settings -/

def Shown (fields : List String) : Prop :=
  ∀ field ∈ fields, field.toList.all isBlank = false

instance (fields : List String) : Decidable (Shown fields) :=
  inferInstanceAs (Decidable (∀ field ∈ fields, _))

private theorem shown_listedNames (names : List String) : Shown (Node.listedNames names) := by
  intro name hname
  obtain ⟨hempty, given, -, rfl⟩ := mem_listedNames_iff.1 hname
  have hstops : Stops isBlank (Text.trimmed given).toList := by
    rw [Text.trimmed, String.toList_ofList]
    exact Text.stops_trim given.toList
  cases htrimmed : (Text.trimmed given).toList with
  | nil => exact absurd (String.toList_eq_nil_iff.1 htrimmed) hempty
  | cons c rest =>
    have hc : isBlank c = false := hstops c (by rw [htrimmed]; rfl)
    rw [List.all_cons, hc, Bool.false_and]

theorem shown_defaultFields : Shown defaultFields := by
  decide

private theorem shown_of_toFieldNames {node : Node}
    (h : node.toFieldNames = .ok names) : Shown names := by
  unfold Node.toFieldNames at h
  split at h
  · cases h
    rw [fieldNames_eq]
    exact shown_listedNames _
  · split at h
    · cases h
      exact shown_listedNames _
    · cases h
  · cases h

private theorem fault?_ne_blankField {profile : Profile} (h : Shown profile.fields) :
    profile.fault? ≠ some .blankField := by
  intro hfault
  rw [Profile.fault?_eq_find?] at hfault
  have hfound : Profile.Fault.found profile .blankField = true := List.find?_some hfault
  obtain ⟨field, hfield, hblank⟩ := List.any_eq_true.1 hfound
  rw [h field hfield] at hblank
  cases hblank

theorem shown_of_read {fields : Section} {key : String}
    (h : fields.read key defaultFields Node.toFieldNames = .ok names) : Shown names := by
  rcases Section.read_cases h with rfl | ⟨node, hnode⟩
  · exact shown_defaultFields
  · exact shown_of_toFieldNames hnode

private theorem shown_formatter {node : Node} {formatter : Formatter}
    (h : Formatter.ofNode node = .ok formatter) : Shown formatter.fields := by
  obtain ⟨fields, -, h⟩ := bind_eq_ok_iff.1 h
  obtain ⟨template, -, h⟩ := bind_eq_ok_iff.1 h
  obtain ⟨shown, hshown, h⟩ := bind_eq_ok_iff.1 h
  obtain ⟨depth, -, h⟩ := bind_eq_ok_iff.1 h
  cases h
  exact shown_of_read hshown

private theorem shown_profile {node : Node} {profile : Profile}
    (h : profileOfNode node = .ok profile) :
    Shown profile.fields := by
  obtain ⟨fields, -, h⟩ := bind_eq_ok_iff.1 h
  obtain ⟨id?, -, h⟩ := bind_eq_ok_iff.1 h
  obtain ⟨name?, -, h⟩ := bind_eq_ok_iff.1 h
  obtain ⟨template, -, h⟩ := bind_eq_ok_iff.1 h
  obtain ⟨shown, hshown, h⟩ := bind_eq_ok_iff.1 h
  obtain ⟨description, -, h⟩ := bind_eq_ok_iff.1 h
  obtain ⟨id, -, h⟩ := bind_eq_ok_iff.1 h
  obtain ⟨name, -, h⟩ := bind_eq_ok_iff.1 h
  cases h
  exact shown_of_read hshown

private theorem exists_node_of_mem_items {α : Type} {convert : Node → Conversion α} {position : Nat}
    {nodes : List Node} {items : List α} (h : itemsFrom convert position nodes = .ok items) :
    ∀ item ∈ items, ∃ node, convert node = .ok item := by
  induction nodes generalizing position items with
  | nil =>
    cases h
    exact nofun
  | cons node nodes ih =>
    obtain ⟨item, hitem, h⟩ := bind_eq_ok_iff.1 h
    obtain ⟨rest, hrest, h⟩ := bind_eq_ok_iff.1 h
    cases h
    rw [List.forall_mem_cons]
    exact ⟨⟨node, mapError_eq_ok_iff.1 hitem⟩, ih hrest⟩

private theorem shown_profiles {node : Node} {profiles : List Profile}
    (h : profilesOfNode node = .ok profiles) : ∀ profile ∈ profiles, Shown profile.fields := by
  intro profile hprofile
  unfold profilesOfNode at h
  split at h
  · obtain ⟨node, hnode⟩ := exists_node_of_mem_items h profile hprofile
    exact shown_profile hnode
  · cases h

/-- No tree gives settings with a blank field, be it in the section on what to show or in a
profile. -/
theorem shown_settings {entries : List (String × Node)} {settings : Settings}
    (h : ofEntries entries = .ok settings) :
    ∀ profile ∈ settings.defaultProfile :: settings.profiles, Shown profile.fields := by
  obtain ⟨formatter, hformatter, h⟩ := bind_eq_ok_iff.1 h
  obtain ⟨output, -, h⟩ := bind_eq_ok_iff.1 h
  obtain ⟨logging, -, h⟩ := bind_eq_ok_iff.1 h
  obtain ⟨profiles, hprofiles, h⟩ := bind_eq_ok_iff.1 h
  obtain ⟨activeProfile, -, h⟩ := bind_eq_ok_iff.1 h
  cases h
  rw [List.forall_mem_cons]
  constructor
  · rcases Section.read_cases hformatter with rfl | ⟨node, hnode⟩
    · exact shown_defaultFields
    · exact shown_formatter hnode
  · rcases Section.read_cases hprofiles with rfl | ⟨node, hnode⟩
    · exact nofun
    · exact shown_profiles hnode

/-- Field lists mean the same however they are spelled.  A text with commas gives proper names, and
gives back every list of proper names, in order and with repetitions, whatever blanks and blank
items are put around its commas.  A list of texts without commas names the same fields as the text
that joins them.  So no settings make up a profile that is refused for a blank field. -/
theorem fieldLists_agree :
    (∀ raw, ∀ name ∈ fieldNames raw, IsFieldName name) ∧
    (∀ items : List Item,
      fieldNames (",".intercalate (items.map Item.text)) = items.filterMap Item.name?) ∧
    (∀ origin origin' (items : List (Option String × String)),
      (∀ item ∈ items, ',' ∉ item.2.toList) →
        (Node.list origin (items.map fun item => .scalar item.1 (.text item.2))).toFieldNames =
          (Node.scalar origin' (.text (",".intercalate (items.map Prod.snd)))).toFieldNames) ∧
    ∀ entries settings, ofEntries entries = .ok settings →
      ∀ profile ∈ settings.defaultProfile :: settings.profiles,
        profile.fault? ≠ some .blankField :=
  ⟨fun _ _ hname => isFieldName_of_mem hname, fieldNames_items,
    fun _ _ _ hcommas => toFieldNames_list hcommas,
    fun _ _ hsettings profile hprofile =>
      fault?_ne_blankField (shown_settings hsettings profile hprofile)⟩

/-- A list of names of which one is blank and one begins with an ideographic space. -/
def spacedList : List (Option String × String) :=
  [(none, "\u3000msg"), (some "the environment", " "), (none, "level\n")]

/-- The entries of settings that give the list as the fields to show. -/
def spacedEntries : List (String × Node) :=
  [("formatter", .table none [("summary_fields",
    .list none (spacedList.map fun item => .scalar item.1 (.text item.2)))])]

/-- The blank item is left out of the list and of the text, and does not make a profile invalid. -/
theorem fieldLists_agree_spaced :
    (Node.list none (spacedList.map fun item => .scalar item.1 (.text item.2))).toFieldNames =
        (Node.scalar none (.text "\u3000msg, ,level\n")).toFieldNames ∧
      ∃ settings, ofEntries spacedEntries = .ok settings ∧
        settings.formatter.fields = ["msg", "level"] ∧
        settings.defaultProfile.fault? ≠ some .blankField := by
  obtain ⟨-, -, hlists, hshown⟩ := fieldLists_agree
  have hsettings : ∃ settings, ofEntries spacedEntries = .ok settings ∧
      settings.formatter.fields = ["msg", "level"] := ⟨_, rfl, by decide +kernel⟩
  obtain ⟨settings, hok, hfields⟩ := hsettings
  exact ⟨hlists none none spacedList (by decide), settings, hok, hfields,
    hshown spacedEntries settings hok _ List.mem_cons_self⟩

end LogDigest.Settings
