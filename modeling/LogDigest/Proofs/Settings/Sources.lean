import LogDigest.Proofs.Toml.Spelling
import LogDigest.Settings.Layer

/-!
# Texts from the environment and from documents

Some settings are texts, or may be given as one.  A document gives such a text as it is, whatever it
is.  The environment takes the value of a variable for a truth value or a number where it can, and
only afterwards is the setting known that it is meant for.  A value that is taken for something else
is printed back where a text is wanted, perhaps differently, and refused where a list of names is.
-/

namespace LogDigest.Settings

open Text (Stops stops_nil stops_cons)
open Toml (BareKey dotted)

/-! ## Key paths -/

namespace KeyPath

open Reader

theorem isNameChar_of_isKeyChar {c : Char} (h : Toml.Grammar.isKeyChar c = true) :
    isNameChar c = true := by
  rw [isNameChar, Bool.or_eq_true]
  exact Or.inl h

theorem name_bare (part : BareKey) {rest : List Char} (h : Stops isNameChar rest) :
    name (part.1 ++ rest) = some (.key (String.ofList part.1), rest) := by
  rw [name, map_apply, takeSome_append part.2.1
    (fun c hc => isNameChar_of_isKeyChar (part.2.2 c hc)) h]
  rfl

theorem ofKey_dotted (first : BareKey) (more : List BareKey) :
    ofKey (String.ofList (dotted first more)) =
      ofSteps (.key (String.ofList first.1)) (more.map fun part => .key (String.ofList part.1)) := by
  have hread : ∀ (part : BareKey) rest, Stops isNameChar rest →
      (char '.' *> name <|> position) ('.' :: part.1 ++ rest) =
        some (.key (String.ofList part.1), rest) := by
    intro part rest hrest
    rw [List.cons_append, orElse_apply, seqRight_apply, char_cons, Option.bind_some,
      name_bare part hrest]
    rfl
  have hbehind : ∀ (part : BareKey) rest, Stops isNameChar ('.' :: part.1 ++ rest) :=
    fun part rest => stops_cons (by decide)
  have hmore := manyFrom_pieces more hread (fun _ => nofun) hbehind stops_nil rfl
  have hfirst : Stops isNameChar (more.flatMap fun part => '.' :: part.1) := by
    cases more with
    | nil => exact stops_nil
    | cons part more => exact stops_cons (by decide)
  rw [List.append_nil] at hmore
  rw [ofKey, run?, reader, String.toList_ofList, bind_apply, dotted, name_bare first hfirst,
    Option.bind_some, bind_apply, many, hmore]
  rfl

end KeyPath

/-! ## Settings that are texts -/

/-- A name as a part of a key. -/
def bareKey (name : String) (hne : name.toList ≠ [])
    (hall : name.toList.all Toml.Grammar.isKeyChar = true) : BareKey :=
  ⟨name.toList, hne, List.all_eq_true.mp hall⟩

/-- The settings that hold a text, or that a text may give. -/
inductive TextSetting where
  | activeProfile
  | template
  | fields
  deriving DecidableEq, Repr

namespace TextSetting

def variableName : TextSetting → String
  | .activeProfile => "KJF_ACTIVE_PROFILE"
  | .template => "KJF_FORMATTER__TEMPLATE"
  | .fields => "KJF_FORMATTER__SUMMARY_FIELDS"

/-- The name of the section that holds a setting, or of the setting itself if none does. -/
def top : TextSetting → String
  | .activeProfile => "active_profile"
  | .template | .fields => "formatter"

/-- The first part of the key of a setting. -/
def first (setting : TextSetting) : BareKey :=
  bareKey setting.top (by cases setting <;> decide) (by cases setting <;> decide)

/-- The further parts of the key of a setting. -/
def more : TextSetting → List BareKey
  | .activeProfile => []
  | .template => [bareKey "template" (by decide) (by decide)]
  | .fields => [bareKey "summary_fields" (by decide) (by decide)]

/-- The entries of a document that gives a setting, and nothing else, as a text. -/
def entries (value : String) : TextSetting → List (String × Toml)
  | .activeProfile => [("active_profile", .text value)]
  | .template => [("formatter", .table [("template", .text value)])]
  | .fields => [("formatter", .table [("summary_fields", .text value)])]

/-- A document that gives a setting, and nothing else, as a text. -/
def document (setting : TextSetting) (value : String) : String :=
  String.ofList (Toml.assignment setting.first setting.more value.toList)

/-- The tree in which a setting has a value, and nothing else has one. -/
def tree (leaf : Node) : TextSetting → Node
  | .activeProfile => .table none [("active_profile", leaf)]
  | .template => .table none [("formatter", .table none [("template", leaf)])]
  | .fields => .table none [("formatter", .table none [("summary_fields", leaf)])]

/-- The settings that differ from the defaults in one text. -/
def given (value : String) : TextSetting → Settings
  | .activeProfile => { activeProfile := value }
  | .template => { formatter := { template := some value } }
  | .fields => { formatter := { fields := fieldNames value } }

theorem variableKey?_variableName (setting : TextSetting) :
    Layer.variableKey? setting.variableName =
      some (String.ofList (dotted setting.first setting.more)) := by
  cases setting <;> rfl

theorem parse?_document (setting : TextSetting) (value : String) :
    Toml.parse? (setting.document value) = some (setting.entries value) := by
  have hmark : Text.withoutMark (Toml.assignment setting.first setting.more value.toList) =
      Toml.assignment setting.first setting.more value.toList := by
    cases setting <;> rfl
  have hmore : setting.more.length < Toml.Grammar.maxDepth := by
    cases setting <;> decide
  rw [Toml.parse?, document, String.toList_ofList, hmark,
    Toml.statements_assignment _ _ _ hmore, String.ofList_toList]
  cases setting <;> rfl

/-! ### Trees -/

theorem ofKey_top (setting : TextSetting) :
    KeyPath.ofKey setting.top = { last := .key setting.top } := by
  have htop : String.ofList (dotted setting.first []) = setting.top := by
    cases setting <;> simp [dotted, first, top, bareKey]
  rw [← htop, KeyPath.ofKey_dotted]
  simp [dotted, KeyPath.ofSteps]

theorem setKey_variable (setting : TextSetting) (origin : Option String) (value : Scalar) :
    Node.empty.setKey (String.ofList (dotted setting.first setting.more)) (.scalar origin value) =
      setting.tree (.scalar origin value) := by
  rw [Node.setKey, KeyPath.ofKey_dotted]
  cases setting <;> rfl

theorem onto_document (setting : TextSetting) (origin : Option String) (value : String) :
    Layer.onto (Layer.ofToml origin (setting.entries value)) .empty =
      setting.tree (.scalar origin (.text value)) := by
  have hkey := setting.ofKey_top
  cases setting with
  | activeProfile | template | fields =>
    simp only [Layer.onto, Layer.ofToml, entries, Node.entriesOfToml, Node.ofToml, List.foldl_cons,
      List.foldl_nil, Node.setKey]
    dsimp only [top] at hkey
    rw [hkey]
    rfl

/-! ### Decoding -/

def decoded (leaf : Node) : TextSetting → Conversion Settings
  | .activeProfile => do
    let text ← leaf.toText.mapError (SettingsError.within (.key "active_profile"))
    return { activeProfile := text }
  | .template => do
    let formatter ← (do
      let template ← leaf.toOptionalText.mapError (SettingsError.within (.key "template"))
      return ({ template } : Formatter)).mapError (SettingsError.within (.key "formatter"))
    return { formatter }
  | .fields => do
    let formatter ← (do
      let fields ← leaf.toFieldNames.mapError (SettingsError.within (.key "summary_fields"))
      return ({ fields } : Formatter)).mapError (SettingsError.within (.key "formatter"))
    return { formatter }

theorem ofEntries_tree (setting : TextSetting) (origin : Option String) (value : Scalar) :
    ofEntries (Layer.onto (setting.tree (.scalar origin value)).entries defaults).entries =
      setting.decoded (.scalar origin value) := by
  have hkey := setting.ofKey_top
  cases setting with
  | activeProfile | template | fields =>
    simp only [Layer.onto, tree, Node.entries, List.foldl_cons, List.foldl_nil, Node.setKey]
    dsimp only [top] at hkey
    rw [hkey]
    rfl

theorem ofLayers_of_onto {setting : TextSetting} {layers : List Layer} {origin : Option String}
    {value : Scalar}
    (h : layers.foldl (fun node layer => layer.onto node) Node.empty =
      setting.tree (.scalar origin value)) :
    ofLayers layers = setting.decoded (.scalar origin value) := by
  rw [ofLayers, merged, h, ofEntries_tree]

theorem ofToml_eq {setting : TextSetting} {source value : String}
    (h : Toml.parse? source = some (setting.entries value)) :
    ofToml source = .ok (setting.given value) := by
  have hlayer := setting.onto_document none value
  rw [ofToml, h]
  dsimp only
  have hdecoded : ofLayers [Layer.ofToml none (setting.entries value)] =
      setting.decoded (.scalar none (.text value)) := ofLayers_of_onto hlayer
  rw [hdecoded]
  cases setting <;> rfl

end TextSetting

/-! ## The environment -/

/-- Of the variables that give settings, an environment has one. -/
def OnlySets (environment : Environment) (setting : TextSetting) (value : String) : Prop :=
  environment.filter (fun entry => (Layer.variableKey? entry.1).isSome) =
    [(setting.variableName, value)]

instance (environment : Environment) (setting : TextSetting) (value : String) :
    Decidable (OnlySets environment setting value) :=
  inferInstanceAs (Decidable (_ = _))

private theorem ofEnvironment_eq {environment : Environment} {setting : TextSetting}
    {value : String}
    (h : OnlySets environment setting value) :
    Layer.ofEnvironment environment =
      [(String.ofList (dotted setting.first setting.more),
        .scalar (some "the environment") (Layer.variableValue value))] := by
  have hkept : Layer.ofEnvironment environment = Layer.ofEnvironment
      (environment.filter fun entry => (Layer.variableKey? entry.1).isSome) := by
    rw [Layer.ofEnvironment, Layer.ofEnvironment, List.filterMap_filter]
    congr 1
    funext ⟨name, value⟩
    cases hkey : Layer.variableKey? name <;> simp [hkey]
  have hvariable := setting.variableKey?_variableName
  rw [hkept, h]
  simp only [Layer.ofEnvironment, List.filterMap_cons, List.filterMap_nil, hvariable,
    Option.map_some]

def noFiles : Files :=
  fun _ => none

private theorem fileLayer_noFiles (name : String) : fileLayer noFiles name = .ok [] := by
  have hnone : noFiles.settings? name = none := by
    rw [Files.settings?]
    have hread : (if Files.endsInName name then noFiles name else none) = none := by
      split <;> rfl
    rw [hread]
    cases Files.pathOf? name <;> rfl
  rw [fileLayer, hnone]

private theorem load_eq {environment : Environment} {setting : TextSetting} {value : String}
    (h : OnlySets environment setting value) :
    load noFiles environment =
      setting.decoded (.scalar (some "the environment") (Layer.variableValue value)) := by
  have hlayers : load noFiles environment = ofLayers [[], [], Layer.ofEnvironment environment] := by
    have hcompleted : completed noFiles environment = environment := rfl
    simp only [load, hcompleted, fileLayer_noFiles]
    rfl
  rw [hlayers]
  apply TextSetting.ofLayers_of_onto
  simp only [ofEnvironment_eq h, Layer.onto, List.foldl_cons, List.foldl_nil]
  rw [setting.setKey_variable]

/-! ## When the environment agrees -/

theorem variableValue_cases (value : String) :
    Layer.variableValue value = .text value ∨
      (∀ text, Layer.variableValue value ≠ .text text) ∧ Layer.variableValue value ≠ .nil := by
  rw [Layer.variableValue]
  split
  · exact Or.inr ⟨nofun, nofun⟩
  · split
    · exact Or.inr ⟨nofun, nofun⟩
    · split
      · exact Or.inr ⟨nofun, nofun⟩
      · split
        · exact Or.inr ⟨nofun, nofun⟩
        · exact Or.inl rfl

private theorem exists_toText (value : String) :
    ∃ text, ∀ origin, (Node.scalar origin (Layer.variableValue value)).toText = .ok text := by
  rcases variableValue_cases value with htext | ⟨-, hnil⟩
  · rw [htext]
    exact ⟨value, fun _ => rfl⟩
  · cases hvalue : Layer.variableValue value with
    | nil => exact absurd hvalue hnil
    | boolean | integer | float | text => exact ⟨_, fun _ => rfl⟩

namespace TextSetting

/-- Whether the environment keeps a value as it is written.  Fields have to be taken for a text,
the other settings have to be printed as they were written. -/
def Kept (value : String) : TextSetting → Prop
  | .fields => Layer.variableValue value = .text value
  | .activeProfile | .template => (Node.scalar none (Layer.variableValue value)).toText = .ok value

theorem decoded_of_toText {setting : TextSetting} (hsetting : setting ≠ .fields)
    {origin : Option String} {value : Scalar} {text : String}
    (h : (Node.scalar origin value).toText = .ok text) :
    setting.decoded (.scalar origin value) = .ok (setting.given text) := by
  cases setting with
  | fields => exact absurd rfl hsetting
  | activeProfile | template =>
    cases value with
    | nil => cases h
    | boolean | integer | float | text =>
      cases h
      rfl

/-- Fields are given by a text; no other value of a variable is taken for fields. -/
theorem decoded_fields {origin : Option String} {value : Scalar}
    (h : ∀ text, value ≠ .text text) :
    fields.decoded (.scalar origin value) = .error .fieldList := by
  cases value with
  | text text => exact absurd rfl (h text)
  | nil | boolean | integer | float => rfl

theorem given_inj {setting : TextSetting} (hsetting : setting ≠ .fields) {a b : String} :
    setting.given a = setting.given b ↔ a = b := by
  cases setting with
  | fields => exact absurd rfl hsetting
  | activeProfile | template => simp [given]

end TextSetting

theorem load_eq_ofToml_iff {environment : Environment} {setting : TextSetting}
    {source value : String} (h : OnlySets environment setting value)
    (hsource : Toml.parse? source = some (setting.entries value)) :
    load noFiles environment = ofToml source ↔ setting.Kept value := by
  rw [load_eq h, TextSetting.ofToml_eq hsource]
  by_cases hsetting : setting = .fields
  · subst hsetting
    rcases variableValue_cases value with htext | ⟨hother, -⟩
    · rw [htext]
      exact ⟨fun _ => htext, fun _ => rfl⟩
    · rw [TextSetting.decoded_fields hother]
      exact ⟨nofun, fun hkept => absurd hkept (hother value)⟩
  · obtain ⟨text, htext⟩ := exists_toText value
    have hkept : setting.Kept value ↔ text = value := by
      cases setting with
      | fields => exact absurd rfl hsetting
      | activeProfile | template => rw [TextSetting.Kept, htext, Except.ok.injEq]
    rw [TextSetting.decoded_of_toText hsetting (htext _), Except.ok.injEq,
      TextSetting.given_inj hsetting, hkept]

/-- A setting that is a text is the same from an environment that sets nothing else as from any
document that gives nothing else, exactly if the environment keeps the text as it is written. -/
theorem environment_agrees_iff {environment : Environment} {setting : TextSetting} {value : String}
    (h : OnlySets environment setting value) :
    Toml.parse? (setting.document value) = some (setting.entries value) ∧
      ∀ source, Toml.parse? source = some (setting.entries value) →
        ofToml source = .ok (setting.given value) ∧
          (load noFiles environment = ofToml source ↔ setting.Kept value) :=
  ⟨setting.parse?_document value, fun _ hsource =>
    ⟨TextSetting.ofToml_eq hsource, load_eq_ofToml_iff h hsource⟩⟩

/-- The environment keeps `production` as the active profile. -/
theorem environment_agrees_on_production :
    OnlySets [("PATH", "/bin"), ("KJF_ACTIVE_PROFILE", "production")] .activeProfile "production" ∧
      load noFiles [("PATH", "/bin"), ("KJF_ACTIVE_PROFILE", "production")] =
        ofToml (TextSetting.activeProfile.document "production") := by
  have honly : OnlySets [("PATH", "/bin"), ("KJF_ACTIVE_PROFILE", "production")]
      .activeProfile "production" := by
    decide
  have hkept : TextSetting.activeProfile.Kept "production" := rfl
  obtain ⟨hdocument, hagrees⟩ := environment_agrees_iff honly
  exact ⟨honly, (hagrees _ hdocument).2.2 hkept⟩

/-- The environment does not take `404` for the name of a field, nor does it select the profile
`007`. -/
theorem environment_disagrees_on_numerals :
    load noFiles [("KJF_FORMATTER__SUMMARY_FIELDS", "404")] ≠
        ofToml (TextSetting.fields.document "404") ∧
      load noFiles [("KJF_ACTIVE_PROFILE", "007")] ≠
        ofToml (TextSetting.activeProfile.document "007") := by
  have hfield : Layer.variableValue "404" = .integer 404 := rfl
  have hprofile : Layer.variableValue "007" = .integer 7 := rfl
  constructor
  · intro heq
    have hkept := (load_eq_ofToml_iff (by decide) (TextSetting.fields.parse?_document "404")).1 heq
    rw [TextSetting.Kept, hfield] at hkept
    cases hkept
  · intro heq
    have hkept := (load_eq_ofToml_iff (by decide)
      (TextSetting.activeProfile.parse?_document "007")).1 heq
    have hseven : toString (7 : Int) = "7" := rfl
    rw [TextSetting.Kept, hprofile, Node.toText, Except.ok.injEq, hseven] at hkept
    exact absurd hkept (by decide)

end LogDigest.Settings
