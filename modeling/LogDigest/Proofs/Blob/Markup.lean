import LogDigest.Proofs.Blob.Tags
import LogDigest.Proofs.Template.Rendering

/-!
# Markup of blobs

Nothing that a document holds can open or close a tag.  The tags of a blob depend on the shape of
its digest alone, and what stands between them reads back as the texts that were put there.
-/

namespace LogDigest.Blob

/-! ## Trees -/

mutual

def Node.tags : Node → List Tag
  | .element kind content => .opening kind :: (Node.tagsAll content ++ [.closing kind.name])
  | .text _ => []
  | .ready s => tagsOf s.toList

def Node.tagsAll : List Node → List Tag
  | [] => []
  | node :: rest => node.tags ++ Node.tagsAll rest

end

mutual

def Node.Sound : Node → Prop
  | .element _ content => Node.SoundAll content
  | .text _ => True
  | .ready s => ∃ tags, Spells tags s.toList ∧ Balanced tags

def Node.SoundAll : List Node → Prop
  | [] => True
  | node :: rest => node.Sound ∧ Node.SoundAll rest

end

mutual

def Node.texts (kind : Element) : Node → List (List Char)
  | .element other content =>
    if other = kind then [Markup.decode (Node.writeAll content)] else Node.textsAll kind content
  | .text _ => []
  | .ready _ => []

def Node.textsAll (kind : Element) : List Node → List (List Char)
  | [] => []
  | node :: rest => node.texts kind ++ Node.textsAll kind rest

end

mutual

/-- Elements of a kind hold text only, and what is markup already opens none of them. -/
def Node.Bare (kind : Element) : Node → Prop
  | .element other content =>
    if other = kind then '<' ∉ Node.writeAll content else Node.BareAll kind content
  | .text _ => True
  | .ready s => ∃ tags, Spells tags s.toList ∧ .opening kind ∉ tags

def Node.BareAll (kind : Element) : List Node → Prop
  | [] => True
  | node :: rest => node.Bare kind ∧ Node.BareAll kind rest

end

mutual

theorem Node.spells (node : Node) (h : node.Sound) :
    Spells node.tags node.write ∧ Balanced node.tags := by
  cases node with
  | element kind content =>
    obtain ⟨hspells, hbalanced⟩ := Node.spellsAll content h
    refine ⟨?_, hbalanced.within rfl⟩
    have hclose := spells_tag (.closing kind.name)
    rw [Tag.text_closing] at hclose
    exact ((spells_tag (.opening kind)).append hspells).append hclose
  | text s => exact ⟨spells_of_not_mem (Markup.lt_not_mem_encode _), .nil⟩
  | ready s =>
    obtain ⟨tags, hspells, hbalanced⟩ := h
    rw [Node.tags, hspells.tagsOf_eq]
    exact ⟨hspells, hbalanced⟩

theorem Node.spellsAll (nodes : List Node) (h : Node.SoundAll nodes) :
    Spells (Node.tagsAll nodes) (Node.writeAll nodes) ∧ Balanced (Node.tagsAll nodes) := by
  cases nodes with
  | nil => exact ⟨.nil, .nil⟩
  | cons node rest =>
    obtain ⟨hspells, hbalanced⟩ := Node.spells node h.1
    obtain ⟨hrest, hrestBalanced⟩ := Node.spellsAll rest h.2
    exact ⟨hspells.append hrest, hbalanced.append hrestBalanced⟩

end

mutual

theorem Node.collects (kind : Element) (node : Node) (h : node.Bare kind) :
    Collects (textAfter? kind) node.write (node.texts kind) := by
  cases node with
  | element other content =>
    rw [Node.Bare] at h
    rw [Node.texts, Node.write]
    by_cases hkind : other = kind
    · rw [if_pos hkind] at h ⊢
      rw [hkind]
      exact collects_text kind h
    · rw [if_neg hkind] at h ⊢
      have hopen : Collects (textAfter? kind) other.openTag.toList [] :=
        collects_other_tag fun heq => hkind (Tag.opening.inj heq)
      have hclose : Collects (textAfter? kind) other.closeTag.toList [] := by
        rw [← Tag.text_closing]
        exact collects_other_tag (by simp)
      have hall := (hopen.append (Node.collectsAll kind content h)).append hclose
      rwa [List.nil_append, List.append_nil] at hall
  | text s => exact collects_of_not_mem (foundAt_textAfter? kind) (Markup.lt_not_mem_encode _)
  | ready s =>
    obtain ⟨tags, hspells, hnot⟩ := h
    exact hspells.collects_other hnot

theorem Node.collectsAll (kind : Element) (nodes : List Node) (h : Node.BareAll kind nodes) :
    Collects (textAfter? kind) (Node.writeAll nodes) (Node.textsAll kind nodes) := by
  cases nodes with
  | nil => exact fun _ => rfl
  | cons node rest => exact (Node.collects kind node h.1).append (Node.collectsAll kind rest h.2)

end

/-! ## Lines -/

/-- The tags of errors that stand side by side. -/
def errorTags (count : Nat) : List Tag :=
  (List.replicate count [Tag.errorOpening, .closing .span]).flatten

private theorem balanced_errorTags (count : Nat) : Balanced (errorTags count) := by
  induction count with
  | zero => exact .nil
  | succ count ih => exact .element rfl .nil ih

end LogDigest.Blob

namespace LogDigest.Template

open Blob (Tag Spells errorTags)

variable {depth : Nat} {doc : Json}

/-- Whether a token shows a field of a document as an error. -/
def Token.showsError (depth : Nat) (doc : Json) : Token → Bool
  | .field .error path => (doc.find? path depth).isSome
  | _ => false

/-- How many fields of a document are shown as errors. -/
def errorsShown (template : Template) (depth : Nat) (doc : Json) : Nat :=
  template.tokens.countP (Token.showsError depth doc)

def Glyph.tag? : Glyph → Option Tag
  | .verbatim _ => none
  | .shown _ => none
  | .errorStart => some .errorOpening
  | .errorEnd => some (.closing .span)

private theorem spells_written {glyphs : List Glyph} (h : .verbatim '<' ∉ glyphs) :
    Spells (glyphs.filterMap Glyph.tag?) (written .html glyphs) := by
  induction glyphs with
  | nil => exact .nil
  | cons glyph rest ih =>
    rw [List.mem_cons, not_or] at h
    have hrest := ih h.2
    rw [written_cons]
    cases glyph with
    | verbatim c =>
      have hc : c ≠ '<' := by
        rintro rfl
        exact h.1 rfl
      exact hrest.char hc
    | shown c => exact (Blob.spells_of_not_mem (Markup.lt_not_mem_encodedChar c)).append hrest
    | errorStart => exact hrest.tag .errorOpening
    | errorEnd => exact hrest.tag (.closing .span)

private theorem tag?_of_isBlank {glyph : Glyph} (h : glyph.isBlank = true) : glyph.tag? = none := by
  cases glyph with
  | verbatim c => rfl
  | shown c => rfl
  | errorStart => cases h
  | errorEnd => cases h

private theorem filterMap_tag?_dropWhile (glyphs : List Glyph) :
    (glyphs.dropWhile Glyph.isBlank).filterMap Glyph.tag? = glyphs.filterMap Glyph.tag? := by
  induction glyphs with
  | nil => rfl
  | cons glyph rest ih =>
    by_cases h : glyph.isBlank = true
    · rw [List.dropWhile_cons_of_pos h, ih, List.filterMap_cons_none (tag?_of_isBlank h)]
    · rw [List.dropWhile_cons_of_neg h]

private theorem filterMap_tag?_trimmed (glyphs : List Glyph) :
    (trimmed glyphs).filterMap Glyph.tag? = glyphs.filterMap Glyph.tag? := by
  rw [trimmed, List.rdropWhile, List.filterMap_reverse, filterMap_tag?_dropWhile,
    ← List.filterMap_reverse, List.reverse_reverse, filterMap_tag?_dropWhile]

private theorem filterMap_tag?_marker (marker : Marker) (value : List Char) :
    (marker.glyphs value).filterMap Glyph.tag? =
      if marker = .error then [.errorOpening, .closing .span] else [] := by
  have hshown : (value.map Glyph.shown).filterMap Glyph.tag? = [] := by
    simp [List.filterMap_map, Function.comp_def, Glyph.tag?]
  cases marker with
  | doc => exact hshown
  | wrap =>
    rw [Marker.glyphs, List.filterMap_cons_none rfl, List.filterMap_append, hshown]
    rfl
  | error =>
    show Tag.errorOpening :: (value.map Glyph.shown ++ [Glyph.errorEnd]).filterMap Glyph.tag? = _
    rw [List.filterMap_append, hshown]
    rfl

private theorem filterMap_tag?_glyphs? (token : Token) :
    ((token.glyphs? depth doc).getD []).filterMap Glyph.tag? =
      if token.showsError depth doc then [.errorOpening, .closing .span] else [] := by
  cases token with
  | literal text => simp [Token.glyphs?, Token.showsError, Function.comp_def, Glyph.tag?]
  | field marker path =>
    rw [Token.glyphs?]
    cases hvalue : doc.find? path depth with
    | none => cases marker <;> simp [Token.showsError, hvalue]
    | some value =>
      rw [Option.map_some, Option.getD_some, filterMap_tag?_marker]
      cases marker <;> simp [Token.showsError, hvalue]

private theorem filterMap_tag?_glyphs (template : Template) (depth : Nat) (doc : Json) :
    (template.glyphs depth doc).filterMap Glyph.tag? =
      errorTags (template.errorsShown depth doc) := by
  rw [glyphs, filterMap_tag?_trimmed, errorsShown]
  induction template.tokens with
  | nil => rfl
  | cons token rest ih =>
    rw [List.flatMap_cons, List.filterMap_append, filterMap_tag?_glyphs?, ih]
    by_cases h : token.showsError depth doc = true
    · rw [if_pos h, List.countP_cons_of_pos h]
      rfl
    · rw [if_neg h, List.countP_cons_of_neg h]
      rfl

private theorem spells_render {template : Template}
    (h : ∀ text, .literal text ∈ template.tokens → '<' ∉ text.toList) (depth : Nat)
    (doc : Json) :
    Spells (errorTags (template.errorsShown depth doc))
      (template.render ⟨.html, depth⟩ doc).text.toList := by
  rw [text_render, ← filterMap_tag?_glyphs]
  exact spells_written (verbatim_not_mem_glyphs (by decide) (by decide) h depth doc)

end LogDigest.Template

namespace LogDigest.Blob

open Markup (decode_encode_nil)

/-! ## Shapes -/

inductive Shape where
  /-- The line of a template that shows so many errors. -/
  | line (errors : Nat)
  /-- Rows, each with whether it is a placeholder. -/
  | rows (placeholders : List Bool)

/-- The shape of a digest whose line, if it is one, shows so many errors. -/
def shapeOf (errors : Nat) : Digest → Shape
  | .line _ => .line errors
  | .fields rows => .rows (rows.map fun _ => false)
  | .placeholder => .rows [true]

def rowTags (placeholder : Bool) : List Tag :=
  .opening .row :: .opening .key :: .closing .span ::
    ((if placeholder then [] else [.opening .value, .closing .span]) ++ [.closing .div])

def Shape.digestTags : Shape → List Tag
  | .line errors => .opening .templateRow :: (errorTags errors ++ [.closing .div])
  | .rows placeholders => placeholders.flatMap rowTags

def Shape.tags (shape : Shape) : List Tag :=
  .opening .summary :: (shape.digestTags ++
    [.closing .div, .opening .details, .opening .toggle, .closing .span, .opening .document,
      .closing .pre, .closing .div])

structure Confined (shape : Shape) (html : List Char) : Prop where
  tagged : Tagged html
  tags : tagsOf html = shape.tags
  balanced : Balanced (tagsOf html)

variable {digest : Digest} {errors : Nat}

theorem spells_colon : Spells [] ":".toList := by
  have hcolon : ":".toList = [':'] := String.toList_ofList
  rw [hcolon]
  exact spells_of_not_mem (by decide)

theorem lt_not_mem_toggleLabel : '<' ∉ toggleLabel.toList := by
  have hlabel : toggleLabel.toList = _ := String.toList_ofList
  rw [hlabel]
  decide

private theorem tagsAll_rows (rows : List (String × String)) :
    Node.tagsAll (rows.map rowNode) = (rows.map fun _ => false).flatMap rowTags := by
  have hcolon : tagsOf ":".toList = [] := spells_colon.tagsOf_eq
  induction rows with
  | nil => rfl
  | cons row rest ih =>
    rw [List.map_cons, Node.tagsAll, ih, rowNode]
    simp only [Node.tags, Node.tagsAll, hcolon]
    rfl

private theorem soundAll_rows (rows : List (String × String)) :
    Node.SoundAll (rows.map rowNode) := by
  induction rows with
  | nil => trivial
  | cons row rest ih =>
    exact ⟨⟨⟨trivial, ⟨[], spells_colon, .nil⟩, trivial⟩, ⟨trivial, trivial⟩, trivial⟩, ih⟩

private theorem tagsAll_digestNodes
    (hline : ∀ line, digest = .line line → Spells (errorTags errors) line.text.toList) :
    Node.tagsAll (digestNodes digest) = (shapeOf errors digest).digestTags := by
  cases digest with
  | line line =>
    have htags := (hline line rfl).tagsOf_eq
    simp [digestNodes, Node.tags, Node.tagsAll, htags, shapeOf, Shape.digestTags, Element.name]
  | fields rows => exact tagsAll_rows rows
  | placeholder => rfl

private theorem soundAll_digestNodes
    (hline : ∀ line, digest = .line line → Spells (errorTags errors) line.text.toList) :
    Node.SoundAll (digestNodes digest) := by
  cases digest with
  | line line => exact ⟨⟨⟨_, hline line rfl, balanced_errorTags errors⟩, trivial⟩, trivial⟩
  | fields rows => exact soundAll_rows rows
  | placeholder => exact ⟨⟨⟨trivial, trivial⟩, trivial⟩, trivial⟩

theorem spells_toggleLabel : Spells [] toggleLabel.toList :=
  spells_of_not_mem lt_not_mem_toggleLabel

/-- The markup of a blob is confined if that of its line is. -/
theorem confined_html {blob : Blob}
    (hline : ∀ line, blob.digest = .line line → Spells (errorTags errors) line.text.toList) :
    Confined (shapeOf errors blob.digest) blob.html.toList := by
  have hsound : Node.SoundAll blob.nodes :=
    ⟨soundAll_digestNodes hline, ⟨⟨⟨[], spells_toggleLabel, .nil⟩, trivial⟩, ⟨trivial, trivial⟩,
      trivial⟩, trivial⟩
  obtain ⟨hspells, hbalanced⟩ := Node.spellsAll blob.nodes hsound
  have htags : Node.tagsAll blob.nodes = (shapeOf errors blob.digest).tags := by
    simp [nodes, Node.tags, Node.tagsAll, tagsAll_digestNodes hline, spells_toggleLabel.tagsOf_eq,
      Shape.tags, Element.name]
  rw [html, String.toList_ofList]
  rw [htags] at hspells hbalanced
  refine ⟨hspells.tagged, hspells.tagsOf_eq, ?_⟩
  rwa [hspells.tagsOf_eq]

/-! ## Texts -/

/-- What stands in the key elements of a digest. -/
def keyTexts : Digest → List (List Char)
  | .line _ => []
  | .fields rows => rows.map fun row => row.1.toList ++ [':']
  | .placeholder => [placeholderLabel.toList]

/-- What stands in the value elements of a digest. -/
def valueTexts : Digest → List (List Char)
  | .line _ => []
  | .fields rows => rows.map fun row => row.2.toList
  | .placeholder => []

variable {kind : Element}

theorem bare_of_ne {other : Element} {content : List Node} (hother : other ≠ kind)
    (h : Node.BareAll kind content) : Node.Bare kind (.element other content) := by
  rw [Node.Bare, if_neg hother]
  exact h

theorem bare_of_not_mem {other : Element} {content : List Node}
    (htext : '<' ∉ Node.writeAll content) (h : Node.BareAll kind content) :
    Node.Bare kind (.element other content) := by
  rw [Node.Bare]
  split
  · exact htext
  · exact h

theorem bare_text (other : Element) (s : String) :
    Node.Bare kind (.element other [.text s]) := by
  refine bare_of_not_mem ?_ ⟨trivial, trivial⟩
  show '<' ∉ Markup.encode s.toList ++ []
  rw [List.append_nil]
  exact Markup.lt_not_mem_encode s.toList

private theorem bareAll_rows (hkind : .row ≠ kind) (rows : List (String × String)) :
    Node.BareAll kind (rows.map rowNode) := by
  induction rows with
  | nil => trivial
  | cons row rest ih =>
    refine ⟨bare_of_ne hkind ⟨bare_of_not_mem ?_ ?_, bare_text .value row.2, trivial⟩, ih⟩
    · have hkey := Markup.lt_not_mem_encode row.1.toList
      simpa [Node.writeAll, Node.write] using hkey
    · exact ⟨trivial, ⟨[], spells_colon, List.not_mem_nil⟩, trivial⟩

private theorem opening_not_mem_errorTags (kind : Element) (count : Nat) :
    .opening kind ∉ errorTags count := by
  simp [errorTags, List.mem_flatten, List.mem_replicate]

private theorem bareAll_digestNodes
    (hline : ∀ line, digest = .line line → Spells (errorTags errors) line.text.toList)
    (htemplate : .templateRow ≠ kind) (hrow : .row ≠ kind) :
    Node.BareAll kind (digestNodes digest) := by
  cases digest with
  | line line =>
    have hready := opening_not_mem_errorTags kind errors
    exact ⟨bare_of_ne htemplate ⟨⟨_, hline line rfl, hready⟩, trivial⟩, trivial⟩
  | fields rows => exact bareAll_rows hrow rows
  | placeholder =>
    exact ⟨bare_of_ne hrow ⟨bare_text .key placeholderLabel, trivial⟩, trivial⟩

def Element.IsLeaf (kind : Element) : Prop :=
  kind = .key ∨ kind = .value ∨ kind = .document

private theorem textsIn_html {blob : Blob}
    (hline : ∀ line, blob.digest = .line line → Spells (errorTags errors) line.text.toList)
    (hkind : kind.IsLeaf) :
    textsIn kind blob.html.toList = Node.textsAll kind blob.nodes := by
  -- Only the elements around the leaves hold other elements, and they are of other kinds.
  have houter : ∀ other ∈ [Element.summary, .templateRow, .row, .details], other ≠ kind := by
    rcases hkind with rfl | rfl | rfl <;> decide
  have hbare : Node.BareAll kind blob.nodes := by
    refine ⟨bare_of_ne (houter _ (by simp)) ?_, bare_of_ne (houter _ (by simp)) ?_, trivial⟩
    · exact bareAll_digestNodes hline (houter _ (by simp)) (houter _ (by simp))
    · refine ⟨bare_of_not_mem ?_ ?_, bare_text .document _, trivial⟩
      · simpa [Node.writeAll, Node.write] using lt_not_mem_toggleLabel
      · exact ⟨⟨[], spells_toggleLabel, List.not_mem_nil⟩, trivial⟩
  rw [textsIn, html, String.toList_ofList]
  exact (Node.collectsAll kind blob.nodes hbare).collect_eq

private theorem decode_encode_colon (s : List Char) :
    Markup.decode (Markup.encode s ++ [':']) = s ++ [':'] := by
  rw [Markup.decode_encode_append]
  rfl

private theorem textsAll_digestNodes (digest : Digest) :
    Node.textsAll .key (digestNodes digest) = keyTexts digest ∧
      Node.textsAll .value (digestNodes digest) = valueTexts digest ∧
      Node.textsAll .document (digestNodes digest) = [] := by
  cases digest with
  | line line => exact ⟨rfl, rfl, rfl⟩
  | fields rows =>
    show Node.textsAll .key (rows.map rowNode) = rows.map _ ∧
      Node.textsAll .value (rows.map rowNode) = rows.map _ ∧
      Node.textsAll .document (rows.map rowNode) = []
    induction rows with
    | nil => exact ⟨rfl, rfl, rfl⟩
    | cons row rest ih =>
      obtain ⟨hkeys, hvalues, hdocuments⟩ := ih
      rw [List.map_cons, Node.textsAll, Node.textsAll, Node.textsAll, hkeys, hvalues, hdocuments]
      simp [rowNode, Node.texts, Node.textsAll, Node.writeAll, Node.write, decode_encode_colon,
        decode_encode_nil]
  | placeholder =>
    simp [digestNodes, Node.texts, Node.textsAll, Node.writeAll, Node.write, decode_encode_nil,
      keyTexts, valueTexts]

def rowsOf (html : List Char) : List (String × String) :=
  List.zipWith (fun key value => (String.ofList key.dropLast, String.ofList value))
    (textsIn .key html) (textsIn .value html)

private theorem rowsOf_eq {html : List Char} {rows : List (String × String)}
    (hkeys : textsIn .key html = keyTexts (.fields rows))
    (hvalues : textsIn .value html = valueTexts (.fields rows)) : rowsOf html = rows := by
  rw [rowsOf, hkeys, hvalues, keyTexts, valueTexts]
  simp

/-! ## Digesters -/

/-- How many errors the line of a document shows, if there is a line. -/
def errorsShown (digester : Digester) (doc : Json) : Nat :=
  match digester.template with
  | some template => template.errorsShown digester.view.depth doc
  | none => 0

theorem digest_of_read {digester : Digester} {text : String} {blob : Blob}
    (h : digester.read text = .ok blob) : blob.digest = digester.digest blob.document := by
  rw [Digester.read] at h
  split at h
  · split at h
    · cases h
      rfl
    · cases h
  · cases h

private theorem spells_line {digester : Digester} {doc : Json} {line : Line}
    (hmedium : digester.view.medium = .html)
    (hliterals : ∀ template, digester.template = some template →
      ∀ text, .literal text ∈ template.tokens → '<' ∉ text.toList)
    (hline : digester.digest doc = .line line) :
    Spells (errorTags (errorsShown digester doc)) line.text.toList := by
  rw [Digester.digest] at hline
  rw [errorsShown]
  cases htemplate : digester.template with
  | none =>
    rw [htemplate] at hline
    have hfields : Digest.ofFields digester.fields doc = .line line := hline
    rw [Digest.ofFields] at hfields
    split at hfields <;> cases hfields
  | some template =>
    rw [htemplate] at hline
    cases hline
    have hview : digester.view = ⟨.html, digester.view.depth⟩ := by rw [← hmedium]
    rw [hview]
    exact Template.spells_render (hliterals template htemplate) _ doc

/-- No text of a document can break out of the markup of its blob.  The tags are balanced and
depend on the shape of the digest alone, and the keys, the values and the indented document can be
read back from between them, and with them the rows. -/
theorem html_confined (digester : Digester) (text : String) (blob : Blob)
    (hmedium : digester.view.medium = .html)
    (hliterals : ∀ template, digester.template = some template →
      ∀ text, .literal text ∈ template.tokens → '<' ∉ text.toList)
    (hread : digester.read text = .ok blob) :
    Confined (shapeOf (errorsShown digester blob.document) blob.digest) blob.html.toList ∧
      textsIn .key blob.html.toList = keyTexts blob.digest ∧
      textsIn .value blob.html.toList = valueTexts blob.digest ∧
      textsIn .document blob.html.toList = [blob.details.toList] ∧
      ∀ rows, blob.digest = .fields rows → rowsOf blob.html.toList = rows := by
  have hline : ∀ line, blob.digest = .line line →
      Spells (errorTags (errorsShown digester blob.document)) line.text.toList := by
    intro line hdigest
    rw [digest_of_read hread] at hdigest
    exact spells_line hmedium hliterals hdigest
  obtain ⟨hkeys, hvalues, hdocuments⟩ := textsAll_digestNodes blob.digest
  have hkeyTexts : textsIn .key blob.html.toList = keyTexts blob.digest := by
    rw [textsIn_html hline (.inl rfl)]
    simp [nodes, Node.texts, Node.textsAll, hkeys]
  have hvalueTexts : textsIn .value blob.html.toList = valueTexts blob.digest := by
    rw [textsIn_html hline (.inr (.inl rfl))]
    simp [nodes, Node.texts, Node.textsAll, hvalues]
  refine ⟨confined_html hline, hkeyTexts, hvalueTexts, ?_, ?_⟩
  · rw [textsIn_html hline (.inr (.inr rfl))]
    simp [nodes, Node.texts, Node.textsAll, Node.writeAll, Node.write, hdocuments,
      decode_encode_nil]
  · intro rows hdigest
    rw [hdigest] at hkeyTexts hvalueTexts
    exact rowsOf_eq hkeyTexts hvalueTexts

/-- A value that spells the end of an error stays inside the error. -/
theorem html_confined_forged_end :
    ∃ blob, Digester.read
        ⟨some ⟨[.literal "a > ", .field .error "m"], List.cons_ne_nil _ _⟩, [], ⟨.html, 1⟩⟩
        "\x7b\"m\": \"</span>\"\x7d" = .ok blob ∧
      tagsOf blob.html.toList = (Shape.line 1).tags := by
  generalize hdigester : (⟨some ⟨[.literal "a > ", .field .error "m"], List.cons_ne_nil _ _⟩, [],
    ⟨.html, 1⟩⟩ : Digester) = digester
  generalize htext : "\x7b\"m\": \"</span>\"\x7d" = text
  have htags : (digester.read text).toOption.map (fun blob =>
      (shapeOf (errorsShown digester blob.document) blob.digest).tags) =
        some (Shape.line 1).tags := by
    rw [← hdigester, ← htext]
    decide +kernel
  cases hread : digester.read text with
  | error refusal =>
    rw [hread] at htags
    cases htags
  | ok blob =>
    have hconfined := html_confined digester text blob (by rw [← hdigester])
      (by rw [← hdigester]; simp) hread
    rw [hread] at htags
    exact ⟨blob, rfl, hconfined.1.tags.trans (Option.some.inj htags)⟩

end LogDigest.Blob
