import LogDigest.Proofs.Template.Rendering
import LogDigest.Proofs.Text.Occurrence

/-!
# One line in two media

What markup shows of a line is what a terminal shows of it.  Neither a value nor a literal can
forge an error or an entity, so that the line for a terminal can be read back from markup.
-/

namespace LogDigest.Template

/-- Markup with marks in place of all that opens or closes an error. -/
def marked (html : List Char) : List Char :=
  Text.replaceAll errorClose.toList errorMark.toList
    (Text.replaceAll errorOpen.toList errorMark.toList html)

/-- A glyph in markup, if only errors that open are marked yet. -/
def Glyph.halfMarked : Glyph → List Char
  | .errorStart => errorMark.toList
  | glyph => glyph.write .html

def Glyph.marked : Glyph → List Char
  | .errorStart => errorMark.toList
  | .errorEnd => errorMark.toList
  | glyph => glyph.write .html

/-- A line whose own characters open neither a tag nor an entity. -/
structure Harmless (glyphs : List Glyph) : Prop where
  lt : .verbatim '<' ∉ glyphs
  amp : .verbatim '&' ∉ glyphs

variable {glyphs : List Glyph}

theorem apply_flatMap {f : List Char → List Char} {before after : Glyph → List Char}
    (hnil : f [] = [])
    (hglyph : ∀ glyph ∈ glyphs, ∀ rest, f (before glyph ++ rest) = after glyph ++ f rest) :
    f (glyphs.flatMap before) = glyphs.flatMap after := by
  induction glyphs with
  | nil => exact hnil
  | cons glyph glyphs ih =>
    rw [List.forall_mem_cons] at hglyph
    rw [List.flatMap_cons, List.flatMap_cons, hglyph.1, ih hglyph.2]

theorem Harmless.lt_not_mem {c : Char} (h : Harmless glyphs) (hmem : .verbatim c ∈ glyphs) :
    '<' ∉ [c] := by
  rw [List.mem_singleton]
  rintro rfl
  exact h.lt hmem

private theorem ledBy_errorOpen : Text.LedBy '<' errorOpen.toList :=
  ⟨_, String.toList_ofList, by decide⟩

theorem ledBy_errorClose : Text.LedBy '<' errorClose.toList :=
  ⟨_, String.toList_ofList, by decide⟩

theorem errorMark_toList : errorMark.toList = ['!', '!'] :=
  String.toList_ofList

private theorem not_prefix_errors :
    ¬ errorOpen.toList <+: errorClose.toList ∧ ¬ errorClose.toList <+: errorOpen.toList := by
  have hopen : errorOpen.toList = _ := String.toList_ofList
  have hclose : errorClose.toList = _ := String.toList_ofList
  rw [hopen, hclose]
  decide

private theorem replaceAll_errorOpen (h : Harmless glyphs) :
    Text.replaceAll errorOpen.toList errorMark.toList (written .html glyphs) =
      glyphs.flatMap Glyph.halfMarked := by
  refine apply_flatMap (Text.replaceAll_nil _ _) ?_
  intro glyph hmem rest
  cases glyph with
  | verbatim c => exact Text.replaceAll_append_of_not_mem ledBy_errorOpen (h.lt_not_mem hmem) rest
  | shown c =>
    exact Text.replaceAll_append_of_not_mem ledBy_errorOpen (Markup.lt_not_mem_encodedChar c) rest
  | errorStart => exact Text.replaceAll_old_append ledBy_errorOpen _ rest
  | errorEnd =>
    exact Text.replaceAll_other_append ledBy_errorOpen ledBy_errorClose not_prefix_errors.1
      not_prefix_errors.2 rest

private theorem marked_written (h : Harmless glyphs) :
    marked (written .html glyphs) = glyphs.flatMap Glyph.marked := by
  rw [marked, replaceAll_errorOpen h]
  refine apply_flatMap (Text.replaceAll_nil _ _) ?_
  intro glyph hmem rest
  cases glyph with
  | verbatim c => exact Text.replaceAll_append_of_not_mem ledBy_errorClose (h.lt_not_mem hmem) rest
  | shown c =>
    exact Text.replaceAll_append_of_not_mem ledBy_errorClose (Markup.lt_not_mem_encodedChar c) rest
  | errorStart =>
    have hmark : '<' ∉ errorMark.toList := by simp [errorMark_toList]
    exact Text.replaceAll_append_of_not_mem ledBy_errorClose hmark rest
  | errorEnd => exact Text.replaceAll_old_append ledBy_errorClose _ rest

private theorem decode_errorMark_append (rest : List Char) :
    Markup.decode (errorMark.toList ++ rest) = errorMark.toList ++ Markup.decode rest := by
  rw [errorMark_toList]
  rfl

/-- Markup with its errors marked reads back as what a terminal shows. -/
theorem decode_marked_written (h : Harmless glyphs) :
    Markup.decode (marked (written .html glyphs)) = written .plain glyphs := by
  rw [marked_written h]
  refine apply_flatMap rfl ?_
  intro glyph hmem rest
  cases glyph with
  | verbatim c =>
    have hc : c ≠ '&' := by
      rintro rfl
      exact h.amp hmem
    exact Markup.decode_cons hc rest
  | shown c => exact Markup.decode_encodedChar_append c rest
  | errorStart => exact decode_errorMark_append rest
  | errorEnd => exact decode_errorMark_append rest

private theorem harmless_glyphs {template : Template}
    (h : ∀ text, .literal text ∈ template.tokens → '<' ∉ text.toList ∧ '&' ∉ text.toList)
    (depth : Nat) (doc : Json) : Harmless (template.glyphs depth doc) where
  lt := verbatim_not_mem_glyphs (by decide) (by decide) (fun text hmem => (h text hmem).1) depth doc
  amp := verbatim_not_mem_glyphs (by decide) (by decide) (fun text hmem => (h text hmem).2) depth doc

/-- The line for a terminal can be read back from the one for markup, if no literal of the template
has a character that opens a tag or an entity.  Both count the same references. -/
theorem decode_marked_render (template : Template) (depth : Nat) (doc : Json)
    (h : ∀ text, .literal text ∈ template.tokens → '<' ∉ text.toList ∧ '&' ∉ text.toList) :
    Markup.decode (marked (template.render ⟨.html, depth⟩ doc).text.toList) =
        (template.render ⟨.plain, depth⟩ doc).text.toList ∧
      (template.render ⟨.html, depth⟩ doc).unresolved =
        (template.render ⟨.plain, depth⟩ doc).unresolved := by
  constructor
  · rw [text_render, text_render]
    exact decode_marked_written (harmless_glyphs h depth doc)
  · rw [unresolved_render, unresolved_render]

/-- A value that looks like the end of an error, between blanks that are kept inside the error. -/
theorem decode_marked_render_forged :
    Markup.decode (marked (Template.render
      ⟨[.literal " > ", .field .error "a", .field .doc "b"], List.cons_ne_nil _ _⟩ ⟨.html, 1⟩
      (.object [("a", .string " </span>&lt; ")])).text.toList) = "> !! </span>&lt; !!".toList := by
  have h := decode_marked_render
    ⟨[.literal " > ", .field .error "a", .field .doc "b"], List.cons_ne_nil _ _⟩ 1
    (.object [("a", .string " </span>&lt; ")]) (by simp)
  exact h.1.trans (by decide +kernel)

end LogDigest.Template
