import LogDigest.Proofs.Text.Encoded
import LogDigest.Proofs.Text.Span
import LogDigest.Template
import Mathlib.Data.List.DropRight

/-!
# Lines before they are written

The line of a template is a row of glyphs, the same row for every medium: a medium only decides how
each glyph is written.  No medium makes a blank of what is none, so that a written line is trimmed
exactly where its row of glyphs is.
-/

namespace LogDigest.Template

inductive Glyph where
  /-- A character that is the template's own. -/
  | verbatim (c : Char)
  /-- A character of a value. -/
  | shown (c : Char)
  | errorStart
  | errorEnd

namespace Glyph

def isBlank : Glyph → Bool
  | .verbatim c => Text.isBlank c
  | .shown c => Text.isBlank c
  | .errorStart => false
  | .errorEnd => false

def write (medium : Medium) : Glyph → List Char
  | .verbatim c => [c]
  | .shown c =>
    match medium with
    | .html => Markup.encodedChar c
    | .plain => [c]
  | .errorStart =>
    match medium with
    | .html => errorOpen.toList
    | .plain => errorMark.toList
  | .errorEnd =>
    match medium with
    | .html => errorClose.toList
    | .plain => errorMark.toList

end Glyph

def written (medium : Medium) (glyphs : List Glyph) : List Char :=
  glyphs.flatMap (Glyph.write medium)

def trimmed (glyphs : List Glyph) : List Glyph :=
  (glyphs.dropWhile Glyph.isBlank).rdropWhile Glyph.isBlank

def Marker.glyphs (marker : Marker) (value : List Char) : List Glyph :=
  match marker with
  | .doc => value.map .shown
  | .wrap => .verbatim '[' :: (value.map .shown ++ [.verbatim ']'])
  | .error => .errorStart :: (value.map .shown ++ [.errorEnd])

def Token.glyphs? (depth : Nat) (doc : Json) : Token → Option (List Glyph)
  | .literal text => some (text.toList.map .verbatim)
  | .field marker path =>
    (doc.find? path depth).map fun value => marker.glyphs value.display.toList

def glyphs (template : Template) (depth : Nat) (doc : Json) : List Glyph :=
  trimmed (template.tokens.flatMap fun token => (token.glyphs? depth doc).getD [])

variable {medium : Medium} {glyph : Glyph}

theorem written_append (medium : Medium) (first second : List Glyph) :
    written medium (first ++ second) = written medium first ++ written medium second :=
  List.flatMap_append

theorem written_cons (medium : Medium) (glyph : Glyph) (rest : List Glyph) :
    written medium (glyph :: rest) = glyph.write medium ++ written medium rest :=
  List.flatMap_cons

theorem written_singleton (medium : Medium) (glyph : Glyph) :
    written medium [glyph] = glyph.write medium :=
  List.append_nil _

/-! ## Tokens -/

private theorem written_verbatim (medium : Medium) (text : List Char) :
    written medium (text.map .verbatim) = text := by
  rw [written, List.flatMap_map]
  exact List.flatMap_singleton' text

private theorem written_shown (medium : Medium) (value : List Char) :
    written medium (value.map .shown) =
      match medium with
      | .html => Markup.encode value
      | .plain => value := by
  rw [written, List.flatMap_map]
  cases medium with
  | html => rfl
  | plain => exact List.flatMap_singleton' value

private theorem decorated_eq_written (medium : Medium) (marker : Marker) (value : List Char) :
    decorated medium marker value = written medium (marker.glyphs value) := by
  have hbetween : ∀ first last : Glyph,
      written medium (first :: (value.map .shown ++ [last])) =
        first.write medium ++ (written medium (value.map .shown) ++ last.write medium) := by
    intro first last
    rw [written_cons, written_append, written_singleton]
  cases marker with
  | doc =>
    rw [Marker.glyphs, written_shown]
    rfl
  | wrap =>
    rw [Marker.glyphs, hbetween, written_shown]
    rfl
  | error =>
    rw [Marker.glyphs, hbetween, written_shown]
    cases medium with
    | _ => exact List.append_assoc _ _ _

theorem shown?_eq_written (view : View) (doc : Json) (token : Token) :
    token.shown? view doc = (token.glyphs? view.depth doc).map (written view.medium) := by
  cases token with
  | literal text => simp [Token.shown?, Token.glyphs?, written_verbatim]
  | field marker path =>
    rw [Token.shown?, Token.glyphs?, Option.map_map]
    refine congrArg (Option.map · _) (funext fun value => ?_)
    exact decorated_eq_written _ _ _

/-! ## Trimming -/

/-- A text that neither begins nor ends with a blank, and is not empty. -/
def Solid (s : List Char) : Prop :=
  ∃ h : s ≠ [], Text.isBlank (s.head h) = false ∧ Text.isBlank (s.getLast h) = false

instance (s : List Char) : Decidable (Solid s) :=
  inferInstanceAs (Decidable (∃ h : s ≠ [],
    Text.isBlank (s.head h) = false ∧ Text.isBlank (s.getLast h) = false))

theorem solid_singleton {c : Char} (h : Text.isBlank c = false) : Solid [c] :=
  ⟨List.cons_ne_nil _ _, h, h⟩

private theorem solid_toList {text : String} {s : List Char} (h : text.toList = s) (hs : Solid s) :
    Solid text.toList := by
  rwa [h]

private theorem solid_encodedChar {c : Char} (h : Text.isBlank c = false) :
    Solid (Markup.encodedChar c) := by
  rcases Markup.encodedChar_cases c with ⟨-, hself⟩ | ⟨-, name, hname⟩
  · rw [hself]
    exact solid_singleton h
  · rw [hname]
    refine ⟨List.cons_ne_nil _ _, rfl, ?_⟩
    rw [List.getLast_cons (by simp), List.getLast_concat]
    rfl

private theorem trimStart_solid_append {s : List Char} (h : Solid s) (rest : List Char) :
    Text.trimStart (s ++ rest) = s ++ rest := by
  obtain ⟨hne, hhead, -⟩ := h
  refine Text.dropWhile_eq_self ?_
  intro c hc
  rw [List.head?_append_of_ne_nil _ hne, List.head?_eq_some_head hne] at hc
  cases hc
  exact hhead

private theorem trimEnd_append_solid {s : List Char} (h : Solid s) (front : List Char) :
    Text.trimEnd (front ++ s) = front ++ s := by
  obtain ⟨hne, -, hlast⟩ := h
  refine List.rdropWhile_eq_self_iff.mpr ?_
  intro _
  rw [List.getLast_append_of_right_ne_nil _ _ hne, hlast]
  exact Bool.false_ne_true

theorem write_of_isBlank (medium : Medium) (h : glyph.isBlank = true) :
    ∃ c, Text.isBlank c = true ∧ glyph.write medium = [c] := by
  cases glyph with
  | verbatim c => exact ⟨c, h, rfl⟩
  | shown c =>
    refine ⟨c, h, ?_⟩
    rcases Markup.encodedChar_cases c with ⟨-, hself⟩ | ⟨hreserved, -⟩
    · cases medium with
      | html => exact hself
      | plain => rfl
    · exact absurd (h.symm.trans (Markup.isBlank_of_isReserved hreserved)) (by decide)
  | errorStart => cases h
  | errorEnd => cases h

theorem solid_write (medium : Medium) (h : glyph.isBlank = false) :
    Solid (glyph.write medium) := by
  cases glyph with
  | verbatim c => exact solid_singleton h
  | shown c =>
    cases medium with
    | html => exact solid_encodedChar h
    | plain => exact solid_singleton h
  | errorStart =>
    cases medium with
    | html => exact solid_toList String.toList_ofList (by decide)
    | plain => exact solid_toList String.toList_ofList (by decide)
  | errorEnd =>
    cases medium with
    | html => exact solid_toList String.toList_ofList (by decide)
    | plain => exact solid_toList String.toList_ofList (by decide)

private theorem trimStart_written (medium : Medium) (glyphs : List Glyph) :
    Text.trimStart (written medium glyphs) = written medium (glyphs.dropWhile Glyph.isBlank) := by
  induction glyphs with
  | nil => rfl
  | cons glyph rest ih =>
    rw [written_cons]
    by_cases h : glyph.isBlank = true
    · obtain ⟨c, hc, hwrite⟩ := write_of_isBlank medium h
      rw [hwrite, List.dropWhile_cons_of_pos h, ← ih]
      exact List.dropWhile_cons_of_pos hc
    · rw [List.dropWhile_cons_of_neg h, written_cons]
      exact trimStart_solid_append (solid_write medium (Bool.eq_false_iff.mpr h)) _

private theorem trimEnd_written (medium : Medium) (glyphs : List Glyph) :
    Text.trimEnd (written medium glyphs) = written medium (glyphs.rdropWhile Glyph.isBlank) := by
  induction glyphs using List.reverseRecOn with
  | nil => rfl
  | append_singleton front glyph ih =>
    rw [written_append, written_singleton]
    by_cases h : glyph.isBlank = true
    · obtain ⟨c, hc, hwrite⟩ := write_of_isBlank medium h
      rw [hwrite, List.rdropWhile_concat_pos _ _ _ h, ← ih]
      exact List.rdropWhile_concat_pos _ _ _ hc
    · rw [List.rdropWhile_concat_neg _ _ _ h, written_append, written_singleton]
      exact trimEnd_append_solid (solid_write medium (Bool.eq_false_iff.mpr h)) _

/-! ## Lines -/

private theorem written_flatMap (medium : Medium) (depth : Nat) (doc : Json) (tokens : List Token) :
    ((tokens.map (Token.shown? ⟨medium, depth⟩ doc)).flatMap fun part => part.getD []) =
      written medium (tokens.flatMap fun token => (token.glyphs? depth doc).getD []) := by
  rw [written, List.flatMap_assoc, List.flatMap_map]
  refine congrArg (List.flatMap · tokens) (funext fun token => ?_)
  rw [shown?_eq_written]
  cases token.glyphs? depth doc with
  | none => rfl
  | some glyphs => rfl

theorem text_render (template : Template) (medium : Medium) (depth : Nat) (doc : Json) :
    (template.render ⟨medium, depth⟩ doc).text.toList =
      written medium (template.glyphs depth doc) := by
  rw [render, String.toList_ofList, written_flatMap, glyphs, trimmed, ← trimEnd_written,
    ← trimStart_written]
  rfl

theorem unresolved_render (template : Template) (medium : Medium) (depth : Nat) (doc : Json) :
    (template.render ⟨medium, depth⟩ doc).unresolved =
      template.tokens.countP fun token => (token.glyphs? depth doc).isNone := by
  rw [render, List.countP_map]
  refine List.countP_congr fun token _ => ?_
  rw [Function.comp_apply, shown?_eq_written, Option.isNone_map]

private theorem mem_of_mem_trimmed {glyphs : List Glyph} (h : glyph ∈ trimmed glyphs) :
    glyph ∈ glyphs :=
  (List.dropWhile_sublist _).subset ((List.rdropWhile_prefix _ _).subset h)

private theorem eq_of_verbatim_mem_glyphs {marker : Marker} {value : List Char} {c : Char}
    (h : .verbatim c ∈ marker.glyphs value) : c = '[' ∨ c = ']' := by
  cases marker with
  | doc => simp [Marker.glyphs] at h
  | wrap => simpa [Marker.glyphs] using h
  | error => simp [Marker.glyphs] at h

/-- What is verbatim in a line comes from a literal, or is a bracket around a value. -/
theorem verbatim_not_mem_glyphs {template : Template} {c : Char} (hopen : c ≠ '[')
    (hclose : c ≠ ']') (h : ∀ text, .literal text ∈ template.tokens → c ∉ text.toList)
    (depth : Nat) (doc : Json) : .verbatim c ∉ template.glyphs depth doc := by
  intro hline
  obtain ⟨token, htoken, hmem⟩ := List.mem_flatMap.mp (mem_of_mem_trimmed hline)
  cases token with
  | literal text => exact h text htoken (by simpa [Token.glyphs?] using hmem)
  | field marker path =>
    cases hvalue : doc.find? path depth with
    | none => simp [Token.glyphs?, hvalue] at hmem
    | some value =>
      rw [Token.glyphs?, hvalue] at hmem
      exact (eq_of_verbatim_mem_glyphs hmem).elim hopen hclose

end LogDigest.Template
