import LogDigest.Proofs.Path.Normalize
import LogDigest.Proofs.Template.ReadBack
import LogDigest.Proofs.Text.Trimming

/-!
# Paths in their references

A path may be given as it is or in a reference that was copied from a template, with all that may
stand around it there: blanks, further indexes, `.value`, a call and its chain of members.  A text
is unwrapped if it is such a reference as a whole, and then it names what the path names.
-/

namespace LogDigest

/-! ## Ends of references -/

namespace Template

open Text (Stops stops_reverse_append stops_reverse_concat stops_reverse_of_all
  stops_reverse_flatMap)

theorem isBlank_of_isWordChar {c : Char} (h : isWordChar c = true) : Text.isBlank c = false := by
  rw [← Bool.not_eq_true]
  intro hblank
  rw [isWordChar_of_isBlank hblank] at h
  cases h

theorem stops_reverse_name (name : Name) : Stops Text.isBlank name.text.reverse :=
  stops_reverse_of_all fun _ hc => isBlank_of_isWordChar (isWordChar_of_mem_text hc)

theorem stops_reverse_enclosed (opening : Char) {closing : Char} (content : List Char)
    (h : Text.isBlank closing = false) :
    Stops Text.isBlank (enclosed opening closing content).reverse :=
  stops_reverse_concat (s := opening :: content) h

private theorem stops_reverse_value (value : Bool) :
    Stops Text.isBlank (valueSuffix value).reverse := by
  cases value with
  | false => exact Text.stops_nil
  | true => exact Text.stops_cons (by decide)

private theorem stops_reverse_link (link : Link) : Stops Text.isBlank link.text.reverse := by
  have hdot : Stops Text.isBlank ['.'].reverse := Text.stops_cons (by decide)
  cases link with
  | name id => exact stops_reverse_append hdot (stops_reverse_name id)
  | method id arguments =>
    exact stops_reverse_append hdot
      (stops_reverse_append (stops_reverse_name id) (stops_reverse_enclosed _ _ (by decide)))
  | index content => exact stops_reverse_enclosed _ _ (by decide)

theorem KeywordForm.stops_reverse (form : KeywordForm) :
    Stops Text.isBlank form.text.reverse := by
  have hkeyword : Stops Text.isBlank form.marker.keyword.reverse := by
    rw [← Marker.text_name]
    exact stops_reverse_name _
  obtain ⟨front, hfront⟩ := form.subscript.exists_concat
  have hindexes : Stops Text.isBlank (form.indexes.flatMap indexText).reverse :=
    stops_reverse_flatMap _ fun content => stops_reverse_enclosed _ _ (by decide)
  rw [KeywordForm.text, hfront]
  exact stops_reverse_append hkeyword (stops_reverse_append (stops_reverse_concat (by decide))
    (stops_reverse_append hindexes (stops_reverse_value _)))

theorem CallForm.stops_reverse (form : CallForm) : Stops Text.isBlank form.text.reverse := by
  obtain ⟨front, hfront⟩ := form.exists_concat
  rw [hfront]
  exact stops_reverse_append (stops_reverse_concat (by decide))
    (stops_reverse_flatMap _ stops_reverse_link)

end Template

namespace Path

open Template (KeywordForm CallForm Blanks reference? space)

/-! ## References as a whole -/

/-- A text is a reference to a path and nothing else. -/
inductive Wraps (path : List Char) : List Char → Prop where
  | keyword (form : KeywordForm) (holds : form.subscript.path.1 = path) : Wraps path form.text
  | call (form : CallForm) (holds : form.subscript.path.1 = path) : Wraps path form.text

private theorem reference?_keyword (form : KeywordForm) :
    reference? form.text = some ((form.marker, form.subscript.path.1), []) := by
  have hends : form.EndsBefore [] := Template.ends_nil.endsBefore (.keyword form)
  have hsuffixes := Template.dropSuffixes_suffixes form hends
  rw [List.append_nil] at hsuffixes
  rw [KeywordForm.text, Template.reference?_subscript, hsuffixes]

private theorem reference?_call (form : CallForm) :
    reference? form.text = some ((.doc, form.subscript.path.1), []) := by
  have hends : Template.ChainEnds form.links [] :=
    Template.ends_nil.endsBefore (.call form)
  have hlinks := Template.dropMembers_links form.links hends
  rw [List.append_nil] at hlinks
  rw [CallForm.text, Template.reference?_name, hlinks]

/-- A text is unwrapped if it is a reference as a whole, whatever the reference looks like. -/
theorem wrapped?_eq_some_iff {path s : List Char} : wrapped? s = some path ↔ Wraps path s := by
  constructor
  · intro h
    rw [wrapped?] at h
    split at h
    · next marker path' hread =>
      obtain rfl := Option.some.inj h
      obtain ⟨form, rfl, htoken, -⟩ := Template.exists_form_of_reference? hread
      rw [List.append_nil]
      cases form with
      | literal => cases htoken
      | keyword form =>
        obtain ⟨-, hpath⟩ := Template.Token.field.inj htoken
        exact .keyword form (String.ofList_injective hpath)
      | call form =>
        obtain ⟨-, hpath⟩ := Template.Token.field.inj htoken
        exact .call form (String.ofList_injective hpath)
    · cases h
  · rintro (⟨form, rfl⟩ | ⟨form, rfl⟩)
    · rw [wrapped?, reference?_keyword]
    · rw [wrapped?, reference?_call]

/-! ## Blanks around references -/

theorem Wraps.stops {path s : List Char} (h : Wraps path s) : Text.Stops Text.isBlank s := by
  have hname : ∀ name : Template.Name, Text.isBlank name.first = false :=
    fun name => Template.isBlank_of_isWordChar (Template.isWordChar_of_mem_text List.mem_cons_self)
  cases h with
  | keyword form =>
    rw [KeywordForm.text, ← Template.Marker.text_name]
    exact Text.stops_cons (hname _)
  | call form => exact Text.stops_cons (hname _)

theorem Wraps.stops_reverse {path s : List Char} (h : Wraps path s) :
    Text.Stops Text.isBlank s.reverse := by
  cases h with
  | keyword form => exact form.stops_reverse
  | call form => exact form.stops_reverse

private theorem normalize_of_wraps {path s : List Char} (h : Wraps path s) (before after : Blanks) :
    normalize (before.1 ++ (s ++ after.1)) = Text.trim path := by
  have htrim : Text.trim (before.1 ++ (s ++ after.1)) = s :=
    Text.trim_append before.2 after.2 h.stops h.stops_reverse
  rw [normalize, htrim, wrapped?_eq_some_iff.2 h]

/-- A path without quotes may as well be given in a reference to it, with any indexes, `.value`,
call and chain of members, and between any blanks.  Either way the path is the one without the
blanks around it, and the same is found and shown in every document, within every depth. -/
theorem find?_of_wraps (path : String) (hquote : ∀ c ∈ path.toList, c ≠ '\'' ∧ c ≠ '"')
    (spelling : List Char) (h : Wraps path.toList spelling) (before after : Blanks) :
    let wrapped := before.1 ++ (spelling ++ after.1)
    normalize wrapped = Text.trim path.toList ∧ normalize path.toList = Text.trim path.toList ∧
      ∀ (doc : Json) (depth : Nat),
        doc.find? (String.ofList wrapped) depth = doc.find? path depth ∧
        (doc.find? (String.ofList wrapped) depth).map Json.display =
          (doc.find? path depth).map Json.display := by
  intro wrapped
  have hwrapped : normalize wrapped = Text.trim path.toList := normalize_of_wraps h before after
  have hbare : normalize path.toList = Text.trim path.toList := normalize_of_quoteless hquote
  refine ⟨hwrapped, hbare, fun doc depth => ?_⟩
  have hfind : doc.find? (String.ofList wrapped) depth = doc.find? path depth := by
    rw [Json.find?, Json.find?, String.toList_ofList, hwrapped, hbare]
  exact ⟨hfind, congrArg (Option.map Json.display) hfind⟩

/-- A call with every kind of suffix, and with blanks around the path in its quotes. -/
def dressed : CallForm where
  name := ⟨'s', ['t', 'r'], by decide, List.all_eq_true.mp (by decide)⟩
  before := space
  opening := space
  subscript :=
    { before := space
      opening := space
      quote := .double
      path := ⟨" user.name ".toList, by rintro c hc rfl; exact absurd hc (by decide)⟩
      closing := space }
  value := true
  closing := space
  links := [.method ⟨'a', ['t'], by decide, List.all_eq_true.mp (by decide)⟩ ⟨['1'], by simp⟩,
    .index ⟨['0'], by simp⟩, .name ⟨'x', [], by decide, by simp⟩]

theorem find?_of_wraps_dressed :
    (Json.object [("user", .object [("name", .string "Ada")])]).find?
      " str ( doc [ \" user.name \" ].value ).at(1)[0].x " 2 = some (.string "Ada") := by
  have hquote : ∀ c ∈ " user.name ".toList, c ≠ '\'' ∧ c ≠ '"' := by simp
  have hfind := (find?_of_wraps " user.name " hquote dressed.text (.call dressed rfl)
    space space).2.2 (.object [("user", .object [("name", .string "Ada")])]) 2
  have hbare : (Json.object [("user", .object [("name", .string "Ada")])]).find? " user.name " 2 =
      some (.string "Ada") := rfl
  exact hfind.1.trans hbare

end Path

end LogDigest
