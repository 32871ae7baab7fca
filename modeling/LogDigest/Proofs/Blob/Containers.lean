import LogDigest.Blob
import LogDigest.Proofs.Json.Printed
import LogDigest.Proofs.Text.Splitting
import LogDigest.Proofs.Text.Trimming

/-!
# Blobs are the JSON containers

A text is looked at before it is read: unless it opens like a container it is refused at once.
The look agrees with the reader, since what JSON skips between tokens is blank in any case.  So
blobs are exactly the texts that spell an array or an object between blanks, and a compiled plan
digests them as the plan itself would.

On request the indented document stands below the digest, line by line.  The lines lose nothing,
since an indented document has no carriage return and no line feed at its end, so the document can
be read off the text again.
-/

namespace LogDigest

/-! ## The first character of a document -/

namespace Json

variable {s : List Char} {doc : Json}

private theorem isBlank_of_isSpace {c : Char} (h : isSpace c = true) : Text.isBlank c = true := by
  simp only [isSpace, Bool.or_eq_true, beq_iff_eq] at h
  rcases h with ((rfl | rfl) | rfl) | rfl <;> decide

private theorem skipSpace_eq_self (h : Text.Stops Text.isBlank s) : skipSpace s = s := by
  apply Text.dropWhile_eq_self
  intro c hc
  have hblank : Text.isBlank c = false := h c hc
  cases hspace : isSpace c with
  | false => rfl
  | true =>
    rw [isBlank_of_isSpace hspace] at hblank
    cases hblank

private theorem isContainer_of_scalar? {rest : Shorter s} (h : scalar? s = some (doc, rest)) :
    doc.isContainer = false := by
  unfold scalar? at h
  split at h
  · cases h
    rfl
  · cases h
    rfl
  · cases h
    rfl
  · split at h
    · cases h
      rfl
    · cases h
  · split at h
    · obtain ⟨n, -, heq⟩ := Option.map_eq_some_iff.1 h
      cases heq
      rfl
    · cases h

private theorem isContainer_of_value? {depth : Nat} {rest : Shorter s}
    (h : value? (depth + 1) s = some (doc, rest)) :
    doc.isContainer = true ↔ ∃ c ∈ (skipSpace s).head?, c = '\x7b' ∨ c = '[' := by
  unfold value? at h
  split at h
  · next hs =>
    obtain ⟨items, -, heq⟩ := Option.map_eq_some_iff.1 h
    cases heq
    rw [hs]
    exact iff_of_true rfl ⟨'[', rfl, Or.inr rfl⟩
  · next hs =>
    obtain ⟨members, -, heq⟩ := Option.map_eq_some_iff.1 h
    cases heq
    rw [hs]
    exact iff_of_true rfl ⟨'\x7b', rfl, Or.inl rfl⟩
  · next hbracket hbrace =>
    obtain ⟨⟨scalar, left⟩, hscalar, heq⟩ := Option.map_eq_some_iff.1 h
    cases heq
    rw [isContainer_of_scalar? hscalar]
    apply iff_of_false Bool.false_ne_true
    rintro ⟨c, hc, rfl | rfl⟩
    · obtain ⟨tail, htail⟩ := List.head?_eq_some_iff.1 hc
      exact hbrace tail htail
    · obtain ⟨tail, htail⟩ := List.head?_eq_some_iff.1 hc
      exact hbracket tail htail

end Json

/-! ## Looking before reading -/

private theorem opensContainer_iff {s : List Char} (h : Text.Stops Text.isBlank s) :
    opensContainer s = true ↔ ∃ c ∈ s.head?, c = '\x7b' ∨ c = '[' := by
  rw [opensContainer, Text.trimStart, Text.dropWhile_eq_self h]
  cases s with
  | nil => simp
  | cons c s => simp

private theorem opensContainer_of_read? {s : List Char} {doc : Json}
    (h : Json.read? (Text.trim s) = some doc) :
    opensContainer (Text.trim s) = true ↔ doc.isContainer = true := by
  have hstops := Text.stops_trim s
  unfold Json.read? at h
  split at h
  · next found rest hvalue =>
    split at h
    · cases h
      rw [opensContainer_iff hstops, Json.isContainer_of_value? hvalue,
        Json.skipSpace_eq_self hstops]
    · cases h
  · cases h

namespace Digester

theorem digest_ofPlan (plan : Plan) (view : View) (doc : Json) :
    (ofPlan plan view).digest doc = Digest.ofPlan plan view doc := by
  unfold digest Digest.ofPlan ofPlan
  cases plan.template.bind Template.compile? <;> rfl

/-- A text is a blob exactly if it spells, between blanks, an array or an object, which is then
the document of the blob; the look at its first character refuses no such text and no other
document passes it. -/
theorem read_ofPlan (plan : Plan) (view : View) (text : String) :
    (∀ blob, (ofPlan plan view).read text = .ok blob ↔
      ∃ doc, Json.read? (Text.trim text.toList) = some doc ∧ doc.isContainer = true ∧
        blob.document = doc ∧ blob.details = doc.indented ∧
        blob.digest = Digest.ofPlan plan view doc) ∧
    ∀ doc, Json.read? (Text.trim text.toList) = some doc →
      (opensContainer (Text.trim text.toList) = true ↔ doc.isContainer = true) := by
  refine ⟨fun blob => ?_, fun doc => opensContainer_of_read?⟩
  constructor
  · intro h
    simp only [read] at h
    split at h
    · next hopens =>
      split at h
      · next doc hread =>
        cases h
        refine ⟨doc, hread, (opensContainer_of_read? hread).1 hopens, rfl, rfl, ?_⟩
        exact digest_ofPlan plan view doc
      · cases h
    · cases h
  · rintro ⟨doc, hread, hcontainer, rfl, -, hdigest⟩
    have hopens := (opensContainer_of_read? hread).2 hcontainer
    simp only [read, hopens, if_true, hread, digest_ofPlan, ← hdigest]

/-- A no-break space is no blank of JSON, but it is trimmed before the array is read. -/
theorem read_ofPlan_array :
    ∃ blob, (ofPlan {} {}).read "\u00a0[\"x\"]\n" = .ok blob ∧
      blob.document.compact = "[\"x\"]" ∧
      opensContainer (Text.trim "\u00a0[\"x\"]\n".toList) = true := by
  have hread : ((Json.read? (Text.trim "\u00a0[\"x\"]\n".toList)).map fun doc =>
      (doc.isContainer, doc.compact)) = some (true, "[\"x\"]") := by
    decide +kernel
  obtain ⟨doc, hdoc, hshown⟩ := Option.map_eq_some_iff.1 hread
  obtain ⟨hcontainer, hcompact⟩ := Prod.mk.inj hshown
  obtain ⟨hblob, hopens⟩ := read_ofPlan {} {} "\u00a0[\"x\"]\n"
  refine ⟨⟨Digest.ofPlan {} {} doc, doc⟩, (hblob _).2 ?_, hcompact, (hopens doc hdoc).2 hcontainer⟩
  exact ⟨doc, hdoc, hcontainer, rfl, rfl, rfl⟩

end Digester

/-! ## Blobs with their documents -/

namespace Blob

private theorem toList_details (blob : Blob) :
    blob.details.toList = blob.document.indentedText 0 :=
  String.toList_ofList

private theorem toList_text_true (blob : Blob) :
    (blob.text true).toList = (blob.text false).toList ++ indentedBlock blob.details.toList := by
  simp only [text, String.toList_ofList, if_true, Bool.false_eq_true, if_false, List.append_nil]

/-- The indented document adds nothing to the text but itself: lines, each behind a line feed and
two blanks, that are the document when they are joined by line feeds again. -/
theorem text_unfolded (blob : Blob) : ∃ lines : List (List Char),
    (∀ line ∈ lines, '\n' ∉ line) ∧
    (blob.text true).toList =
      (blob.text false).toList ++ lines.flatMap (fun line => "\n  ".toList ++ line) ∧
    ['\n'].intercalate lines = blob.details.toList ∧
    blob.details = blob.document.indented := by
  have hprinted := Json.printedLines_indentedText 0 blob.document
  have hlast := Json.getLast?_indentedText_ne 0 blob.document
  rw [← toList_details] at hprinted hlast
  have hreturn : '\r' ∉ blob.details.toList := fun hmem =>
    absurd (hprinted '\r' hmem) (by decide)
  exact ⟨Text.lines blob.details.toList, fun line hline => Text.lineFeed_not_mem_of_mem_lines hline,
    blob.toList_text_true, Text.intercalate_lines hreturn hlast, rfl⟩

end Blob

end LogDigest
