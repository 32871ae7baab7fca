import LogDigest.Proofs.Template.Definitions
import LogDigest.Proofs.Template.ReadBack
import Mathlib.Algebra.Group.Nat.Even
import Mathlib.Data.List.DropRight

/-!
# Summands

Literals and references by keyword, joined by `+`.  The scan knows no escapes in the path of a
reference, but the cut before it does: behind an odd number of backslashes the closing quote of a
path does not end the quoted run, and what stands in quotes further on is taken for bare template.
-/

namespace LogDigest.Template

open Text (Stops stops_cons)

variable {c quote : Char} {s rest : List Char}

/-! ## Runs of a path -/

/-- The number of backslashes at the end of a text. -/
def trailing (s : List Char) : Nat :=
  (s.rtakeWhile (· == '\\')).length

theorem trailing_backslash (s : List Char) : trailing (s ++ ['\\']) = trailing s + 1 := by
  rw [trailing, List.rtakeWhile_concat_pos _ _ _ rfl, List.length_append]
  rfl

private theorem trailing_of_ne (s : List Char) (h : c ≠ '\\') : trailing (s ++ [c]) = 0 := by
  rw [trailing, List.rtakeWhile_concat_neg _ _ _ (by simpa using h)]
  rfl

theorem even_trailing_runParts (parts : List (RunPart quote)) :
    Even (trailing (parts.flatMap RunPart.text)) := by
  induction parts using List.reverseRecOn with
  | nil => exact Even.zero
  | append_singleton parts part ih =>
    rw [List.flatMap_append, List.flatMap_singleton]
    cases part with
    | plain c ne =>
      rw [RunPart.text, trailing_of_ne _ ne.2]
      exact Even.zero
    | escaped c =>
      rw [RunPart.text, ← List.singleton_append, ← List.append_assoc]
      by_cases hc : c = '\\'
      · rwa [hc, trailing_backslash, trailing_backslash, Nat.even_add_one, Nat.even_add_one,
          not_not]
      · rw [trailing_of_ne _ hc]
        exact Even.zero

/-- A path is made of the parts of a run, or a single backslash is left over at its end. -/
theorem exists_runParts : ∀ path : List Char, (∀ c ∈ path, c ≠ quote) →
    ∃ parts : List (RunPart quote),
      path = parts.flatMap RunPart.text ∨ path = parts.flatMap RunPart.text ++ ['\\']
  | [], _ => ⟨[], .inl rfl⟩
  | [c], h => by
    by_cases hc : c = '\\'
    · exact ⟨[], .inr (by rw [hc]; rfl)⟩
    · exact ⟨[.plain c ⟨h c (by simp), hc⟩], .inl rfl⟩
  | c :: d :: path, h => by
    by_cases hc : c = '\\'
    · obtain ⟨parts, hparts⟩ := exists_runParts path fun e he => h e (by simp [he])
      refine ⟨.escaped d :: parts, ?_⟩
      rcases hparts with rfl | rfl
      · exact .inl (by rw [hc]; rfl)
      · exact .inr (by rw [hc]; rfl)
    · obtain ⟨parts, hparts⟩ := exists_runParts (d :: path) fun e he => h e (by simp [he])
      refine ⟨.plain c ⟨h c (by simp), hc⟩ :: parts, ?_⟩
      rcases hparts with hparts | hparts
      · exact .inl (by rw [List.flatMap_cons, ← hparts]; rfl)
      · exact .inr (by rw [List.flatMap_cons, List.append_assoc, ← hparts]; rfl)

private theorem exists_runParts_of_even (path : Without quote) (h : Even (trailing path.1)) :
    ∃ parts : List (RunPart quote), path.1 = parts.flatMap RunPart.text := by
  obtain ⟨parts, hparts | hparts⟩ := exists_runParts path.1 path.2
  · exact ⟨parts, hparts⟩
  · rw [hparts, trailing_backslash, Nat.even_add_one] at h
    exact absurd (even_trailing_runParts parts) h

private theorem exists_runParts_of_not_even (path : Without quote) (h : ¬ Even (trailing path.1)) :
    ∃ parts : List (RunPart quote), path.1 = parts.flatMap RunPart.text ++ ['\\'] := by
  obtain ⟨parts, hparts | hparts⟩ := exists_runParts path.1 path.2
  · rw [hparts] at h
    exact absurd (even_trailing_runParts parts) h
  · exact ⟨parts, hparts⟩

private theorem exists_runParts_plain (hs : ∀ c ∈ s, c ≠ quote ∧ c ≠ '\\') :
    ∃ parts : List (RunPart quote), s = parts.flatMap RunPart.text := by
  induction s with
  | nil => exact ⟨[], rfl⟩
  | cons c s ih =>
    obtain ⟨parts, hparts⟩ := ih fun d hd => hs d (by simp [hd])
    exact ⟨.plain c (hs c (by simp)) :: parts, by rw [List.flatMap_cons, ← hparts]; rfl⟩

theorem PathQuote.isQuote_char (quote : PathQuote) : isQuote quote.char = true := by
  cases quote <;> decide

/-! ## Summands -/

/-- A literal, or a reference whose path is any text without the quote around it. -/
inductive Summand where
  | literal (parts : List LiteralPart)
  | reference (marker : Marker) (quote : PathQuote) (path : Without quote.char)

namespace Summand

def text : Summand → List Char
  | .literal parts => enclosed '\'' '\'' (parts.flatMap LiteralPart.text)
  | .reference marker quote path =>
    marker.keyword ++ enclosed '[' ']' (enclosed quote.char quote.char path.1)

def token : Summand → Token
  | .literal parts => .literal (String.ofList (parts.flatMap LiteralPart.meaning))
  | .reference marker _ path => .field marker (String.ofList path.1)

/-- The quoted run of a path ends where the path does: the backslashes at its end make pairs. -/
def InStep : Summand → Prop
  | .literal _ => True
  | .reference _ _ path => Even (trailing path.1)

instance (summand : Summand) : Decidable summand.InStep :=
  match summand with
  | .literal _ => inferInstanceAs (Decidable True)
  | .reference _ _ path => inferInstanceAs (Decidable (Even (trailing path.1)))

def form : Summand → Form
  | .literal parts => .literal parts
  | .reference marker quote path =>
    .keyword {
      marker
      subscript := ⟨⟨[], by simp⟩, ⟨[], by simp⟩, quote, path, ⟨[], by simp⟩⟩
      indexes := []
      value := false
      marker_eq_doc := by simp }

theorem text_form (summand : Summand) : summand.form.text = summand.text := by
  cases summand with
  | literal parts => rfl
  | reference marker quote path =>
    simp [form, Form.text, KeywordForm.text, Subscript.text, text, enclosed, valueSuffix]

theorem token_form (summand : Summand) : summand.form.token = summand.token := by
  cases summand <;> rfl

end Summand

def plus : Gap :=
  ⟨[' ', '+', ' '], List.forall_iff_forall_mem.1 (by decide)⟩

/-- Summands as they are written in a template. -/
def joined (summands : List Summand) : List Char :=
  plus.1.intercalate (summands.map Summand.text)

def following (summands : List Summand) : List Char :=
  summands.flatMap fun summand => plus.1 ++ summand.text

theorem following_cons (summand : Summand) (summands : List Summand) :
    following (summand :: summands) = plus.1 ++ (summand.text ++ following summands) := by
  rw [following, List.flatMap_cons, List.append_assoc]
  rfl

theorem joined_cons (summand : Summand) (summands : List Summand) :
    joined (summand :: summands) = summand.text ++ following summands := by
  induction summands generalizing summand with
  | nil => simp [joined, following]
  | cons next summands ih =>
    have hnext := ih next
    rw [joined, List.map_cons] at hnext
    rw [joined, List.map_cons, List.map_cons, List.intercalate_cons_cons, hnext, following_cons,
      List.append_assoc]

private theorem joined_append (summand next : Summand) (front summands : List Summand) :
    joined (summand :: front ++ next :: summands) =
      joined (summand :: front) ++ (plus.1 ++ joined (next :: summands)) := by
  rw [List.cons_append, joined_cons, joined_cons, joined_cons, following, List.flatMap_append,
    ← following, ← following, following_cons, List.append_assoc]

/-! ## Scanning summands -/

theorem form?_summand (summand : Summand) (h : Ends rest) :
    form? (summand.text ++ rest) = some (summand.token, rest) := by
  rw [← summand.text_form, form?_form _ (h.endsBefore _), summand.token_form]

theorem ends_following (summands : List Summand) : Ends (following summands) := by
  cases summands with
  | nil => exact ends_nil
  | cons summand summands =>
    rw [following_cons]
    exact ends_gap (by decide)

private theorem scanForms_following (summands : List Summand) :
    scanForms (following summands) =
      { tokens := summands.map Summand.token, matched := !summands.isEmpty } := by
  induction summands with
  | nil =>
    rw [following, List.flatMap_nil, scanForms]
    rfl
  | cons summand summands ih =>
    rw [following_cons, scanForms_gap,
      scanForms_of_form? (form?_summand summand (ends_following summands)), ih]
    rfl

private theorem scanForms_joined (summands : List Summand) :
    scanForms (joined summands) =
      { tokens := summands.map Summand.token, matched := !summands.isEmpty } := by
  cases summands with
  | nil =>
    have hnil : joined [] = [] := rfl
    rw [hnil, scanForms]
    rfl
  | cons summand summands =>
    rw [joined_cons, scanForms_of_form? (form?_summand summand (ends_following summands)),
      scanForms_following]
    rfl

/-! ## Cutting summands -/

theorem withoutDefinitions_summand (summand : Summand) (h : summand.InStep) :
    withoutDefinitions (summand.text ++ rest) = summand.text ++ withoutDefinitions rest := by
  cases summand with
  | literal parts =>
    rw [Summand.text, enclosed_append,
      withoutDefinitions_quoted (by decide) (quotedRun?_parts parts), enclosed_append,
      List.append_assoc]
    rfl
  | reference marker quote path =>
    obtain ⟨parts, hparts⟩ := exists_runParts_of_even path h
    have hrun := @quotedRun?_runParts quote.char (']' :: rest)
      (ne_backslash_of_isQuote quote.isQuote_char) parts
    simp only [Summand.text, List.append_assoc, enclosed_append, hparts]
    rw [withoutDefinitions_keyword _ (free_cons (by decide) (by decide)),
      withoutDefinitions_char (by decide) (by decide),
      withoutDefinitions_quoted quote.isQuote_char hrun,
      withoutDefinitions_char (by decide) (by decide), List.append_assoc]
    rfl

private theorem withoutDefinitions_following (summands : List Summand)
    (h : ∀ summand ∈ summands, summand.InStep) :
    withoutDefinitions (following summands ++ rest) =
      following summands ++ withoutDefinitions rest := by
  induction summands with
  | nil => rfl
  | cons summand summands ih =>
    rw [following_cons, List.append_assoc, List.append_assoc, withoutDefinitions_gap,
      withoutDefinitions_summand summand (h summand (by simp)),
      ih fun next hnext => h next (by simp [hnext]), List.append_assoc, List.append_assoc]

theorem withoutDefinitions_joined (summands : List Summand)
    (h : ∀ summand ∈ summands, summand.InStep) :
    withoutDefinitions (joined summands ++ rest) = joined summands ++ withoutDefinitions rest := by
  cases summands with
  | nil => rfl
  | cons summand summands =>
    rw [joined_cons, List.append_assoc, withoutDefinitions_summand summand (h summand (by simp)),
      withoutDefinitions_following summands fun next hnext => h next (by simp [hnext]),
      List.append_assoc]

private theorem withoutDefinitions_definition (definition : Definition)
    (h : definition.StandsBefore rest) :
    withoutDefinitions (definition.text ++ rest) = withoutDefinitions rest := by
  rw [withoutDefinitions, pieces_definition definition h]
  rfl

def bridge : List Char :=
  ']' :: (plus.1 ++ (Marker.doc.keyword ++ ['[']))

private theorem joined_references (marker : Marker) (quote : PathQuote)
    (path next : Without quote.char) :
    joined [.reference marker quote path, .reference .doc quote next] =
      marker.keyword ++ '[' :: quote.char :: (path.1 ++ quote.char :: (bridge ++ quote.char ::
        (next.1 ++ [quote.char, ']']))) := by
  simp [joined_cons, following, Summand.text, enclosed, bridge]

/-- Out of step, the run of a path goes on to the quote that opens the next path. -/
theorem quotedRun?_outOfStep {quote : PathQuote} {path : Without quote.char}
    (h : ¬ Even (trailing path.1)) :
    quotedRun? quote.char (path.1 ++ quote.char :: (bridge ++ quote.char :: rest)) =
      some (path.1 ++ quote.char :: (bridge ++ [quote.char]), rest) := by
  have hbridge : ∀ c ∈ bridge, c ≠ quote.char ∧ c ≠ '\\' := by
    cases quote <;> exact List.forall_iff_forall_mem.1 (by decide)
  obtain ⟨parts, hparts⟩ := exists_runParts_of_not_even path h
  obtain ⟨more, hmore⟩ := exists_runParts_plain hbridge
  have hrun := @quotedRun?_runParts quote.char rest
    (ne_backslash_of_isQuote quote.isQuote_char) (parts ++ .escaped quote.char :: more)
  rw [List.flatMap_append, List.flatMap_cons, ← hmore, RunPart.text] at hrun
  rw [hparts]
  simpa only [List.append_assoc, List.cons_append, List.nil_append] using hrun

section OutOfStep

variable {marker : Marker} {quote : PathQuote} {path : Without quote.char}
  {definition : Definition}

private theorem withoutDefinitions_references (h : ¬ (Summand.reference marker quote path).InStep)
    (apart : ∀ c ∈ definition.text, c ≠ quote.char)
    (stands : definition.StandsBefore [quote.char, ']']) :
    withoutDefinitions
        (joined [.reference marker quote path, .reference .doc quote ⟨definition.text, apart⟩]) =
      joined [.reference marker quote path, .reference .doc quote ⟨[], by simp⟩] := by
  have hlast : withoutDefinitions [quote.char, ']'] = [quote.char, ']'] := by
    cases quote <;> decide +kernel
  rw [joined_references, joined_references,
    withoutDefinitions_keyword _ (free_cons (by decide) (by decide)),
    withoutDefinitions_char (by decide) (by decide),
    withoutDefinitions_quoted quote.isQuote_char (quotedRun?_outOfStep h),
    withoutDefinitions_definition definition stands, hlast]
  simp only [List.append_assoc, List.cons_append, List.nil_append]

private theorem withoutDefinitions_outOfStep (summands : List Summand)
    (hsummands : ∀ summand ∈ summands, summand.InStep)
    (h : ¬ (Summand.reference marker quote path).InStep)
    (apart : ∀ c ∈ definition.text, c ≠ quote.char)
    (stands : definition.StandsBefore [quote.char, ']']) :
    withoutDefinitions (joined (summands ++
        [.reference marker quote path, .reference .doc quote ⟨definition.text, apart⟩])) =
      joined (summands ++ [.reference marker quote path, .reference .doc quote ⟨[], by simp⟩]) := by
  have hcut := withoutDefinitions_references h apart stands
  cases summands with
  | nil => exact hcut
  | cons summand summands =>
    rw [joined_append, joined_append, withoutDefinitions_joined _ hsummands,
      withoutDefinitions_gap, hcut]

end OutOfStep

/-- A template of summands is read back: nothing is cut out of it, and its tokens are those of the
summands. -/
structure ReadsBack (summands : List Summand) : Prop where
  kept : withoutDefinitions (joined summands) = joined summands
  scanned : Scanned.of (String.ofList (joined summands)) =
    { tokens := summands.map Summand.token, matched := !summands.isEmpty }

/-- Summands in step are read back, whatever is quoted in them.  Behind a path out of step they are
not: a definition in the next path is cut out, and that path is empty to the scan. -/
theorem readsBack_joined (summands : List Summand)
    (hsummands : ∀ summand ∈ summands, summand.InStep) :
    ReadsBack summands ∧
      ∀ (marker : Marker) (quote : PathQuote) (path : Without quote.char),
        ¬ (Summand.reference marker quote path).InStep →
        ∀ (definition : Definition) (apart : ∀ c ∈ definition.text, c ≠ quote.char),
          definition.StandsBefore [quote.char, ']'] →
          Scanned.of (String.ofList (joined (summands ++
              [.reference marker quote path, .reference .doc quote ⟨definition.text, apart⟩]))) =
            { tokens := summands.map Summand.token ++
                [.field marker (String.ofList path.1), .field .doc ""]
              matched := true } := by
  constructor
  · have hkept : withoutDefinitions (joined summands) = joined summands := by
      have hjoined := @withoutDefinitions_joined [] summands hsummands
      rwa [List.append_nil, withoutDefinitions_nil, List.append_nil] at hjoined
    refine ⟨hkept, ?_⟩
    rw [Scanned.of, String.toList_ofList, hkept, scanForms_joined]
  · intro marker quote path h definition apart stands
    rw [Scanned.of, String.toList_ofList,
      withoutDefinitions_outOfStep summands hsummands h apart stands, scanForms_joined]
    simp [Summand.token]

/-- A literal all of whose characters stand for themselves. -/
def verbatim (text : List Char) (plain : ∀ c ∈ text, c ≠ '\'' ∧ c ≠ '\\') : Summand :=
  .literal (text.pmap LiteralPart.plain plain)

/-- Two backslashes at the end of a path are in step, and so is one before a quote of the other
kind. -/
theorem readsBack_joined_backslashes :
    ReadsBack [.reference .doc .single ⟨"a\\\\".toList, by simp [PathQuote.char]⟩,
        verbatim "String f(x) \x7b y \x7d".toList (by simp),
        .reference .wrap .double ⟨"\\'d".toList, by simp [PathQuote.char]⟩] ∧
      ∃ (definition : Definition) (apart : ∀ c ∈ definition.text, c ≠ '\''),
        Scanned.of (String.ofList (joined [
            .reference .error .single ⟨"a\\".toList, by simp [PathQuote.char]⟩,
            .reference .doc .single ⟨definition.text, apart⟩])) =
          { tokens := [.field .error "a\\", .field .doc ""], matched := true } := by
  have hread := readsBack_joined
    [.reference .doc .single ⟨"a\\\\".toList, by simp [PathQuote.char]⟩,
      verbatim "String f(x) \x7b y \x7d".toList (by simp),
      .reference .wrap .double ⟨"\\'d".toList, by simp [PathQuote.char]⟩]
    (List.forall_iff_forall_mem.1 (by decide))
  obtain ⟨-, hcut⟩ := readsBack_joined [] (by simp)
  refine ⟨hread.1, ?_⟩
  have hafter : afterDefinition? "String f(x) \x7b y \x7d']".toList = some "']".toList := by
    decide +kernel
  obtain ⟨definition, hs, hstands⟩ := afterDefinition?_eq_some_iff.1 hafter
  have htext : definition.text = "String f(x) \x7b y \x7d".toList := by
    have hsplit : "String f(x) \x7b y \x7d']".toList =
        "String f(x) \x7b y \x7d".toList ++ "']".toList := rfl
    exact List.append_cancel_right (hs.symm.trans hsplit)
  have hapart : ∀ c ∈ definition.text, c ≠ '\'' := by
    rw [htext]
    simp
  exact ⟨definition, hapart, hcut .error .single _ (by decide) definition hapart hstands⟩

/-- The single backslash hides the closing quote of the path, and the definition in the literal
after it is cut out. -/
theorem not_readsBack_backslash :
    ¬ ReadsBack [.reference .doc .single ⟨"a\\".toList, by simp [PathQuote.char]⟩,
        verbatim "String f(x) \x7b y \x7d".toList (by simp)] ∧
      Scanned.of "doc['a\\'] + 'String f(x) \x7b y \x7d'" =
        { tokens := [.field .doc "a\\", .literal ""], matched := true } := by
  have hscanned : Scanned.of "doc['a\\'] + 'String f(x) \x7b y \x7d'" =
      { tokens := [.field .doc "a\\", .literal ""], matched := true } := by decide +kernel
  refine ⟨fun h => ?_, hscanned⟩
  have htext : String.ofList (joined [
      .reference .doc .single ⟨"a\\".toList, by simp [PathQuote.char]⟩,
      verbatim "String f(x) \x7b y \x7d".toList (by simp)]) =
        "doc['a\\'] + 'String f(x) \x7b y \x7d'" := by decide +kernel
  have hread := h.scanned
  rw [htext, hscanned] at hread
  exact absurd hread (by decide +kernel)

end LogDigest.Template
