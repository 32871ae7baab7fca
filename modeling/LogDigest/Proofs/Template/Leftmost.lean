import LogDigest.Proofs.Template.Reading

/-!
# Scanning finds the leftmost forms

A scan passes over a text from left to right and never stands inside a word.  Where it moves on
without a form, none is spelled anywhere in what it leaves behind; where it takes a form, the form
has all its suffixes and ends no word halfway.
-/

namespace LogDigest.Template

open Text (Stops stops_nil stops_cons)

variable {c : Char} {s t rest before gap after run : List Char} {form : Form} {cuts : List Cut}

/-! ## Ends of words -/

theorem closed_concat (h : isWordChar c = false) : Closed (s ++ [c]) := by
  rw [Closed, List.getLast?_concat]
  rintro _ ⟨⟩
  exact h

theorem closed_append (hs : Closed s) (ht : Closed t) : Closed (s ++ t) := by
  intro c hc
  rw [List.getLast?_append, Option.mem_def, Option.or_eq_some_iff] at hc
  rcases hc with hc | ⟨-, hc⟩
  · exact ht c hc
  · exact hs c hc

theorem closed_append_of_ne_nil (hne : t ≠ []) (ht : Closed t) : Closed (s ++ t) := by
  rw [Closed, List.getLast?_append_of_ne_nil _ hne]
  exact ht

def Boundary (before after : List Char) : Prop :=
  Closed before ∨ Stops isWordChar after

private theorem boundary_concat (h : isWordChar c = false) : Boundary (s ++ [c]) after :=
  Or.inl (closed_concat h)

theorem Boundary.append_left (h : Boundary s after) (hne : s ≠ []) :
    Boundary (before ++ s) after :=
  h.imp_left (closed_append_of_ne_nil hne)

theorem not_mayBegin {d : Char} (hs : ∀ e ∈ s, isWordChar e = true) (hne : s ≠ [])
    (hd : isWordChar d = true) : ¬ MayBegin (before ++ s) (d :: rest) := by
  rintro (hquote | ⟨-, hclosed⟩)
  · cases hquote
    cases hd
  · have hlast := hclosed (s.getLast hne) (by
      rw [List.getLast?_append_of_ne_nil _ hne, List.getLast?_eq_some_getLast hne]
      rfl)
    rw [hs _ (List.getLast_mem hne)] at hlast
    cases hlast

private theorem mayBegin_cons (h : Boundary before (c :: rest))
    (hc : c = '\'' ∨ isWordChar c = true) :
    MayBegin before (c :: rest) := by
  rcases hc with rfl | hword
  · exact Or.inl rfl
  · refine Or.inr ⟨⟨c, rfl, hword⟩, h.resolve_right fun hstops => ?_⟩
    rw [hstops c rfl] at hword
    cases hword

theorem Form.exists_cons (form : Form) :
    ∃ c rest, form.text = c :: rest ∧ (c = '\'' ∨ isWordChar c = true) := by
  cases form with
  | literal parts => exact ⟨_, _, rfl, Or.inl rfl⟩
  | keyword form =>
    obtain ⟨marker, _, _, _, _⟩ := form
    cases marker <;> exact ⟨_, _, rfl, Or.inr (by decide)⟩
  | call form =>
    exact ⟨_, _, rfl, Or.inr (isWordChar_of_isWordStart form.name.isWordStart_first)⟩

theorem Form.mayBegin (h : Boundary before (form.text ++ rest)) :
    MayBegin before (form.text ++ rest) := by
  obtain ⟨c, more, htext, hc⟩ := form.exists_cons
  rw [htext, List.cons_append] at h ⊢
  exact mayBegin_cons h hc

/-! ## Where forms end -/

theorem closed_enclosed (opening : Char) {closing : Char} (h : isWordChar closing = false)
    (content : List Char) : Closed (enclosed opening closing content) :=
  closed_concat (s := opening :: content) h

private theorem closed_subscript (subscript : Subscript) : Closed (subscript.text) := by
  obtain ⟨front, hfront⟩ := subscript.exists_concat
  rw [hfront]
  exact closed_concat (by decide)

private theorem closed_indexes (indexes : List (Without ']')) :
    Closed (indexes.flatMap indexText) := by
  induction indexes with
  | nil => simp [Closed]
  | cons content indexes ih =>
    rw [List.flatMap_cons]
    exact closed_append (closed_enclosed _ (by decide) _) ih

private theorem boundary_links {links : List Link} (h : ChainEnds links rest) (hs : Closed s) :
    Boundary (s ++ links.flatMap Link.text) rest := by
  rcases List.eq_nil_or_concat links with rfl | ⟨links, link, rfl⟩
  · rw [List.flatMap_nil, List.append_nil]
    exact Or.inl hs
  · have hends : link.EndsBefore rest := h.2 link (by simp)
    rw [List.concat_eq_append, List.flatMap_append, List.flatMap_singleton, ← List.append_assoc]
    cases link with
    | name id => exact Or.inr hends.1
    | method id arguments =>
      have hmethod : Closed ('.' :: id.text ++ enclosed '(' ')' arguments.1) :=
        closed_append_of_ne_nil (List.cons_ne_nil _ _) (closed_enclosed _ (by decide) _)
      exact Or.inl (closed_append_of_ne_nil (List.cons_ne_nil _ _) hmethod)
    | index content =>
      exact Or.inl (closed_append_of_ne_nil (List.cons_ne_nil _ _) (closed_enclosed _ (by decide) _))

theorem Form.boundary (h : form.EndsBefore rest) : Boundary (before ++ form.text) rest := by
  cases form with
  | literal parts =>
    exact Or.inl (closed_append_of_ne_nil (List.cons_ne_nil _ _) (closed_enclosed _ (by decide) _))
  | keyword form =>
    cases hvalue : form.value with
    | true => exact Or.inr (h.1 hvalue)
    | false =>
      have hsuffixes : valueSuffix form.value = [] := by rw [hvalue]; rfl
      rw [Form.text, KeywordForm.text, hsuffixes, List.append_nil, ← List.append_assoc]
      refine Or.inl (closed_append_of_ne_nil ?_ (closed_append (closed_subscript _)
        (closed_indexes _)))
      simp [Subscript.text]
  | call form =>
    obtain ⟨front, hfront⟩ := form.exists_concat
    rw [Form.text, hfront, ← List.append_assoc, ← List.append_assoc before]
    exact boundary_links h (closed_concat (by decide))

/-! ## Gaps -/

private theorem barren_nil : Barren before [] after := by
  rintro skipped more heq hmore
  exact absurd (List.append_eq_nil_iff.1 heq.symm).2 hmore

theorem barren_append :
    Barren before (run ++ gap) after ↔
      Barren before run (gap ++ after) ∧ Barren (before ++ run) gap after := by
  constructor
  · refine fun h => ⟨fun skipped more heq hmore => ?_, fun skipped more heq hmore => ?_⟩
    · rw [← List.append_assoc]
      exact h skipped (more ++ gap) (by simp [heq]) (by simp [hmore])
    · rw [List.append_assoc]
      exact h (run ++ skipped) more (by simp [heq]) hmore
  · rintro ⟨hrun, hgap⟩ skipped more heq hmore
    rcases List.append_eq_append_iff.1 heq with ⟨between, rfl, rfl⟩ | ⟨between, rfl, rfl⟩
    · rw [← List.append_assoc]
      exact hgap between more rfl hmore
    · cases between with
      | nil => simpa using hgap [] gap rfl (by simpa using hmore)
      | cons c between =>
        rw [List.append_assoc]
        exact hrun skipped (c :: between) rfl (by simp)

/-! ## Passing over a text -/

private theorem form?_eq_none (h : ∀ form : Form, ¬ form.text <+: s) : form? s = none := by
  by_contra hsome
  obtain ⟨⟨token, rest⟩, hread⟩ := Option.ne_none_iff_exists'.1 hsome
  obtain ⟨form, rfl, -⟩ := exists_form_of_form? hread
  exact h form (List.prefix_append _ _)

/-- What a scan passes over at once is the whole of a word or one other character. -/
theorem exists_skipped (c : Char) (s : List Char) :
    ∃ run, s = run ++ skipOne (c :: s) ∧ Boundary (c :: run) (skipOne (c :: s)) ∧
      ∀ d ∈ run, isWordChar c = true ∧ isWordChar d = true := by
  rw [skipOne]
  split
  · next hword =>
    exact ⟨wordRun s, (wordRun_append_afterWordRun s).symm, Or.inr (Text.stops_dropWhile _ _),
      fun d hd => ⟨hword, List.mem_takeWhile_imp hd⟩⟩
  · next hword =>
    exact ⟨[], rfl, boundary_concat (s := []) (by simpa using hword), by simp⟩

theorem isWordChar_of_mem_run {d : Char}
    (hrun : ∀ d ∈ run, isWordChar c = true ∧ isWordChar d = true) (hne : run ≠ [])
    (hd : d ∈ c :: run) : isWordChar d = true := by
  rcases List.mem_cons.1 hd with rfl | hd
  · exact (hrun _ (List.head_mem hne)).1
  · exact (hrun d hd).2

private theorem barren_skipped (hrun : ∀ d ∈ run, isWordChar c = true ∧ isWordChar d = true)
    (hnone : form? (c :: (run ++ after)) = none) : Barren before (c :: run) after := by
  rintro skipped more heq hmore hbegins form hform
  cases skipped with
  | nil =>
    rw [List.nil_append] at heq
    subst heq
    exact form?_ne_none hform hnone
  | cons b skipped =>
    obtain ⟨rfl, rfl⟩ := List.cons.inj heq
    obtain ⟨d, more, rfl⟩ := List.exists_cons_of_ne_nil hmore
    have hword : ∀ e ∈ c :: (skipped ++ d :: more), isWordChar e = true := fun e he =>
      isWordChar_of_mem_run hrun (by simp) he
    exact not_mayBegin (s := c :: skipped) (fun e he => hword e (List.mem_append_left _ he))
      (List.cons_ne_nil _ _) (hword d (by simp)) hbegins

private theorem form?_barren (hbarren : Barren before (c :: gap) after)
    (hboundary : Boundary before (c :: (gap ++ after))) : form? (c :: (gap ++ after)) = none := by
  apply form?_eq_none
  intro form hform
  have hbegins : MayBegin before (c :: (gap ++ after)) := by
    obtain ⟨more, hmore⟩ := hform
    rw [← hmore] at hboundary ⊢
    exact Form.mayBegin hboundary
  exact hbarren [] (c :: gap) rfl (List.cons_ne_nil _ _) (by simpa using hbegins) form hform

/-- What a scan passes over at once in a gap does not reach into the form behind it. -/
theorem exists_skipped_gap (hafter : after = [] ∨ MayBegin (before ++ c :: gap) after) :
    ∃ run left, gap = run ++ left ∧ skipOne (c :: (gap ++ after)) = left ++ after ∧
      Boundary (c :: run) (left ++ after) := by
  obtain ⟨run, hrun, hskipped, hword⟩ := exists_skipped c (gap ++ after)
  rcases List.append_eq_append_iff.1 hrun with ⟨beyond, rfl, hbeyond⟩ | ⟨left, rfl, hleft⟩
  · cases beyond with
    | nil =>
      rw [List.append_nil] at hskipped
      exact ⟨gap, [], (List.append_nil gap).symm, hbeyond.symm, hbeyond ▸ hskipped⟩
    | cons d beyond =>
      -- The word would go on where the next form begins.
      have hends : ∀ e ∈ c :: gap, isWordChar e = true := fun e he =>
        isWordChar_of_mem_run hword (by simp) (by simp at he ⊢; tauto)
      rw [hbeyond, List.cons_append] at hafter
      exact absurd (hafter.resolve_left (List.cons_ne_nil _ _))
        (not_mayBegin hends (List.cons_ne_nil _ _) (hword d (by simp)).2)
  · rw [hleft] at hskipped
    exact ⟨run, left, rfl, hleft, hskipped⟩

private theorem scanForms_barren (hbarren : Barren before gap after)
    (hboundary : Boundary before (gap ++ after))
    (hafter : after = [] ∨ MayBegin (before ++ gap) after) :
    scanForms (gap ++ after) = scanForms after := by
  -- The induction is on the length of the gap, of which a word goes at once.
  induction hlength : gap.length using Nat.strongRecOn generalizing before gap with
  | ind length ih =>
    cases gap with
    | nil => rfl
    | cons c gap =>
      obtain ⟨run, left, rfl, hskip, hskipped⟩ := exists_skipped_gap hafter
      have hbehind : Barren (before ++ c :: run) left after := (barren_append.1 hbarren).2
      have hshorter : left.length < length := by
        rw [← hlength]
        simp only [List.length_cons, List.length_append]
        omega
      rw [List.cons_append, scanForms_of_none (form?_barren hbarren hboundary), hskip]
      refine ih left.length hshorter hbehind (hskipped.append_left (List.cons_ne_nil _ _)) ?_ rfl
      simpa using hafter

/-! ## The leftmost forms -/

def Scanned.ofCuts (cuts : List Cut) : Scanned :=
  { tokens := cuts.map fun cut => cut.form.token, matched := !cuts.isEmpty }

theorem Leftmost.skip (hrun : Barren before run s) (h : Leftmost (before ++ run) s cuts) :
    ∃ cuts', Leftmost before (run ++ s) cuts' ∧ Scanned.ofCuts cuts' = Scanned.ofCuts cuts := by
  generalize hstart : before ++ run = start at h
  cases h with
  | last hgap =>
    subst hstart
    refine ⟨[], .last ?_, rfl⟩
    exact barren_append.2 ⟨by simpa using hrun, hgap⟩
  | @cut _ gap rest form cuts hgap hbegins hends hmore =>
    subst hstart
    refine ⟨⟨run ++ gap, form⟩ :: cuts, ?_, rfl⟩
    rw [← List.append_assoc]
    refine .cut (barren_append.2 ⟨hrun, hgap⟩) ?_ hends ?_
    · rw [← List.append_assoc]
      exact hbegins
    · rw [← List.append_assoc before]
      exact hmore

private theorem exists_leftmost (h : Boundary before s) :
    ∃ cuts, Leftmost before s cuts ∧ scanForms s = Scanned.ofCuts cuts := by
  -- Each step of the scan adds a form with an empty gap, or makes the next gap longer.
  fun_induction scanForms s generalizing before with
  | case1 => exact ⟨[], .last barren_nil, rfl⟩
  | case2 c rest token after hread _ ih =>
    obtain ⟨form, htext, rfl, hends⟩ := exists_form_of_form? hread
    have hbehind : Boundary (before ++ form.text) after := Form.boundary hends
    obtain ⟨cuts, hcuts, hfound⟩ := ih hbehind
    refine ⟨⟨[], form⟩ :: cuts, ?_, by rw [hfound]; rfl⟩
    rw [htext] at h ⊢
    rw [← List.nil_append (form.text ++ after)]
    refine .cut barren_nil ?_ hends ?_
    · rw [List.append_nil]
      exact Form.mayBegin h
    · rw [List.append_nil]
      exact hcuts
  | case3 c rest hnone _ ih =>
    obtain ⟨run, hrun, hskipped, hword⟩ := exists_skipped c rest
    have hbehind : Boundary (before ++ c :: run) (skipOne (c :: rest)) :=
      hskipped.append_left (List.cons_ne_nil _ _)
    obtain ⟨cuts, hcuts, hfound⟩ := ih hbehind
    rw [hrun] at hnone
    obtain ⟨cuts', hcuts', hsame⟩ := Leftmost.skip (barren_skipped hword hnone) hcuts
    refine ⟨cuts', ?_, by rw [hfound, hsame]⟩
    rwa [List.cons_append, ← hrun] at hcuts'

theorem Leftmost.scanForms_eq (h : Leftmost before s cuts) (hboundary : Boundary before s) :
    scanForms s = Scanned.ofCuts cuts := by
  induction h with
  | @last before gap hgap =>
    have hpassed := scanForms_barren hgap (by simpa using hboundary) (Or.inl rfl)
    rw [List.append_nil] at hpassed
    rw [hpassed, scanForms]
    rfl
  | @cut before gap rest form cuts hgap hbegins hends hmore ih =>
    rw [scanForms_barren hgap hboundary (Or.inr hbegins),
      scanForms_of_form? (form?_form form hends), ih (Form.boundary hends)]
    rfl

/-- On every template, what a scan finds is the tokens of the leftmost forms of what is left of
it when its function definitions are cut out, and whether there is any such form. -/
theorem scanned_iff_leftmost (template : String) (scanned : Scanned) :
    Scanned.of template = scanned ↔
      ∃ cuts, Leftmost [] (withoutDefinitions template.toList) cuts ∧
        scanned.tokens = cuts.map (fun cut => cut.form.token) ∧
          (scanned.matched = true ↔ 0 < cuts.length) := by
  have hboundary : Boundary [] (withoutDefinitions template.toList) :=
    Or.inl (by simp [Closed])
  rw [Scanned.of]
  constructor
  · rintro rfl
    obtain ⟨cuts, hcuts, hfound⟩ := exists_leftmost hboundary
    refine ⟨cuts, hcuts, ?_⟩
    rw [hfound]
    exact ⟨rfl, by cases cuts <;> simp [Scanned.ofCuts]⟩
  · rintro ⟨cuts, hcuts, htokens, hmatched⟩
    have hsame : (Scanned.ofCuts cuts).matched = scanned.matched := by
      rw [Bool.eq_iff_iff, hmatched]
      cases cuts <;> simp [Scanned.ofCuts]
    rw [hcuts.scanForms_eq hboundary]
    obtain ⟨tokens, matched⟩ := scanned
    exact congrArg₂ Scanned.mk htokens.symm hsame

end LogDigest.Template
