import LogDigest.Proofs.Template.Suffixes

/-!
# Forms are what is read

Every reader takes exactly the text that spells a unit of a form, in any text whatsoever: where it
succeeds there is such a unit, with its suffixes, and where a unit is spelled it succeeds.
-/

namespace LogDigest.Template

open Text (Stops stops_cons)

variable {c : Char} {s rest word after path : List Char}

/-! ## Literals -/

private theorem exists_parts_of_literalBody? {text : List Char}
    (h : literalBody? s = some (text, after)) :
    ∃ parts : List LiteralPart, s = parts.flatMap LiteralPart.text ++ '\'' :: after ∧
      text = parts.flatMap LiteralPart.meaning := by
  fun_induction literalBody? s generalizing text after with
  | case1 => cases h
  | case2 rest =>
    cases h
    exact ⟨[], rfl, rfl⟩
  | case3 rest ih | case4 rest ih | case5 rest ih =>
    obtain ⟨⟨text, after⟩, hbody, heq⟩ := Option.map_eq_some_iff.1 h
    cases heq
    obtain ⟨parts, rfl, rfl⟩ := ih hbody
    first
    | exact ⟨.lineFeed :: parts, rfl, rfl⟩
    | exact ⟨.quote :: parts, rfl, rfl⟩
    | exact ⟨.backslash :: parts, rfl, rfl⟩
  | case6 c rest hquote hfeed hescaped hslash ih =>
    obtain ⟨⟨text, after⟩, hbody, heq⟩ := Option.map_eq_some_iff.1 h
    cases heq
    obtain ⟨parts, rfl, rfl⟩ := ih hbody
    by_cases hc : c = '\\'
    · -- The backslash is kept, so no escape begins with it and the next character is plain.
      subst hc
      cases parts with
      | nil => exact absurd rfl (hescaped _ rfl)
      | cons part parts =>
        cases part with
        | plain d ne =>
          have hd : d ≠ 'n' := by
            rintro rfl
            exact hfeed _ rfl rfl
          exact ⟨.kept d ⟨hd, ne⟩ :: parts, rfl, rfl⟩
        | lineFeed | quote | backslash | kept => exact absurd rfl (hslash _ rfl)
    · exact ⟨.plain c ⟨hquote, hc⟩ :: parts, rfl, rfl⟩

/-! ## Paths in brackets -/

theorem bracketPath?_subscript (subscript : Subscript) :
    bracketPath? (subscript.text ++ rest) = some (subscript.path.1, rest) := by
  have hquote : Text.isBlank subscript.quote.char = false ∧
      (subscript.quote.char = '\'' ∨ subscript.quote.char = '"') := by
    cases subscript.quote <;> decide
  have hpath : splitAt? subscript.quote.char (subscript.path.1 ++ subscript.quote.char ::
      (subscript.closing.1 ++ ']' :: rest)) =
        some (subscript.path.1, subscript.closing.1 ++ ']' :: rest) :=
    splitAt?_without subscript.path
  have hclose : skipBlank (subscript.closing.1 ++ ']' :: rest) = ']' :: rest :=
    skipBlank_append _ (stops_cons (by decide))
  simp only [Subscript.text, List.append_assoc, List.cons_append, List.nil_append]
  rw [bracketPath?, skipBlank_append _ (stops_cons (by decide))]
  simp only [skipBlank_append _ (stops_cons hquote.1), if_pos hquote.2, hpath, hclose]

theorem exists_subscript_of_bracketPath? (h : bracketPath? s = some (path, after)) :
    ∃ subscript : Subscript, s = subscript.text ++ after ∧ subscript.path.1 = path := by
  rw [bracketPath?] at h
  split at h
  · next inside hs =>
    split at h
    · next quote body hinside =>
      split at h
      · next hquote =>
        split at h
        · next path' behind hsplit =>
          split at h
          · next rest hbehind =>
            obtain ⟨rfl, rfl⟩ := Prod.mk.inj (Option.some.inj h)
            obtain ⟨mark, rfl⟩ : ∃ mark : PathQuote, mark.char = quote := by
              rcases hquote with rfl | rfl
              exacts [⟨.single, rfl⟩, ⟨.double, rfl⟩]
            obtain ⟨before, hbefore⟩ := exists_blanks s
            obtain ⟨opening, hopening⟩ := exists_blanks inside
            obtain ⟨closing, hclosing⟩ := exists_blanks behind
            refine ⟨⟨before, opening, mark, ⟨path', not_mem_of_splitAt? hsplit⟩, closing⟩, ?_, rfl⟩
            rw [hs] at hbefore
            rw [hinside, ← append_of_splitAt? hsplit] at hopening
            rw [hbehind] at hclosing
            simp only [Subscript.text, hbefore, hopening, hclosing, List.append_assoc,
              List.cons_append, List.nil_append]
          · cases h
        · cases h
      · cases h
    · cases h
  · cases h

private theorem bracketPath?_eq_none (blanks : Blanks) (hblank : Text.isBlank c = false)
    (hbracket : c ≠ '[') : bracketPath? (blanks.1 ++ c :: rest) = none := by
  rw [bracketPath?, skipBlank_append _ (stops_cons hblank)]
  split
  · next heq => exact absurd (List.cons.inj heq).1 hbracket
  · rfl

theorem Subscript.exists_concat (subscript : Subscript) :
    ∃ front, subscript.text = front ++ [']'] :=
  ⟨subscript.before.1 ++ '[' :: (subscript.opening.1 ++ subscript.quote.char ::
    (subscript.path.1 ++ subscript.quote.char :: subscript.closing.1)), by simp [Subscript.text]⟩

theorem stops_subscript (subscript : Subscript) :
    Stops isWordChar (subscript.text ++ rest) := by
  rw [Subscript.text, List.append_assoc]
  exact stops_blanks _ (stops_cons (by decide))

/-! ## References -/

private theorem ofKeyword?_keyword (marker : Marker) :
    Marker.ofKeyword? marker.keyword = some marker := by
  cases marker <;> decide

private theorem keyword_of_ofKeyword? {marker : Marker} (h : Marker.ofKeyword? word = some marker) :
    word = marker.keyword := by
  rw [Marker.ofKeyword?] at h
  have hfound := List.find?_some h
  exact (beq_iff_eq.1 hfound).symm

def dropSuffixes (marker : Marker) (s : List Char) : List Char :=
  if marker = .doc then dropValue (dropIndexes s) else dropIndexes s

private theorem keywordPath?_subscript (marker : Marker) (subscript : Subscript) :
    keywordPath? marker (subscript.text ++ rest) =
      some (subscript.path.1, dropSuffixes marker rest) := by
  rw [keywordPath?, bracketPath?_subscript]
  rfl

theorem reference?_subscript (marker : Marker) (subscript : Subscript) :
    reference? (marker.keyword ++ (subscript.text ++ rest)) =
      some ((marker, subscript.path.1), dropSuffixes marker rest) := by
  rw [reference?, ← Marker.text_name, word?_append _ (stops_subscript subscript)]
  dsimp only
  rw [Marker.text_name, ofKeyword?_keyword, Option.bind_some, keywordPath?_subscript]
  rfl

theorem dropSuffixes_suffixes (form : KeywordForm) (h : form.EndsBefore rest) :
    dropSuffixes form.marker (form.indexes.flatMap indexText ++ (valueSuffix form.value ++ rest)) =
      rest := by
  have hindexes : NoIndex (valueSuffix form.value ++ rest) := by
    cases hvalue : form.value with
    | false => exact (h.2 hvalue).1
    | true =>
      rintro content ⟨more, heq⟩
      cases heq
  rw [dropSuffixes, dropIndexes_indexes _ hindexes]
  split
  · next hdoc => exact dropValue_value h.1 fun hvalue => (h.2 hvalue).2 hdoc
  · next hdoc =>
    have hvalue : form.value = false := by
      rw [← Bool.not_eq_true]
      exact fun hvalue => hdoc (form.marker_eq_doc hvalue)
    rw [hvalue]
    rfl

private theorem exists_suffixes (marker : Marker) (subscript : Subscript) (s : List Char) :
    ∃ form : KeywordForm, form.marker = marker ∧ form.subscript = subscript ∧
      s = form.indexes.flatMap indexText ++ (valueSuffix form.value ++ dropSuffixes marker s) ∧
        form.EndsBefore (dropSuffixes marker s) := by
  obtain ⟨indexes, hindexes, hend⟩ := exists_indexes s
  by_cases hdoc : marker = .doc
  · obtain ⟨value, hvalue, htrue, hfalse⟩ := exists_value (dropIndexes s)
    rw [dropSuffixes, if_pos hdoc]
    refine ⟨⟨marker, subscript, indexes, value, fun _ => hdoc⟩, rfl, rfl, ?_, htrue, ?_⟩
    · rw [← hvalue, ← hindexes]
    · rintro (rfl : value = false)
      have hkept : dropValue (dropIndexes s) = dropIndexes s := hvalue.symm
      exact ⟨hkept.symm ▸ hend, fun _ => hfalse rfl⟩
  · rw [dropSuffixes, if_neg hdoc]
    exact ⟨⟨marker, subscript, indexes, false, by simp⟩, rfl, rfl, hindexes, by simp,
      fun _ => ⟨hend, fun h => absurd h hdoc⟩⟩

private theorem exists_form_of_keywordPath? {marker : Marker}
    (h : keywordPath? marker s = some (path, rest)) :
    ∃ form : KeywordForm, form.marker = marker ∧ form.subscript.path.1 = path ∧
      marker.keyword ++ s = form.text ++ rest ∧ form.EndsBefore rest := by
  rw [keywordPath?] at h
  split at h
  · next path' after hpath =>
    obtain ⟨rfl, rfl⟩ := Prod.mk.inj (Option.some.inj h)
    obtain ⟨subscript, rfl, hsubscript⟩ := exists_subscript_of_bracketPath? hpath
    obtain ⟨form, rfl, rfl, hsuffixes, hends⟩ := exists_suffixes marker subscript after
    refine ⟨form, rfl, hsubscript, ?_, hends⟩
    change _ = form.text ++ dropSuffixes form.marker after
    conv_lhs => rw [hsuffixes]
    simp only [KeywordForm.text, List.append_assoc]
  · cases h

private theorem callPath?_subscript (before opening closing : Blanks) (subscript : Subscript)
    (value : Bool) :
    callPath? (before.1 ++ '(' :: (opening.1 ++ (Marker.doc.keyword ++ (subscript.text ++
      (valueSuffix value ++ (closing.1 ++ ')' :: rest)))))) =
      some (subscript.path.1, dropMembers rest) := by
  have hopen : skipBlank (opening.1 ++ (Marker.doc.keyword ++ (subscript.text ++
      (valueSuffix value ++ (closing.1 ++ ')' :: rest))))) =
      Marker.doc.keyword ++ (subscript.text ++ (valueSuffix value ++ (closing.1 ++ ')' :: rest))) :=
    skipBlank_append opening (stops_cons (by decide))
  have hword : word? (Marker.doc.keyword ++ (subscript.text ++
      (valueSuffix value ++ (closing.1 ++ ')' :: rest)))) =
      some (Marker.doc.keyword,
        subscript.text ++ (valueSuffix value ++ (closing.1 ++ ')' :: rest))) :=
    word?_append Marker.doc.name (stops_subscript subscript)
  have hvalue : dropValue (valueSuffix value ++ (closing.1 ++ ')' :: rest)) =
      closing.1 ++ ')' :: rest := by
    -- No second `.value` can follow: behind the blanks stands the parenthesis.
    refine dropValue_value (fun _ => stops_blanks closing (stops_cons (by decide))) fun _ => ?_
    intro more _ heq
    have hskip := congrArg skipBlank heq
    rw [skipBlank_append closing (stops_cons (by decide))] at hskip
    cases hskip
  have hclose : skipBlank (closing.1 ++ ')' :: rest) = ')' :: rest :=
    skipBlank_append closing (stops_cons (by decide))
  rw [callPath?, skipBlank_append before (stops_cons (by decide))]
  simp only [hopen, hword, if_true, bracketPath?_subscript, hvalue, hclose]

private theorem exists_of_callPath? (h : callPath? s = some (path, rest)) :
    ∃ (before opening closing : Blanks) (subscript : Subscript) (value : Bool)
      (behind : List Char),
      s = before.1 ++ '(' :: (opening.1 ++ (Marker.doc.keyword ++ (subscript.text ++
        (valueSuffix value ++ (closing.1 ++ ')' :: behind))))) ∧
        subscript.path.1 = path ∧ dropMembers behind = rest := by
  rw [callPath?] at h
  split at h
  · next inside hs =>
    split at h
    · next word after hword =>
      split at h
      · next hkeyword =>
        split at h
        · next path' behind hpath =>
          split at h
          · next tail hclose =>
            obtain ⟨rfl, rfl⟩ := Prod.mk.inj (Option.some.inj h)
            obtain ⟨before, hbefore⟩ := exists_blanks s
            obtain ⟨opening, hopening⟩ := exists_blanks inside
            obtain ⟨subscript, rfl, hsubscript⟩ := exists_subscript_of_bracketPath? hpath
            obtain ⟨value, hvalue, -⟩ := exists_value behind
            obtain ⟨closing, hclosing⟩ := exists_blanks (dropValue behind)
            refine ⟨before, opening, closing, subscript, value, tail, ?_, hsubscript, rfl⟩
            rw [hs] at hbefore
            rw [hclose] at hclosing
            rw [← append_of_word? hword, hkeyword] at hopening
            rw [← hclosing, ← hvalue, ← hopening, hbefore]
          · cases h
        · cases h
      · cases h
    · cases h
  · cases h

theorem CallForm.exists_concat (form : CallForm) :
    ∃ front, form.text = front ++ [')'] ++ form.links.flatMap Link.text :=
  ⟨form.name.text ++ (form.before.1 ++ '(' :: (form.opening.1 ++ (Marker.doc.keyword ++
    (form.subscript.text ++ (valueSuffix form.value ++ form.closing.1))))), by
      simp [CallForm.text]⟩

private theorem keywordPath?_call (marker : Marker) (before : Blanks) :
    keywordPath? marker (before.1 ++ '(' :: rest) = none := by
  rw [keywordPath?, bracketPath?_eq_none _ (by decide) (by decide)]

theorem reference?_name (name : Name) (before opening closing : Blanks) (subscript : Subscript)
    (value : Bool) :
    reference? (name.text ++ (before.1 ++ '(' :: (opening.1 ++ (Marker.doc.keyword ++
      (subscript.text ++ (valueSuffix value ++ (closing.1 ++ ')' :: rest))))))) =
      some ((.doc, subscript.path.1), dropMembers rest) := by
  rw [reference?, word?_append name (stops_blanks before (stops_cons (by decide)))]
  simp only [keywordPath?_call, Option.map_none, Option.bind_fun_none]
  rw [callPath?_subscript]
  rfl

/-! ## Forms -/

theorem exists_form_of_reference? {marker : Marker}
    (h : reference? s = some ((marker, path), rest)) :
    ∃ form : Form, s = form.text ++ rest ∧ form.token = .field marker (String.ofList path) ∧
      form.EndsBefore rest := by
  rw [reference?] at h
  split at h
  · cases h
  · next word after hword =>
    split at h
    · next found hfound =>
      obtain ⟨marker', hmarker, hread⟩ := Option.bind_eq_some_iff.1 hfound
      obtain ⟨⟨path', rest'⟩, hpath, heq⟩ := Option.map_eq_some_iff.1 hread
      cases h
      cases heq
      obtain ⟨form, rfl, rfl, htext, hends⟩ := exists_form_of_keywordPath? hpath
      refine ⟨.keyword form, ?_, rfl, hends⟩
      rw [← append_of_word? hword, keyword_of_ofKeyword? hmarker, htext]
      rfl
    · obtain ⟨⟨path', rest'⟩, hcall, heq⟩ := Option.map_eq_some_iff.1 h
      cases heq
      obtain ⟨before, opening, closing, subscript, value, behind, rfl, rfl, rfl⟩ :=
        exists_of_callPath? hcall
      obtain ⟨name, rfl, rfl, -⟩ := exists_name_of_word? hword
      obtain ⟨links, hlinks, hends⟩ := exists_links behind
      refine ⟨.call ⟨name, before, opening, subscript, value, closing, links⟩, ?_, rfl, hends⟩
      simp only [Form.text, CallForm.text, List.append_assoc, List.cons_append]
      rw [← hlinks]

theorem form?_name (name : Name) :
    form? (name.text ++ rest) = (reference? (name.text ++ rest)).map
      fun ((marker, path), after) => (.field marker (String.ofList path), after) := by
  have hfirst : name.first ≠ '\'' := by
    intro heq
    have hstart := name.isWordStart_first
    rw [heq] at hstart
    cases hstart
  rw [Name.text, List.cons_append, form?.eq_2, if_neg hfirst]

theorem form?_literal (parts : List LiteralPart) :
    form? (enclosed '\'' '\'' (parts.flatMap LiteralPart.text) ++ rest) =
      some (.literal (String.ofList (parts.flatMap LiteralPart.meaning)), rest) := by
  rw [enclosed_append, form?.eq_2, if_pos rfl, literalBody?_parts]
  rfl

theorem form?_keyword (form : KeywordForm) :
    form? (form.text ++ rest) = some (.field form.marker (String.ofList form.subscript.path.1),
      dropSuffixes form.marker
        (form.indexes.flatMap indexText ++ (valueSuffix form.value ++ rest))) := by
  simp only [KeywordForm.text, List.append_assoc]
  rw [← Marker.text_name, form?_name, Marker.text_name, reference?_subscript]
  rfl

theorem form?_call (form : CallForm) :
    form? (form.text ++ rest) = some (.field .doc (String.ofList form.subscript.path.1),
      dropMembers (form.links.flatMap Link.text ++ rest)) := by
  simp only [CallForm.text, List.append_assoc, List.cons_append]
  rw [form?_name, reference?_name]
  rfl

/-- A form with all its suffixes is read as it is spelled. -/
theorem form?_form (form : Form) (h : form.EndsBefore rest) :
    form? (form.text ++ rest) = some (form.token, rest) := by
  cases form with
  | literal parts => exact form?_literal parts
  | keyword form =>
    rw [Form.text, form?_keyword, dropSuffixes_suffixes form h]
    rfl
  | call form =>
    rw [Form.text, form?_call, dropMembers_links form.links h]
    rfl

theorem form?_ne_none {form : Form} (h : form.text <+: s) : form? s ≠ none := by
  obtain ⟨rest, rfl⟩ := h
  cases form with
  | literal parts =>
    rw [Form.text, form?_literal]
    exact Option.some_ne_none _
  | keyword form =>
    rw [Form.text, form?_keyword]
    exact Option.some_ne_none _
  | call form =>
    rw [Form.text, form?_call]
    exact Option.some_ne_none _

/-- Where a form is read, one is spelled, with all its suffixes. -/
theorem exists_form_of_form? {token : Token} (h : form? s = some (token, rest)) :
    ∃ form : Form, s = form.text ++ rest ∧ form.token = token ∧ form.EndsBefore rest := by
  cases s with
  | nil => cases h
  | cons c s =>
    rw [form?] at h
    split at h
    · next hquote =>
      obtain ⟨⟨text, after⟩, hbody, heq⟩ := Option.map_eq_some_iff.1 h
      cases heq
      obtain ⟨parts, rfl, rfl⟩ := exists_parts_of_literalBody? hbody
      exact ⟨.literal parts, by rw [Form.text, enclosed_append, hquote], rfl, trivial⟩
    · obtain ⟨⟨⟨marker, path⟩, after⟩, hread, heq⟩ := Option.map_eq_some_iff.1 h
      cases heq
      exact exists_form_of_reference? hread

/-! ## One step of a scan -/

theorem scanForms_of_form? {token : Token} (h : form? s = some (token, after)) :
    scanForms s = (scanForms after).cons token := by
  cases s with
  | nil => cases h
  | cons c s =>
    rw [scanForms]
    split
    · next heq =>
      cases h.symm.trans heq
      rfl
    · next heq => cases h.symm.trans heq

theorem scanForms_of_none (h : form? (c :: s) = none) :
    scanForms (c :: s) = scanForms (skipOne (c :: s)) := by
  rw [scanForms]
  split
  · next heq => cases h.symm.trans heq
  · rfl

end LogDigest.Template
