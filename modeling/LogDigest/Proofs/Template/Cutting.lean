import LogDigest.Proofs.Template.Definitions

/-!
# Cutting leaves operands alone

Function definitions are cut out of a template before it is scanned.  Nothing is cut out of an
operand, whatever words, quotes and braces it holds, and nothing between two operands either:
there the head of a definition would need two words with only blanks between them and a
parenthesis after the second.
-/

namespace LogDigest.Template

open Text (Stops stops_nil stops_cons stops_append stops_dropWhile)

variable {c quote : Char} {s rest : List Char}

/-! ## Where no definition begins -/

/-- A text does not begin with a character that the head of a definition could go on with. -/
def Bars (s : List Char) : Prop :=
  ∀ c ∈ s.head?, isWordChar c = false ∧ Text.isBlank c = false ∧ c ≠ '('

theorem bars_cons (hword : isWordChar c = false) (hblank : Text.isBlank c = false)
    (hparen : c ≠ '(') : Bars (c :: rest) := by
  intro d hd
  cases hd
  exact ⟨hword, hblank, hparen⟩

theorem Bars.stops_isWordChar (h : Bars s) : Stops isWordChar s :=
  fun c hc => (h c hc).1

theorem Bars.stops_isBlank (h : Bars s) : Stops Text.isBlank s :=
  fun c hc => (h c hc).2.1

private theorem word?_append_of_stops (h : Stops isWordChar rest) :
    word? (s ++ rest) = (word? s).map fun (word, after) => (word, after ++ rest) := by
  cases s with
  | nil =>
    cases rest with
    | nil => rfl
    | cons c rest => exact word?_eq_none (isWordStart_of_isWordChar (h c rfl))
  | cons c s =>
    have hrun : wordRun (c :: s ++ rest) = wordRun (c :: s) := Text.takeWhile_append_of_stops h
    have hafter : afterWordRun (c :: s ++ rest) = afterWordRun (c :: s) ++ rest :=
      Text.dropWhile_append_of_stops h
    change (if isWordStart c then
      some (wordRun (c :: s ++ rest), afterWordRun (c :: s ++ rest)) else none) =
        (if isWordStart c then some (wordRun (c :: s), afterWordRun (c :: s)) else none).map _
    rw [hrun, hafter]
    split <;> rfl

private theorem afterSignature?_append (hs : '(' ∉ s) (h : Bars rest) :
    afterSignature? (s ++ rest) = none := by
  have hskip : skipBlank (s ++ rest) = skipBlank s ++ rest :=
    Text.dropWhile_append_of_stops h.stops_isBlank
  rw [afterSignature?, hskip]
  split
  · next inside heq =>
    exfalso
    cases hfront : skipBlank s with
    | nil =>
      rw [hfront, List.nil_append] at heq
      exact (h '(' (by rw [heq]; rfl)).2.2 rfl
    | cons d front =>
      rw [hfront, List.cons_append] at heq
      have hmem : d ∈ skipBlank s := by simp [hfront]
      rw [(List.cons.inj heq).1] at hmem
      exact hs ((List.dropWhile_sublist _).subset hmem)
  · rfl

/-- No definition begins in a text without parentheses, if it ends where a definition stops. -/
theorem afterDefinition?_append (hs : '(' ∉ s) (h : Bars rest) :
    afterDefinition? (s ++ rest) = none := by
  rw [afterDefinition?, word?_append_of_stops h.stops_isWordChar]
  cases hword : word? s with
  | none => rfl
  | some found =>
    obtain ⟨word, after⟩ := found
    have hafter : '(' ∉ after := by
      intro hmem
      apply hs
      rw [← append_of_word? hword]
      exact List.mem_append_right word hmem
    rw [Option.map_some]
    cases after with
    | nil =>
      cases rest with
      | nil => rfl
      | cons c rest =>
        simp only [List.nil_append]
        rw [if_neg (by simp [(h c rfl).2.1])]
    | cons d after =>
      have hskip : skipBlank (after ++ rest) = skipBlank after ++ rest :=
        Text.dropWhile_append_of_stops h.stops_isBlank
      simp only [List.cons_append]
      split
      · rw [hskip, word?_append_of_stops h.stops_isWordChar]
        cases hsecond : word? (skipBlank after) with
        | none => rfl
        | some found =>
          obtain ⟨second, more⟩ := found
          rw [Option.map_some]
          apply afterSignature?_append _ h
          intro hmem
          have hskipped : '(' ∈ skipBlank after := by
            rw [← append_of_word? hsecond]
            exact List.mem_append_right second hmem
          exact hafter (List.mem_cons_of_mem d ((List.dropWhile_sublist _).subset hskipped))
      · rfl

/-- A word before this text ends there and heads no definition. -/
def Free (rest : List Char) : Prop :=
  Stops isWordChar rest ∧ ∀ name : Name, afterDefinition? (name.text ++ rest) = none

theorem free_blanks (blanks : Blanks) (hword : Stops isWordChar rest)
    (hblank : Stops Text.isBlank rest) : Free (blanks.1 ++ rest) := by
  have hstops : Stops isWordChar (blanks.1 ++ rest) := by
    refine stops_append ?_ hword
    intro c hc
    exact isWordChar_of_isBlank (blanks.2 c (List.mem_of_mem_head? hc))
  refine ⟨hstops, fun name => ?_⟩
  rw [afterDefinition?, word?_append name hstops]
  obtain ⟨blanks, hblanks⟩ := blanks
  cases blanks with
  | nil =>
    cases rest with
    | nil => rfl
    | cons c rest =>
      simp only [List.nil_append]
      rw [if_neg (by simp [hblank c rfl])]
  | cons b blanks =>
    have hskip : skipBlank (blanks ++ rest) = rest :=
      Text.dropWhile_append_of_all (fun c hc => hblanks c (by simp [hc])) hblank
    simp only [List.cons_append]
    rw [if_pos (hblanks b (by simp)), hskip]
    cases rest with
    | nil => rfl
    | cons c rest => rw [word?_eq_none (isWordStart_of_isWordChar (hword c rfl))]

private theorem free_of_stops (hword : Stops isWordChar rest) (hblank : Stops Text.isBlank rest) :
    Free rest :=
  free_blanks ⟨[], by simp⟩ hword hblank

theorem free_cons (hword : isWordChar c = false) (hblank : Text.isBlank c = false) :
    Free (c :: rest) :=
  free_of_stops (stops_cons hword) (stops_cons hblank)

theorem free_append (hword : Stops isWordChar (s ++ rest)) (hs : '(' ∉ s) (h : Bars rest) :
    Free (s ++ rest) := by
  refine ⟨hword, fun name => ?_⟩
  rw [← List.append_assoc]
  apply afterDefinition?_append _ h
  rw [List.mem_append, not_or]
  refine ⟨fun hmem => ?_, hs⟩
  exact absurd (isWordChar_of_mem_text hmem) (by decide)

/-! ## Units that are kept -/

theorem withoutDefinitions_nil : withoutDefinitions [] = [] := by
  rw [withoutDefinitions, pieces]
  rfl

theorem withoutDefinitions_char (hstart : isWordStart c = false) (hquote : isQuote c = false) :
    withoutDefinitions (c :: rest) = c :: withoutDefinitions rest := by
  rw [withoutDefinitions, pieces_char hstart (alone_of_isQuote hquote)]
  rfl

theorem withoutDefinitions_quoted {run after : List Char} (hquote : isQuote quote = true)
    (h : quotedRun? quote s = some (run, after)) :
    withoutDefinitions (quote :: s) = quote :: (run ++ withoutDefinitions after) := by
  obtain ⟨parts, rfl, rfl⟩ := exists_runParts_of_quotedRun? h
  have hpieces := @pieces_quoted after ⟨quote, hquote, parts⟩
  rw [Run.text, enclosed_append] at hpieces
  rw [withoutDefinitions, hpieces]
  rfl

theorem withoutDefinitions_name (name : Name) (h : Free rest) :
    withoutDefinitions (name.text ++ rest) = name.text ++ withoutDefinitions rest := by
  rw [withoutDefinitions, pieces_word name h.1 (afterDefinition?_eq_none_iff.1 (h.2 name))]
  rfl

theorem withoutDefinitions_chars (hs : ∀ c ∈ s, isWordStart c = false ∧ isQuote c = false) :
    withoutDefinitions (s ++ rest) = s ++ withoutDefinitions rest := by
  induction s with
  | nil => rfl
  | cons c s ih =>
    obtain ⟨hstart, hquote⟩ := hs c (by simp)
    rw [List.cons_append, withoutDefinitions_char hstart hquote, List.cons_append,
      ih fun d hd => hs d (by simp [hd])]

theorem withoutDefinitions_blanks (blanks : Blanks) :
    withoutDefinitions (blanks.1 ++ rest) = blanks.1 ++ withoutDefinitions rest := by
  apply withoutDefinitions_chars
  intro c hc
  have hblank := blanks.2 c hc
  exact ⟨isWordStart_of_isWordChar (isWordChar_of_isBlank hblank), isQuote_of_isBlank hblank⟩

theorem withoutDefinitions_plain (hs : ∀ c ∈ s, IsPlain c) (h : Bars rest) :
    withoutDefinitions (s ++ rest) = s ++ withoutDefinitions rest := by
  -- On the length, since a step takes a whole word at a time.
  induction hlength : s.length using Nat.strongRecOn generalizing s with
  | _ n ih =>
    cases s with
    | nil => rfl
    | cons c s =>
      by_cases hstart : isWordStart c = true
      · let name : Name := ⟨c, s.takeWhile isWordChar, hstart, fun d hd =>
          List.mem_takeWhile_imp hd⟩
        have hsplit : c :: s = name.text ++ s.dropWhile isWordChar := by
          rw [Name.text, List.cons_append, List.takeWhile_append_dropWhile]
        have hsub : ∀ d ∈ s.dropWhile isWordChar, IsPlain d := fun d hd =>
          hs d (List.mem_cons_of_mem c ((List.dropWhile_sublist _).subset hd))
        have hfree : Free (s.dropWhile isWordChar ++ rest) := by
          refine free_append (stops_append (stops_dropWhile _ s) h.stops_isWordChar) ?_ h
          intro hmem
          exact (hsub '(' hmem).2 (by decide)
        have hlt : (s.dropWhile isWordChar).length < n := by
          rw [← hlength]
          exact Nat.lt_succ_of_le (List.dropWhile_sublist _).length_le
        rw [hsplit, List.append_assoc, withoutDefinitions_name name hfree,
          ih _ hlt hsub rfl, List.append_assoc]
      · have hrest := ih s.length (by rw [← hlength]; exact Nat.lt_succ_self _)
          (fun d hd => hs d (by simp [hd])) rfl
        rw [List.cons_append, withoutDefinitions_char (by simpa using hstart)
          (hs c (by simp)).1, hrest, List.cons_append]

/-! ## Operands that are kept -/

theorem withoutDefinitions_keyword (marker : Marker) (h : Free rest) :
    withoutDefinitions (marker.keyword ++ rest) = marker.keyword ++ withoutDefinitions rest := by
  rw [← marker.text_name]
  exact withoutDefinitions_name marker.name h

private theorem withoutDefinitions_value {present : Bool} (h : present = true → Free rest) :
    withoutDefinitions (valueSuffix present ++ rest) =
      valueSuffix present ++ withoutDefinitions rest := by
  cases present with
  | false => rfl
  | true =>
    rw [valueSuffix, if_pos rfl, List.cons_append,
      withoutDefinitions_char (by decide) (by decide),
      withoutDefinitions_name valueName (h rfl), List.cons_append]

private theorem withoutDefinitions_path (quote : PathQuote)
    (path : TextOf fun c => c ≠ quote.char ∧ c ≠ '\\') :
    withoutDefinitions (quote.char :: (path.1 ++ quote.char :: rest)) =
      quote.char :: (path.1 ++ quote.char :: withoutDefinitions rest) := by
  have hquote : isQuote quote.char = true ∧ quote.char ≠ '\\' := by cases quote <;> decide
  rw [withoutDefinitions_quoted hquote.1 (quotedRun?_append hquote.2 path.2), List.append_assoc]
  rfl

private theorem withoutDefinitions_bracket (bracket : Bracket) :
    withoutDefinitions (bracket.text ++ rest) = bracket.text ++ withoutDefinitions rest := by
  simp only [Bracket.text, List.append_assoc, List.cons_append, List.nil_append]
  rw [withoutDefinitions_blanks, withoutDefinitions_char (by decide) (by decide),
    withoutDefinitions_blanks, withoutDefinitions_path, withoutDefinitions_blanks,
    withoutDefinitions_char (by decide) (by decide)]

theorem withoutDefinitions_index (index : Index) :
    withoutDefinitions (index.text ++ rest) = index.text ++ withoutDefinitions rest := by
  cases index with
  | plain text =>
    have hbars : Bars (']' :: rest) := bars_cons (by decide) (by decide) (by decide)
    simp only [Index.text, Index.content, List.append_assoc, List.cons_append, List.nil_append]
    rw [withoutDefinitions_char (by decide) (by decide), withoutDefinitions_plain text.2 hbars,
      withoutDefinitions_char (by decide) (by decide)]
  | quoted quote hquote text =>
    have hslash : quote ≠ '\\' := by
      rintro rfl
      cases hquote
    have hrun : quotedRun? quote (text.1 ++ quote :: ']' :: rest) =
        some (text.1 ++ [quote], ']' :: rest) := by
      apply quotedRun?_append hslash
      intro c hc
      obtain ⟨hnot, hmem⟩ := text.2 c hc
      refine ⟨?_, fun heq => hmem (by simp [heq])⟩
      rintro rfl
      rw [hquote] at hnot
      cases hnot
    simp only [Index.text, Index.content, List.append_assoc, List.cons_append, List.nil_append]
    rw [withoutDefinitions_char (by decide) (by decide), withoutDefinitions_quoted hquote hrun,
      withoutDefinitions_char (by decide) (by decide), List.append_assoc]
    rfl

private theorem withoutDefinitions_indexes (indexes : List Index) :
    withoutDefinitions (indexes.flatMap Index.text ++ rest) =
      indexes.flatMap Index.text ++ withoutDefinitions rest := by
  induction indexes with
  | nil => rfl
  | cons index indexes ih =>
    rw [List.flatMap_cons, List.append_assoc, withoutDefinitions_index, ih, List.append_assoc]

private theorem withoutDefinitions_member (member : Member)
    (h : member.endsInWord = true → Free rest) :
    withoutDefinitions (member.text ++ rest) = member.text ++ withoutDefinitions rest := by
  cases member with
  | name id =>
    rw [Member.text, List.cons_append, withoutDefinitions_char (by decide) (by decide),
      withoutDefinitions_name id (h rfl), List.cons_append]
  | method id arguments =>
    have hbars : Bars (')' :: rest) := bars_cons (by decide) (by decide) (by decide)
    simp only [Member.text, List.append_assoc, List.cons_append, List.nil_append]
    rw [withoutDefinitions_char (by decide) (by decide),
      withoutDefinitions_name id (free_cons (by decide) (by decide)),
      withoutDefinitions_char (by decide) (by decide),
      withoutDefinitions_plain arguments.2 hbars, withoutDefinitions_char (by decide) (by decide)]
  | index text => exact withoutDefinitions_index (.plain text)

private theorem free_member (member : Member) : Free (member.text ++ rest) := by
  cases member with
  | name | method | index => exact free_cons (by decide) (by decide)

private theorem withoutDefinitions_members (members : List Member)
    (h : members.getLast?.any Member.endsInWord = true → Free rest) :
    withoutDefinitions (members.flatMap Member.text ++ rest) =
      members.flatMap Member.text ++ withoutDefinitions rest := by
  induction members with
  | nil => rfl
  | cons member members ih =>
    rw [List.flatMap_cons, List.append_assoc, List.append_assoc]
    cases members with
    | nil => exact withoutDefinitions_member member h
    | cons next members =>
      have hfree : Free ((next :: members).flatMap Member.text ++ rest) := by
        rw [List.flatMap_cons, List.append_assoc]
        exact free_member next
      rw [withoutDefinitions_member member fun _ => hfree, ih]
      intro hlast
      exact h (by rwa [List.getLast?_cons_cons])

private theorem free_bracket (bracket : Bracket) : Free (bracket.text ++ rest) := by
  rw [Bracket.text, List.append_assoc]
  exact free_blanks bracket.before (stops_cons (by decide)) (stops_cons (by decide))

private theorem withoutDefinitions_operand (operand : Operand)
    (h : operand.endsInWord = true → Free rest) :
    withoutDefinitions (operand.text ++ rest) = operand.text ++ withoutDefinitions rest := by
  cases operand with
  | literal parts =>
    rw [Operand.text, List.cons_append, List.append_assoc, List.singleton_append,
      withoutDefinitions_quoted (by decide) (quotedRun?_parts parts), List.cons_append]
  | keyword reference =>
    have hvalue : reference.value = true → Free rest := h
    simp only [Operand.text, KeywordReference.text, List.append_assoc]
    rw [withoutDefinitions_keyword _ (free_bracket _), withoutDefinitions_bracket,
      withoutDefinitions_indexes, withoutDefinitions_value hvalue]
  | call reference =>
    have hclose : Free (reference.closing.1 ++
        ')' :: (reference.members.flatMap Member.text ++ rest)) :=
      free_blanks reference.closing (stops_cons (by decide)) (stops_cons (by decide))
    have hopen : Free (reference.before.1 ++ '(' :: (reference.opening.1 ++
        (Marker.doc.keyword ++ (reference.bracket.text ++ (valueSuffix reference.value ++
          (reference.closing.1 ++ ')' :: (reference.members.flatMap Member.text ++ rest))))))) :=
      free_blanks reference.before (stops_cons (by decide)) (stops_cons (by decide))
    simp only [Operand.text, Call.text, List.append_assoc, List.cons_append]
    rw [withoutDefinitions_name _ hopen, withoutDefinitions_blanks,
      withoutDefinitions_char (by decide) (by decide), withoutDefinitions_blanks,
      withoutDefinitions_keyword _ (free_bracket _), withoutDefinitions_bracket,
      withoutDefinitions_value fun _ => hclose, withoutDefinitions_blanks,
      withoutDefinitions_char (by decide) (by decide), withoutDefinitions_members _ h]

/-! ## Compositions that are kept -/

theorem isWordChar_of_isSeparator (h : IsSeparator c) : isWordChar c = false := by
  rcases h with hblank | hmem
  · exact isWordChar_of_isBlank hblank
  · simp only [List.mem_cons, List.not_mem_nil, or_false] at hmem
    rcases hmem with rfl | rfl | rfl <;> decide

theorem isQuote_of_isSeparator (h : IsSeparator c) : isQuote c = false := by
  rcases h with hblank | hmem
  · exact isQuote_of_isBlank hblank
  · simp only [List.mem_cons, List.not_mem_nil, or_false] at hmem
    rcases hmem with rfl | rfl | rfl <;> decide

theorem withoutDefinitions_gap (gap : Gap) :
    withoutDefinitions (gap.1 ++ rest) = gap.1 ++ withoutDefinitions rest := by
  apply withoutDefinitions_chars
  intro c hc
  have hseparator := gap.2 c hc
  exact ⟨isWordStart_of_isWordChar (isWordChar_of_isSeparator hseparator),
    isQuote_of_isSeparator hseparator⟩

theorem free_gap_of_exists (gap : Gap) (h : ∃ c ∈ gap.1, Text.isBlank c = false) :
    Free (gap.1 ++ rest) := by
  obtain ⟨gap, hgap⟩ := gap
  let blanks : Blanks := ⟨gap.takeWhile Text.isBlank, fun c hc => List.mem_takeWhile_imp hc⟩
  have hsplit : gap = blanks.1 ++ gap.dropWhile Text.isBlank :=
    List.takeWhile_append_dropWhile.symm
  cases hrest : gap.dropWhile Text.isBlank with
  | nil =>
    obtain ⟨c, hc, hblank⟩ := h
    have hall := List.dropWhile_eq_nil_iff.1 hrest c hc
    rw [hblank] at hall
    cases hall
  | cons c more =>
    have hmem : c ∈ gap := (List.dropWhile_sublist Text.isBlank).subset (by simp [hrest])
    have hblank : Text.isBlank c = false :=
      stops_dropWhile Text.isBlank gap c (by rw [hrest]; rfl)
    have hword := isWordChar_of_isSeparator (hgap c hmem)
    rw [hrest] at hsplit
    change Free (gap ++ rest)
    rw [hsplit, List.append_assoc]
    exact free_blanks blanks (stops_cons hword) (stops_cons hblank)

private theorem free_last (gap : Gap) : Free (gap.1 ++ []) := by
  by_cases h : ∃ c ∈ gap.1, Text.isBlank c = false
  · exact free_gap_of_exists gap h
  · have hblank : ∀ c ∈ gap.1, Text.isBlank c = true := by simpa using h
    exact free_blanks ⟨gap.1, hblank⟩ stops_nil stops_nil

/-- After an operand that ends in a word nothing up to the next operand heads a definition. -/
theorem free_parts {left right : Operand} {gap : Gap} (h : Parts left gap right)
    (hleft : left.endsInWord = true) : Free (gap.1 ++ (right.text ++ rest)) := by
  by_cases hmore : ∃ c ∈ gap.1, Text.isBlank c = false
  · exact free_gap_of_exists gap hmore
  · have hblank : ∀ c ∈ gap.1, Text.isBlank c = true := by simpa using hmore
    cases right with
    | literal parts =>
      exact free_blanks ⟨gap.1, hblank⟩ (stops_cons (by decide)) (stops_cons (by decide))
    | call reference => exact absurd (h.2 hleft rfl) hmore
    | keyword reference =>
      -- The keyword is a second word, but a bracket follows where a parenthesis would have to.
      have hbars : ∀ rest : List Char, Bars ('[' :: rest) := fun rest =>
        bars_cons (by decide) (by decide) (by decide)
      have hwords : '(' ∉ gap.1 ++ (reference.marker.keyword ++ reference.bracket.before.1) := by
        simp only [List.mem_append, not_or]
        refine ⟨fun hmem => ?_, ?_, fun hmem => ?_⟩
        · exact absurd (hblank _ hmem) (by decide)
        · cases reference.marker <;> decide
        · exact absurd (reference.bracket.before.2 _ hmem) (by decide)
      have hstops : ∀ rest : List Char, Stops isWordChar (gap.1 ++ rest) := by
        intro rest c hc
        rw [List.head?_append_of_ne_nil _ h.1] at hc
        exact isWordChar_of_isBlank (hblank c (List.mem_of_mem_head? hc))
      have hfree := free_append (by rw [List.append_assoc]; exact hstops _) hwords
        (hbars (reference.bracket.opening.1 ++ reference.bracket.quote.char ::
          (reference.bracket.path.1 ++ reference.bracket.quote.char ::
            (reference.bracket.closing.1 ++ ']' :: (reference.indexes.flatMap Index.text ++
              (valueSuffix reference.value ++ rest))))))
      simpa only [Operand.text, KeywordReference.text, Bracket.text, List.append_assoc,
        List.cons_append, List.nil_append] using hfree

private theorem withoutDefinitions_sequence (operands : List (Operand × Gap))
    (h : operands.IsChain fun left right => Parts left.1 left.2 right.1) :
    withoutDefinitions (sequenceText operands) = sequenceText operands := by
  induction operands with
  | nil => exact withoutDefinitions_nil
  | cons operand operands ih =>
    -- Only an operand that ends in a word could be the type of a definition.
    have hfree : operand.1.endsInWord = true →
        Free (operand.2.1 ++ sequenceText operands) := by
      intro hword
      cases operands with
      | nil => exact free_last operand.2
      | cons next operands =>
        rw [sequenceText_cons]
        exact free_parts (List.isChain_cons_cons.1 h).1 hword
    rw [sequenceText_cons, withoutDefinitions_operand operand.1 hfree, withoutDefinitions_gap,
      ih h.tail]

theorem withoutDefinitions_composition (composition : Composition) :
    withoutDefinitions composition.text = composition.text := by
  rw [Composition.text, withoutDefinitions_gap,
    withoutDefinitions_sequence _ composition.parted]

end LogDigest.Template
