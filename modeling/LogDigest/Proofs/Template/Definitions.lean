import LogDigest.Proofs.Template.Bodies

/-!
# Definitions and what is left without them

A function definition has a head, parameters up to the first closing parenthesis, and a body.  The
walk that cuts definitions out steps over one definition, word, quoted run or other character at a
time: every definition at which it arrives is cut out, and nothing else is.
-/

namespace LogDigest.Template

open Text (Stops stops_cons)

variable {c : Char} {s rest : List Char}

/-! ## Definitions -/

/-- Two identifiers with blanks between them, up to the opening parenthesis. -/
structure Head where
  type : Name
  gap : Blanks
  gap_ne_nil : gap.1 ≠ []
  name : Name
  before : Blanks

def Head.text (head : Head) : List Char :=
  head.type.text ++ (head.gap.1 ++ (head.name.text ++ (head.before.1 ++ ['('])))

/-- A function definition.  Its parameters end at the first closing parenthesis. -/
structure Definition where
  head : Head
  parameters : Without ')'
  between : Blanks
  body : Body

namespace Definition

def text (definition : Definition) : List Char :=
  definition.head.text ++
    (definition.parameters.1 ++ ')' :: (definition.between.1 ++ definition.body.text))

/-- The quoted runs of a definition are what they are before the rest of the text. -/
def StandsBefore (definition : Definition) (rest : List Char) : Prop :=
  Stand definition.body.units rest

end Definition

private theorem isBlank_of_isWordStart (h : isWordStart c = true) : Text.isBlank c = false := by
  cases hblank : Text.isBlank c with
  | false => rfl
  | true =>
    have hword := isWordChar_of_isBlank hblank
    rw [isWordChar_of_isWordStart h] at hword
    cases hword

theorem afterDefinition?_head (head : Head) (inside : List Char) :
    afterDefinition? (head.text ++ inside) = afterSignature? ('(' :: inside) := by
  obtain ⟨type, ⟨gap, hgap⟩, hne, name, before⟩ := head
  obtain ⟨blank, gap, rfl⟩ := List.exists_cons_of_ne_nil hne
  have hblank : Text.isBlank blank = true := hgap blank (by simp)
  have hskip : skipBlank (gap ++ (name.text ++ (before.1 ++ '(' :: inside))) =
      name.text ++ (before.1 ++ '(' :: inside) := by
    apply Text.dropWhile_append_of_all (fun c hc => hgap c (by simp [hc]))
    exact stops_cons (isBlank_of_isWordStart name.isWordStart_first)
  have hopen : skipBlank (before.1 ++ '(' :: inside) = '(' :: inside :=
    skipBlank_append before (stops_cons rfl)
  simp only [Head.text, List.append_assoc, List.cons_append, List.nil_append]
  rw [afterDefinition?, word?_append type (stops_cons (isWordChar_of_isBlank hblank))]
  dsimp only
  rw [if_pos hblank, hskip, word?_append name (stops_blanks before (stops_cons rfl))]
  dsimp only
  rw [afterSignature?, hopen, afterSignature?]
  rfl

private theorem exists_head_of_afterDefinition? (h : afterDefinition? s = some rest) :
    ∃ (head : Head) (inside : List Char), s = head.text ++ inside ∧
      afterSignature? ('(' :: inside) = some rest := by
  unfold afterDefinition? at h
  split at h
  · next word blank tail hword =>
    split at h
    · next hblank =>
      split at h
      · next word' behind hword' =>
        obtain ⟨type, rfl, rfl, -⟩ := exists_name_of_word? hword
        obtain ⟨name, rfl, hname, -⟩ := exists_name_of_word? hword'
        obtain ⟨gap, hgap⟩ := exists_blanks tail
        obtain ⟨before, hbefore⟩ := exists_blanks behind
        have hskip : skipBlank (skipBlank behind) = skipBlank behind :=
          Text.dropWhile_eq_self (Text.stops_dropWhile _ _)
        unfold afterSignature? at h
        split at h
        · next inside hinside =>
          refine ⟨⟨type, ⟨blank :: gap.1, ?_⟩, List.cons_ne_nil _ _, name, before⟩, inside, ?_, ?_⟩
          · exact List.forall_mem_cons.2 ⟨hblank, gap.2⟩
          · rw [hinside] at hbefore
            rw [hname, hbefore] at hgap
            simp only [Head.text, List.append_assoc, List.cons_append, List.nil_append, ← hgap]
          · rw [afterSignature?]
            exact h
        · cases h
      · cases h
    · cases h
  · cases h

theorem skipBlank_paren (s : List Char) : skipBlank ('(' :: s) = '(' :: s :=
  Text.dropWhile_eq_self (stops_cons rfl)

theorem afterSignature?_body (parameters : Without ')') (between : Blanks) :
    afterSignature? ('(' :: (parameters.1 ++ ')' :: (between.1 ++ '{' :: s))) =
      afterBody? 0 s := by
  have hbody : skipBlank (between.1 ++ '{' :: s) = '{' :: s :=
    skipBlank_append between (stops_cons rfl)
  simp only [afterSignature?, skipBlank_paren, splitAt?_without parameters, hbody]

theorem exists_signature_of_afterSignature? (h : afterSignature? ('(' :: s) = some rest) :
    ∃ (parameters : Without ')') (between : Blanks) (body : List Char),
      s = parameters.1 ++ ')' :: (between.1 ++ '{' :: body) ∧ afterBody? 0 body = some rest := by
  rw [afterSignature?, skipBlank_paren] at h
  split at h
  · next inside hinside =>
    obtain ⟨-, rfl⟩ := List.cons.inj hinside
    split at h
    · next parameters after hsplit =>
      split at h
      · next body hbody =>
        obtain ⟨parameters, rfl⟩ := exists_without_of_splitAt? hsplit
        obtain ⟨between, hbetween⟩ := exists_blanks after
        rw [hbody] at hbetween
        exact ⟨parameters, between, body, by rw [hbetween], h⟩
      · cases h
    · cases h
  · cases h

theorem afterDefinition?_eq_some_iff :
    afterDefinition? s = some rest ↔
      ∃ definition : Definition, s = definition.text ++ rest ∧ definition.StandsBefore rest := by
  constructor
  · intro h
    obtain ⟨head, inside, rfl, hsignature⟩ := exists_head_of_afterDefinition? h
    obtain ⟨parameters, between, more, rfl, hread⟩ :=
      exists_signature_of_afterSignature? hsignature
    obtain ⟨body, htext, hstand⟩ := afterBody?_eq_some_iff.1 hread
    refine ⟨⟨head, parameters, between, body⟩, ?_, hstand⟩
    rw [htext]
    simp only [Definition.text, List.append_assoc, List.cons_append]
  · rintro ⟨⟨head, parameters, between, body⟩, rfl, hstand⟩
    obtain ⟨more, hbody⟩ := List.head?_eq_some_iff.1 body.head?_units
    have htext : body.text ++ rest = '{' :: (unitsText more ++ rest) := by
      simp [Body.text, hbody, unitsText, BodyUnit.text]
    have hread : afterBody? 0 (unitsText more ++ rest) = some rest :=
      afterBody?_eq_some_iff.2 ⟨body, htext.symm, hstand⟩
    simp only [Definition.text, List.append_assoc, List.cons_append]
    rw [afterDefinition?_head, htext, afterSignature?_body, hread]

/-! ## Heads without a definition -/

/-- What follows a head is no definition: its parameters are never closed, no brace follows them,
or the body is never closed, every beginning of the whole rest of the text leaving braces open. -/
inductive Incomplete : List Char → Prop where
  | parameters {inside : List Char} (unclosed : ')' ∉ inside) : Incomplete inside
  | bodyless (parameters : Without ')') (between : Blanks) {rest : List Char}
      (stops : Stops Text.isBlank rest) (brace : rest.head? ≠ some '{') :
      Incomplete (parameters.1 ++ ')' :: (between.1 ++ rest))
  | body (parameters : Without ')') (between : Blanks) (units : List BodyUnit)
      (stand : Stand (.char '{' :: units) [])
      (deeper : ∀ front, front <+: .char '{' :: units → front ≠ [] →
        closings front < openings front) :
      Incomplete (parameters.1 ++ ')' :: (between.1 ++ unitsText (.char '{' :: units)))

private theorem afterSignature?_of_incomplete (h : Incomplete s) :
    afterSignature? ('(' :: s) = none := by
  by_contra hsome
  obtain ⟨rest, hread⟩ := Option.ne_none_iff_exists'.1 hsome
  cases h with
  | parameters unclosed =>
    obtain ⟨parameters, between, body, rfl, -⟩ := exists_signature_of_afterSignature? hread
    exact unclosed (by simp)
  | bodyless parameters between stops brace =>
    rw [afterSignature?, skipBlank_paren] at hread
    simp only [splitAt?_without parameters, skipBlank_append between stops] at hread
    split at hread
    · exact brace rfl
    · cases hread
  | body parameters between units stand deeper =>
    have hnone : afterBody? 0 (unitsText units) = none :=
      afterBody?_eq_none_iff.2 ⟨units, rfl, stand.2, deeper_iff.1 deeper⟩
    rw [unitsText_cons, BodyUnit.text, List.singleton_append, afterSignature?_body, hnone] at hread
    cases hread

private theorem incomplete_of_afterSignature? (h : afterSignature? ('(' :: s) = none) :
    Incomplete s := by
  cases hsplit : splitAt? ')' s with
  | none =>
    refine .parameters fun hmem => ?_
    obtain ⟨parameters, after, rfl, hparameters⟩ := List.eq_append_cons_of_mem hmem
    have hwithout : ∀ c ∈ parameters, c ≠ ')' := by
      rintro _ hc rfl
      exact hparameters hc
    rw [splitAt?_append hwithout] at hsplit
    cases hsplit
  | some found =>
    obtain ⟨parameters, rfl⟩ := exists_without_of_splitAt? hsplit
    obtain ⟨between, hbetween⟩ := exists_blanks found.2
    rw [hbetween] at h ⊢
    have hstops : Stops Text.isBlank (skipBlank found.2) := Text.stops_dropWhile _ _
    by_cases hbrace : (skipBlank found.2).head? = some '{'
    · obtain ⟨body, hbody⟩ := List.head?_eq_some_iff.1 hbrace
      rw [hbody] at h ⊢
      rw [afterSignature?_body, afterBody?_eq_none_iff] at h
      obtain ⟨units, rfl, hstand, hstay⟩ := h
      exact .body parameters between units ⟨alone_of_isQuote rfl, hstand⟩ (deeper_iff.2 hstay)
    · exact .bodyless parameters between hstops hbrace

/-! ## The walk over a template -/

/-- A text starts with a whole definition. -/
def BeginsDefinition (s : List Char) : Prop :=
  ∃ (definition : Definition) (rest : List Char), s = definition.text ++ rest ∧
    definition.StandsBefore rest

/-- A walk over a text, as the pieces that it steps over. -/
inductive Walk : List Char → List Piece → Prop where
  | done : Walk [] []
  | definition (definition : Definition) {rest : List Char} {pieces : List Piece}
      (stands : definition.StandsBefore rest) (more : Walk rest pieces) :
      Walk (definition.text ++ rest) (.definition definition.text :: pieces)
  | word (name : Name) {rest : List Char} {pieces : List Piece} (ends : Stops isWordChar rest)
      (plain : ¬ BeginsDefinition (name.text ++ rest)) (more : Walk rest pieces) :
      Walk (name.text ++ rest) (.kept name.text :: pieces)
  | quoted (run : Run) {rest : List Char} {pieces : List Piece} (more : Walk rest pieces) :
      Walk (run.text ++ rest) (.kept run.text :: pieces)
  | char {c : Char} {rest : List Char} {pieces : List Piece} (outside : isWordStart c = false)
      (alone : Alone c rest) (more : Walk rest pieces) : Walk (c :: rest) (.kept [c] :: pieces)

theorem afterDefinition?_eq_none_iff : afterDefinition? s = none ↔ ¬ BeginsDefinition s := by
  rw [Option.eq_none_iff_forall_ne_some, BeginsDefinition]
  constructor
  · rintro h ⟨definition, rest, hs, hstands⟩
    exact h rest (afterDefinition?_eq_some_iff.2 ⟨definition, hs, hstands⟩)
  · intro h rest hread
    obtain ⟨definition, hs, hstands⟩ := afterDefinition?_eq_some_iff.1 hread
    exact h ⟨definition, rest, hs, hstands⟩

theorem take_append_length (front rest : List Char) :
    (front ++ rest).take ((front ++ rest).length - rest.length) = front := by
  simp

theorem walk_pieces (s : List Char) : Walk s (pieces s) := by
  fun_induction pieces s with
  | case1 => exact .done
  | case2 c s hstart after hread _ ih =>
    obtain ⟨definition, htext, hstands⟩ := afterDefinition?_eq_some_iff.1 hread
    rw [htext, take_append_length]
    exact .definition definition hstands ih
  | case3 c s hstart hread _ ih =>
    have hword : word? (c :: s) = some (wordRun (c :: s), afterWordRun (c :: s)) := by
      rw [word?, if_pos hstart]
    obtain ⟨name, hname, hsplit, hends⟩ := exists_name_of_word? hword
    rw [afterDefinition?_eq_none_iff] at hread
    rw [hsplit] at hread
    conv => lhs; rw [hsplit]
    rw [← hname]
    exact .word name hends hread ih
  | case4 c s hstart hquote run after hrun _ ih =>
    obtain ⟨parts, rfl, rfl⟩ := exists_runParts_of_quotedRun? hrun
    have hwalk := Walk.quoted ⟨c, hquote, parts⟩ ih
    rwa [Run.text, enclosed_append] at hwalk
  | case5 c s hstart hquote hrun ih =>
    exact .char (by simpa using hstart) (alone_of_quotedRun? hrun) ih
  | case6 c s hstart hquote ih =>
    exact .char (by simpa using hstart) (alone_of_isQuote (by simpa using hquote)) ih

theorem Name.exists_cons (name : Name) (rest : List Char) :
    ∃ c tail, name.text ++ rest = c :: tail ∧ isWordStart c = true :=
  ⟨name.first, name.rest ++ rest, rfl, name.isWordStart_first⟩

theorem pieces_definition (definition : Definition) (h : definition.StandsBefore rest) :
    pieces (definition.text ++ rest) = .definition definition.text :: pieces rest := by
  have hread : afterDefinition? (definition.text ++ rest) = some rest :=
    afterDefinition?_eq_some_iff.2 ⟨definition, rfl, h⟩
  have htake := take_append_length definition.text rest
  obtain ⟨c, tail, htext, hstart⟩ : ∃ c tail, definition.text ++ rest = c :: tail ∧
      isWordStart c = true := by
    simp only [Definition.text, Head.text, List.append_assoc]
    exact definition.head.type.exists_cons _
  rw [htext] at hread htake ⊢
  rw [pieces, dif_pos hstart]
  split
  · next after hafter =>
    rw [hread] at hafter
    cases hafter
    rw [htake]
  · next hnone =>
    rw [hread] at hnone
    cases hnone

theorem pieces_word (name : Name) (hends : Stops isWordChar rest)
    (hplain : ¬ BeginsDefinition (name.text ++ rest)) :
    pieces (name.text ++ rest) = .kept name.text :: pieces rest := by
  have hnone := afterDefinition?_eq_none_iff.2 hplain
  have hall : ∀ c ∈ name.text, isWordChar c = true := fun c hc => isWordChar_of_mem_text hc
  have hrun : wordRun (name.text ++ rest) = name.text := Text.takeWhile_append_of_all hall hends
  have hafter : afterWordRun (name.text ++ rest) = rest :=
    Text.dropWhile_append_of_all hall hends
  obtain ⟨c, tail, htext, hstart⟩ := name.exists_cons rest
  rw [htext] at hnone hrun hafter ⊢
  rw [pieces, dif_pos hstart]
  split
  · next hsome =>
    rw [hnone] at hsome
    cases hsome
  · simp only [hrun, hafter]

/-- The head of a definition is followed by the rest of one, or by what is no definition. -/
theorem incomplete_iff (head : Head) : Incomplete s ↔ ¬ BeginsDefinition (head.text ++ s) := by
  rw [← afterDefinition?_eq_none_iff, afterDefinition?_head]
  exact ⟨afterSignature?_of_incomplete, incomplete_of_afterSignature?⟩

private theorem pieces_head (head : Head) (h : Incomplete s) :
    ∃ rest, pieces (head.text ++ s) = .kept head.type.text :: pieces rest := by
  have hplain := (incomplete_iff head).1 h
  simp only [Head.text, List.append_assoc, List.cons_append, List.nil_append] at hplain ⊢
  refine ⟨_, pieces_word head.type ?_ hplain⟩
  intro c hc
  rw [List.head?_append_of_ne_nil _ head.gap_ne_nil] at hc
  exact isWordChar_of_isBlank (head.gap.2 c (List.mem_of_mem_head? hc))

theorem pieces_quoted (run : Run) :
    pieces (run.text ++ rest) = .kept run.text :: pieces rest := by
  have hstart : ¬ isWordStart run.quote = true := by
    rw [isWordStart_of_isWordChar (isWordChar_of_isQuote run.isQuote_quote)]
    exact Bool.false_ne_true
  rw [Run.text, enclosed_append, pieces, dif_neg hstart, if_pos run.isQuote_quote]
  split
  · next hsome =>
    rw [quotedRun?_run] at hsome
    cases hsome
    rfl
  · next hnone =>
    rw [quotedRun?_run] at hnone
    cases hnone

theorem pieces_char (hstart : isWordStart c = false) (halone : Alone c rest) :
    pieces (c :: rest) = .kept [c] :: pieces rest := by
  rw [pieces, dif_neg (by simp [hstart])]
  split
  · next hquote =>
    split
    · next hsome =>
      rw [quotedRun?_eq_none hquote halone] at hsome
      cases hsome
    · rfl
  · rfl

/-- There is one walk over a text, and its pieces are those that the text is divided into. -/
theorem walk_iff {walked : List Piece} : Walk s walked ↔ pieces s = walked := by
  constructor
  · intro h
    induction h with
    | done => rw [pieces]
    | definition definition stands _ ih => rw [pieces_definition definition stands, ih]
    | word name ends plain _ ih => rw [pieces_word name ends plain, ih]
    | quoted run _ ih => rw [pieces_quoted run, ih]
    | char outside alone _ ih => rw [pieces_char outside alone, ih]
  · rintro rfl
    exact walk_pieces s

theorem Walk.flatMap_text {walked : List Piece} (h : Walk s walked) :
    walked.flatMap Piece.text = s := by
  induction h with
  | done => rfl
  | definition _ _ _ ih | word _ _ _ _ ih | quoted _ _ ih | char _ _ _ ih =>
    rw [List.flatMap_cons, ih]
    rfl

/-- From every place where it arrives, a walk goes on as a walk over the rest. -/
theorem Walk.of_append {before after : List Piece} (h : Walk s (before ++ after)) :
    Walk (after.flatMap Piece.text) after := by
  induction before generalizing s with
  | nil =>
    rw [List.nil_append] at h
    rwa [h.flatMap_text]
  | cons piece before ih =>
    cases h with
    | definition _ _ more | word _ _ _ more | quoted _ more | char _ _ more => exact ih more

/-- Wherever the walk has come to this text, the piece is the next one that it steps over. -/
def StepsOver (walked : List Piece) (s : List Char) (piece : Piece) : Prop :=
  ∀ before after : List Piece, walked = before ++ after → after.flatMap Piece.text = s →
    ∃ more, after = piece :: more

theorem Walk.stepsOver {template : List Char} {walked more : List Piece} {piece : Piece}
    (h : Walk template walked) (hpieces : pieces s = piece :: more) : StepsOver walked s piece := by
  rintro before after rfl rfl
  have hafter := walk_iff.1 h.of_append
  exact ⟨more, hafter.symm.trans hpieces⟩

/-- Cutting takes a template apart in exactly one walk and leaves out the definitions in it.  Every
definition that the walk comes to is one of them.  A head that no complete definition begins with
stays, and so does a quoted run of the template, with whatever is written in it. -/
theorem withoutDefinitions_walk (template : List Char) :
    ∃ walked : List Piece,
      (∀ other, Walk template other ↔ other = walked) ∧
      walked.flatMap Piece.text = template ∧
      walked.flatMap Piece.remains = withoutDefinitions template ∧
      (∀ (definition : Definition) (rest : List Char), definition.StandsBefore rest →
        StepsOver walked (definition.text ++ rest) (.definition definition.text)) ∧
      (∀ (head : Head) (inside : List Char),
        (Incomplete inside ↔ ¬ BeginsDefinition (head.text ++ inside)) ∧
        (Incomplete inside → StepsOver walked (head.text ++ inside) (.kept head.type.text))) ∧
      ∀ (run : Run) (rest : List Char), StepsOver walked (run.text ++ rest) (.kept run.text) := by
  have hwalk := walk_pieces template
  refine ⟨pieces template, fun other => walk_iff.trans eq_comm, hwalk.flatMap_text, rfl,
    fun definition rest hstands => ?_, fun head inside => ⟨incomplete_iff head, fun h => ?_⟩,
    fun run rest => ?_⟩
  · exact hwalk.stepsOver (pieces_definition definition hstands)
  · obtain ⟨rest, hpieces⟩ := pieces_head head h
    exact hwalk.stepsOver hpieces
  · exact hwalk.stepsOver (pieces_quoted run)

/-- The brace in quotes does not close the body, and the definition in quotes stays. -/
theorem withoutDefinitions_walk_quotedBrace :
    ∃ (definition : Definition) (more : List Piece),
      definition.text = "int f() \x7b '\x7d' \x7d".toList ∧
      Walk "int f() \x7b '\x7d' \x7d'int g() \x7b\x7d'".toList
        (.definition definition.text :: more) ∧
      StepsOver (.definition definition.text :: more) "'int g() \x7b\x7d'".toList
        (.kept "'int g() \x7b\x7d'".toList) := by
  obtain ⟨walked, hwalk, htext, -, hdefinition, -, hquoted⟩ :=
    withoutDefinitions_walk "int f() \x7b '\x7d' \x7d'int g() \x7b\x7d'".toList
  have hread : afterDefinition? "int f() \x7b '\x7d' \x7d'int g() \x7b\x7d'".toList =
      some "'int g() \x7b\x7d'".toList := by decide +kernel
  have hquote : quotedRun? '\'' "int g() \x7b\x7d'".toList =
      some ("int g() \x7b\x7d'".toList, []) := by decide +kernel
  obtain ⟨definition, hs, hstands⟩ := afterDefinition?_eq_some_iff.1 hread
  obtain ⟨parts, hparts, -⟩ := exists_runParts_of_quotedRun? hquote
  obtain ⟨more, rfl⟩ := hdefinition definition _ hstands [] walked rfl (htext.trans hs)
  refine ⟨definition, more, ?_, (hwalk _).2 rfl, ?_⟩
  · have hsplit : "int f() \x7b '\x7d' \x7d'int g() \x7b\x7d'".toList =
        "int f() \x7b '\x7d' \x7d".toList ++ "'int g() \x7b\x7d'".toList := rfl
    exact List.append_cancel_right (hs.symm.trans hsplit)
  · have hrun : (⟨'\'', rfl, parts⟩ : Run).text = "'int g() \x7b\x7d'".toList := by
      rw [Run.text, enclosed, ← hparts]
      rfl
    have hstep := hquoted ⟨'\'', rfl, parts⟩ []
    rwa [hrun, List.append_nil] at hstep

end LogDigest.Template
