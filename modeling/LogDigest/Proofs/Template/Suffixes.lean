import LogDigest.Proofs.Template.Forms
import LogDigest.Proofs.Template.Units

/-!
# Suffixes of references

The suffixes that a reader passes over are those next to each other that are spelled at the start
of a text: indexes, `.value` and the links of a chain.  No further suffix stands behind them.
-/

namespace LogDigest.Template

open Text (Stops stops_nil stops_cons stops_append)

variable {c mark : Char} {s rest word before after : List Char}

/-! ## Words and marks -/

theorem exists_name_of_word? (h : word? s = some (word, after)) :
    ∃ name : Name, name.text = word ∧ s = name.text ++ after ∧ Stops isWordChar after := by
  cases s with
  | nil => cases h
  | cons c s =>
    rw [word?] at h
    split at h
    · next hstart =>
      have hword : isWordChar c = true := isWordChar_of_isWordStart hstart
      obtain ⟨rfl, rfl⟩ := Prod.mk.inj (Option.some.inj h)
      refine ⟨⟨c, wordRun s, hstart, fun d hd => List.mem_takeWhile_imp hd⟩, ?_, ?_, ?_⟩
      · simp only [Name.text, wordRun, List.takeWhile_cons, hword, if_true]
      · simp only [Name.text, afterWordRun, List.dropWhile_cons, hword, if_true,
          List.cons_append, List.cons.injEq, true_and]
        exact (wordRun_append_afterWordRun s).symm
      · exact Text.stops_dropWhile _ _
    · cases h

/-- A text that starts with an identifier starts with a word, however far that goes. -/
theorem word?_ne_none (name : Name) : word? (name.text ++ rest) ≠ none := by
  rw [Name.text, List.cons_append, word?, if_pos name.isWordStart_first]
  exact Option.some_ne_none _

theorem not_mem_of_splitAt? (h : splitAt? mark s = some (before, after)) :
    ∀ c ∈ before, c ≠ mark := by
  rw [splitAt?] at h
  split at h
  · cases h
  · obtain ⟨rfl, -⟩ := Prod.mk.inj (Option.some.inj h)
    exact fun c hc => bne_iff_ne.1 (List.mem_takeWhile_imp (p := (· != mark)) hc)

theorem splitAt?_without (content : Without mark) :
    splitAt? mark (content.1 ++ mark :: rest) = some (content.1, rest) :=
  splitAt?_append content.2

theorem exists_without_of_splitAt? (h : splitAt? mark s = some (before, after)) :
    ∃ content : Without mark, s = content.1 ++ mark :: after :=
  ⟨⟨before, not_mem_of_splitAt? h⟩, (append_of_splitAt? h).symm⟩

theorem enclosed_append (opening closing : Char) (content : List Char) :
    enclosed opening closing content ++ rest = opening :: (content ++ closing :: rest) := by
  simp [enclosed]

theorem not_startsWith_enclosed (h : splitAt? mark s = none) (content : Without mark) :
    ¬ enclosed c mark content.1 <+: c :: s := by
  rintro ⟨more, hmore⟩
  rw [enclosed_append] at hmore
  rw [← (List.cons.inj hmore).2, splitAt?_without] at h
  cases h

theorem exists_blanks (s : List Char) : ∃ blanks : Blanks, s = blanks.1 ++ skipBlank s :=
  ⟨⟨s.takeWhile Text.isBlank, fun _ hc => List.mem_takeWhile_imp hc⟩,
    List.takeWhile_append_dropWhile.symm⟩

theorem stops_blanks (blanks : Blanks) (h : Stops isWordChar rest) :
    Stops isWordChar (blanks.1 ++ rest) :=
  stops_append (fun c hc => isWordChar_of_isBlank (blanks.2 c (List.mem_of_mem_head? hc))) h

/-! ## Indexes -/

private theorem dropIndexes_cons (h : splitAt? ']' s = some (word, after)) :
    dropIndexes ('[' :: s) = dropIndexes after := by
  rw [dropIndexes]
  split
  · next heq =>
    cases h.symm.trans heq
    rfl
  · next heq => cases h.symm.trans heq

private theorem dropIndexes_eq_self (h : NoIndex rest) : dropIndexes rest = rest := by
  fun_cases dropIndexes rest with
  | case1 rest before after hsplit =>
    obtain ⟨content, rfl⟩ := exists_without_of_splitAt? hsplit
    exact absurd ⟨_, enclosed_append _ _ _⟩ (h content)
  | case2 => rfl
  | case3 => rfl

theorem dropIndexes_indexes (indexes : List (Without ']')) (h : NoIndex rest) :
    dropIndexes (indexes.flatMap indexText ++ rest) = rest := by
  induction indexes with
  | nil => exact dropIndexes_eq_self h
  | cons content indexes ih =>
    rw [List.flatMap_cons, List.append_assoc, indexText, enclosed_append,
      dropIndexes_cons (splitAt?_without content), ih]

theorem exists_indexes (s : List Char) :
    ∃ indexes : List (Without ']'), s = indexes.flatMap indexText ++ dropIndexes s ∧
      NoIndex (dropIndexes s) := by
  fun_induction dropIndexes s with
  | case1 rest before after hsplit _ ih =>
    obtain ⟨indexes, heq, hend⟩ := ih
    obtain ⟨content, rfl⟩ := exists_without_of_splitAt? hsplit
    refine ⟨content :: indexes, ?_, hend⟩
    rw [List.flatMap_cons, List.append_assoc, ← heq, indexText, enclosed_append]
  | case2 rest hsplit => exact ⟨[], rfl, not_startsWith_enclosed hsplit⟩
  | case3 s hs =>
    refine ⟨[], rfl, ?_⟩
    rintro content ⟨more, hmore⟩
    rw [indexText, enclosed_append] at hmore
    exact hs _ hmore.symm

/-! ## The suffix `.value` -/

theorem dropValue_suffix (h : Stops isWordChar rest) :
    dropValue (valueSuffix true ++ rest) = rest := by
  cases rest with
  | nil => rfl
  | cons c rest =>
    change dropValue ('.' :: 'v' :: 'a' :: 'l' :: 'u' :: 'e' :: c :: rest) = c :: rest
    rw [dropValue.eq_1, if_neg (by simp [h c rfl])]

theorem dropValue_eq_self (h : NoValue rest) : dropValue rest = rest := by
  fun_cases dropValue rest with
  | case1 => rfl
  | case2 c more hword => exact absurd rfl (h _ (stops_cons (by simpa using hword)))
  | case3 => exact absurd rfl (h _ stops_nil)
  | case4 => rfl

theorem dropValue_value {value : Bool} (hword : value = true → Stops isWordChar rest)
    (hdot : value = false → NoValue rest) : dropValue (valueSuffix value ++ rest) = rest := by
  cases value with
  | false => exact dropValue_eq_self (hdot rfl)
  | true => exact dropValue_suffix (hword rfl)

theorem exists_value (s : List Char) :
    ∃ value, s = valueSuffix value ++ dropValue s ∧
      (value = true → Stops isWordChar (dropValue s)) ∧
        (value = false → NoValue (dropValue s)) := by
  by_cases h : NoValue s
  · exact ⟨false, (dropValue_eq_self h).symm, by simp, fun _ => (dropValue_eq_self h).symm ▸ h⟩
  · simp only [NoValue, not_forall, not_not] at h
    obtain ⟨more, hstops, rfl⟩ := h
    rw [dropValue_suffix hstops]
    exact ⟨true, rfl, fun _ => hstops, by simp⟩

/-! ## Chains of links -/

private theorem dropMembers_dot (h : word? s = some (word, after)) :
    dropMembers ('.' :: s) = dropMembers (dropArguments after) := by
  rw [dropMembers]
  split
  · next heq => cases h.symm.trans heq
  · next heq =>
    cases h.symm.trans heq
    rfl

private theorem dropMembers_bracket (h : splitAt? ']' s = some (word, after)) :
    dropMembers ('[' :: s) = dropMembers after := by
  rw [dropMembers]
  split
  · next heq =>
    cases h.symm.trans heq
    rfl
  · next heq => cases h.symm.trans heq

private theorem dropArguments_eq_self
    (h : ∀ arguments : Without ')', ¬ enclosed '(' ')' arguments.1 <+: rest) :
    dropArguments rest = rest := by
  fun_cases dropArguments rest with
  | case1 rest before after hsplit =>
    obtain ⟨arguments, rfl⟩ := exists_without_of_splitAt? hsplit
    exact absurd ⟨_, enclosed_append _ _ _⟩ (h arguments)
  | case2 => rfl
  | case3 => rfl

private theorem dropMembers_link (link : Link) (h : link.EndsBefore rest) :
    dropMembers (link.text ++ rest) = dropMembers rest := by
  cases link with
  | name id =>
    rw [Link.text, List.cons_append, dropMembers_dot (word?_append id h.1),
      dropArguments_eq_self h.2]
  | method id arguments =>
    rw [Link.text, List.cons_append, List.append_assoc, enclosed_append,
      dropMembers_dot (word?_append id (stops_cons (by decide))), dropArguments.eq_1,
      splitAt?_without arguments]
  | index content =>
    rw [Link.text, indexText, enclosed_append, dropMembers_bracket (splitAt?_without content)]

theorem Link.endsBefore_text (link next : Link) : link.EndsBefore (next.text ++ rest) := by
  cases link with
  | name id =>
    cases next with
    | name | method | index =>
      exact ⟨stops_cons (by decide), fun _ ⟨_, heq⟩ => by cases heq⟩
  | method | index => trivial

private theorem dropMembers_eq_self (h : ∀ link : Link, ¬ link.text <+: rest) :
    dropMembers rest = rest := by
  fun_cases dropMembers rest with
  | case1 => rfl
  | case2 rest word after hword =>
    obtain ⟨name, -, rfl, -⟩ := exists_name_of_word? hword
    exact absurd ⟨after, by simp [Link.text]⟩ (h (.name name))
  | case3 rest before after hsplit =>
    obtain ⟨content, rfl⟩ := exists_without_of_splitAt? hsplit
    exact absurd ⟨_, enclosed_append _ _ _⟩ (h (.index content))
  | case4 => rfl
  | case5 => rfl

theorem dropMembers_links (links : List Link) (h : ChainEnds links rest) :
    dropMembers (links.flatMap Link.text ++ rest) = rest := by
  induction links with
  | nil => exact dropMembers_eq_self h.1
  | cons link links ih =>
    rw [List.flatMap_cons, List.append_assoc]
    cases links with
    | nil =>
      rw [List.flatMap_nil, List.nil_append, dropMembers_link link (h.2 link rfl),
        dropMembers_eq_self h.1]
    | cons next links =>
      have hlink : link.EndsBefore ((next :: links).flatMap Link.text ++ rest) := by
        rw [List.flatMap_cons, List.append_assoc]
        exact link.endsBefore_text next
      rw [dropMembers_link link hlink, ih h]

private theorem exists_link_of_word? (h : word? s = some (word, after)) :
    ∃ link : Link, '.' :: s = link.text ++ dropArguments after ∧
      link.EndsBefore (dropArguments after) := by
  obtain ⟨name, -, rfl, hstops⟩ := exists_name_of_word? h
  fun_cases dropArguments after with
  | case1 rest before after hsplit =>
    obtain ⟨arguments, rfl⟩ := exists_without_of_splitAt? hsplit
    exact ⟨.method name arguments, by simp [Link.text, enclosed], trivial⟩
  | case2 rest hsplit =>
    exact ⟨.name name, rfl, hstops, not_startsWith_enclosed hsplit⟩
  | case3 s hs =>
    refine ⟨.name name, rfl, hstops, ?_⟩
    rintro arguments ⟨more, hmore⟩
    rw [enclosed_append] at hmore
    exact hs _ hmore.symm

private theorem chainEnds_cons {link : Link} {links : List Link}
    (hlink : link.EndsBefore (links.flatMap Link.text ++ rest)) (h : ChainEnds links rest) :
    ChainEnds (link :: links) rest := by
  refine ⟨h.1, ?_⟩
  cases links with
  | nil =>
    rintro _ ⟨⟩
    exact hlink
  | cons next links => exact h.2

/-- Whether a link is ahead shows in its mark and in what is read behind that. -/
theorem startsWith_link_cases {link : Link} (h : link.text <+: s) :
    (∃ behind, s = '.' :: behind ∧ word? behind ≠ none) ∨
      ∃ behind, s = '[' :: behind ∧ splitAt? ']' behind ≠ none := by
  obtain ⟨more, rfl⟩ := h
  cases link with
  | name id => exact Or.inl ⟨_, rfl, word?_ne_none id⟩
  | method id arguments =>
    rw [Link.text, List.cons_append, List.append_assoc]
    exact Or.inl ⟨_, rfl, word?_ne_none id⟩
  | index content =>
    rw [Link.text, indexText, enclosed_append]
    exact Or.inr ⟨_, rfl, by simp [splitAt?_without content]⟩

private theorem chainEnds_nil (hdot : ∀ behind, rest = '.' :: behind → word? behind = none)
    (hbracket : ∀ behind, rest = '[' :: behind → splitAt? ']' behind = none) :
    ChainEnds [] rest := by
  refine ⟨fun link hlink => ?_, by simp⟩
  obtain ⟨behind, heq, hword⟩ | ⟨behind, heq, hsplit⟩ := startsWith_link_cases hlink
  · exact hword (hdot behind heq)
  · exact hsplit (hbracket behind heq)

theorem exists_links (s : List Char) :
    ∃ links : List Link, s = links.flatMap Link.text ++ dropMembers s ∧
      ChainEnds links (dropMembers s) := by
  fun_induction dropMembers s with
  | case1 rest hword =>
    refine ⟨[], rfl, chainEnds_nil ?_ (by simp)⟩
    rintro _ ⟨⟩
    exact hword
  | case2 rest word after hword _ _ ih =>
    obtain ⟨links, heq, hend⟩ := ih
    obtain ⟨link, hlink, hends⟩ := exists_link_of_word? hword
    rw [heq] at hends
    refine ⟨link :: links, ?_, chainEnds_cons hends hend⟩
    rw [List.flatMap_cons, List.append_assoc, ← heq, hlink]
  | case3 rest before after hsplit _ ih =>
    obtain ⟨links, heq, hend⟩ := ih
    obtain ⟨content, rfl⟩ := exists_without_of_splitAt? hsplit
    refine ⟨.index content :: links, ?_, chainEnds_cons trivial hend⟩
    rw [List.flatMap_cons, List.append_assoc, ← heq, Link.text, indexText, enclosed_append]
  | case4 rest hsplit =>
    refine ⟨[], rfl, chainEnds_nil (by simp) ?_⟩
    rintro _ ⟨⟩
    exact hsplit
  | case5 s hdot hbracket =>
    exact ⟨[], rfl, chainEnds_nil (fun behind heq => (hdot behind heq).elim)
      fun behind heq => (hbracket behind heq).elim⟩

end LogDigest.Template
