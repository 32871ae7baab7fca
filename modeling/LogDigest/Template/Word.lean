import LogDigest.Text.Basic

/-!
# Words and quoted runs

The lexical units below operands and definitions: identifiers, the text up to a given
character, and quoted runs.
-/

namespace LogDigest.Template

def isWordStart (c : Char) : Bool :=
  c.isAlpha || c == '_' || c == '$'

def isWordChar (c : Char) : Bool :=
  c.isAlphanum || c == '_' || c == '$'

def isQuote (c : Char) : Bool :=
  c == '\'' || c == '"' || c == '`'

abbrev skipBlank (s : List Char) : List Char :=
  Text.trimStart s

def wordRun (s : List Char) : List Char :=
  s.takeWhile isWordChar

def afterWordRun (s : List Char) : List Char :=
  s.dropWhile isWordChar

def word? (s : List Char) : Option (List Char × List Char) :=
  match s with
  | [] => none
  | c :: _ => if isWordStart c then some (wordRun s, afterWordRun s) else none

def splitAt? (mark : Char) (s : List Char) : Option (List Char × List Char) :=
  match s.dropWhile (· != mark) with
  | [] => none
  | _ :: after => some (s.takeWhile (· != mark), after)

/-- Splits a quoted run off the text that follows its opening quote.  A backslash takes the next
character along; a run that is never closed is none. -/
def quotedRun? (quote : Char) : List Char → Option (List Char × List Char)
  | [] => none
  | '\\' :: c :: rest =>
    (quotedRun? quote rest).map fun (run, after) => ('\\' :: c :: run, after)
  | c :: rest =>
    if c = quote then some ([c], rest)
    else (quotedRun? quote rest).map fun (run, after) => (c :: run, after)

theorem wordRun_append_afterWordRun (s : List Char) : wordRun s ++ afterWordRun s = s :=
  List.takeWhile_append_dropWhile

theorem isWordChar_of_isWordStart {c : Char} (h : isWordStart c = true) :
    isWordChar c = true := by
  simp only [isWordStart, isWordChar, Char.isAlphanum, Bool.or_eq_true] at h ⊢
  rcases h with (h | h) | h
  · exact Or.inl (Or.inl (Or.inl h))
  · exact Or.inl (Or.inr h)
  · exact Or.inr h

theorem length_afterWordRun_le (s : List Char) : (afterWordRun s).length ≤ s.length :=
  (List.dropWhile_sublist isWordChar).length_le

theorem length_afterWordRun_lt {c : Char} {s : List Char} (h : isWordChar c = true) :
    (afterWordRun (c :: s)).length < (c :: s).length := by
  simp only [afterWordRun, List.dropWhile_cons, h, if_true, List.length_cons]
  exact Nat.lt_succ_of_le (List.dropWhile_sublist isWordChar).length_le

theorem append_of_word? {s word rest : List Char} (h : word? s = some (word, rest)) :
    word ++ rest = s := by
  unfold word? at h
  split at h
  · cases h
  · split at h
    · cases h
      exact wordRun_append_afterWordRun _
    · cases h

theorem length_of_word? {s word rest : List Char} (h : word? s = some (word, rest)) :
    rest.length < s.length := by
  unfold word? at h
  split at h
  · cases h
  · split at h
    · next hstart =>
      cases h
      exact length_afterWordRun_lt (isWordChar_of_isWordStart hstart)
    · cases h

theorem append_of_splitAt? {mark : Char} {s before after : List Char}
    (h : splitAt? mark s = some (before, after)) : before ++ mark :: after = s := by
  unfold splitAt? at h
  split at h
  · cases h
  · next c tail heq =>
    cases h
    have hc : c = mark := by
      have := List.head?_dropWhile_not (· != mark) s
      simpa [heq] using this
    have := List.takeWhile_append_dropWhile (p := (· != mark)) (l := s)
    rw [heq, hc] at this
    exact this

theorem length_of_splitAt? {mark : Char} {s before after : List Char}
    (h : splitAt? mark s = some (before, after)) : after.length < s.length := by
  rw [← append_of_splitAt? h]
  simp only [List.length_append, List.length_cons]
  omega

private theorem append_of_quotedRun? {quote : Char} {s run after : List Char}
    (h : quotedRun? quote s = some (run, after)) : run ++ after = s := by
  fun_induction quotedRun? quote s generalizing run after with
  | case1 => cases h
  | case2 c rest ih =>
    obtain ⟨⟨r, a⟩, hr, heq⟩ := Option.map_eq_some_iff.1 h
    cases heq
    simp [ih hr]
  | case3 => cases h; rfl
  | case4 c rest _ _ ih =>
    obtain ⟨⟨r, a⟩, hr, heq⟩ := Option.map_eq_some_iff.1 h
    cases heq
    simp [ih hr]

theorem length_of_quotedRun? {quote : Char} {s run after : List Char}
    (h : quotedRun? quote s = some (run, after)) : after.length ≤ s.length := by
  rw [← append_of_quotedRun? h]
  simp

end LogDigest.Template
