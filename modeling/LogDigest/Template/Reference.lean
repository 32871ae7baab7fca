import LogDigest.Template.Word

/-!
# Tokens and field references

A template is a sequence of literal texts and references to document fields.  A marker says how
a field's value is shown.

A reference is written `doc['path']`, with `doc`, `wrap` or `error` as its keyword and either
quote, or as a call of any word on such a `doc` reference.  Suffixes that add nothing to the
meaning are taken along: further indexes, `.value`, and after a call any chain of members and
indexes.  Paths know no escapes.
-/

namespace LogDigest.Template

/-! ## Tokens -/

inductive Marker where
  | doc
  /-- Shown between square brackets. -/
  | wrap
  | error
  deriving DecidableEq, Repr

namespace Marker

def keyword : Marker → List Char
  | .doc => ['d', 'o', 'c']
  | .wrap => ['w', 'r', 'a', 'p']
  | .error => ['e', 'r', 'r', 'o', 'r']

def ofKeyword? (word : List Char) : Option Marker :=
  [doc, wrap, error].find? fun marker => marker.keyword == word

end Marker

inductive Token where
  | literal (text : String)
  /-- The field of a document that a path names, the path as it was written. -/
  | field (marker : Marker) (path : String)
  deriving DecidableEq, Repr

/-! ## References -/

/-- Reads `['path']` or `["path"]`, blanks allowed around the brackets and inside them. -/
def bracketPath? (s : List Char) : Option (List Char × List Char) :=
  match skipBlank s with
  | '[' :: inside =>
    match skipBlank inside with
    | quote :: body =>
      if quote = '\'' ∨ quote = '"' then
        match splitAt? quote body with
        | some (path, after) =>
          match skipBlank after with
          | ']' :: rest => some (path, rest)
          | _ => none
        | none => none
      else none
    | [] => none
  | _ => none

def dropIndexes (s : List Char) : List Char :=
  match s with
  | '[' :: rest =>
    match h : splitAt? ']' rest with
    | some (_, after) =>
      have := length_of_splitAt? h
      dropIndexes after
    | none => s
  | _ => s
termination_by s.length

/-- Drops the suffix `.value` that a text starts with, unless its word goes on. -/
def dropValue (s : List Char) : List Char :=
  match s with
  | '.' :: 'v' :: 'a' :: 'l' :: 'u' :: 'e' :: rest =>
    match rest with
    | c :: _ => if isWordChar c then s else rest
    | [] => rest
  | _ => s

/-- Drops the arguments `(…)` that a text starts with; an open parenthesis that is never closed
stays. -/
def dropArguments (s : List Char) : List Char :=
  match s with
  | '(' :: rest =>
    match splitAt? ')' rest with
    | some (_, after) => after
    | none => s
  | _ => s

theorem length_dropArguments_le (s : List Char) : (dropArguments s).length ≤ s.length := by
  unfold dropArguments
  split
  · split
    · next hsplit =>
      have := length_of_splitAt? hsplit
      simp only [List.length_cons]
      omega
    · exact Nat.le_refl _
  · exact Nat.le_refl _

/-- Drops the chain of `.name`, `.name(…)` and `[…]` suffixes that a text starts with.  A bracket
that is never closed ends the chain. -/
def dropMembers (s : List Char) : List Char :=
  match s with
  | '.' :: rest =>
    match h : word? rest with
    | none => s
    | some (_, after) =>
      have := length_of_word? h
      have := length_dropArguments_le after
      dropMembers (dropArguments after)
  | '[' :: rest =>
    match h : splitAt? ']' rest with
    | some (_, after) =>
      have := length_of_splitAt? h
      dropMembers after
    | none => s
  | _ => s
termination_by s.length
decreasing_by all_goals simp_all only [List.length_cons]; omega

def callPath? (s : List Char) : Option (List Char × List Char) :=
  match skipBlank s with
  | '(' :: inside =>
    match word? (skipBlank inside) with
    | some (word, after) =>
      if word = Marker.doc.keyword then
        match bracketPath? after with
        | some (path, after) =>
          match skipBlank (dropValue after) with
          | ')' :: rest => some (path, dropMembers rest)
          | _ => none
        | none => none
      else none
    | none => none
  | _ => none

def keywordPath? (marker : Marker) (s : List Char) : Option (List Char × List Char) :=
  match bracketPath? s with
  | some (path, after) =>
    let rest := dropIndexes after
    some (path, if marker = .doc then dropValue rest else rest)
  | none => none

def reference? (s : List Char) : Option ((Marker × List Char) × List Char) :=
  match word? s with
  | none => none
  | some (word, after) =>
    match (Marker.ofKeyword? word).bind fun marker =>
        (keywordPath? marker after).map fun (path, rest) => ((marker, path), rest) with
    | some found => some found
    | none => (callPath? after).map fun (path, rest) => ((.doc, path), rest)

theorem length_skipBlank_le (s : List Char) : (skipBlank s).length ≤ s.length :=
  Text.length_trimStart_le s

theorem length_of_bracketPath? {s path rest : List Char}
    (h : bracketPath? s = some (path, rest)) : rest.length < s.length := by
  unfold bracketPath? at h
  split at h
  · next inside hs =>
    split at h
    · next quote body hinside =>
      split at h
      · split at h
        · next path' after hsplit =>
          split at h
          · next rest' hafter =>
            cases h
            have h1 := length_skipBlank_le s
            have h2 := length_skipBlank_le inside
            have h3 := length_of_splitAt? hsplit
            have h4 := length_skipBlank_le after
            rw [hs] at h1
            rw [hinside] at h2
            rw [hafter] at h4
            simp only [List.length_cons] at h1 h2 h4
            omega
          · cases h
        · cases h
      · cases h
    · cases h
  · cases h

private theorem length_dropIndexes_le (s : List Char) : (dropIndexes s).length ≤ s.length := by
  fun_induction dropIndexes s with
  | case1 rest _ after hsplit hlt ih =>
    simp only [List.length_cons]
    omega
  | case2 => exact Nat.le_refl _
  | case3 => exact Nat.le_refl _

theorem length_dropValue_le (s : List Char) : (dropValue s).length ≤ s.length := by
  unfold dropValue
  split
  · split
    · split
      · exact Nat.le_refl _
      · simp only [List.length_cons]
        omega
    · simp
  · exact Nat.le_refl _

private theorem length_dropMembers_le (s : List Char) : (dropMembers s).length ≤ s.length := by
  fun_induction dropMembers s with
  | case1 => exact Nat.le_refl _
  | case2 rest _ after hword hlt hle ih =>
    simp only [List.length_cons]
    omega
  | case3 rest _ after hsplit hlt ih =>
    simp only [List.length_cons]
    omega
  | case4 => exact Nat.le_refl _
  | case5 => exact Nat.le_refl _

private theorem length_of_callPath? {s path rest : List Char}
    (h : callPath? s = some (path, rest)) : rest.length < s.length := by
  unfold callPath? at h
  split at h
  · next inside hs =>
    split at h
    · next word after hword =>
      split at h
      · split at h
        · next path' after' hpath =>
          split at h
          · next rest' hclose =>
            cases h
            have h1 := length_skipBlank_le s
            have h2 := length_skipBlank_le inside
            have h3 := length_of_word? hword
            have h4 := length_of_bracketPath? hpath
            have h5 := length_skipBlank_le (dropValue after')
            have h6 := length_dropValue_le after'
            have h7 := length_dropMembers_le rest'
            rw [hs] at h1
            rw [hclose] at h5
            simp only [List.length_cons] at h1 h5
            omega
          · cases h
        · cases h
      · cases h
    · cases h
  · cases h

private theorem length_of_keywordPath? {marker : Marker} {s path rest : List Char}
    (h : keywordPath? marker s = some (path, rest)) : rest.length < s.length := by
  unfold keywordPath? at h
  split at h
  · next path' after hpath =>
    have h1 := length_of_bracketPath? hpath
    have h2 := length_dropIndexes_le after
    have h3 := length_dropValue_le (dropIndexes after)
    dsimp only at h
    simp only [Option.some.injEq, Prod.mk.injEq] at h
    obtain ⟨-, rfl⟩ := h
    split <;> omega
  · cases h

theorem length_of_reference? {s rest : List Char} {found : Marker × List Char}
    (h : reference? s = some (found, rest)) : rest.length < s.length := by
  unfold reference? at h
  split at h
  · cases h
  · next word after hword =>
    have hlt := length_of_word? hword
    split at h
    · next found' hfound =>
      obtain ⟨marker, -, hmap⟩ := Option.bind_eq_some_iff.1 hfound
      obtain ⟨⟨path, rest'⟩, hpath, heq⟩ := Option.map_eq_some_iff.1 hmap
      cases h
      cases heq
      have := length_of_keywordPath? hpath
      omega
    · obtain ⟨⟨path, rest'⟩, hpath, heq⟩ := Option.map_eq_some_iff.1 h
      cases heq
      have := length_of_callPath? hpath
      omega

end LogDigest.Template
