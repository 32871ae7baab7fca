import LogDigest.Template.Word

/-!
# Function definitions

Templates may carry definitions of helper functions, `Type name(parameters) { body }`, which mean
nothing here and are cut out before the template is read.  A template is divided into pieces from
left to right: definitions, and between them words, quoted runs and single characters.
-/

namespace LogDigest.Template

/-- What follows the closing brace of a body, from inside `inner` braces below it.  Braces in
quoted runs do not count; a quote that is never closed is an ordinary character. -/
def afterBody? (inner : Nat) (s : List Char) : Option (List Char) :=
  match s with
  | [] => none
  | c :: rest =>
    if c = '{' then afterBody? (inner + 1) rest
    else if c = '}' then
      match inner with
      | 0 => some rest
      | outer + 1 => afterBody? outer rest
    else if isQuote c then
      match h : quotedRun? c rest with
      | some (_, after) =>
        have := length_of_quotedRun? h
        afterBody? inner after
      | none => afterBody? inner rest
    else afterBody? inner rest
termination_by s.length
decreasing_by all_goals simp only [List.length_cons]; omega

def afterSignature? (s : List Char) : Option (List Char) :=
  match skipBlank s with
  | '(' :: inside =>
    match splitAt? ')' inside with
    | some (_, after) =>
      match skipBlank after with
      | '{' :: body => afterBody? 0 body
      | _ => none
    | none => none
  | _ => none

def afterDefinition? (s : List Char) : Option (List Char) :=
  match word? s with
  | some (_, c :: rest) =>
    if Text.isBlank c then
      match word? (skipBlank rest) with
      | some (_, after) => afterSignature? after
      | none => none
    else none
  | _ => none

inductive Piece where
  /-- Text that stays: a word, a quoted run, or a single character. -/
  | kept (text : List Char)
  | definition (text : List Char)

namespace Piece

def text : Piece → List Char
  | .kept text => text
  | .definition text => text

/-- What a piece leaves behind when definitions are cut out. -/
def remains : Piece → List Char
  | .kept text => text
  | .definition _ => []

def isDefinition : Piece → Bool
  | .kept _ => false
  | .definition _ => true

end Piece

private theorem length_afterBody?_lt {inner : Nat} {s rest : List Char}
    (h : afterBody? inner s = some rest) : rest.length < s.length := by
  fun_induction afterBody? inner s with
  | case1 => cases h
  | case2 inner rest' ih =>
    have := ih h
    simp only [List.length_cons]
    omega
  | case3 rest' => cases h; simp
  | case4 rest' _ outer ih =>
    have := ih h
    simp only [List.length_cons]
    omega
  | case5 inner c rest' _ _ _ run after hrun hle ih =>
    have := ih h
    simp only [List.length_cons]
    omega
  | case6 inner c rest' _ _ _ _ ih =>
    have := ih h
    simp only [List.length_cons]
    omega
  | case7 inner c rest' _ _ _ ih =>
    have := ih h
    simp only [List.length_cons]
    omega

private theorem length_of_afterSignature? {s rest : List Char} (h : afterSignature? s = some rest) :
    rest.length < s.length := by
  unfold afterSignature? at h
  split at h
  · next inside hs =>
    split at h
    · next parameters after hsplit =>
      split at h
      · next body hafter =>
        have h1 : (skipBlank s).length ≤ s.length := Text.length_trimStart_le s
        have h2 := length_of_splitAt? hsplit
        have h3 : (skipBlank after).length ≤ after.length := Text.length_trimStart_le after
        have h4 := length_afterBody?_lt h
        rw [hs] at h1
        rw [hafter] at h3
        simp only [List.length_cons] at h1 h3
        omega
      · cases h
    · cases h
  · cases h

theorem length_of_afterDefinition? {s rest : List Char} (h : afterDefinition? s = some rest) :
    rest.length < s.length := by
  unfold afterDefinition? at h
  split at h
  · next word c tail hword =>
    split at h
    · split at h
      · next word' after hword' =>
        have h1 := length_of_word? hword
        have h2 : (skipBlank tail).length ≤ tail.length := Text.length_trimStart_le tail
        have h3 := length_of_word? hword'
        have h4 := length_of_afterSignature? h
        simp only [List.length_cons] at h1
        omega
      · cases h
    · cases h
  · cases h

def pieces (s : List Char) : List Piece :=
  match s with
  | [] => []
  | c :: rest =>
    if hstart : isWordStart c then
      match h : afterDefinition? (c :: rest) with
      | some after =>
        have := length_of_afterDefinition? h
        .definition ((c :: rest).take ((c :: rest).length - after.length)) :: pieces after
      | none =>
        have := length_afterWordRun_lt (s := rest) (isWordChar_of_isWordStart hstart)
        .kept (wordRun (c :: rest)) :: pieces (afterWordRun (c :: rest))
    else if isQuote c then
      match h : quotedRun? c rest with
      | some (run, after) =>
        have := length_of_quotedRun? h
        .kept (c :: run) :: pieces after
      | none => .kept [c] :: pieces rest
    else .kept [c] :: pieces rest
termination_by s.length
decreasing_by all_goals simp only [List.length_cons] at *; omega

def withoutDefinitions (s : List Char) : List Char :=
  (pieces s).flatMap Piece.remains

def hasDefinitions (s : List Char) : Bool :=
  (pieces s).any Piece.isDefinition

end LogDigest.Template
