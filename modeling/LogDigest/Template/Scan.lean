import LogDigest.Template.Definition
import LogDigest.Template.Reference

/-!
# Scanning templates

A form is a reference or a literal.  Scanning takes the leftmost forms off a template one after
the other and skips what stands between them: a run of word characters as a whole, so that no
reference begins inside a word, and any other character by itself.

A literal stands between single quotes.  A backslash before an `n` makes a line feed, one before
a quote or another backslash keeps that character; before anything else it stands for itself.
-/

namespace LogDigest.Template

/-! ## Literals -/

def literalBody? : List Char → Option (List Char × List Char)
  | [] => none
  | '\'' :: rest => some ([], rest)
  | '\\' :: 'n' :: rest => (literalBody? rest).map fun (text, after) => ('\n' :: text, after)
  | '\\' :: '\'' :: rest => (literalBody? rest).map fun (text, after) => ('\'' :: text, after)
  | '\\' :: '\\' :: rest => (literalBody? rest).map fun (text, after) => ('\\' :: text, after)
  | c :: rest => (literalBody? rest).map fun (text, after) => (c :: text, after)

private theorem length_of_literalBody? {s text rest : List Char}
    (h : literalBody? s = some (text, rest)) : rest.length < s.length := by
  fun_induction literalBody? s generalizing text rest with
  | case1 => cases h
  | case2 => cases h; simp
  | case3 tail ih | case4 tail ih | case5 tail ih | case6 c tail _ _ _ _ ih =>
    obtain ⟨⟨text', rest'⟩, hbody, heq⟩ := Option.map_eq_some_iff.1 h
    cases heq
    have := ih hbody
    simp only [List.length_cons]
    omega

/-! ## Forms -/

def form? (s : List Char) : Option (Token × List Char) :=
  match s with
  | [] => none
  | c :: rest =>
    if c = '\'' then
      (literalBody? rest).map fun (text, after) => (.literal (String.ofList text), after)
    else
      (reference? s).map fun ((marker, path), after) =>
        (.field marker (String.ofList path), after)

def skipOne : List Char → List Char
  | [] => []
  | c :: rest => if isWordChar c then afterWordRun rest else rest

theorem length_of_form? {s rest : List Char} {token : Token}
    (h : form? s = some (token, rest)) : rest.length < s.length := by
  unfold form? at h
  split at h
  · cases h
  · next c tail =>
    split at h
    · obtain ⟨⟨text, after⟩, hbody, heq⟩ := Option.map_eq_some_iff.1 h
      cases heq
      have := length_of_literalBody? hbody
      simp only [List.length_cons]
      omega
    · obtain ⟨⟨⟨marker, path⟩, after⟩, hbody, heq⟩ := Option.map_eq_some_iff.1 h
      cases heq
      exact length_of_reference? hbody

theorem length_skipOne_lt (c : Char) (s : List Char) :
    (skipOne (c :: s)).length < (c :: s).length := by
  simp only [skipOne]
  split
  · have := length_afterWordRun_le s
    simp only [List.length_cons]
    omega
  · simp

structure Scanned where
  tokens : List Token := []
  /-- Whether any form was recognised, even if it shows nothing. -/
  matched : Bool := false
  deriving DecidableEq, Repr

namespace Scanned

def cons (token : Token) (found : Scanned) : Scanned :=
  { tokens := token :: found.tokens, matched := true }

end Scanned

def scanForms (s : List Char) : Scanned :=
  match s with
  | [] => {}
  | c :: rest =>
    match h : form? (c :: rest) with
    | some (token, after) =>
      have := length_of_form? h
      (scanForms after).cons token
    | none =>
      have := length_skipOne_lt c rest
      scanForms (skipOne (c :: rest))
termination_by s.length
decreasing_by all_goals assumption

theorem matched_scanForms (s : List Char) :
    (scanForms s).matched = !(scanForms s).tokens.isEmpty := by
  fun_induction scanForms s with
  | case1 => rfl
  | case2 => rfl
  | case3 c rest h hlt ih => exact ih

def Scanned.of (template : String) : Scanned :=
  scanForms (withoutDefinitions template.toList)

def scan (template : String) : List Token :=
  (Scanned.of template).tokens

end LogDigest.Template
