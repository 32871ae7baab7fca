import LogDigest.Path
import LogDigest.Proofs.Text.Trimming

/-!
# Paths that stand for themselves

Every reference holds its path between quotes.  A path without quotes is therefore no reference,
and without blanks at its ends it is normal already.
-/

namespace LogDigest.Path

/-- A path without quotes, and without blanks at its ends. -/
structure IsBare (path : List Char) : Prop where
  quote : ∀ c ∈ path, c ≠ '\'' ∧ c ≠ '"'
  first : Text.Stops Text.isBlank path
  last : Text.Stops Text.isBlank path.reverse

theorem mem_of_mem_skipBlank {c : Char} {s : List Char} (h : c ∈ Template.skipBlank s) : c ∈ s :=
  (List.dropWhile_sublist Text.isBlank).subset h

theorem bracketPath?_eq_none_of_quoteless {s : List Char} (h : ∀ c ∈ s, c ≠ '\'' ∧ c ≠ '"') :
    Template.bracketPath? s = none := by
  unfold Template.bracketPath?
  split
  · next inside hs =>
    split
    · next quote body hinside =>
      have hquote : quote ∈ s := by
        apply mem_of_mem_skipBlank
        rw [hs]
        apply List.mem_cons_of_mem
        apply mem_of_mem_skipBlank
        rw [hinside]
        exact List.mem_cons_self
      rw [if_neg (not_or.mpr (h quote hquote))]
    · rfl
  · rfl

private theorem callPath?_eq_none_of_quoteless {s : List Char} (h : ∀ c ∈ s, c ≠ '\'' ∧ c ≠ '"') :
    Template.callPath? s = none := by
  unfold Template.callPath?
  split
  · next inside hs =>
    split
    · next word after hword =>
      have hafter : ∀ c ∈ after, c ≠ '\'' ∧ c ≠ '"' := by
        intro c hc
        apply h
        apply mem_of_mem_skipBlank
        rw [hs]
        apply List.mem_cons_of_mem
        apply mem_of_mem_skipBlank
        rw [← Template.append_of_word? hword]
        exact List.mem_append_right _ hc
      rw [bracketPath?_eq_none_of_quoteless hafter]
      split <;> rfl
    · rfl
  · rfl

private theorem reference?_eq_none_of_quoteless {s : List Char} (h : ∀ c ∈ s, c ≠ '\'' ∧ c ≠ '"') :
    Template.reference? s = none := by
  unfold Template.reference?
  split
  · rfl
  · next word after hword =>
    have hafter : ∀ c ∈ after, c ≠ '\'' ∧ c ≠ '"' := by
      intro c hc
      apply h
      rw [← Template.append_of_word? hword]
      exact List.mem_append_right _ hc
    have hkeyword : ∀ marker, Template.keywordPath? marker after = none := by
      intro marker
      rw [Template.keywordPath?, bracketPath?_eq_none_of_quoteless hafter]
    simp [hkeyword, callPath?_eq_none_of_quoteless hafter]

private theorem trim_of_isBare {path : List Char} (h : IsBare path) : Text.trim path = path := by
  have hstart : Text.trimStart path = path := Text.dropWhile_eq_self h.first
  have hend : path.reverse.dropWhile Text.isBlank = path.reverse := Text.dropWhile_eq_self h.last
  rw [Text.trim, hstart, Text.trimEnd, hend, List.reverse_reverse]

/-- A path without quotes is taken as it is, but for the blanks around it. -/
theorem normalize_of_quoteless {path : List Char} (h : ∀ c ∈ path, c ≠ '\'' ∧ c ≠ '"') :
    normalize path = Text.trim path := by
  have hwrapped : wrapped? (Text.trim path) = none := by
    rw [wrapped?, reference?_eq_none_of_quoteless fun c hc => h c (Text.mem_of_mem_trim hc)]
  rw [normalize, hwrapped]

theorem normalize_of_isBare {path : List Char} (h : IsBare path) : normalize path = path := by
  rw [normalize_of_quoteless h.quote, trim_of_isBare h]

end LogDigest.Path
