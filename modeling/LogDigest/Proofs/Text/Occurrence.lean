import Mathlib.Data.List.Infix

/-!
# Occurrences of a text

Where one text occurs in another, and what comes of replacing every occurrence.  A text that is led
by a character can only occur where that character does.
-/

namespace LogDigest.Text

/-- Replaces every occurrence of a text by another one, left to right. -/
def replaceAll (old new : List Char) : List Char → List Char
  | [] => []
  | c :: rest =>
    if old <+: c :: rest then new ++ replaceAll old new (rest.drop (old.length - 1))
    else c :: replaceAll old new rest
termination_by s => s.length
decreasing_by
  all_goals
    simp only [List.length_cons, List.length_drop]
    omega

/-- A text that begins with a character which stands nowhere else in it. -/
def LedBy (first : Char) (s : List Char) : Prop :=
  ∃ body, s = first :: body ∧ first ∉ body

instance (first : Char) (s : List Char) : Decidable (LedBy first s) :=
  match s with
  | [] => isFalse fun ⟨_, h, _⟩ => List.cons_ne_nil _ _ h.symm
  | c :: rest =>
    decidable_of_iff (c = first ∧ first ∉ rest)
      ⟨fun ⟨h, hrest⟩ => ⟨rest, by rw [h], hrest⟩, by
        rintro ⟨body, h, hbody⟩
        obtain ⟨rfl, rfl⟩ := List.cons.inj h
        exact ⟨rfl, hbody⟩⟩

variable {first : Char} {old new s : List Char}

theorem not_prefix_cons (hold : LedBy first old) {c : Char} (h : c ≠ first) (rest : List Char) :
    ¬ old <+: c :: rest := by
  obtain ⟨body, rfl, -⟩ := hold
  rw [List.cons_prefix_cons]
  exact fun hprefix => h hprefix.1.symm

private theorem not_prefix_append (h : ¬ old <+: s) (h' : ¬ s <+: old) (rest : List Char) :
    ¬ old <+: s ++ rest := by
  intro hprefix
  rcases List.prefix_or_prefix_of_prefix hprefix (List.prefix_append s rest) with hold | hs
  · exact h hold
  · exact h' hs

/-! ## Replacing -/

theorem replaceAll_nil (old new : List Char) : replaceAll old new [] = [] := by
  rw [replaceAll]

theorem replaceAll_old_append (hold : LedBy first old) (new rest : List Char) :
    replaceAll old new (old ++ rest) = new ++ replaceAll old new rest := by
  obtain ⟨body, rfl, -⟩ := hold
  have hprefix : first :: body <+: first :: (body ++ rest) :=
    List.prefix_append (first :: body) rest
  rw [List.cons_append, replaceAll, if_pos hprefix, List.length_cons, Nat.add_sub_cancel,
    List.drop_left]

theorem replaceAll_append_of_not_mem (hold : LedBy first old) (h : first ∉ s)
    (rest : List Char) : replaceAll old new (s ++ rest) = s ++ replaceAll old new rest := by
  induction s with
  | nil => rfl
  | cons c s ih =>
    rw [List.mem_cons, not_or] at h
    rw [List.cons_append, replaceAll, if_neg (not_prefix_cons hold (Ne.symm h.1) _), ih h.2]
    rfl

theorem replaceAll_other_append (hold : LedBy first old) (hs : LedBy first s)
    (h : ¬ old <+: s) (h' : ¬ s <+: old) (rest : List Char) :
    replaceAll old new (s ++ rest) = s ++ replaceAll old new rest := by
  have hnot := not_prefix_append h h' rest
  obtain ⟨body, rfl, hbody⟩ := hs
  rw [List.cons_append] at hnot ⊢
  rw [replaceAll, if_neg hnot, replaceAll_append_of_not_mem hold hbody]
  rfl

example : replaceAll ['a', 'b'] ['c'] ['a', 'a', 'b', 'b', 'a', 'b'] = ['a', 'c', 'b', 'c'] := by
  simp [replaceAll]

end LogDigest.Text
