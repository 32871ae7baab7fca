import Mathlib.Data.List.TakeWhile

/-!
# Runs at the start of a text

Where a run of characters of one kind ends does not depend on what follows, as long as no further
character of that kind follows at once.
-/

namespace LogDigest.Text

variable {p : Char → Bool} {s rest : List Char}

/-- A text does not begin with a character of a kind. -/
def Stops (p : Char → Bool) (s : List Char) : Prop :=
  ∀ c ∈ s.head?, p c = false

theorem stops_nil : Stops p [] := by
  intro c hc
  cases hc

theorem stops_cons {c : Char} (h : p c = false) : Stops p (c :: rest) := by
  intro d hd
  cases hd
  exact h

theorem stops_append (hs : Stops p s) (h : Stops p rest) : Stops p (s ++ rest) := by
  cases s with
  | nil => exact h
  | cons c s => exact stops_cons (hs c rfl)

theorem stops_dropWhile (p : Char → Bool) (s : List Char) : Stops p (s.dropWhile p) := by
  intro c hc
  have hnot := List.head?_dropWhile_not p s
  rw [Option.mem_def.1 hc] at hnot
  simpa using hnot

theorem dropWhile_eq_self (h : Stops p s) : s.dropWhile p = s := by
  cases s with
  | nil => rfl
  | cons c s =>
    have hc : p c = false := h c rfl
    exact List.dropWhile_cons_of_neg (by simp [hc])

theorem takeWhile_eq_nil (h : Stops p s) : s.takeWhile p = [] := by
  cases s with
  | nil => rfl
  | cons c s =>
    have hc : p c = false := h c rfl
    exact List.takeWhile_cons_of_neg (by simp [hc])

theorem dropWhile_append_of_stops (h : Stops p rest) :
    (s ++ rest).dropWhile p = s.dropWhile p ++ rest := by
  rw [List.dropWhile_append, dropWhile_eq_self h]
  split
  · next hempty => rw [List.isEmpty_iff.1 hempty, List.nil_append]
  · rfl

theorem takeWhile_append_of_stops (h : Stops p rest) :
    (s ++ rest).takeWhile p = s.takeWhile p := by
  rw [List.takeWhile_append, takeWhile_eq_nil h, List.append_nil]
  split
  · next hlength =>
    exact ((List.takeWhile_prefix p).eq_of_length hlength).symm
  · rfl

/-- A whole text of the kind is a run if the kind stops after it. -/
theorem dropWhile_append_of_all (hs : ∀ c ∈ s, p c = true) (h : Stops p rest) :
    (s ++ rest).dropWhile p = rest := by
  rw [List.dropWhile_append_of_pos hs, dropWhile_eq_self h]

theorem takeWhile_append_of_all (hs : ∀ c ∈ s, p c = true) (h : Stops p rest) :
    (s ++ rest).takeWhile p = s := by
  rw [List.takeWhile_append_of_pos hs, takeWhile_eq_nil h, List.append_nil]

end LogDigest.Text
