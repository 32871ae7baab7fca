import LogDigest.Proofs.Text.Span
import LogDigest.Text.Basic
import Mathlib.Data.List.DropRight

/-!
# Trimmed texts

What trimming takes away stands before the first and behind the last character that is no blank.
-/

namespace LogDigest.Text

variable {p : Char → Bool} {c : Char} {s t : List Char}

/-! ## Ends of texts -/

theorem stops_reverse_append (hs : Stops p s.reverse) (ht : Stops p t.reverse) :
    Stops p (s ++ t).reverse := by
  rw [List.reverse_append]
  exact stops_append ht hs

theorem stops_reverse_concat (h : p c = false) : Stops p (s ++ [c]).reverse := by
  rw [List.reverse_concat]
  exact stops_cons h

theorem stops_reverse_of_all (h : ∀ c ∈ s, p c = false) : Stops p s.reverse := by
  intro c hc
  exact h c (List.mem_reverse.1 (List.mem_of_mem_head? hc))

theorem stops_reverse_flatMap {α : Type} {text : α → List Char} (parts : List α)
    (h : ∀ part, Stops p (text part).reverse) : Stops p (parts.flatMap text).reverse := by
  induction parts with
  | nil => exact stops_nil
  | cons part parts ih =>
    rw [List.flatMap_cons]
    exact stops_reverse_append (h part) ih

/-! ## Trimming -/

theorem trimEnd_prefix (s : List Char) : trimEnd s <+: s :=
  List.rdropWhile_prefix isBlank s

theorem stops_trim (s : List Char) : Stops isBlank (trim s) := by
  intro c hc
  obtain ⟨tail, htail⟩ := List.head?_eq_some_iff.1 hc
  obtain ⟨more, hmore⟩ := trimEnd_prefix (trimStart s)
  apply stops_dropWhile isBlank s
  rw [← trimStart, ← hmore, ← trim, htail]
  rfl

theorem stops_reverse_trim (s : List Char) : Stops isBlank (trim s).reverse := by
  rw [trim, trimEnd, List.reverse_reverse]
  exact stops_dropWhile isBlank _

theorem mem_of_mem_trim (h : c ∈ trim s) : c ∈ s := by
  have hkept : trim s <+: trimStart s := trimEnd_prefix _
  exact (List.dropWhile_sublist isBlank).subset (hkept.subset h)

/-- Trimming takes just the blanks around a text that has none at its ends. -/
theorem trim_append {before after : List Char} (hbefore : ∀ c ∈ before, isBlank c = true)
    (hafter : ∀ c ∈ after, isBlank c = true) (hfirst : Stops isBlank s)
    (hlast : Stops isBlank s.reverse) : trim (before ++ (s ++ after)) = s := by
  cases s with
  | nil =>
    have hblank : ∀ c ∈ before ++ ([] ++ after), isBlank c = true :=
      List.forall_mem_append.2 ⟨hbefore, hafter⟩
    have hstart : trimStart (before ++ ([] ++ after)) = [] := List.dropWhile_eq_nil_iff.2 hblank
    rw [trim, hstart]
    rfl
  | cons c s =>
    have hstart : trimStart (before ++ (c :: s ++ after)) = c :: s ++ after :=
      dropWhile_append_of_all hbefore (stops_cons (hfirst c rfl))
    have hblank : ∀ d ∈ after.reverse, isBlank d = true :=
      fun d hd => hafter d (List.mem_reverse.1 hd)
    rw [trim, hstart, trimEnd, List.reverse_append, dropWhile_append_of_all hblank hlast,
      List.reverse_reverse]

end LogDigest.Text
