import LogDigest.Proofs.Text.Span
import LogDigest.Text.Basic

/-!
# Parts between separators

A text that is cut at a character falls into parts without that character, and no part has a
character that the text has not.  Cutting a text into lines loses the ends of the lines, so that
the text is its lines joined by line feeds only if no carriage return and no last line feed is lost.
-/

namespace LogDigest.Text

variable {c separator : Char} {s part : List Char}

/-- A first character opens a part of its own, as a separator, or goes in front of the first part. -/
theorem mem_splitOn_cons (h : part ∈ (c :: s).splitOn separator) :
    part = [] ∨ part ∈ s.splitOn separator ∨
      c ≠ separator ∧ ∃ first ∈ s.splitOn separator, part = c :: first := by
  rw [List.splitOn_cons_eq_if_modifyHead] at h
  split at h
  · rcases List.mem_cons.1 h with rfl | hs
    · exact .inl rfl
    · exact .inr (.inl hs)
  · next hc =>
    obtain ⟨first, rest, hs⟩ := List.exists_cons_of_ne_nil (List.splitOn_ne_nil separator s)
    rw [hs, List.modifyHead_cons] at h
    rw [hs]
    rcases List.mem_cons.1 h with rfl | hrest
    · exact .inr (.inr ⟨by simpa using hc, first, List.mem_cons_self, rfl⟩)
    · exact .inr (.inl (List.mem_cons_of_mem _ hrest))

theorem not_mem_of_mem_splitOn (h : part ∈ s.splitOn separator) : separator ∉ part := by
  induction s generalizing part with
  | nil =>
    rw [List.splitOn_nil, List.mem_singleton] at h
    rw [h]
    exact List.not_mem_nil
  | cons c s ih =>
    rcases mem_splitOn_cons h with rfl | hs | ⟨hc, first, hs, rfl⟩
    · exact List.not_mem_nil
    · exact ih hs
    · exact List.not_mem_cons_of_ne_of_not_mem hc.symm (ih hs)

theorem mem_of_mem_splitOn {d : Char} (h : part ∈ s.splitOn separator) (hd : d ∈ part) :
    d ∈ s := by
  induction s generalizing part with
  | nil =>
    rw [List.splitOn_nil, List.mem_singleton] at h
    rwa [h] at hd
  | cons c s ih =>
    rcases mem_splitOn_cons h with rfl | hs | ⟨-, first, hs, rfl⟩
    · cases hd
    · exact List.mem_cons_of_mem c (ih hs hd)
    · rcases List.mem_cons.1 hd with rfl | hfirst
      · exact List.mem_cons_self
      · exact List.mem_cons_of_mem c (ih hs hfirst)

/-! ## Lines -/

/-- The part behind the last line feed is a line if it is not empty; those before it are lines that
may lose a carriage return. -/
theorem exists_lines_eq (s : List Char) : ∃ parts last, s.splitOn '\n' = parts ++ [last] ∧
    lines s = parts.map withoutReturn ++ if last.isEmpty then [] else [last] := by
  have hne := List.splitOn_ne_nil '\n' s
  have hparts := List.dropLast_concat_getLast hne
  refine ⟨_, _, hparts.symm, ?_⟩
  rw [lines, List.getLastD_eq_getLast?, List.getLast?_eq_some_getLast hne]
  rfl

theorem lineFeed_not_mem_of_mem_lines {line : List Char} (h : line ∈ lines s) : '\n' ∉ line := by
  obtain ⟨parts, last, hsplit, hlines⟩ := exists_lines_eq s
  have hfeed : ∀ part ∈ parts ++ [last], '\n' ∉ part := fun part hpart =>
    not_mem_of_mem_splitOn (by rwa [hsplit])
  obtain ⟨hfeeds, hfeedLast⟩ := List.forall_mem_append.1 hfeed
  rw [hlines, List.mem_append] at h
  rcases h with h | h
  · obtain ⟨part, hpart, rfl⟩ := List.mem_map.1 h
    rw [withoutReturn]
    split
    · exact fun hmem => hfeeds part hpart ((List.dropLast_sublist part).subset hmem)
    · exact hfeeds part hpart
  · split at h
    · cases h
    · exact hfeedLast line h

private theorem intercalate_concat_nil {parts : List (List Char)} (h : parts ≠ []) :
    [separator].intercalate (parts ++ [[]]) = [separator].intercalate parts ++ [separator] := by
  induction parts with
  | nil => exact absurd rfl h
  | cons first rest ih =>
    cases rest with
    | nil => simp
    | cons next rest =>
      rw [List.cons_append, List.cons_append, List.intercalate_cons_cons, ← List.cons_append,
        ih (by simp), List.intercalate_cons_cons, List.append_assoc, List.append_assoc,
        List.append_assoc]

/-- Nothing is lost if no carriage return is, and no line feed at the end. -/
theorem intercalate_lines (hreturn : '\r' ∉ s) (hlast : s.getLast? ≠ some '\n') :
    ['\n'].intercalate (lines s) = s := by
  obtain ⟨parts, last, hsplit, hlines⟩ := exists_lines_eq s
  have hkept : parts.map withoutReturn = parts := by
    rw [List.map_congr_left (g := id), List.map_id]
    intro part hpart
    have hmem : part ∈ s.splitOn '\n' := hsplit ▸ List.mem_append_left [last] hpart
    exact if_neg fun hend => hreturn (mem_of_mem_splitOn hmem (List.mem_of_getLast? hend))
  have hjoined : ['\n'].intercalate (parts ++ [last]) = s := by
    rw [← hsplit]
    exact List.intercalate_splitOn '\n'
  rw [hlines, hkept]
  cases last with
  | cons c last => exact hjoined
  | nil =>
    rw [List.isEmpty_nil, if_pos rfl, List.append_nil]
    by_cases hparts : parts = []
    · rw [hparts] at hjoined ⊢
      exact hjoined
    · rw [intercalate_concat_nil hparts] at hjoined
      rw [← hjoined, List.getLast?_concat] at hlast
      exact absurd rfl hlast

end LogDigest.Text
