/-!
# Tables of code points

A Unicode property is stored as ranges of code points and looked up by bisection.  The ranges of a
table ascend and do not meet, so that bisection finds the one range that may hold a code point.
-/

namespace LogDigest.Text

/-- Whether closed ranges ascend without meeting, and none of them is empty. -/
def ascending : List (Nat × Nat) → Bool
  | [] => true
  | [range] => range.1 ≤ range.2
  | range :: next :: rest => range.1 ≤ range.2 && range.2 < next.1 && ascending (next :: rest)

structure CodeTable where
  ranges : Array (Nat × Nat)
  ascending_ranges : ascending ranges.toList

namespace CodeTable

variable {table : CodeTable} {n lo hi i j : Nat} {range next : Nat × Nat}

/-! ## Ranges -/

private theorem ascending_tail {ranges : List (Nat × Nat)} (h : ascending (range :: ranges)) :
    ascending ranges := by
  cases ranges with
  | nil => rfl
  | cons next rest =>
    simp only [ascending, Bool.and_eq_true] at h
    exact h.2

private theorem proper_of_ascending {ranges : List (Nat × Nat)} (h : ascending ranges) :
    ∀ range ∈ ranges, range.1 ≤ range.2 := by
  induction ranges with
  | nil => simp
  | cons range rest ih =>
    refine List.forall_mem_cons.2 ⟨?_, ih (ascending_tail h)⟩
    cases rest with
    | nil => simpa [ascending] using h
    | cons next rest =>
      simp only [ascending, Bool.and_eq_true, decide_eq_true_eq] at h
      exact h.1.1

private theorem pairwise_of_ascending {ranges : List (Nat × Nat)} (h : ascending ranges) :
    ranges.Pairwise fun range next => range.2 < next.1 := by
  induction ranges with
  | nil => exact .nil
  | cons range rest ih =>
    refine (ih (ascending_tail h)).cons ?_
    cases rest with
    | nil => simp
    | cons next rest =>
      have hproper := proper_of_ascending (ascending_tail h)
      have hlater := ih (ascending_tail h)
      simp only [ascending, Bool.and_eq_true, decide_eq_true_eq] at h
      rw [List.forall_mem_cons] at hproper ⊢
      refine ⟨h.1.2, fun later hmem => ?_⟩
      have hnext := List.rel_of_pairwise_cons hlater hmem
      omega

theorem le_of_getElem? (h : table.ranges[i]? = some range) : range.1 ≤ range.2 :=
  proper_of_ascending table.ascending_ranges range (Array.mem_of_getElem? h).val

/-- Of two ranges the one at the smaller place ends before the other one starts. -/
theorem lt_of_getElem? (hi : table.ranges[i]? = some range) (hj : table.ranges[j]? = some next)
    (hlt : i < j) : range.2 < next.1 := by
  obtain ⟨hisize, rfl⟩ := Array.getElem?_eq_some_iff.1 hi
  obtain ⟨hjsize, rfl⟩ := Array.getElem?_eq_some_iff.1 hj
  exact List.pairwise_iff_getElem.1 (pairwise_of_ascending table.ascending_ranges) i j hisize
    hjsize hlt

/-! ## Bisection -/

/-- Bisects the ranges `lo, …, hi - 1` for one that holds the code point `n`. -/
def search (table : CodeTable) (n lo hi : Nat) : Bool :=
  if _h : lo < hi then
    let mid := (lo + hi) / 2
    match table.ranges[mid]? with
    | none => false
    | some (first, last) =>
      if n < first then search table n lo mid
      else if last < n then search table n (mid + 1) hi
      else true
  else false
termination_by hi - lo

def contains (table : CodeTable) (c : Char) : Bool :=
  table.search c.toNat 0 table.ranges.size

def Holds (table : CodeTable) (i n : Nat) : Prop :=
  ∃ range, table.ranges[i]? = some range ∧ range.1 ≤ n ∧ n ≤ range.2

private theorem Holds.lt_of_lt_first (h : table.Holds i n) (hj : table.ranges[j]? = some range)
    (hbefore : n < range.1) : i < j := by
  obtain ⟨holder, hi, hfirst, hlast⟩ := h
  have hproper := le_of_getElem? hj
  rcases Nat.lt_trichotomy i j with hlt | rfl | hgt
  · exact hlt
  · rw [hi] at hj
    cases hj
    omega
  · have hapart := lt_of_getElem? hj hi hgt
    omega

private theorem Holds.gt_of_last_lt (h : table.Holds i n) (hj : table.ranges[j]? = some range)
    (hafter : range.2 < n) : j < i := by
  obtain ⟨holder, hi, hfirst, hlast⟩ := h
  have hproper := le_of_getElem? hj
  rcases Nat.lt_trichotomy i j with hlt | rfl | hgt
  · have hapart := lt_of_getElem? hi hj hlt
    omega
  · rw [hi] at hj
    cases hj
    omega
  · exact hgt

theorem search_iff (hhi : hi ≤ table.ranges.size) :
    table.search n lo hi ↔ ∃ i, lo ≤ i ∧ i < hi ∧ table.Holds i n := by
  fun_induction search table n lo hi with
  | case1 lo hi hlt mid hnone =>
    rw [Array.getElem?_eq_none_iff] at hnone
    omega
  | case2 lo hi hlt mid first last hmid hbefore ih =>
    rw [ih (by omega)]
    constructor
    · rintro ⟨i, hlo, hlt, hholds⟩
      exact ⟨i, hlo, by omega, hholds⟩
    · rintro ⟨i, hlo, -, hholds⟩
      exact ⟨i, hlo, hholds.lt_of_lt_first hmid hbefore, hholds⟩
  | case3 lo hi hlt mid first last hmid _ hafter ih =>
    rw [ih hhi]
    constructor
    · rintro ⟨i, hlo, hlt, hholds⟩
      exact ⟨i, by omega, hlt, hholds⟩
    · rintro ⟨i, -, hlt, hholds⟩
      exact ⟨i, hholds.gt_of_last_lt hmid hafter, hlt, hholds⟩
  | case4 lo hi hlt mid first last hmid hbefore hafter =>
    refine iff_of_true rfl ⟨mid, by omega, by omega, (first, last), hmid, ?_⟩
    omega
  | case5 lo hi hnot =>
    refine iff_of_false Bool.false_ne_true ?_
    rintro ⟨i, hlo, hlt, -⟩
    omega

theorem contains_iff (table : CodeTable) (c : Char) :
    table.contains c ↔ ∃ range ∈ table.ranges, range.1 ≤ c.toNat ∧ c.toNat ≤ range.2 := by
  rw [contains, search_iff (Nat.le_refl _)]
  constructor
  · rintro ⟨i, -, -, range, hi, hholds⟩
    exact ⟨range, Array.mem_of_getElem? hi, hholds⟩
  · rintro ⟨range, hmem, hholds⟩
    obtain ⟨i, hi⟩ := Array.mem_iff_getElem?.1 hmem
    obtain ⟨hsize, -⟩ := Array.getElem?_eq_some_iff.1 hi
    exact ⟨i, Nat.zero_le i, hsize, range, hi, hholds⟩

end CodeTable

end LogDigest.Text
