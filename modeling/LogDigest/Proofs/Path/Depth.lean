import LogDigest.Proofs.Path.Search

/-!
# How deep a path may descend

A bound on the steps is no cut through one way but a condition on all ways: within a larger bound
more derivations compete.  A path that names a value within a bound names one within every larger
bound as well; the value changes only where a derivation of more steps than the smaller bound
allows comes before all derivations within it.
-/

namespace LogDigest.Path

variable {doc value value' : Json} {bound bound' : Nat} {names : List (List Char)}
  {steps steps' : List Step}

/-- The first derivation within a larger bound is the first one within the smaller bound, or it is
too long for the smaller bound and comes before that one. -/
theorem IsLeast.eq_or_precedes (h : IsLeast doc names bound steps value)
    (h' : IsLeast doc names bound' steps' value') (hle : bound ≤ bound') :
    steps' = steps ∨ bound < steps'.length ∧ List.Lex Precedes steps' steps := by
  have hwithin : steps.length ≤ bound' := h.within.trans hle
  rcases h'.least steps value h.derives hwithin with heq | hlex
  · exact Or.inl heq
  · by_cases hlength : bound < steps'.length
    · exact Or.inr ⟨hlength, hlex⟩
    · rcases h.least steps' value' h'.derives (Nat.not_lt.mp hlength) with heq | hlex'
      · exact Or.inl heq.symm
      · exact absurd hlex' (Std.Asymm.asymm _ _ hlex)

theorem IsLeast.exists_of_le (h : IsLeast doc names bound steps value) (hdoc : doc.Ordered)
    (hle : bound ≤ bound') : ∃ steps' value', IsLeast doc names bound' steps' value' := by
  cases hfound : descend bound' doc names with
  | none =>
    have hlong : bound' < steps.length := lt_length_of_descend_eq_none hdoc hfound h.derives
    have hshort : steps.length ≤ bound' := h.within.trans hle
    omega
  | some value' =>
    obtain ⟨steps', hleast⟩ := isLeast_of_descend hdoc hfound
    exact ⟨steps', value', hleast⟩

/-- What is found within a depth is found within every larger depth too, unless a longer way that
comes first leads to another value there. -/
theorem find?_of_le (doc : Json.Document) (path : String) (depth depth' : Nat) (value : Json)
    (hle : depth ≤ depth') (h : doc.json.find? path depth = some value) :
    doc.json.find? path depth' = some value ∨
      ∃ steps steps' value',
        IsLeast doc.json (segments (normalize path.toList)) depth steps value ∧
        IsLeast doc.json (segments (normalize path.toList)) depth' steps' value' ∧
        doc.json.find? path depth' = some value' ∧
        depth < steps'.length ∧ List.Lex Precedes steps' steps := by
  obtain ⟨doc, hdoc⟩ := doc
  simp only [Json.find?] at h ⊢
  cases hget : doc.get? (String.ofList (normalize path.toList)) with
  | some direct =>
    -- A member with the whole path as its key is found at any depth.
    left
    simpa only [hget] using h
  | none =>
    simp only [hget] at h ⊢
    obtain ⟨steps, hleast⟩ := isLeast_of_descend hdoc h
    obtain ⟨steps', value', hleast'⟩ := hleast.exists_of_le hdoc hle
    have hfound := (descend_eq_some_iff hdoc).mpr ⟨steps', hleast'⟩
    rcases hleast.eq_or_precedes hleast' hle with rfl | ⟨hlength, hlex⟩
    · left
      rw [hfound, hleast'.derives.unique hdoc hleast.derives]
    · right
      exact ⟨steps, steps', value', hleast, hleast', hfound, hlength, hlex⟩

/-- A document with one field both nested in three objects and flattened to two. -/
def nestedAndFlat : Json.Document where
  json := .object [("a", .object [("b", .object [("c", .string "nested")])]),
    ("a.b", .object [("c", .string "flat")])]
  ordered := Json.ordered_pair (by decide)
    (Json.ordered_single "b" (Json.ordered_single "c" (.string _)))
    (Json.ordered_single "c" (.string _))

/-- Two steps lead to the flattened field only, three lead to the nested one first. -/
theorem find?_of_le_nestedAndFlat :
    ∃ steps, IsLeast nestedAndFlat.json (segments (normalize "a.b.c".toList)) 3 steps
      (.string "nested") ∧ 2 < steps.length := by
  have hraised := find?_of_le nestedAndFlat "a.b.c" 2 3 (.string "flat") (by decide) rfl
  have hnested : nestedAndFlat.json.find? "a.b.c" 3 = some (.string "nested") := rfl
  rw [hnested] at hraised
  rcases hraised with heq | ⟨-, steps', value', -, hleast', hfound, hlength, -⟩
  · simp at heq
  · cases hfound
    exact ⟨steps', hleast', hlength⟩

/-- A larger depth may change the value that is found. -/
theorem find?_changes_with_depth :
    ¬ ∀ (doc : Json.Document) (path : String) (depth depth' : Nat) (value : Json),
      depth ≤ depth' → doc.json.find? path depth = some value →
        doc.json.find? path depth' = some value := by
  intro h
  have hflat : nestedAndFlat.json.find? "a.b.c" 3 = some (.string "flat") :=
    h nestedAndFlat "a.b.c" 2 3 (.string "flat") (by decide) rfl
  have hnested : nestedAndFlat.json.find? "a.b.c" 3 = some (.string "nested") := rfl
  rw [hnested] at hflat
  simp at hflat

end LogDigest.Path
