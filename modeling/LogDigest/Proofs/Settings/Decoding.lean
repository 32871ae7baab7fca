import LogDigest.Settings

/-!
# What decoding reads

Decoding a section looks its fields up one by one.  It succeeds if every field that is given
converts, and a field that is not given has its default.
-/

namespace LogDigest.Settings

variable {α β : Type} {value default : α} {convert : Node → Conversion α}

theorem bind_eq_ok_iff {first : Conversion α} {next : α → Conversion β} {result : β} :
    (first >>= next) = .ok result ↔ ∃ value, first = .ok value ∧ next value = .ok result := by
  cases first with
  | error error => exact ⟨nofun, nofun⟩
  | ok value =>
    constructor
    · intro h
      exact ⟨value, rfl, h⟩
    · rintro ⟨_, hvalue, h⟩
      cases hvalue
      exact h

theorem mapError_eq_ok_iff {conversion : Conversion α} {f : SettingsError → SettingsError} :
    conversion.mapError f = .ok value ↔ conversion = .ok value := by
  cases conversion with
  | error error => exact ⟨nofun, nofun⟩
  | ok value => exact Iff.rfl

theorem lookup_cons_eq_ite {α β : Type} [DecidableEq α] {a b : α} {value : β}
    {entries : List (α × β)} :
    ((b, value) :: entries).lookup a = if a = b then some value else entries.lookup a := by
  by_cases h : a = b
  · rw [h, List.lookup_cons_self, if_pos rfl]
  · rw [List.lookup_cons, beq_false_of_ne h, if_neg h]

theorem mem_of_lookup_eq_some {α β : Type} [DecidableEq α] {a : α} {value : β}
    {entries : List (α × β)} (h : entries.lookup a = some value) : (a, value) ∈ entries := by
  obtain ⟨before, after, rfl, -⟩ := List.lookup_eq_some_iff.1 h
  exact List.mem_append_right _ List.mem_cons_self

namespace Section

variable {fields : Section} {name : String}

theorem read_cases (h : fields.read name default convert = .ok value) :
    value = default ∨ ∃ node, convert node = .ok value := by
  rw [read] at h
  split at h
  · next step node hgiven => exact .inr ⟨node, mapError_eq_ok_iff.1 h⟩
  · cases h
    exact .inl rfl

theorem lookup_ofEntries (names : List String) (entries : List (String × Node)) (name : String) :
    (ofEntries names entries).lookup name =
      if name ∈ names then (entries.lookup name).map fun node => (.key name, node) else none := by
  induction names with
  | nil => rfl
  | cons first rest ih =>
    rw [ofEntries] at ih ⊢
    by_cases hfirst : name = first
    · subst hfirst
      rw [if_pos List.mem_cons_self]
      cases hentry : entries.lookup name with
      | none =>
        rw [List.filterMap_cons_none (by rw [hentry]; rfl), ih, hentry]
        exact ite_self none
      | some node =>
        rw [List.filterMap_cons_some (by rw [hentry]; rfl), List.lookup_cons_self]
        rfl
    · have hmem : name ∈ first :: rest ↔ name ∈ rest := List.mem_cons.trans (or_iff_right hfirst)
      simp only [hmem, ← ih]
      cases hentry : entries.lookup first with
      | none => rw [List.filterMap_cons_none (by rw [hentry]; rfl)]
      | some node =>
        rw [List.filterMap_cons_some (by rw [hentry]; rfl), lookup_cons_eq_ite, if_neg hfirst]

/-- A field of a table is read from the entry under its name, or has its default. -/
theorem read_ofEntries_eq_ok_iff {names : List String} {entries : List (String × Node)}
    (h : name ∈ names) :
    (ofEntries names entries).read name default convert = .ok value ↔
      match entries.lookup name with
      | some node => convert node = .ok value
      | none => default = value := by
  rw [read, lookup_ofEntries, if_pos h]
  cases entries.lookup name with
  | none => exact ⟨Except.ok.inj, congrArg Except.ok⟩
  | some node => exact mapError_eq_ok_iff

end Section

end LogDigest.Settings
