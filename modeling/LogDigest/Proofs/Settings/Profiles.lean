import LogDigest.Proofs.Profile.History
import LogDigest.Settings

/-!
# Registries of settings

The default profile of settings and the further ones are added to a fresh registry in order.  Each
is taken if it is valid and no earlier one has its identifier.  The first that is not taken decides
the error, and what is wrong with the profile itself comes before the clash of identifiers.
-/

namespace LogDigest

namespace Registry

/-! ## What is taken and what is refused -/

/-- Profiles all of which are valid, and none of which has the identifier of another. -/
structure Admitted (profiles : List Profile) : Prop where
  valid : ∀ profile ∈ profiles, profile.fault? = none
  distinct : (profiles.map Profile.id).Nodup

/-- Why a profile is refused after others: something is wrong with it, or else one of them has its
identifier. -/
def refusal? (earlier : List Profile) (profile : Profile) : Option ProfileError :=
  match profile.fault? with
  | some fault => some (.invalid fault)
  | none =>
    if profile.id ∈ earlier.map Profile.id then some (.alreadyExists profile.id) else none

variable {registry : Registry} {added profiles before after : List Profile} {profile : Profile}
  {error : ProfileError}

theorem refusal?_eq_none_iff :
    refusal? profiles profile = none ↔
      profile.fault? = none ∧ profile.id ∉ profiles.map Profile.id := by
  rw [refusal?]
  cases profile.fault? with
  | some fault => simp
  | none => simp

private theorem admitted_nil : Admitted [] :=
  ⟨by simp, List.nodup_nil⟩

theorem admitted_concat_iff :
    Admitted (profiles ++ [profile]) ↔ Admitted profiles ∧ refusal? profiles profile = none := by
  have hdistinct : ((profiles ++ [profile]).map Profile.id).Nodup ↔
      profile.id ∉ profiles.map Profile.id ∧ (profiles.map Profile.id).Nodup := by
    rw [List.map_append, List.map_singleton, List.nodup_append_comm, List.singleton_append,
      List.nodup_cons]
  rw [refusal?_eq_none_iff]
  constructor
  · rintro ⟨hvalid, hnodup⟩
    rw [List.forall_mem_append, List.forall_mem_singleton] at hvalid
    obtain ⟨hnew, hnodup⟩ := hdistinct.1 hnodup
    exact ⟨⟨hvalid.1, hnodup⟩, hvalid.2, hnew⟩
  · rintro ⟨⟨hvalid, hnodup⟩, hfault, hnew⟩
    exact ⟨List.forall_mem_append.2 ⟨hvalid, List.forall_mem_singleton.2 hfault⟩,
      hdistinct.2 ⟨hnew, hnodup⟩⟩

theorem Admitted.of_append (h : Admitted (before ++ after)) : Admitted before := by
  have hdistinct := h.distinct
  rw [List.map_append] at hdistinct
  exact ⟨(List.forall_mem_append.1 h.valid).1, hdistinct.of_append_left⟩

theorem Admitted.refusal?_eq_none (h : Admitted (before ++ profile :: after)) :
    refusal? before profile = none := by
  rw [List.append_cons] at h
  exact (admitted_concat_iff.1 h.of_append).2

theorem admitted_or_refused (profiles : List Profile) :
    Admitted profiles ∨ ∃ before profile after error, profiles = before ++ profile :: after ∧
      Admitted before ∧ refusal? before profile = some error := by
  induction profiles using List.reverseRecOn with
  | nil => exact .inl admitted_nil
  | append_singleton profiles last ih =>
    rcases ih with hadmitted | ⟨before, profile, after, error, rfl, hbefore, hrefusal⟩
    · cases hrefusal : refusal? profiles last with
      | none => exact .inl (admitted_concat_iff.2 ⟨hadmitted, hrefusal⟩)
      | some error => exact .inr ⟨profiles, last, [], error, rfl, hadmitted, hrefusal⟩
    · exact .inr ⟨before, profile, after ++ [last], error, by simp, hbefore, hrefusal⟩

/-! ## Adding profiles -/

theorem Records.add (h : Records registry added) (profile : Profile) :
    registry.add profile =
      match refusal? added profile with
      | some error => .error error
      | none => .ok (registry.put profile.id profile) := by
  rw [Registry.add, h.create_run, refusal?]
  cases profile.fault? with
  | some fault => rfl
  | none =>
    by_cases hid : profile.id ∈ added.map Profile.id
    · simp only [if_pos hid]
    · simp only [if_neg hid]

theorem Records.addAll_append (h : Records registry added)
    (hadmitted : Admitted (added ++ before)) :
    ∃ registry', Records registry' (added ++ before) ∧
      ∀ rest, registry.addAll (before ++ rest) = registry'.addAll rest := by
  induction before generalizing registry added with
  | nil =>
    rw [List.append_nil]
    exact ⟨registry, h, fun rest => rfl⟩
  | cons profile before ih =>
    have hrefusal : refusal? added profile = none := hadmitted.refusal?_eq_none
    obtain ⟨hvalid, hnew⟩ := refusal?_eq_none_iff.1 hrefusal
    have hadd : registry.add profile = .ok (registry.put profile.id profile) := by
      rw [h.add, hrefusal]
    rw [List.append_cons] at hadmitted ⊢
    obtain ⟨registry', hrecords, hrest⟩ := ih (h.put hvalid hnew) hadmitted
    refine ⟨registry', hrecords, fun rest => ?_⟩
    rw [List.cons_append, Registry.addAll, hadd]
    exact hrest rest

theorem addAll_refused (hbefore : Admitted before)
    (hrefusal : refusal? before profile = some error) :
    addAll {} (before ++ profile :: after) = .error error := by
  obtain ⟨registry, hrecords, hrest⟩ := records_nil.addAll_append hbefore
  rw [List.nil_append] at hrecords
  rw [hrest, addAll, hrecords.add, hrefusal]

theorem addAll_admitted (h : Admitted profiles) :
    ∃ registry, addAll {} profiles = .ok registry ∧ Records registry profiles := by
  obtain ⟨registry, hrecords, hrest⟩ := records_nil.addAll_append h
  have hall := hrest []
  rw [List.append_nil] at hall
  exact ⟨registry, hall, hrecords⟩

private theorem addAll_ok_iff :
    (∃ registry, addAll {} profiles = .ok registry) ↔ Admitted profiles := by
  constructor
  · rintro ⟨registry, hall⟩
    rcases admitted_or_refused profiles with
      hadmitted | ⟨before, profile, after, error, rfl, hbefore, hrefusal⟩
    · exact hadmitted
    · rw [addAll_refused hbefore hrefusal] at hall
      cases hall
  · intro hadmitted
    obtain ⟨registry, hall, -⟩ := addAll_admitted hadmitted
    exact ⟨registry, hall⟩

/-- An addition fails with the error of the first refused profile, and only with that. -/
theorem addAll_error_iff :
    addAll {} profiles = .error error ↔ ∃ before profile after,
      profiles = before ++ profile :: after ∧ Admitted before ∧
        refusal? before profile = some error := by
  constructor
  · intro hall
    rcases admitted_or_refused profiles with
      hadmitted | ⟨before, profile, after, error', rfl, hbefore, hrefusal⟩
    · obtain ⟨registry, hok, -⟩ := addAll_admitted hadmitted
      rw [hok] at hall
      cases hall
    · rw [addAll_refused hbefore hrefusal] at hall
      cases hall
      exact ⟨before, profile, after, rfl, hbefore, hrefusal⟩
  · rintro ⟨before, profile, after, rfl, hbefore, hrefusal⟩
    exact addAll_refused hbefore hrefusal

end Registry

namespace Settings

open Registry

private theorem admitted_profiles_iff (settings : Settings) :
    Admitted (settings.defaultProfile :: settings.profiles) ↔
      settings.defaultProfile.fault? = none ∧
      (∀ profile ∈ settings.profiles, profile.fault? = none) ∧
      (∀ profile ∈ settings.profiles, profile.id ≠ Profile.defaultId) ∧
      (settings.profiles.map Profile.id).Nodup := by
  have hnew : Profile.defaultId ∉ settings.profiles.map Profile.id ↔
      ∀ profile ∈ settings.profiles, profile.id ≠ Profile.defaultId := by
    simp
  constructor
  · rintro ⟨hvalid, hdistinct⟩
    rw [List.forall_mem_cons] at hvalid
    obtain ⟨hdefault, hdistinct⟩ := List.nodup_cons.1 hdistinct
    exact ⟨hvalid.1, hvalid.2, hnew.1 hdefault, hdistinct⟩
  · rintro ⟨hfault, hvalid, hdefault, hdistinct⟩
    exact ⟨List.forall_mem_cons.2 ⟨hfault, hvalid⟩,
      List.nodup_cons.2 ⟨hnew.2 hdefault, hdistinct⟩⟩

/-- Settings have a registry if and only if the default profile and the further ones are valid, no
further one has the identifier of the default one, and no two of them the same.  It then holds
these profiles and no others, and each is found as it is under its identifier.  Otherwise the error
is that of the first profile, from the default one on, which is invalid or has the identifier of an
earlier one; if it is both, the error is what is wrong with the profile itself. -/
theorem registry_admits_or_refuses (settings : Settings) :
    let standard : Profile :=
      { id := "default", name := "Default", template := settings.formatter.template,
        fields := settings.formatter.fields, description := none }
    ((∃ registry, settings.registry = .ok registry) ↔
      standard.fault? = none ∧
      (∀ profile ∈ settings.profiles, profile.fault? = none) ∧
      (∀ profile ∈ settings.profiles, profile.id ≠ "default") ∧
      (settings.profiles.map Profile.id).Nodup) ∧
    (∀ registry, settings.registry = .ok registry →
      registry.size = 1 + settings.profiles.length ∧
      registry.get "default" = .ok standard ∧
      ∀ profile ∈ settings.profiles, registry.get profile.id = .ok profile) ∧
    ∀ error, settings.registry = .error error ↔ ∃ before profile after,
      standard :: settings.profiles = before ++ profile :: after ∧
      Admitted before ∧ refusal? before profile = some error := by
  refine ⟨addAll_ok_iff.trans settings.admitted_profiles_iff, ?_, fun error => addAll_error_iff⟩
  intro registry hregistry
  have hadmitted : Admitted (settings.defaultProfile :: settings.profiles) :=
    addAll_ok_iff.1 ⟨registry, hregistry⟩
  obtain ⟨registry', hall, h⟩ := addAll_admitted hadmitted
  obtain rfl : registry = registry' := Except.ok.inj (hregistry.symm.trans hall)
  refine ⟨?_, h.get_of_mem List.mem_cons_self, ?_⟩
  · rw [h.size_eq, List.length_cons, Nat.add_comm]
  · intro profile hmem
    exact h.get_of_mem (List.mem_cons_of_mem _ hmem)

/-- Settings with a profile that is given again, the second time without a name. -/
def repeated : Settings where
  profiles := [{ id := "web", name := "Web" }, { id := "web", name := "" },
    { id := "", name := "" }]

/-- The missing name comes before the clash, and before what is wrong with the last profile. -/
theorem registry_repeated :
    repeated.registry = .error (.invalid .nameLength) ∧
      ∃ registry,
        { repeated with profiles := repeated.profiles.take 1 }.registry = .ok registry := by
  refine ⟨?_, ?_⟩
  · refine ((registry_admits_or_refuses repeated).2.2 _).2
      ⟨[repeated.defaultProfile, { id := "web", name := "Web" }], { id := "web", name := "" },
        [{ id := "", name := "" }], rfl, ⟨?_, ?_⟩, ?_⟩
    all_goals decide +kernel
  · refine (registry_admits_or_refuses _).1.2 ⟨?_, ?_, ?_, ?_⟩
    all_goals decide +kernel

end Settings

end LogDigest
