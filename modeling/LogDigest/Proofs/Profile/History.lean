import LogDigest.Profile.Registry
import Mathlib.Data.Finset.Card
import Mathlib.Data.List.Nodup

/-!
# Histories of a registry

What a registry holds and answers after any calls is read off the calls: it holds the profiles
that were added by a successful `create`, each under its identifier and as it was added.
-/

namespace LogDigest.Registry

/-! ## Calls -/

inductive Call where
  | create (profile : Profile)
  | get (id : String)

/-- What a call does to a registry and answers. -/
def Call.access : Call → Access Profile
  | .create profile => Registry.create profile
  | .get id => fun registry => (registry.get id, registry)

/-- What a registry answers to a call. -/
def answer (registry : Registry) (call : Call) : Except ProfileError Profile :=
  (call.access.run.run registry).1

def after (registry : Registry) (call : Call) : Registry :=
  (call.access.run.run registry).2

/-- A registry after calls one after the other. -/
def afterAll (registry : Registry) (calls : List Call) : Registry :=
  calls.foldl after registry

/-- The profile that a call adds: that of a `create` which does not fail. -/
def addedBy (registry : Registry) : Call → List Profile
  | .create profile =>
    match registry.answer (.create profile) with
    | .ok _ => [profile]
    | .error _ => []
  | .get _ => []

/-- The profiles that calls add one after the other. -/
def addedByAll (registry : Registry) : List Call → List Profile
  | [] => []
  | call :: rest => registry.addedBy call ++ addedByAll (registry.after call) rest

def keys (registry : Registry) : List String :=
  registry.entries.map Prod.fst

/-! ## One call -/

private theorem putEntry_of_not_mem {key : String} {profile : Profile}
    {entries : List (String × Profile)}
    (h : key ∉ entries.map Prod.fst) :
    putEntry key profile entries = entries ++ [(key, profile)] := by
  induction entries with
  | nil => rfl
  | cons entry rest ih =>
    obtain ⟨k, p⟩ := entry
    rw [List.map_cons, List.mem_cons, not_or] at h
    rw [putEntry, if_neg fun heq => h.1 heq.symm, ih h.2, List.cons_append]

private theorem run_getThe_bind {α : Type} (registry : Registry) (next : Registry → Access α) :
    (getThe Registry >>= next).run.run registry = (next registry).run.run registry :=
  rfl

private theorem create_run (registry : Registry) (profile : Profile) :
    (create profile).run.run registry =
      match profile.fault?, registry.get? profile.id with
      | some fault, _ => (.error (.invalid fault), registry)
      | none, some _ => (.error (.alreadyExists profile.id), registry)
      | none, none => (.ok profile, registry.put profile.id profile) := by
  rw [create]
  cases profile.fault? with
  | some fault => rfl
  | none =>
    rw [run_getThe_bind]
    cases registry.get? profile.id with
    | some other => rfl
    | none => rfl

/-! ## What a registry records -/

/-- A registry holds just the profiles of a list, each under its identifier and none of them
twice. -/
structure Records (registry : Registry) (added : List Profile) : Prop where
  entries : registry.entries = added.map fun profile => (profile.id, profile)
  valid : ∀ profile ∈ added, profile.fault? = none
  distinct : (added.map Profile.id).Nodup

variable {registry : Registry} {added : List Profile}

theorem records_nil : Records {} [] :=
  ⟨rfl, by simp, List.nodup_nil⟩

theorem Records.keys_eq (h : Records registry added) :
    registry.keys = added.map Profile.id := by
  rw [keys, h.entries, List.map_map]
  rfl

theorem Records.size_eq (h : Records registry added) : registry.size = added.length := by
  rw [size, h.entries, List.length_map]

theorem Records.get?_of_mem (h : Records registry added) {profile : Profile}
    (hmem : profile ∈ added) : registry.get? profile.id = some profile := by
  rw [get?, h.entries]
  have hdistinct := h.distinct
  clear h
  induction added with
  | nil => cases hmem
  | cons first rest ih =>
    rw [List.map_cons, List.nodup_cons] at hdistinct
    rw [List.map_cons, List.lookup_cons]
    by_cases hid : profile.id = first.id
    · have hfirst : profile = first := by
        rcases List.mem_cons.1 hmem with heq | hrest
        · exact heq
        · exact absurd (List.mem_map.2 ⟨profile, hrest, hid⟩) hdistinct.1
      rw [hfirst, beq_self_eq_true]
    · have hrest : profile ∈ rest := by
        rcases List.mem_cons.1 hmem with rfl | hrest
        · exact absurd rfl hid
        · exact hrest
      rw [beq_false_of_ne hid]
      exact ih hrest hdistinct.2

theorem Records.get_of_mem (h : Records registry added) {profile : Profile}
    (hmem : profile ∈ added) : registry.get profile.id = .ok profile := by
  rw [get, h.get?_of_mem hmem]

theorem Records.get?_of_not_mem (h : Records registry added) {id : String}
    (hid : id ∉ added.map Profile.id) : registry.get? id = none := by
  rw [get?, List.lookup_eq_none_iff, h.entries]
  intro entry hentry
  obtain ⟨profile, hmem, rfl⟩ := List.mem_map.1 hentry
  exact bne_iff_ne.2 fun heq => hid (List.mem_map.2 ⟨profile, hmem, heq.symm⟩)

theorem Records.create_run (h : Records registry added) (profile : Profile) :
    (create profile).run.run registry =
      match profile.fault? with
      | some fault => (.error (.invalid fault), registry)
      | none =>
        if profile.id ∈ added.map Profile.id then
          (.error (.alreadyExists profile.id), registry)
        else (.ok profile, registry.put profile.id profile) := by
  rw [Registry.create_run]
  cases profile.fault? with
  | some fault => rfl
  | none =>
    by_cases hid : profile.id ∈ added.map Profile.id
    · obtain ⟨other, hmem, heq⟩ := List.mem_map.1 hid
      rw [if_pos hid, ← heq, h.get?_of_mem hmem]
    · rw [if_neg hid, h.get?_of_not_mem hid]

theorem Records.put (h : Records registry added) {profile : Profile}
    (hvalid : profile.fault? = none) (hid : profile.id ∉ added.map Profile.id) :
    Records (registry.put profile.id profile) (added ++ [profile]) := by
  refine ⟨?_, ?_, ?_⟩
  · have hkey : profile.id ∉ registry.entries.map Prod.fst := by
      rw [← Registry.keys, h.keys_eq]
      exact hid
    rw [Registry.put, putEntry_of_not_mem hkey, h.entries, List.map_append]
    rfl
  · intro other hmem
    rcases List.mem_append.1 hmem with hold | hnew
    · exact h.valid other hold
    · rw [List.mem_singleton.1 hnew]
      exact hvalid
  · rw [List.map_append, List.map_singleton]
    exact List.nodup_append_comm.1 (List.nodup_cons.2 ⟨hid, h.distinct⟩)

theorem Records.after (h : Records registry added) (call : Call) :
    Records (registry.after call) (added ++ registry.addedBy call) := by
  cases call with
  | get id =>
    rw [addedBy, List.append_nil]
    exact h
  | create profile =>
    have hrun := h.create_run profile
    simp only [addedBy, answer, Registry.after, Call.access]
    rw [hrun]
    cases hfault : profile.fault? with
    | some fault =>
      rw [List.append_nil]
      exact h
    | none =>
      by_cases hid : profile.id ∈ added.map Profile.id
      · simp only [if_pos hid, List.append_nil]
        exact h
      · simp only [if_neg hid]
        exact h.put hfault hid

theorem Records.afterAll (h : Records registry added) (calls : List Call) :
    Records (registry.afterAll calls) (added ++ registry.addedByAll calls) := by
  induction calls generalizing registry added with
  | nil =>
    rw [addedByAll, List.append_nil]
    exact h
  | cons call rest ih =>
    rw [addedByAll, ← List.append_assoc]
    exact ih (h.after call)

/-- Whatever calls a fresh registry has seen, it holds the profiles that were added, all of them
valid and each under its own identifier, and their number is its size.  A profile is added next if
it is valid and none with its identifier was added, and if it is not, nothing changes.  What was
added is found from then on, and nothing else is. -/
theorem added_found_ever_after (calls : List Call) :
    let registry := afterAll {} calls
    let added := addedByAll {} calls
    (∀ key profile, (key, profile) ∈ registry.entries ↔ profile ∈ added ∧ key = profile.id) ∧
    (∀ profile ∈ added, profile.fault? = none) ∧ (added.map Profile.id).Nodup ∧
    registry.size = added.length ∧ registry.size = registry.keys.toFinset.card ∧
    (∀ profile,
      registry.answer (.create profile) =
          (match profile.fault? with
          | some fault => .error (.invalid fault)
          | none =>
            if profile.id ∈ added.map Profile.id then .error (.alreadyExists profile.id)
            else .ok profile) ∧
        (registry.answer (.create profile) = .ok profile ∨
          registry.after (.create profile) = registry)) ∧
    (∀ profile ∈ added, ∀ later,
      (registry.afterAll later).answer (.get profile.id) = .ok profile) ∧
    ∀ id ∉ added.map Profile.id, registry.answer (.get id) = .error (.notFound id) := by
  intro registry added
  have h : Records registry added := records_nil.afterAll calls
  refine ⟨?_, h.valid, h.distinct, h.size_eq, ?_, ?_, ?_, ?_⟩
  · intro key profile
    rw [h.entries, List.mem_map]
    constructor
    · rintro ⟨other, hmem, heq⟩
      cases heq
      exact ⟨hmem, rfl⟩
    · rintro ⟨hmem, rfl⟩
      exact ⟨profile, hmem, rfl⟩
  · have hnodup : registry.keys.Nodup := by
      rw [h.keys_eq]
      exact h.distinct
    rw [List.toFinset_card_of_nodup hnodup, keys, List.length_map]
    rfl
  · intro profile
    have hrun := h.create_run profile
    rw [answer, Registry.after, Call.access, hrun]
    cases profile.fault? with
    | some fault => exact ⟨rfl, .inr rfl⟩
    | none =>
      by_cases hid : profile.id ∈ added.map Profile.id
      · simp [hid]
      · simp [hid]
  · intro profile hmem later
    exact (h.afterAll later).get_of_mem (List.mem_append_left _ hmem)
  · intro id hid
    show get registry id = .error (.notFound id)
    rw [get, h.get?_of_not_mem hid]

end LogDigest.Registry
