import LogDigest.Json.Reader

/-!
# Ordered documents

The members of every object of a document stand in ascending order of their keys, so that a key
names one member at most.  Every value that the reader gives is ordered, and so it gives documents.
-/

namespace LogDigest.Json

/-- Members in ascending order of their keys, each key once. -/
def Ascending (members : List (String × Json)) : Prop :=
  members.Pairwise fun first second => first.1 < second.1

/-- All objects inside a value list their members in ascending order. -/
inductive Ordered : Json → Prop where
  | null : Ordered .null
  | bool (value : Bool) : Ordered (.bool value)
  | number (value : JsonNumber) : Ordered (.number value)
  | string (value : String) : Ordered (.string value)
  | array {items : List Json} (each : ∀ item ∈ items, Ordered item) : Ordered (.array items)
  | object {members : List (String × Json)}
      (ascending : Ascending members)
      (each : ∀ member ∈ members, Ordered member.2) : Ordered (.object members)

/-! ## Objects -/

theorem Ordered.ascending {members : List (String × Json)} (h : (Json.object members).Ordered) :
    Ascending members := by
  cases h with
  | object ascending _ => exact ascending

theorem Ordered.value {members : List (String × Json)} {member : String × Json}
    (h : (Json.object members).Ordered) (hmember : member ∈ members) : member.2.Ordered := by
  cases h with
  | object _ each => exact each member hmember

theorem Ordered.item {items : List Json} {item : Json} (h : (Json.array items).Ordered)
    (hitem : item ∈ items) : item.Ordered := by
  cases h with
  | array each => exact each item hitem

theorem ordered_single (key : String) {value : Json} (h : value.Ordered) :
    (object [(key, value)]).Ordered :=
  .object (List.pairwise_singleton _ _) (by simpa using h)

theorem ordered_pair {first second : String} {value other : Json} (hlt : first < second)
    (hvalue : value.Ordered) (hother : other.Ordered) :
    (object [(first, value), (second, other)]).Ordered := by
  refine .object (.cons ?_ (List.pairwise_singleton _ _)) (by simp [hvalue, hother])
  simpa using hlt

theorem lookup_eq_some_iff_mem {members : List (String × Json)} {key : String} {value : Json}
    (h : Ascending members) : members.lookup key = some value ↔ (key, value) ∈ members := by
  induction members with
  | nil => simp
  | cons head tail ih =>
    obtain ⟨k, v⟩ := head
    rw [Ascending, List.pairwise_cons] at h
    by_cases hk : key = k
    · subst hk
      have htail : (key, value) ∉ tail := by
        intro hmem
        exact absurd (h.1 _ hmem) (String.lt_irrefl _)
      simp [htail, eq_comm]
    · have hbeq : (key == k) = false := by simp [hk]
      rw [List.lookup_cons, hbeq]
      simp [hk, ih h.2]

theorem value_unique {members : List (String × Json)} {key : String} {first second : Json}
    (h : Ascending members) (hfirst : (key, first) ∈ members)
    (hsecond : (key, second) ∈ members) : first = second := by
  rw [← lookup_eq_some_iff_mem h] at hfirst hsecond
  rw [hfirst] at hsecond
  exact Option.some.inj hsecond

theorem mem_insertMember {key : String} {value : Json} {member : String × Json}
    {members : List (String × Json)} (h : member ∈ insertMember key value members) :
    member = (key, value) ∨ member ∈ members := by
  induction members with
  | nil => simpa [insertMember] using h
  | cons head tail ih =>
    obtain ⟨k, v⟩ := head
    rw [insertMember] at h
    split at h
    · simpa using h
    · split at h
      · rcases List.mem_cons.mp h with rfl | htail
        · exact .inl rfl
        · exact .inr (List.mem_cons_of_mem _ htail)
      · rcases List.mem_cons.mp h with rfl | htail
        · exact .inr List.mem_cons_self
        · exact (ih htail).imp_right (List.mem_cons_of_mem _)

private theorem ascending_insertMember (key : String) (value : Json)
    {members : List (String × Json)}
    (h : Ascending members) : Ascending (insertMember key value members) := by
  induction members with
  | nil => exact List.pairwise_singleton _ _
  | cons head tail ih =>
    obtain ⟨k, v⟩ := head
    have htail := (List.pairwise_cons.mp h).1
    rw [insertMember]
    split
    · next hlt =>
      refine h.cons ?_
      intro member hmember
      rcases List.mem_cons.mp hmember with rfl | hmember
      · exact hlt
      · exact String.lt_trans hlt (htail member hmember)
    · next hnot =>
      split
      · next heq =>
        subst heq
        exact h.of_cons.cons htail
      · next hne =>
        have hlt : k < key := by
          rw [String.not_lt] at hnot
          rw [← String.not_le]
          intro hle
          exact hne (String.le_antisymm hle hnot)
        refine (ih h.of_cons).cons ?_
        intro member hmember
        rcases mem_insertMember hmember with rfl | hmember
        · exact hlt
        · exact htail member hmember

private theorem ordered_ofMembers {members : List (String × Json)}
    (h : ∀ member ∈ members, member.2.Ordered) : (ofMembers members).Ordered := by
  suffices hfold : ∀ sorted : List (String × Json), (object sorted).Ordered →
      (object (members.foldl (fun sorted member => insertMember member.1 member.2 sorted)
        sorted)).Ordered by
    exact hfold [] (.object .nil (by simp))
  induction members with
  | nil => exact fun _ hsorted => hsorted
  | cons head tail ih =>
    intro sorted hsorted
    refine ih (fun member hmember => h member (List.mem_cons_of_mem _ hmember)) _ ?_
    refine .object (ascending_insertMember _ _ hsorted.ascending) ?_
    intro member hmember
    rcases mem_insertMember hmember with rfl | hmember
    · exact h head List.mem_cons_self
    · exact hsorted.value hmember

/-! ## Read documents -/

def GivesOrdered (value? : (s : List Char) → Option (Json × Shorter s)) : Prop :=
  ∀ (s : List Char) (value : Json) (rest : Shorter s), value? s = some (value, rest) →
    value.Ordered

private theorem ordered_of_scalar? {s : List Char} {value : Json} {rest : Shorter s}
    (h : scalar? s = some (value, rest)) : value.Ordered := by
  unfold scalar? at h
  split at h
  · cases h
    exact .null
  · cases h
    exact .bool true
  · cases h
    exact .bool false
  · split at h
    · cases h
      exact .string _
    · cases h
  · split at h
    · rw [Option.map_eq_some_iff] at h
      obtain ⟨n, -, hn⟩ := h
      cases hn
      exact .number n
    · cases h

private theorem ordered_of_items? {value? : (s : List Char) → Option (Json × Shorter s)}
    (hvalue : GivesOrdered value?) {done items : List Json} {s rest : List Char}
    (hdone : ∀ item ∈ done, item.Ordered) (h : items? value? done s = some (items, rest)) :
    ∀ item ∈ items, item.Ordered := by
  fun_induction items? value? done s with
  | case1 => cases h
  | case2 done s item tail htail hread more hmore hlt ih =>
    have hitems : ∀ other ∈ item :: done, other.Ordered :=
      List.forall_mem_cons.mpr ⟨hvalue _ _ _ hread, hdone⟩
    exact ih hitems h
  | case3 done s item tail htail hread left hleft =>
    simp only [Option.some.injEq, Prod.mk.injEq] at h
    obtain ⟨rfl, -⟩ := h
    have hitems : ∀ other ∈ item :: done, other.Ordered :=
      List.forall_mem_cons.mpr ⟨hvalue _ _ _ hread, hdone⟩
    intro other hother
    rw [List.mem_reverse] at hother
    exact hitems other hother
  | case4 => cases h

private theorem ordered_of_member? {value? : (s : List Char) → Option (Json × Shorter s)}
    (hvalue : GivesOrdered value?) {s : List Char} {member : String × Json} {rest : Shorter s}
    (h : member? value? s = some (member, rest)) : member.2.Ordered := by
  unfold member? at h
  split at h
  · split at h
    · cases h
    · split at h
      · split at h
        · cases h
        · next hread =>
          cases h
          exact hvalue _ _ _ hread
      · cases h
  · cases h

private theorem ordered_of_members? {value? : (s : List Char) → Option (Json × Shorter s)}
    (hvalue : GivesOrdered value?) {done members : List (String × Json)} {s rest : List Char}
    (hdone : ∀ member ∈ done, member.2.Ordered)
    (h : members? value? done s = some (members, rest)) :
    ∀ member ∈ members, member.2.Ordered := by
  fun_induction members? value? done s with
  | case1 => cases h
  | case2 done s member tail htail hread more hmore hlt ih =>
    have hmembers : ∀ other ∈ member :: done, other.2.Ordered :=
      List.forall_mem_cons.mpr ⟨ordered_of_member? hvalue hread, hdone⟩
    exact ih hmembers h
  | case3 done s member tail htail hread left hleft =>
    simp only [Option.some.injEq, Prod.mk.injEq] at h
    obtain ⟨rfl, -⟩ := h
    have hmembers : ∀ other ∈ member :: done, other.2.Ordered :=
      List.forall_mem_cons.mpr ⟨ordered_of_member? hvalue hread, hdone⟩
    intro other hother
    rw [List.mem_reverse] at hother
    exact hmembers other hother
  | case4 => cases h

private theorem ordered_of_arrayBody? {value? : (s : List Char) → Option (Json × Shorter s)}
    (hvalue : GivesOrdered value?) {s : List Char} {items : List Json} {rest : Shorter s}
    (h : arrayBody? value? s = some (items, rest)) : (array items).Ordered := by
  unfold arrayBody? at h
  split at h
  · cases h
    exact .array (by simp)
  · split at h
    · next hitems =>
      cases h
      exact .array (ordered_of_items? hvalue (by simp) hitems)
    · cases h

private theorem ordered_of_objectBody? {value? : (s : List Char) → Option (Json × Shorter s)}
    (hvalue : GivesOrdered value?) {s : List Char} {members : List (String × Json)}
    {rest : Shorter s} (h : objectBody? value? s = some (members, rest)) :
    (ofMembers members).Ordered := by
  unfold objectBody? at h
  split at h
  · cases h
    exact ordered_ofMembers (by simp)
  · split at h
    · next hmembers =>
      cases h
      exact ordered_ofMembers (ordered_of_members? hvalue (by simp) hmembers)
    · cases h

private theorem givesOrdered_value? (depth : Nat) : GivesOrdered (value? depth) := by
  induction depth with
  | zero =>
    intro s value rest h
    rw [value?, Option.map_eq_some_iff] at h
    obtain ⟨read, hread, hvalue⟩ := h
    cases hvalue
    exact ordered_of_scalar? hread
  | succ depth ih =>
    intro s value rest h
    unfold value? at h
    split at h
    · rw [Option.map_eq_some_iff] at h
      obtain ⟨read, hread, hvalue⟩ := h
      cases hvalue
      exact ordered_of_arrayBody? ih hread
    · rw [Option.map_eq_some_iff] at h
      obtain ⟨read, hread, hvalue⟩ := h
      cases hvalue
      exact ordered_of_objectBody? ih hread
    · rw [Option.map_eq_some_iff] at h
      obtain ⟨read, hread, hvalue⟩ := h
      cases hvalue
      exact ordered_of_scalar? hread

private theorem ordered_of_parse? {text : String} {doc : Json} (h : parse? text = some doc) :
    doc.Ordered := by
  unfold parse? read? at h
  split at h
  · next hread =>
    split at h
    · cases h
      exact givesOrdered_value? _ _ _ _ hread
    · cases h
  · cases h

/-! ## Documents -/

/-- A value in which all objects list their members in ascending order. -/
structure Document where
  json : Json
  ordered : json.Ordered

def Document.parse? (text : String) : Option Document :=
  (Json.parse? text).attach.map fun doc => ⟨doc.1, ordered_of_parse? doc.2⟩

/-- The reader of documents reads all that the reader of values does. -/
theorem Document.map_json_parse? (text : String) :
    (Document.parse? text).map Document.json = Json.parse? text := by
  rw [Document.parse?, Option.map_map]
  exact Option.attach_map_subtype_val _

end LogDigest.Json
