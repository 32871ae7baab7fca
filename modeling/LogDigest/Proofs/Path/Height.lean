import LogDigest.Proofs.Path.Search
import LogDigest.Template

/-!
# How deep a path can descend

A step leads into a container, to one of its children, and takes a segment.  The search can
therefore take no more steps than containers are nested in each other, and no more than the path
has segments.  A bound that allows as many steps as the smaller of the two bounds nothing.
-/

namespace LogDigest

namespace Json

mutual

/-- How deep containers are nested in a value.  A scalar has none, and a container one more than
its highest child. -/
def height : Json → Nat
  | .array items => itemsHeight items + 1
  | .object members => membersHeight members + 1
  | _ => 0

def itemsHeight : List Json → Nat
  | [] => 0
  | item :: rest => max item.height (itemsHeight rest)

def membersHeight : List (String × Json) → Nat
  | [] => 0
  | (_, value) :: rest => max value.height (membersHeight rest)

end

private theorem height_lt_of_item {items : List Json} {item : Json} (h : item ∈ items) :
    item.height < (Json.array items).height := by
  rw [height, Nat.lt_succ_iff]
  induction items with
  | nil => cases h
  | cons first rest ih =>
    rw [itemsHeight]
    rcases List.mem_cons.1 h with rfl | hrest
    · exact Nat.le_max_left _ _
    · exact (ih hrest).trans (Nat.le_max_right _ _)

private theorem height_lt_of_member {members : List (String × Json)} {member : String × Json}
    (h : member ∈ members) : member.2.height < (Json.object members).height := by
  rw [height, Nat.lt_succ_iff]
  induction members with
  | nil => cases h
  | cons first rest ih =>
    rw [membersHeight]
    rcases List.mem_cons.1 h with rfl | hrest
    · exact Nat.le_max_left _ _
    · exact (ih hrest).trans (Nat.le_max_right _ _)

end Json

namespace Path

/-! ## One step -/

private theorem exists_member_of_mem_candidates {members : List (String × Json)} {key : String}
    {child : Json} (h : child ∈ candidates members key) : ∃ member ∈ members, member.2 = child := by
  rw [candidates, List.mem_append] at h
  rcases h with hexact | hfolded
  · rw [Option.mem_toList] at hexact
    obtain ⟨before, after, rfl, -⟩ := List.lookup_eq_some_iff.1 hexact
    exact ⟨(key, child), by simp, rfl⟩
  · obtain ⟨member, hmember, rfl⟩ := List.mem_map.1 hfolded
    exact ⟨member, List.mem_of_mem_filter hmember, rfl⟩

theorem lower_of_mem_choices {doc child : Json} {names rest : List (List Char)} {step : Step}
    (h : (step, rest, child) ∈ choices doc names) :
    child.height < doc.height ∧ rest.length < names.length := by
  cases doc with
  | array items =>
    cases names with
    | nil => cases h
    | cons name names =>
      simp only [choices, Option.mem_toList, Option.bind_eq_some_iff,
        Option.map_eq_some_iff] at h
      obtain ⟨i, -, item, hitem, heq⟩ := h
      cases heq
      exact ⟨Json.height_lt_of_item (List.mem_of_getElem? hitem), Nat.lt_succ_self _⟩
  | object members =>
    rw [choices, List.mem_flatMap] at h
    obtain ⟨⟨front, back⟩, hsplit, hmem⟩ := h
    obtain ⟨⟨_, _⟩, hnamed, heq⟩ := List.mem_map.1 hmem
    cases heq
    have hcandidate : child ∈ candidates members (keyOf front) := by
      rw [candidates_eq_map_named]
      exact List.mem_map_of_mem hnamed
    obtain ⟨member, hmember, rfl⟩ := exists_member_of_mem_candidates hcandidate
    obtain ⟨hfront, rfl⟩ := mem_splits.1 hsplit
    have hlength := List.length_pos_of_ne_nil hfront
    refine ⟨Json.height_lt_of_member hmember, ?_⟩
    rw [List.length_append]
    omega
  | _ => cases h

/-- Where a bound allows as many steps as there can be, the search tries every choice; without a
step left there is none to try. -/
theorem descend_cons {doc : Json} {name : List Char} {rest : List (List Char)} {bound : Nat}
    (h : min doc.height (name :: rest).length ≤ bound) :
    descend bound doc (name :: rest) =
      (choices doc (name :: rest)).findSome? fun (_, rest, child) =>
        descend (bound - 1) child rest := by
  cases bound with
  | succ bound => exact descend_succ bound doc name rest
  | zero =>
    have hnone : choices doc (name :: rest) = [] := by
      rw [List.eq_nil_iff_forall_not_mem]
      intro choice hchoice
      have hlower := lower_of_mem_choices hchoice
      omega
    rw [hnone, descend]
    rfl

/-! ## All steps -/

/-- Two bounds that allow as many steps as there can be make no difference. -/
theorem descend_eq_of_le (doc : Json) (names : List (List Char)) (bound bound' : Nat)
    (h : min doc.height names.length ≤ bound) (h' : min doc.height names.length ≤ bound') :
    descend bound doc names = descend bound' doc names := by
  cases names with
  | nil => rw [descend_nil, descend_nil]
  | cons name rest =>
    rw [descend_cons h, descend_cons h', ← List.head?_filterMap, ← List.head?_filterMap]
    congr 1
    apply List.filterMap_congr
    rintro ⟨step, rest', child⟩ hchoice
    obtain ⟨hheight, hlength⟩ := lower_of_mem_choices hchoice
    exact descend_eq_of_le child rest' (bound - 1) (bound' - 1) (by omega) (by omega)
termination_by names.length

/-- Within any two depths that are at least the height of a document, or at least the number of
segments of a path, the path names the same value or none.  The depth that views have unless they
say otherwise can therefore matter only to a path of more than 64 segments, in a document of more
than that height. -/
theorem find?_eq_of_deep (doc : Json) (path : String) :
    let count := (segments (normalize path.toList)).length
    (∀ depth depth' : Nat, min doc.height count ≤ depth → min doc.height count ≤ depth' →
      doc.find? path depth = doc.find? path depth') ∧
    ∀ depth : Nat, ({} : View).depth ≤ depth →
      doc.find? path depth = doc.find? path ({} : View).depth ∨ 64 < count ∧ 64 < doc.height := by
  intro count
  have hsame : ∀ depth depth' : Nat, min doc.height count ≤ depth →
      min doc.height count ≤ depth' → doc.find? path depth = doc.find? path depth' := by
    intro depth depth' h h'
    rw [Json.find?, Json.find?, descend_eq_of_le _ _ depth depth' h h']
  refine ⟨hsame, ?_⟩
  intro depth hdepth
  by_cases hdeep : 64 < count ∧ 64 < doc.height
  · exact .inr hdeep
  · have hbound : min doc.height count ≤ ({} : View).depth := by
      show min doc.height count ≤ 64
      omega
    exact .inl (hsame _ _ (hbound.trans hdepth) hbound)

/-- Three containers in each other hold what a path of five segments names. -/
def flattened : Json :=
  .object [("a", .array [.object [("b.c.d", .string "found")]])]

/-- Three steps are as good as any number, and two are too few. -/
theorem find?_flattened_boundary :
    (∀ depth : Nat, 3 ≤ depth → flattened.find? "a.0.b.c.d" depth = some (.string "found")) ∧
      flattened.find? "a.0.b.c.d" 2 = none := by
  have hheight : flattened.height = 3 := by decide
  refine ⟨fun depth hdepth => ?_, rfl⟩
  have hbound : min flattened.height (segments (normalize "a.0.b.c.d".toList)).length ≤ 3 := by
    rw [hheight]
    exact Nat.min_le_left _ _
  exact (find?_eq_of_deep flattened "a.0.b.c.d").1 depth 3 (hbound.trans hdepth) hbound

end Path

end LogDigest
