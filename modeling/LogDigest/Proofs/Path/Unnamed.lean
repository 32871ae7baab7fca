import LogDigest.Proofs.Path.Search
import Mathlib.Data.List.Forall2
import Mathlib.Data.List.Infix

/-!
# Members that a path does not name

A search looks up the keys that runs of the names of a path spell, and those that differ from them
in letter case.  Members with other keys may be added to the objects of a document, wherever they
are nested: the path names a value as before, and the same one but for added members inside it.
-/

namespace LogDigest.Path

/-! ## Documents with added members -/

/-- No run of the names spells a key, whatever the case of its letters. -/
def Unnamed (names : List (List Char)) (key : String) : Prop :=
  ∀ run, run ≠ [] → run <:+: names → Text.lower key.toList ≠ Text.lower (keyOf run).toList

/-- The members of an object, with related values, among which others were added. -/
inductive Widened (extra : String → Prop) (related : Json → Json → Prop) :
    List (String × Json) → List (String × Json) → Prop where
  | nil : Widened extra related [] []
  | kept {members members' : List (String × Json)} {value value' : Json} (key : String)
      (value_related : related value value') (rest : Widened extra related members members') :
      Widened extra related ((key, value) :: members) ((key, value') :: members')
  | added {members members' : List (String × Json)} {key : String} (extra_key : extra key)
      (value : Json) (rest : Widened extra related members members') :
      Widened extra related members ((key, value) :: members')

/-- A document to whose objects members with some keys were added, at any level. -/
inductive Extends (extra : String → Prop) : Json → Json → Prop where
  | scalar {value : Json} (isScalar : value.isContainer = false) : Extends extra value value
  | array {items items' : List Json} (each : List.Forall₂ (Extends extra) items items') :
      Extends extra (.array items) (.array items')
  | object {members members' : List (String × Json)}
      (each : Widened extra (Extends extra) members members') :
      Extends extra (.object members) (.object members')

variable {extra : String → Prop} {related : Json → Json → Prop} {doc doc' value value' : Json}
  {members members' : List (String × Json)} {key : String} {names rest : List (List Char)}

theorem Extends.isContainer_eq (h : Extends extra value value') :
    value.isContainer = value'.isContainer := by
  cases h with
  | scalar => rfl
  | array => rfl
  | object => rfl

theorem Extends.eq_of_scalar (h : Extends extra value value')
    (hscalar : value.isContainer = false) : value' = value := by
  cases h with
  | scalar => rfl
  | array => cases hscalar
  | object => cases hscalar

theorem widened_self (h : ∀ member ∈ members, related member.2 member.2) :
    Widened extra related members members := by
  induction members with
  | nil => exact .nil
  | cons member members ih =>
    rw [List.forall_mem_cons] at h
    exact .kept _ h.1 (ih h.2)

private theorem extends_self (h : doc.Ordered) : Extends extra doc doc := by
  induction h with
  | array _ ih => exact .array (List.forall₂_same.2 ih)
  | object _ _ ih => exact .object (widened_self ih)
  | _ => exact .scalar rfl

/-- A member with a new key is added where it belongs in the order of keys. -/
theorem extends_insertMember (h : (Json.object members).Ordered) (value : Json)
    (hextra : extra key) (hnew : key ∉ members.map Prod.fst) :
    Extends extra (.object members) (.object (Json.insertMember key value members)) := by
  have hself : ∀ member ∈ members, Extends extra member.2 member.2 :=
    fun member hmember => extends_self (h.value hmember)
  refine .object ?_
  clear h
  induction members with
  | nil => exact .added hextra value .nil
  | cons member members ih =>
    obtain ⟨k, v⟩ := member
    rw [List.map_cons, List.mem_cons, not_or] at hnew
    rw [Json.insertMember, if_neg hnew.1]
    split
    · exact .added hextra value (widened_self hself)
    · rw [List.forall_mem_cons] at hself
      exact .kept k hself.1 (ih hnew.2 hself.2)

/-! ## What a key names -/

theorem Widened.lookup (h : Widened extra related members members') (hkey : ¬ extra key) :
    Option.Rel related (members.lookup key) (members'.lookup key) := by
  induction h with
  | nil => exact .none
  | kept k hvalue _ ih =>
    rw [List.lookup_cons, List.lookup_cons]
    cases key == k with
    | true => exact .some hvalue
    | false => exact ih
  | @added _ _ k hextra _ _ ih =>
    have hne : (key == k) = false := beq_false_of_ne fun heq => hkey (heq ▸ hextra)
    rw [List.lookup_cons, hne]
    exact ih

private theorem forall₂_toList {α β : Type} {R : α → β → Prop} {first : Option α}
    {second : Option β}
    (h : Option.Rel R first second) : List.Forall₂ R first.toList second.toList := by
  cases h with
  | some hvalue => exact .cons hvalue .nil
  | none => exact .nil

/-- The members that a key names, exactly or but for letter case, are those it named before. -/
theorem Widened.candidates (h : Widened extra related members members')
    (hkey : ∀ k, extra k → Text.lower k.toList ≠ Text.lower key.toList) :
    List.Forall₂ related (candidates members key) (candidates members' key) := by
  have hexact : Option.Rel related (members.lookup key) (members'.lookup key) :=
    h.lookup fun hextra => hkey key hextra rfl
  refine List.rel_append (forall₂_toList hexact) ?_
  rw [List.forall₂_map_left_iff, List.forall₂_map_right_iff]
  clear hexact
  induction h with
  | nil => exact .nil
  | kept k hvalue _ ih =>
    rw [List.filter_cons, List.filter_cons]
    dsimp only
    split
    · exact .cons hvalue ih
    · exact ih
  | added hextra _ _ ih =>
    rw [List.filter_cons_of_neg (by simp [hkey _ hextra])]
    exact ih

theorem Extends.get? (h : Extends extra doc doc') (hkey : ¬ extra key) :
    Option.Rel (Extends extra) (doc.get? key) (doc'.get? key) := by
  cases h with
  | scalar hscalar =>
    cases doc with
    | array | object => cases hscalar
    | _ => exact .none
  | array => exact .none
  | object hmembers => exact hmembers.lookup hkey

theorem Extends.item {items items' : List Json} (h : List.Forall₂ (Extends extra) items items')
    (index : Nat) : Option.Rel (Extends extra) items[index]? items'[index]? := by
  induction h generalizing index with
  | nil => exact .none
  | cons hitem _ ih =>
    cases index with
    | zero => exact .some hitem
    | succ index => exact ih index

/-! ## The search -/

private theorem findSome?_rel {α α' β β' : Type} {R : α → α' → Prop} {S : β → β' → Prop}
    {choices : List α} {choices' : List α'} {f : α → Option β} {f' : α' → Option β'}
    (h : List.Forall₂ R choices choices')
    (hf : ∀ choice choice', R choice choice' → Option.Rel S (f choice) (f' choice')) :
    Option.Rel S (choices.findSome? f) (choices'.findSome? f') := by
  induction h with
  | nil => exact .none
  | @cons choice choice' _ _ hchoice _ ih =>
    rw [List.findSome?_cons, List.findSome?_cons]
    have hfound := hf choice choice' hchoice
    generalize f choice = found, f' choice' = found' at hfound
    cases hfound with
    | some hvalue => exact .some hvalue
    | none => exact ih

/-- A step leads to the same places if the search goes on alike from related values. -/
theorem Extends.step {name : List Char} {bound : Nat} (h : Extends (Unnamed names) doc doc')
    (hrest : name :: rest <:+ names)
    (hnext : ∀ {child child' back}, Extends (Unnamed names) child child' → back <:+ names →
      Option.Rel (Extends (Unnamed names)) (descend bound child back) (descend bound child' back)) :
    Option.Rel (Extends (Unnamed names)) (descend (bound + 1) doc (name :: rest))
      (descend (bound + 1) doc' (name :: rest)) := by
  cases h with
  | scalar hscalar =>
    have hnone : descend (bound + 1) doc (name :: rest) = none := by
      cases doc with
      | array | object => cases hscalar
      | _ => rfl
    rw [hnone]
    exact .none
  | @array items items' hitems =>
    rw [descend, descend]
    cases index? name with
    | none => exact .none
    | some index =>
      have hitem := Extends.item hitems index
      dsimp only
      generalize items[index]? = found, items'[index]? = found' at hitem
      cases hitem with
      | some hitem => exact hnext hitem ((List.suffix_cons name rest).trans hrest)
      | none => exact .none
  | object hmembers =>
    rw [descend, descend]
    have hsplits : List.Forall₂
        (fun split split' => split = split' ∧ split ∈ splits (name :: rest))
        (splits (name :: rest)) (splits (name :: rest)) :=
      List.forall₂_same.2 fun split hsplit => ⟨rfl, hsplit⟩
    refine findSome?_rel hsplits ?_
    rintro ⟨front, back⟩ _ ⟨rfl, hsplit⟩
    obtain ⟨hfront, happend⟩ := mem_splits.1 hsplit
    have hrun : front <:+: names :=
      (List.prefix_append front back).isInfix.trans (happend ▸ hrest.isInfix)
    have hback : back <:+ names := (List.suffix_append front back).trans (happend ▸ hrest)
    refine findSome?_rel (hmembers.candidates fun key hkey => hkey front hfront hrun) ?_
    intro child child' hchild
    exact hnext hchild hback

/-- Along names of which no run spells an added key, the search leads to the same places. -/
theorem Extends.descend (h : Extends (Unnamed names) doc doc') (hrest : rest <:+ names)
    (bound : Nat) :
    Option.Rel (Extends (Unnamed names)) (descend bound doc rest) (descend bound doc' rest) := by
  induction bound generalizing doc doc' rest with
  | zero =>
    cases rest with
    | nil =>
      rw [descend_nil, descend_nil]
      exact .some h
    | cons name rest =>
      rw [Path.descend, Path.descend]
      exact .none
  | succ bound ih =>
    cases rest with
    | nil =>
      rw [descend_nil, descend_nil]
      exact .some h
    | cons name rest => exact h.step hrest ih

/-! ## Paths -/

theorem Extends.find? {path : String}
    (h : Extends (Unnamed (segments (normalize path.toList))) doc doc') (depth : Nat) :
    Option.Rel (Extends (Unnamed (segments (normalize path.toList)))) (doc.find? path depth)
      (doc'.find? path depth) := by
  have hwhole : ¬ Unnamed (segments (normalize path.toList))
      (String.ofList (normalize path.toList)) := by
    intro hunnamed
    rw [← keyOf_segments] at hunnamed
    exact hunnamed _ (segments_ne_nil _) (List.infix_refl _) rfl
  have hdirect := h.get? hwhole
  rw [Json.find?, Json.find?]
  generalize doc.get? (String.ofList (normalize path.toList)) = found,
    doc'.get? (String.ofList (normalize path.toList)) = found' at hdirect
  cases hdirect with
  | some hvalue => exact .some hvalue
  | none => exact h.descend (List.suffix_refl _) depth

/-- Members with keys that no run of the names of a path spells may be added anywhere in a
document.  Whether the path names a value does not change, nor does the value but for added
members inside it; a scalar is the same. -/
theorem find?_of_extends (doc doc' : Json) (path : String) (depth : Nat)
    (h : Extends (Unnamed (segments (normalize path.toList))) doc doc') :
    (doc.find? path depth = none ↔ doc'.find? path depth = none) ∧
      ∀ value value', doc.find? path depth = some value → doc'.find? path depth = some value' →
        Extends (Unnamed (segments (normalize path.toList))) value value' ∧
        value.isContainer = value'.isContainer ∧ (value.isContainer = false → value' = value) := by
  have hfound := h.find? depth
  generalize doc.find? path depth = found, doc'.find? path depth = found' at hfound
  cases hfound with
  | none => simp
  | some hvalue =>
    refine ⟨by simp, ?_⟩
    rintro _ _ ⟨⟩ ⟨⟩
    exact ⟨hvalue, hvalue.isContainer_eq, hvalue.eq_of_scalar⟩

/-- `A.B` is no run of `a`, `0` and `b`, since `a` and `b` are not neighbours. -/
theorem unnamed_joined : Unnamed (segments (normalize "a.0.b".toList)) "A.B" := by
  have hnames : segments (normalize "a.0.b".toList) = [['a'], ['0'], ['b']] := rfl
  rw [hnames]
  intro run hsome hrun
  have hcases : run ∈ [[['a']], [['0']], [['b']], [['a'], ['0']], [['0'], ['b']],
      [['a'], ['0'], ['b']]] := by
    simp only [List.infix_cons_iff, List.prefix_cons_iff, List.prefix_nil, List.infix_nil] at hrun
    grind
  simp only [List.mem_cons, List.not_mem_nil, or_false] at hcases
  rcases hcases with rfl | rfl | rfl | rfl | rfl | rfl <;> decide

/-- Members `A.B` beside the member `a` and beside the member `b` inside its array. -/
theorem find?_of_extends_joined :
    (Json.object [("A.B", .null),
      ("a", .array [.object [("A.B", .null), ("b", .string "found")]])]).find? "a.0.b" 3 =
        some (.string "found") := by
  generalize hdoc : Json.object [("a", .array [.object [("b", .string "found")]])] = doc
  generalize hdoc' : Json.object [("A.B", .null),
      ("a", .array [.object [("A.B", .null), ("b", .string "found")]])] = doc'
  have hinner : (Json.object [("b", .string "found")]).Ordered :=
    Json.ordered_single "b" (.string _)
  have hextends : Extends (Unnamed (segments (normalize "a.0.b".toList))) doc doc' := by
    rw [← hdoc, ← hdoc']
    have hitem := extends_insertMember hinner .null unnamed_joined (by decide)
    exact .object (.added unnamed_joined .null (.kept "a" (.array (.cons hitem .nil)) .nil))
  obtain ⟨hnone, hvalue⟩ := find?_of_extends doc doc' "a.0.b" 3 hextends
  have hfound : doc.find? "a.0.b" 3 = some (.string "found") := hdoc ▸ rfl
  cases hfound' : doc'.find? "a.0.b" 3 with
  | none =>
    rw [hnone.2 hfound'] at hfound
    cases hfound
  | some value' => rw [(hvalue _ _ hfound hfound').2.2 rfl]

end LogDigest.Path
