import LogDigest.Path
import LogDigest.Proofs.Json.Ordered
import Mathlib.Data.List.Lex
import Mathlib.Data.Nat.Digits.Defs

/-!
# Derivations

A derivation follows a path from a value to another, one step at a value, and takes every segment
of the path.  It says nothing about a search: at an object it may take any run of segments and
any member that the run names, exactly or but for letter case.  Derivations are ordered as the
choices at the first object where they part.
-/

namespace LogDigest.Path

/-! ## Steps -/

/-- A text spells an index by decimal digits after an optional plus sign; the index is below
`2 ^ 64`. -/
def SpellsIndex (name : List Char) (index : Nat) : Prop :=
  ∃ digits : List Char, (name = digits ∨ name = '+' :: digits) ∧ digits ≠ [] ∧
    (∀ c ∈ digits, c.isDigit) ∧
    index = Nat.ofDigits 10 (digits.reverse.map fun c => c.toNat - '0'.toNat) ∧ index < 2 ^ 64

/-- A step leads to an item of an array, or to the member `key` of an object that `count` segments
name; `folded` if the two differ in letter case. -/
inductive Step where
  | item (index : Nat)
  | member (count : Nat) (folded : Bool) (key : String)
deriving DecidableEq

/-- The step that may be taken at a value before some segments, the segments it leaves, and the
value it leads to. -/
inductive Takes : Json → List (List Char) → Step → List (List Char) → Json → Prop where
  | item {items : List Json} {name : List Char} {rest : List (List Char)} {index : Nat}
      {child : Json} (spells : SpellsIndex name index) (inside : items[index]? = some child) :
      Takes (.array items) (name :: rest) (.item index) rest child
  | exact {members : List (String × Json)} {names rest : List (List Char)} {child : Json}
      (nonempty : names ≠ []) (named : (keyOf names, child) ∈ members) :
      Takes (.object members) (names ++ rest) (.member names.length false (keyOf names)) rest child
  | folded {members : List (String × Json)} {names rest : List (List Char)} {key : String}
      {child : Json} (nonempty : names ≠ []) (named : (key, child) ∈ members)
      (differs : key ≠ keyOf names)
      (alike : Text.lower key.toList = Text.lower (keyOf names).toList) :
      Takes (.object members) (names ++ rest) (.member names.length true key) rest child

/-- The steps that lead from a value to another and take all of some segments. -/
inductive Derives : Json → List (List Char) → List Step → Json → Prop where
  | done (value : Json) : Derives value [] [] value
  | step {doc child value : Json} {names rest : List (List Char)} {step : Step}
      {steps : List Step} (takes : Takes doc names step rest child)
      (derives : Derives child rest steps value) : Derives doc names (step :: steps) value

/-! ## The order of derivations -/

/-- The order of the choices at one object: fewer segments first, for as many segments the exact
key before the others, and those in the order of keys. -/
inductive Precedes : Step → Step → Prop where
  | shorter {count count' : Nat} {folded folded' : Bool} {key key' : String}
      (less : count < count') : Precedes (.member count folded key) (.member count' folded' key')
  | exact {count : Nat} {key key' : String} :
      Precedes (.member count false key) (.member count true key')
  | ascending {count : Nat} {key key' : String} (less : key < key') :
      Precedes (.member count true key) (.member count true key')

structure IsLeast (doc : Json) (names : List (List Char)) (bound : Nat) (steps : List Step)
    (value : Json) : Prop where
  derives : Derives doc names steps value
  within : steps.length ≤ bound
  least : ∀ other value', Derives doc names other value' → other.length ≤ bound →
    steps = other ∨ List.Lex Precedes steps other

instance : Std.Asymm Precedes where
  asymm := by
    intro first second h h'
    cases h with
    | shorter less =>
      cases h' with
      | shorter less' => exact Nat.lt_asymm less less'
      | exact => exact Nat.lt_irrefl _ less
      | ascending _ => exact Nat.lt_irrefl _ less
    | exact =>
      cases h' with
      | shorter less' => exact Nat.lt_irrefl _ less'
    | ascending less =>
      cases h' with
      | shorter less' => exact Nat.lt_irrefl _ less'
      | ascending less' => exact String.lt_irrefl _ (String.lt_trans less less')

/-! ## What a step determines -/

theorem Takes.ordered {doc child : Json} {names rest : List (List Char)} {step : Step}
    (h : Takes doc names step rest child) (hdoc : doc.Ordered) : child.Ordered := by
  cases h with
  | item _ inside => exact hdoc.item (List.mem_of_getElem? inside)
  | exact _ named => exact hdoc.value named
  | folded _ named _ _ => exact hdoc.value named

theorem not_takes_nil {doc child : Json} {rest : List (List Char)} {step : Step} :
    ¬ Takes doc [] step rest child := by
  intro h
  generalize hnames : ([] : List (List Char)) = names at h
  cases h with
  | item _ _ => cases hnames
  | exact nonempty _ => exact nonempty (List.append_eq_nil_iff.mp hnames.symm).1
  | folded nonempty _ _ _ => exact nonempty (List.append_eq_nil_iff.mp hnames.symm).1

theorem Takes.of_item {doc child : Json} {names rest : List (List Char)} {index : Nat}
    (h : Takes doc names (.item index) rest child) :
    rest = names.tail ∧ ∃ items, doc = .array items ∧ items[index]? = some child := by
  cases h with
  | item _ inside => exact ⟨rfl, _, rfl, inside⟩

theorem Takes.of_member {doc child : Json} {names rest : List (List Char)} {count : Nat}
    {folded : Bool} {key : String} (h : Takes doc names (.member count folded key) rest child) :
    rest = names.drop count ∧ ∃ members, doc = .object members ∧ (key, child) ∈ members := by
  cases h with
  | exact _ named => exact ⟨List.drop_left.symm, _, rfl, named⟩
  | folded _ named _ _ => exact ⟨List.drop_left.symm, _, rfl, named⟩

theorem Takes.unique {doc child child' : Json} {names rest rest' : List (List Char)} {step : Step}
    (hdoc : doc.Ordered) (h : Takes doc names step rest child)
    (h' : Takes doc names step rest' child') : rest = rest' ∧ child = child' := by
  cases step with
  | item index =>
    obtain ⟨hrest, items, rfl, hchild⟩ := h.of_item
    obtain ⟨hrest', _, hitems, hchild'⟩ := h'.of_item
    cases hitems
    rw [hchild] at hchild'
    exact ⟨hrest.trans hrest'.symm, Option.some.inj hchild'⟩
  | member count folded key =>
    obtain ⟨hrest, members, rfl, hchild⟩ := h.of_member
    obtain ⟨hrest', _, hmembers, hchild'⟩ := h'.of_member
    cases hmembers
    exact ⟨hrest.trans hrest'.symm, Json.value_unique hdoc.ascending hchild hchild'⟩

theorem Derives.unique {doc value value' : Json} {names : List (List Char)} {steps : List Step}
    (hdoc : doc.Ordered) (h : Derives doc names steps value)
    (h' : Derives doc names steps value') : value = value' := by
  induction h with
  | done value =>
    cases h' with
    | done => rfl
  | step takes _ ih =>
    cases h' with
    | step takes' derives' =>
      obtain ⟨rfl, rfl⟩ := takes.unique hdoc takes'
      exact ih (takes.ordered hdoc) derives'

theorem derives_nil_iff {doc value : Json} {steps : List Step} :
    Derives doc [] steps value ↔ steps = [] ∧ doc = value := by
  constructor
  · intro h
    cases h with
    | done => exact ⟨rfl, rfl⟩
    | step takes _ => exact absurd takes not_takes_nil
  · rintro ⟨rfl, rfl⟩
    exact .done _

theorem IsLeast.unique {doc value value' : Json} {names : List (List Char)} {bound : Nat}
    {steps steps' : List Step} (hdoc : doc.Ordered) (h : IsLeast doc names bound steps value)
    (h' : IsLeast doc names bound steps' value') : steps = steps' ∧ value = value' := by
  have hsteps : steps = steps' := by
    rcases h.least steps' value' h'.derives h'.within with heq | hlex
    · exact heq
    · rcases h'.least steps value h.derives h.within with heq | hlex'
      · exact heq.symm
      · exact absurd hlex' (Std.Asymm.asymm _ _ hlex)
  subst hsteps
  exact ⟨rfl, h.derives.unique hdoc h'.derives⟩

end LogDigest.Path
