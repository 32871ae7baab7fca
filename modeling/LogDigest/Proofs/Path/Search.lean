import LogDigest.Proofs.Path.Derivation

/-!
# The search for a path

The search tries the steps of a value in the order of derivations and goes back where a step leads
nowhere within the bound.  What it finds is therefore the value of the first derivation, and it
finds nothing only if every derivation takes more steps than the bound allows.
-/

namespace LogDigest.Path

/-! ## Indices -/

private theorem foldl_digits (digits : List Char) :
    digits.foldl (fun n c => 10 * n + (c.toNat - '0'.toNat)) 0 =
      Nat.ofDigits 10 (digits.reverse.map fun c => c.toNat - '0'.toNat) := by
  rw [Nat.ofDigits_eq_foldr, List.foldr_map, List.foldr_reverse]
  simp only [Nat.cast_id, Nat.add_comm]

private theorem natural?_eq_some_iff {s : List Char} {n : Nat} :
    Text.natural? s = some n ↔ s ≠ [] ∧ (∀ c ∈ s, c.isDigit) ∧
      n = Nat.ofDigits 10 (s.reverse.map fun c => c.toNat - '0'.toNat) := by
  rw [Text.natural?, foldl_digits]
  generalize Nat.ofDigits 10 (s.reverse.map fun c => c.toNat - '0'.toNat) = number
  by_cases hs : s = []
  · simp [hs]
  · by_cases hdigits : ∀ c ∈ s, c.isDigit
    · simp only [List.isEmpty_iff, hs, List.all_eq_true.mpr hdigits, Bool.not_true, Bool.or_false,
        if_false, Option.some.injEq, ne_eq, not_false_eq_true, true_and]
      exact ⟨fun h => ⟨hdigits, h.symm⟩, fun h => h.2.symm⟩
    · simp [hs, hdigits]

private theorem withoutPlus_eq_iff {s digits : List Char} (h : ∀ c ∈ digits, c.isDigit) :
    Text.withoutPlus s = digits ↔ s = digits ∨ s = '+' :: digits := by
  have hplus : '+' ∉ digits := by
    intro hmem
    exact absurd (h '+' hmem) (by decide)
  unfold Text.withoutPlus
  split
  · next rest =>
    have hne : '+' :: rest ≠ digits := by
      rintro rfl
      exact hplus List.mem_cons_self
    simp [hne]
  · next hfirst =>
    have hne : s ≠ '+' :: digits := fun heq => hfirst digits heq
    simp [hne]

private theorem index?_eq_some_iff {name : List Char} {index : Nat} :
    index? name = some index ↔ SpellsIndex name index := by
  rw [index?, Text.unsigned64?, Option.filter_eq_some_iff, natural?_eq_some_iff,
    decide_eq_true_iff]
  constructor
  · rintro ⟨⟨hsome, hdigits, hindex⟩, hlt⟩
    exact ⟨_, (withoutPlus_eq_iff hdigits).mp rfl, hsome, hdigits, hindex, hlt⟩
  · rintro ⟨digits, hname, hsome, hdigits, hindex, hlt⟩
    rw [← withoutPlus_eq_iff hdigits] at hname
    rw [hname]
    exact ⟨⟨hsome, hdigits, hindex⟩, hlt⟩

example : index? ['+', '0', '7'] = some 7 := by decide

/-! ## Names -/

theorem segments_ne_nil (path : List Char) : segments path ≠ [] :=
  List.splitOn_ne_nil _ _

theorem keyOf_segments (path : List Char) : keyOf (segments path) = String.ofList path := by
  rw [keyOf, segments, List.intercalate_splitOn]

/-! ## The choices at a value -/

/-- The members of an object that a run of segments names, with the steps to them. -/
def named (members : List (String × Json)) (names : List (List Char)) : List (Step × Json) :=
  ((members.lookup (keyOf names)).toList.map fun child =>
      (.member names.length false (keyOf names), child)) ++
    (members.filter fun (key, _) =>
      key != keyOf names && Text.lower key.toList == Text.lower (keyOf names).toList).map
        fun (key, child) => (.member names.length true key, child)

/-- The choices at a value, in the order in which the search tries them. -/
def choices : Json → List (List Char) → List (Step × List (List Char) × Json)
  | .array items, name :: rest =>
    ((index? name).bind fun i => items[i]?.map fun item => (.item i, rest, item)).toList
  | .object members, names =>
    (splits names).flatMap fun (front, back) =>
      (named members front).map fun (step, child) => (step, back, child)
  | _, _ => []

private theorem findSome?_flatMap {α β γ : Type} (f : β → Option γ) (g : α → List β) (l : List α) :
    (l.flatMap g).findSome? f = l.findSome? fun x => (g x).findSome? f := by
  induction l with
  | nil => rfl
  | cons x rest ih =>
    rw [List.flatMap_cons, List.findSome?_append, ih, List.findSome?_cons]
    cases (g x).findSome? f with
    | none => rfl
    | some value => rfl

theorem candidates_eq_map_named (members : List (String × Json)) (names : List (List Char)) :
    candidates members (keyOf names) = (named members names).map (·.2) := by
  simp [candidates, named, Function.comp_def]

theorem descend_succ (bound : Nat) (doc : Json) (name : List Char) (rest : List (List Char)) :
    descend (bound + 1) doc (name :: rest) =
      (choices doc (name :: rest)).findSome? fun (_, rest, child) => descend bound child rest := by
  cases doc with
  | array items =>
    rw [descend, choices]
    cases index? name with
    | none => rfl
    | some i =>
      cases h : items[i]? with
      | none => simp [h]
      | some item => simp [h]
  | object members =>
    rw [descend, choices, findSome?_flatMap]
    simp only [candidates_eq_map_named, List.findSome?_map, Function.comp_def]
  | _ => rfl

theorem mem_splits {α : Type} {names front back : List α} :
    (front, back) ∈ splits names ↔ front ≠ [] ∧ front ++ back = names := by
  induction names generalizing front with
  | nil =>
    simp only [splits, List.not_mem_nil, false_iff, not_and, List.append_eq_nil_iff]
    exact fun hfront hnil _ => hfront hnil
  | cons name names ih =>
    rw [splits, List.mem_cons, List.mem_map]
    constructor
    · rintro (h | ⟨⟨front', back'⟩, hmem, h⟩)
      · cases h
        exact ⟨by simp, rfl⟩
      · cases h
        exact ⟨by simp, congrArg (name :: ·) (ih.mp hmem).2⟩
    · rintro ⟨hfront, happend⟩
      cases front with
      | nil => exact absurd rfl hfront
      | cons first front =>
        obtain ⟨rfl, rfl⟩ := List.cons.inj happend
        by_cases hnil : front = []
        · subst hnil
          exact .inl rfl
        · exact .inr ⟨(front, back), ih.mpr ⟨hnil, rfl⟩, rfl⟩

private theorem pairwise_splits {α : Type} (names : List α) :
    (splits names).Pairwise fun first second => first.1.length < second.1.length := by
  induction names with
  | nil => exact .nil
  | cons name rest ih =>
    rw [splits, List.pairwise_cons, List.pairwise_map]
    constructor
    · intro split hsplit
      obtain ⟨⟨front, back⟩, hmem, rfl⟩ := List.mem_map.mp hsplit
      have hfront := List.length_pos_of_ne_nil (mem_splits.mp hmem).1
      simpa using hfront
    · exact ih.imp fun h => by simpa using h

private theorem mem_named {members : List (String × Json)} {names : List (List Char)} {step : Step}
    {child : Json} (h : Json.Ascending members) :
    (step, child) ∈ named members names ↔
      (step = .member names.length false (keyOf names) ∧ (keyOf names, child) ∈ members) ∨
        ∃ key, step = .member names.length true key ∧ (key, child) ∈ members ∧
          key ≠ keyOf names ∧ Text.lower key.toList = Text.lower (keyOf names).toList := by
  rw [named, List.mem_append, List.mem_map, List.mem_map]
  refine or_congr ?_ ?_
  · constructor
    · rintro ⟨_, hlookup, heq⟩
      cases heq
      rw [Option.mem_toList, Json.lookup_eq_some_iff_mem h] at hlookup
      exact ⟨rfl, hlookup⟩
    · rintro ⟨rfl, hmem⟩
      rw [← Json.lookup_eq_some_iff_mem h, ← Option.mem_toList] at hmem
      exact ⟨child, hmem, rfl⟩
  · constructor
    · rintro ⟨⟨key, _⟩, hmem, heq⟩
      cases heq
      rw [List.mem_filter, Bool.and_eq_true, bne_iff_ne, beq_iff_eq] at hmem
      exact ⟨key, rfl, hmem⟩
    · rintro ⟨key, rfl, hmem⟩
      refine ⟨(key, child), ?_, rfl⟩
      rw [List.mem_filter, Bool.and_eq_true, bne_iff_ne, beq_iff_eq]
      exact hmem

theorem mem_choices {doc child : Json} {names rest : List (List Char)} {step : Step}
    (hdoc : doc.Ordered) :
    (step, rest, child) ∈ choices doc names ↔ Takes doc names step rest child := by
  cases doc with
  | array items =>
    cases names with
    | nil => simp [choices, not_takes_nil]
    | cons name names =>
      simp only [choices, Option.mem_toList, Option.bind_eq_some_iff,
        Option.map_eq_some_iff, index?_eq_some_iff]
      constructor
      · rintro ⟨i, hspells, item, hitem, heq⟩
        cases heq
        exact .item hspells hitem
      · intro h
        cases h with
        | item spells inside => exact ⟨_, spells, _, inside, rfl⟩
  | object members =>
    rw [choices, List.mem_flatMap]
    constructor
    · rintro ⟨⟨front, back⟩, hsplit, hmem⟩
      obtain ⟨⟨_, _⟩, hnamed, heq⟩ := List.mem_map.mp hmem
      cases heq
      obtain ⟨hfront, rfl⟩ := mem_splits.mp hsplit
      rcases (mem_named hdoc.ascending).mp hnamed with ⟨rfl, hchild⟩ | ⟨key, rfl, hchild, hne, hlower⟩
      · exact .exact hfront hchild
      · exact .folded hfront hchild hne hlower
    · intro h
      cases h with
      | exact nonempty named =>
        refine ⟨_, mem_splits.mpr ⟨nonempty, rfl⟩, List.mem_map.mpr ⟨(_, child), ?_, rfl⟩⟩
        exact (mem_named hdoc.ascending).mpr (.inl ⟨rfl, named⟩)
      | folded nonempty named differs alike =>
        refine ⟨_, mem_splits.mpr ⟨nonempty, rfl⟩, List.mem_map.mpr ⟨(_, child), ?_, rfl⟩⟩
        exact (mem_named hdoc.ascending).mpr (.inr ⟨_, rfl, named, differs, alike⟩)
  | _ =>
    simp only [choices, List.not_mem_nil, false_iff]
    intro h
    cases h

private theorem pairwise_named {members : List (String × Json)} (names : List (List Char))
    (h : Json.Ascending members) :
    (named members names).Pairwise fun first second => Precedes first.1 second.1 := by
  rw [named, List.pairwise_append]
  refine ⟨?_, ?_, ?_⟩
  · cases members.lookup (keyOf names) with
    | none => exact .nil
    | some child => exact List.pairwise_singleton _ _
  · rw [List.pairwise_map]
    exact (h.filter _).imp fun hlt => .ascending hlt
  · intro first hfirst second hsecond
    obtain ⟨_, -, rfl⟩ := List.mem_map.mp hfirst
    obtain ⟨_, -, rfl⟩ := List.mem_map.mp hsecond
    exact .exact

private theorem count_of_mem_named {members : List (String × Json)} {names : List (List Char)}
    {choice : Step × Json} (h : choice ∈ named members names) :
    ∃ folded key, choice.1 = .member names.length folded key := by
  rw [named, List.mem_append, List.mem_map, List.mem_map] at h
  rcases h with ⟨_, -, rfl⟩ | ⟨_, -, rfl⟩
  · exact ⟨_, _, rfl⟩
  · exact ⟨_, _, rfl⟩

private theorem pairwise_choices {doc : Json} (names : List (List Char)) (hdoc : doc.Ordered) :
    (choices doc names).Pairwise fun first second => Precedes first.1 second.1 := by
  cases doc with
  | array items =>
    cases names with
    | nil => exact .nil
    | cons name names =>
      rw [choices]
      cases (index? name).bind fun i => items[i]?.map fun item => (Step.item i, names, item) with
      | none => exact .nil
      | some choice => exact List.pairwise_singleton _ _
  | object members =>
    rw [choices, List.pairwise_flatMap]
    constructor
    · intro split _
      rw [List.pairwise_map]
      exact pairwise_named split.1 hdoc.ascending
    · refine (pairwise_splits names).imp ?_
      intro first second hlt choice hchoice choice' hchoice'
      obtain ⟨named, hnamed, rfl⟩ := List.mem_map.mp hchoice
      obtain ⟨named', hnamed', rfl⟩ := List.mem_map.mp hchoice'
      obtain ⟨_, _, hstep⟩ := count_of_mem_named hnamed
      obtain ⟨_, _, hstep'⟩ := count_of_mem_named hnamed'
      rw [hstep, hstep']
      exact .shorter hlt
  | _ => exact .nil

/-! ## The search -/

theorem descend_nil (bound : Nat) (doc : Json) : descend bound doc [] = some doc := by
  rw [descend]

theorem lt_length_of_descend_eq_none {doc : Json} {bound : Nat} {names : List (List Char)}
    (hdoc : doc.Ordered) (h : descend bound doc names = none) {steps : List Step} {value : Json}
    (hderives : Derives doc names steps value) : bound < steps.length := by
  -- Along the derivation: each of its steps is a choice that the search tried in vain.
  induction hderives generalizing bound with
  | done => rw [descend_nil] at h; cases h
  | @step doc child value names rest step steps takes _ ih =>
    cases names with
    | nil => exact absurd takes not_takes_nil
    | cons name names =>
      cases bound with
      | zero => exact Nat.succ_pos _
      | succ bound =>
        rw [descend_succ, List.findSome?_eq_none_iff] at h
        have hchild := h (step, rest, child) ((mem_choices hdoc).mpr takes)
        exact Nat.succ_lt_succ (ih (takes.ordered hdoc) hchild)

/-- A choice before the first derivation from its value makes a first derivation, if all
derivations through earlier choices are too long. -/
theorem isLeast_step {doc child value : Json} {names rest : List (List Char)} {bound : Nat}
    {step : Step} {steps : List Step} {before after : List (Step × List (List Char) × Json)}
    (hdoc : doc.Ordered) (hchoices : choices doc names = before ++ (step, rest, child) :: after)
    (hbefore : ∀ choice ∈ before, ∀ steps value, Derives choice.2.2 choice.2.1 steps value →
      bound < steps.length)
    (h : IsLeast child rest bound steps value) :
    IsLeast doc names (bound + 1) (step :: steps) value := by
  have htakes : Takes doc names step rest child := by
    rw [← mem_choices hdoc, hchoices]
    exact List.mem_append_right _ List.mem_cons_self
  have horder := pairwise_choices names hdoc
  rw [hchoices, List.pairwise_append, List.pairwise_cons] at horder
  refine ⟨.step htakes h.derives, Nat.succ_le_succ h.within, ?_⟩
  intro other value' hother hlength
  cases hother with
  | done => exact absurd htakes not_takes_nil
  | @step _ child' _ _ rest' step' steps' takes' derives' =>
    have hwithin : steps'.length ≤ bound := Nat.le_of_succ_le_succ hlength
    have hmem := (mem_choices hdoc).mpr takes'
    rw [hchoices, List.mem_append, List.mem_cons] at hmem
    -- The other derivation begins with an earlier choice, with the same, or with a later one.
    rcases hmem with hmem | heq | hmem
    · exact absurd hwithin (Nat.not_le.mpr (hbefore _ hmem _ _ derives'))
    · cases heq
      rcases h.least _ _ derives' hwithin with rfl | hlex
      · exact .inl rfl
      · exact .inr (.cons hlex)
    · exact .inr (.rel (horder.2.1.1 _ hmem))

private theorem isLeast_nil (doc : Json) (bound : Nat) : IsLeast doc [] bound [] doc := by
  refine ⟨.done doc, Nat.zero_le _, ?_⟩
  intro other value hother _
  exact .inl (derives_nil_iff.mp hother).1.symm

/-- What the search finds is the value of the first derivation within the bound. -/
theorem isLeast_of_descend {doc value : Json} {bound : Nat} {names : List (List Char)}
    (hdoc : doc.Ordered) (h : descend bound doc names = some value) :
    ∃ steps, IsLeast doc names bound steps value := by
  induction bound generalizing doc names with
  | zero =>
    cases names with
    | nil =>
      rw [descend_nil] at h
      cases h
      exact ⟨[], isLeast_nil _ 0⟩
    | cons name names => rw [descend] at h; cases h
  | succ bound ih =>
    cases names with
    | nil =>
      rw [descend_nil] at h
      cases h
      exact ⟨[], isLeast_nil _ _⟩
    | cons name names =>
      rw [descend_succ, List.findSome?_eq_some_iff] at h
      obtain ⟨before, ⟨step, rest, child⟩, after, hchoices, hfound, hbefore⟩ := h
      have hordered : ∀ choice ∈ choices doc (name :: names), choice.2.2.Ordered := by
        intro choice hchoice
        exact ((mem_choices hdoc).mp hchoice).ordered hdoc
      rw [hchoices] at hordered
      have hchild := hordered (step, rest, child) (List.mem_append_right _ List.mem_cons_self)
      obtain ⟨steps, hleast⟩ := ih hchild hfound
      refine ⟨step :: steps, isLeast_step hdoc hchoices ?_ hleast⟩
      intro choice hchoice steps value hderives
      have hordered' := hordered choice (List.mem_append_left _ hchoice)
      exact lt_length_of_descend_eq_none hordered' (hbefore choice hchoice) hderives

theorem descend_eq_none_iff {doc : Json} {bound : Nat} {names : List (List Char)}
    (hdoc : doc.Ordered) :
    descend bound doc names = none ↔
      ∀ steps value, Derives doc names steps value → bound < steps.length := by
  constructor
  · intro h steps value hderives
    exact lt_length_of_descend_eq_none hdoc h hderives
  · intro h
    rw [Option.eq_none_iff_forall_ne_some]
    intro value hfound
    obtain ⟨steps, hleast⟩ := isLeast_of_descend hdoc hfound
    exact Nat.not_lt.mpr hleast.within (h steps value hleast.derives)

theorem descend_eq_some_iff {doc value : Json} {bound : Nat} {names : List (List Char)}
    (hdoc : doc.Ordered) :
    descend bound doc names = some value ↔ ∃ steps, IsLeast doc names bound steps value := by
  constructor
  · exact isLeast_of_descend hdoc
  · rintro ⟨steps, hleast⟩
    cases hfound : descend bound doc names with
    | none =>
      have hlong := lt_length_of_descend_eq_none hdoc hfound hleast.derives
      exact absurd hleast.within (Nat.not_le.mpr hlong)
    | some found =>
      obtain ⟨steps', hleast'⟩ := isLeast_of_descend hdoc hfound
      exact congrArg some (hleast'.unique hdoc hleast).2

/-! ## Paths -/

theorem get?_eq_some_iff {doc value : Json} {key : String} (hdoc : doc.Ordered) :
    doc.get? key = some value ↔ (key, value) ∈ doc.members := by
  cases doc with
  | object members => exact Json.lookup_eq_some_iff_mem hdoc.ascending
  | _ => simp [Json.get?, Json.members]

/-- A path names the member whose key is the whole path, at any depth; without one, the value of
the first derivation within the depth, and nothing only if there is no such derivation. -/
theorem find?_priority (doc : Json.Document) (path : String) (depth : Nat) :
    (∀ value, (String.ofList (normalize path.toList), value) ∈ doc.json.members →
      doc.json.find? path depth = some value) ∧
    ((∀ value, (String.ofList (normalize path.toList), value) ∉ doc.json.members) →
      (doc.json.find? path depth = none ↔
        ∀ steps value, Derives doc.json (segments (normalize path.toList)) steps value →
          depth < steps.length) ∧
      ∀ value, doc.json.find? path depth = some value ↔
        ∃ steps, IsLeast doc.json (segments (normalize path.toList)) depth steps value) := by
  obtain ⟨doc, hdoc⟩ := doc
  constructor
  · intro value hmem
    rw [← get?_eq_some_iff hdoc] at hmem
    rw [Json.find?, hmem]
  · intro hnone
    have hget : doc.get? (String.ofList (normalize path.toList)) = none := by
      rw [Option.eq_none_iff_forall_ne_some]
      intro value hvalue
      exact hnone value ((get?_eq_some_iff hdoc).mp hvalue)
    have hfind : doc.find? path depth =
        descend depth doc (segments (normalize path.toList)) := by
      rw [Json.find?, hget]
    rw [hfind]
    exact ⟨descend_eq_none_iff hdoc, fun value => descend_eq_some_iff hdoc⟩

/-- The exact member `a` is a dead end, so that the first derivation leads through `A`. -/
theorem find?_priority_goes_back :
    ∃ steps, IsLeast
      (.object [("A", .object [("b", .string "found")]), ("a", .object [("c", .null)])])
      (segments (normalize "a.b".toList)) 2 steps (.string "found") := by
  have hdoc : (Json.object [("A", .object [("b", .string "found")]),
      ("a", .object [("c", .null)])]).Ordered :=
    Json.ordered_pair (by decide) (Json.ordered_single "b" (.string _))
      (Json.ordered_single "c" .null)
  refine ((find?_priority ⟨_, hdoc⟩ "a.b" 2).2 ?_).2 _ |>.mp rfl
  intro value hmem
  have hbare : String.ofList (normalize "a.b".toList) = "a.b" := rfl
  rw [hbare] at hmem
  simp [Json.members] at hmem

end LogDigest.Path
