import LogDigest.Proofs.Template.Suffixes

/-!
# Bodies of balanced braces

Braces in quoted runs do not count, and whether a quote begins a run depends on all that follows in
the template, beyond the end of the body.  So a body is a sequence of units, quoted runs and single
characters, that stand before the rest of the text, and it is read exactly where one is written.
-/

namespace LogDigest.Template

open Text (Stops stops_cons)

variable {c quote : Char} {s rest after : List Char} {inner : Nat}

/-! ## Quoted runs -/

/-- One character of a quoted run, by itself or behind a backslash. -/
inductive RunPart (quote : Char) where
  | plain (c : Char) (ne : c ≠ quote ∧ c ≠ '\\')
  | escaped (c : Char)

def RunPart.text : RunPart quote → List Char
  | .plain c _ => [c]
  | .escaped c => ['\\', c]

/-- A quoted run goes up to the next quote of its kind that is not behind a backslash. -/
structure Run where
  quote : Char
  isQuote_quote : isQuote quote = true
  parts : List (RunPart quote)

def Run.text (run : Run) : List Char :=
  enclosed run.quote run.quote (run.parts.flatMap RunPart.text)

/-- A character is not the opening quote of a run, the rest of the text being what it is. -/
def Alone (c : Char) (rest : List Char) : Prop :=
  ∀ run : Run, ¬ run.text <+: c :: rest

theorem ne_backslash_of_isQuote (h : isQuote quote = true) : quote ≠ '\\' := by
  rintro rfl
  cases h

theorem quotedRun?_runParts (hquote : quote ≠ '\\') (parts : List (RunPart quote)) :
    quotedRun? quote (parts.flatMap RunPart.text ++ quote :: rest) =
      some (parts.flatMap RunPart.text ++ [quote], rest) := by
  induction parts with
  | nil => exact quotedRun?_append (s := []) hquote (by simp)
  | cons part parts ih =>
    rw [List.flatMap_cons, List.append_assoc]
    cases part with
    | plain c ne =>
      rw [RunPart.text, List.singleton_append, List.cons_append,
        quotedRun?.eq_3 _ _ _ (fun _ _ h _ => ne.2 h), if_neg ne.1, ih]
      rfl
    | escaped c =>
      simp only [RunPart.text, List.cons_append, List.nil_append, quotedRun?, ih, Option.map_some]

theorem exists_runParts_of_quotedRun? {taken : List Char}
    (h : quotedRun? quote s = some (taken, after)) :
    ∃ parts : List (RunPart quote), taken = parts.flatMap RunPart.text ++ [quote] ∧
      s = parts.flatMap RunPart.text ++ quote :: after := by
  fun_induction quotedRun? quote s generalizing taken after with
  | case1 => cases h
  | case2 c rest ih =>
    obtain ⟨⟨taken, after⟩, hrun, heq⟩ := Option.map_eq_some_iff.1 h
    cases heq
    obtain ⟨parts, rfl, rfl⟩ := ih hrun
    exact ⟨.escaped c :: parts, rfl, rfl⟩
  | case3 rest =>
    cases h
    exact ⟨[], rfl, rfl⟩
  | case4 c rest hslash hne ih =>
    obtain ⟨⟨taken, after⟩, hrun, heq⟩ := Option.map_eq_some_iff.1 h
    cases heq
    obtain ⟨parts, rfl, rfl⟩ := ih hrun
    have hplain : c ≠ '\\' := by
      -- A backslash would have taken the next character along, and there is one.
      rintro rfl
      cases parts with
      | nil => exact hslash _ _ rfl rfl
      | cons part parts => cases part <;> exact hslash _ _ rfl rfl
    exact ⟨.plain c ⟨hne, hplain⟩ :: parts, rfl, rfl⟩

theorem quotedRun?_run (run : Run) :
    quotedRun? run.quote (run.parts.flatMap RunPart.text ++ run.quote :: rest) =
      some (run.parts.flatMap RunPart.text ++ [run.quote], rest) :=
  quotedRun?_runParts (ne_backslash_of_isQuote run.isQuote_quote) run.parts

theorem quotedRun?_eq_none (hquote : isQuote c = true) (h : Alone c rest) :
    quotedRun? c rest = none := by
  by_contra hsome
  obtain ⟨⟨taken, after⟩, hrun⟩ := Option.ne_none_iff_exists'.1 hsome
  obtain ⟨parts, -, rfl⟩ := exists_runParts_of_quotedRun? hrun
  apply h ⟨c, hquote, parts⟩
  exact ⟨after, enclosed_append _ _ _⟩

theorem alone_of_quotedRun? (h : quotedRun? c rest = none) : Alone c rest := by
  rintro run ⟨more, hmore⟩
  rw [Run.text, enclosed_append] at hmore
  obtain ⟨rfl, rfl⟩ := List.cons.inj hmore
  rw [quotedRun?_run] at h
  cases h

theorem alone_of_isQuote (h : isQuote c = false) : Alone c rest := by
  rintro run ⟨more, hmore⟩
  rw [Run.text, enclosed_append] at hmore
  rw [← (List.cons.inj hmore).1, run.isQuote_quote] at h
  cases h

/-! ## Units of a body -/

/-- A quoted run, or a character that begins none. -/
inductive BodyUnit where
  | quoted (run : Run)
  | char (c : Char)

namespace BodyUnit

def text : BodyUnit → List Char
  | .quoted run => run.text
  | .char c => [c]

def opens : BodyUnit → Bool
  | .quoted _ => false
  | .char c => c == '{'

def closes : BodyUnit → Bool
  | .quoted _ => false
  | .char c => c == '}'

/-- A character begins no quoted run, the rest of the text being what it is. -/
def Stands (rest : List Char) : BodyUnit → Prop
  | .quoted _ => True
  | .char c => Alone c rest

end BodyUnit

def unitsText (units : List BodyUnit) : List Char :=
  units.flatMap BodyUnit.text

def openings (units : List BodyUnit) : Nat :=
  units.countP BodyUnit.opens

def closings (units : List BodyUnit) : Nat :=
  units.countP BodyUnit.closes

def Stand : List BodyUnit → List Char → Prop
  | [], _ => True
  | unit :: units, rest => unit.Stands (unitsText units ++ rest) ∧ Stand units rest

/-- From inside `inner` braces below the outermost one, units do not close that one. -/
def StayInside (inner : Nat) (units : List BodyUnit) : Prop :=
  ∀ front, front <+: units → closings front ≤ inner + openings front

variable {unit : BodyUnit} {units : List BodyUnit} {run : Run}

theorem unitsText_cons : unitsText (unit :: units) = unit.text ++ unitsText units :=
  List.flatMap_cons

private theorem unitsText_append (front back : List BodyUnit) :
    unitsText (front ++ back) = unitsText front ++ unitsText back :=
  List.flatMap_append

theorem openings_append (front back : List BodyUnit) :
    openings (front ++ back) = openings front + openings back :=
  List.countP_append

theorem closings_append (front back : List BodyUnit) :
    closings (front ++ back) = closings front + closings back :=
  List.countP_append

theorem openings_cons (unit : BodyUnit) (units : List BodyUnit) :
    openings (unit :: units) = openings [unit] + openings units :=
  openings_append [unit] units

theorem closings_cons (unit : BodyUnit) (units : List BodyUnit) :
    closings (unit :: units) = closings [unit] + closings units :=
  closings_append [unit] units

@[simp] theorem openings_nil : openings [] = 0 := rfl

@[simp] theorem closings_nil : closings [] = 0 := rfl

@[simp] theorem openings_quoted : openings (.quoted run :: units) = openings units := by
  simp [openings, BodyUnit.opens]

@[simp] theorem closings_quoted : closings (.quoted run :: units) = closings units := by
  simp [closings, BodyUnit.closes]

@[simp] theorem openings_char :
    openings (.char c :: units) = openings units + if c = '{' then 1 else 0 := by
  simp [openings, BodyUnit.opens, List.countP_cons]

@[simp] theorem closings_char :
    closings (.char c :: units) = closings units + if c = '}' then 1 else 0 := by
  simp [closings, BodyUnit.closes, List.countP_cons]

private theorem stand_append (front back : List BodyUnit) :
    Stand (front ++ back) rest ↔ Stand front (unitsText back ++ rest) ∧ Stand back rest := by
  induction front with
  | nil => simp [Stand]
  | cons unit front ih =>
    rw [List.cons_append, Stand, Stand, ih, unitsText_append, List.append_assoc, and_assoc]

private theorem stayInside_nil : StayInside inner [] := by
  intro front hfront
  rw [List.prefix_nil.1 hfront]
  exact Nat.zero_le _

theorem stayInside_cons :
    StayInside inner (unit :: units) ↔ closings [unit] ≤ inner + openings [unit] ∧
      StayInside (inner + openings [unit] - closings [unit]) units := by
  constructor
  · intro h
    have hfits := h [unit] (List.cons_prefix_cons.2 ⟨rfl, List.nil_prefix⟩)
    refine ⟨hfits, fun front hfront => ?_⟩
    have hcount := h (unit :: front) (List.cons_prefix_cons.2 ⟨rfl, hfront⟩)
    rw [openings_cons unit front, closings_cons unit front] at hcount
    omega
  · rintro ⟨hfits, hstay⟩ front hfront
    rcases List.prefix_cons_iff.1 hfront with rfl | ⟨tail, rfl, htail⟩
    · exact Nat.zero_le _
    · have hcount := hstay tail htail
      rw [openings_cons unit tail, closings_cons unit tail]
      omega

/-- All that follows a brace stays inside exactly if every beginning leaves a brace open. -/
theorem deeper_iff :
    (∀ front, front <+: .char '{' :: units → front ≠ [] → closings front < openings front) ↔
      StayInside 0 units := by
  constructor
  · intro h front hfront
    have hcount := h (.char '{' :: front) (List.cons_prefix_cons.2 ⟨rfl, hfront⟩)
      (List.cons_ne_nil _ _)
    simp only [openings_char, closings_char, Char.reduceEq, reduceIte] at hcount
    omega
  · intro h front hfront hne
    rcases List.prefix_cons_iff.1 hfront with rfl | ⟨tail, rfl, htail⟩
    · exact absurd rfl hne
    · have hcount := h tail htail
      simp only [openings_char, closings_char, Char.reduceEq, reduceIte]
      omega

/-! ## Reading a body -/

private theorem afterBody?_open : afterBody? inner ('{' :: rest) = afterBody? (inner + 1) rest := by
  rw [afterBody?.eq_def]
  rfl

private theorem afterBody?_close :
    afterBody? (inner + 1) ('}' :: rest) = afterBody? inner rest := by
  rw [afterBody?.eq_def]
  rfl

private theorem afterBody?_last : afterBody? 0 ('}' :: rest) = some rest := by
  rw [afterBody?.eq_def]
  rfl

private theorem afterBody?_run (run : Run) :
    afterBody? inner (run.text ++ rest) = afterBody? inner rest := by
  have hbrace : ∀ c, isQuote c = false → run.quote ≠ c := by
    rintro _ hc rfl
    rw [run.isQuote_quote] at hc
    cases hc
  rw [Run.text, enclosed_append, afterBody?.eq_def]
  dsimp only
  rw [if_neg (hbrace '{' rfl), if_neg (hbrace '}' rfl), if_pos run.isQuote_quote]
  split
  · next hrun =>
    rw [quotedRun?_run] at hrun
    cases hrun
    rfl
  · next hrun =>
    rw [quotedRun?_run] at hrun
    cases hrun

private theorem afterBody?_char (hopen : c ≠ '{') (hclose : c ≠ '}') (h : Alone c rest) :
    afterBody? inner (c :: rest) = afterBody? inner rest := by
  rw [afterBody?.eq_def]
  dsimp only
  rw [if_neg hopen, if_neg hclose]
  split
  · next hquote =>
    split
    · next hrun =>
      rw [quotedRun?_eq_none hquote h] at hrun
      cases hrun
    · rfl
  · rfl

/-- One unit is passed over, and a brace changes how far inside the reading is. -/
theorem afterBody?_unit (hstands : unit.Stands rest)
    (hfits : closings [unit] ≤ inner + openings [unit]) :
    afterBody? inner (unit.text ++ rest) =
      afterBody? (inner + openings [unit] - closings [unit]) rest := by
  cases unit with
  | quoted run => exact afterBody?_run run
  | char c =>
    by_cases hopen : c = '{'
    · rw [hopen]
      exact afterBody?_open
    · by_cases hclose : c = '}'
      · subst hclose
        have hone : 1 ≤ inner := by simpa using hfits
        obtain ⟨outer, rfl⟩ := Nat.exists_eq_add_one.2 hone
        exact afterBody?_close
      · rw [openings_char, closings_char, if_neg hopen, if_neg hclose]
        exact afterBody?_char hopen hclose hstands

/-- Units that stay inside are passed over, and the braces that they leave open remain. -/
theorem afterBody?_units (hstand : Stand units rest) (hstay : StayInside inner units) :
    afterBody? inner (unitsText units ++ rest) =
      afterBody? (inner + openings units - closings units) rest := by
  induction units generalizing inner with
  | nil => rfl
  | cons unit units ih =>
    obtain ⟨hstands, hstand⟩ := hstand
    obtain ⟨hfits, hstay⟩ := stayInside_cons.1 hstay
    rw [unitsText_cons, List.append_assoc, afterBody?_unit hstands hfits, ih hstand hstay,
      openings_cons unit units, closings_cons unit units]
    congr 1
    omega

/-- Units end where the brace closes the outermost one, or where the text does. -/
inductive Ending (inner : Nat) (units : List BodyUnit) : List Char → Option (List Char) → Prop where
  | closed (rest : List Char) (level : closings units = inner + openings units) :
      Ending inner units ('}' :: rest) (some rest)
  | unclosed : Ending inner units [] none

/-- From inside `inner` braces, units are passed over up to an ending. -/
structure Passage (inner : Nat) (units : List BodyUnit) (tail : List Char)
    (read : Option (List Char)) : Prop where
  stand : Stand units tail
  stay : StayInside inner units
  ending : Ending inner units tail read

section Passage

variable {tail : List Char} {read : Option (List Char)}

theorem Passage.cons (h : Passage (inner + openings [unit] - closings [unit]) units tail read)
    (hstands : unit.Stands (unitsText units ++ tail))
    (hfits : closings [unit] ≤ inner + openings [unit]) :
    Passage inner (unit :: units) tail read where
  stand := ⟨hstands, h.stand⟩
  stay := stayInside_cons.2 ⟨hfits, h.stay⟩
  ending := by
    cases h.ending with
    | unclosed => exact .unclosed
    | closed rest level =>
      apply Ending.closed
      rw [openings_cons unit units, closings_cons unit units]
      omega

theorem Passage.char (h : Passage inner units tail read) (hopen : c ≠ '{') (hclose : c ≠ '}')
    (halone : Alone c (unitsText units ++ tail)) : Passage inner (.char c :: units) tail read := by
  refine .cons ?_ halone ?_
  · simpa [hopen, hclose] using h
  · simp [hclose]

end Passage

theorem exists_passage (inner : Nat) (s : List Char) :
    ∃ units tail, s = unitsText units ++ tail ∧
      Passage inner units tail (afterBody? inner s) := by
  fun_induction afterBody? inner s with
  | case1 => exact ⟨[], [], rfl, trivial, stayInside_nil, .unclosed⟩
  | case2 inner s ih =>
    obtain ⟨units, tail, rfl, hpassage⟩ := ih
    exact ⟨.char '{' :: units, tail, rfl, hpassage.cons (alone_of_isQuote rfl) (Nat.zero_le _)⟩
  | case3 s => exact ⟨[], '}' :: s, rfl, trivial, stayInside_nil, .closed s rfl⟩
  | case4 s _ outer ih =>
    obtain ⟨units, tail, rfl, hpassage⟩ := ih
    refine ⟨.char '}' :: units, tail, rfl, ?_⟩
    exact .cons hpassage (alone_of_isQuote rfl) (Nat.le_add_left _ _)
  | case5 inner c s hopen hclose hquote taken after hrun _ ih =>
    obtain ⟨units, tail, rfl, hpassage⟩ := ih
    obtain ⟨parts, -, rfl⟩ := exists_runParts_of_quotedRun? hrun
    refine ⟨.quoted ⟨c, hquote, parts⟩ :: units, tail, ?_, .cons hpassage trivial (Nat.zero_le _)⟩
    rw [unitsText_cons, BodyUnit.text, Run.text, List.append_assoc, enclosed_append]
  | case6 inner c s hopen hclose hquote hrun ih =>
    obtain ⟨units, tail, rfl, hpassage⟩ := ih
    refine ⟨.char c :: units, tail, rfl, ?_⟩
    exact hpassage.char hopen hclose (alone_of_quotedRun? hrun)
  | case7 inner c s hopen hclose hquote ih =>
    obtain ⟨units, tail, rfl, hpassage⟩ := ih
    refine ⟨.char c :: units, tail, rfl, ?_⟩
    exact hpassage.char hopen hclose (alone_of_isQuote (by simpa using hquote))

/-! ## Bodies -/

/-- A body opens with a brace, every proper beginning of it leaves braces open, and the whole of
it leaves none. -/
structure Body where
  units : List BodyUnit
  head?_units : units.head? = some (.char '{')
  deeper : ∀ front, front <+: units → front ≠ [] → front ≠ units →
    closings front < openings front
  level : closings units = openings units

def Body.text (body : Body) : List Char :=
  unitsText body.units

private theorem exists_body (hstay : StayInside 0 units)
    (hlevel : closings units = openings units) :
    ∃ body : Body, body.units = .char '{' :: (units ++ [.char '}']) := by
  refine ⟨⟨.char '{' :: (units ++ [.char '}']), rfl, ?_, ?_⟩, rfl⟩
  · intro front hfront hne hproper
    rw [← List.cons_append] at hfront hproper
    rcases List.prefix_concat_iff.1 hfront with rfl | hfront
    · exact absurd rfl hproper
    · exact deeper_iff.2 hstay front hfront hne
  · simp [openings_append, closings_append, hlevel]

private theorem eq_char_of_openings_lt (h : openings [unit] < closings [unit]) :
    unit = .char '}' := by
  cases unit with
  | quoted run => simp at h
  | char c =>
    by_cases hclose : c = '}'
    · rw [hclose]
    · simp [hclose] at h

theorem Body.exists_inside (body : Body) :
    ∃ units, body.units = .char '{' :: (units ++ [.char '}']) ∧ StayInside 0 units ∧
      closings units = openings units := by
  have hdeeper := body.deeper
  have hlevel := body.level
  obtain ⟨more, hmore⟩ := List.head?_eq_some_iff.1 body.head?_units
  rw [hmore] at hdeeper hlevel ⊢
  rcases List.eq_nil_or_concat more with rfl | ⟨units, last, rfl⟩
  · simp at hlevel
  · rw [List.concat_eq_append] at hlevel hdeeper ⊢
    have hstay : StayInside 0 units := by
      apply deeper_iff.1
      intro front hfront hne
      apply hdeeper front (hfront.trans ⟨[last], rfl⟩) hne
      rintro rfl
      have hlength := hfront.length_le
      simp only [List.length_cons, List.length_append] at hlength
      omega
    have hinside := hstay units List.prefix_rfl
    simp only [openings_append, closings_append, openings_char, closings_char, Char.reduceEq,
      reduceIte] at hlevel
    -- Only a closing brace evens out what is left open before it.
    have hlast : last = .char '}' := eq_char_of_openings_lt (by omega)
    subst hlast
    refine ⟨units, rfl, hstay, ?_⟩
    simpa using hlevel

private theorem stand_body {body : Body}
    (hbody : body.units = .char '{' :: (units ++ [.char '}'])) :
    Stand body.units rest ↔ Stand units ('}' :: rest) := by
  have halone : ∀ rest, Alone '{' rest ∧ Alone '}' rest := fun rest =>
    ⟨alone_of_isQuote rfl, alone_of_isQuote rfl⟩
  rw [hbody, Stand, stand_append]
  simp [Stand, BodyUnit.Stands, unitsText, BodyUnit.text, halone]

private theorem text_body {body : Body} (hbody : body.units = .char '{' :: (units ++ [.char '}'])) :
    body.text ++ rest = '{' :: (unitsText units ++ '}' :: rest) := by
  simp [Body.text, hbody, unitsText, BodyUnit.text]

theorem afterBody?_eq_some_iff :
    afterBody? 0 s = some rest ↔
      ∃ body : Body, '{' :: s = body.text ++ rest ∧ Stand body.units rest := by
  constructor
  · intro h
    obtain ⟨units, tail, rfl, hpassage⟩ := exists_passage 0 s
    rw [h] at hpassage
    obtain ⟨hstand, hstay, hending⟩ := hpassage
    cases hending with
    | closed _ hlevel =>
      rw [Nat.zero_add] at hlevel
      obtain ⟨body, hbody⟩ := exists_body hstay hlevel
      exact ⟨body, (text_body hbody).symm, (stand_body hbody).2 hstand⟩
  · rintro ⟨body, hs, hstand⟩
    obtain ⟨units, hbody, hstay, hlevel⟩ := body.exists_inside
    rw [text_body hbody, List.cons.injEq] at hs
    rw [hs.2, afterBody?_units ((stand_body hbody).1 hstand) hstay, hlevel, Nat.zero_add,
      Nat.sub_self, afterBody?_last]

/-- No body is read exactly if the whole rest of the text does not close it. -/
theorem afterBody?_eq_none_iff :
    afterBody? inner s = none ↔
      ∃ units, s = unitsText units ∧ Stand units [] ∧ StayInside inner units := by
  constructor
  · intro h
    obtain ⟨units, tail, rfl, hpassage⟩ := exists_passage inner s
    rw [h] at hpassage
    obtain ⟨hstand, hstay, hending⟩ := hpassage
    cases hending with
    | unclosed => exact ⟨units, List.append_nil _, hstand, hstay⟩
  · rintro ⟨units, rfl, hstand, hstay⟩
    rw [← List.append_nil (unitsText units), afterBody?_units hstand hstay, afterBody?.eq_def]

end LogDigest.Template
