import LogDigest.Json.Printer

/-!
# Characters of printed JSON

Every control character inside a string is escaped, and no number is spelled with one.  So the only
control characters of an indented text are the line feeds before its lines, and none of these is
its last character.
-/

namespace LogDigest

def IsPrinted (c : Char) : Prop :=
  0x20 ≤ c.toNat

instance (c : Char) : Decidable (IsPrinted c) :=
  inferInstanceAs (Decidable (0x20 ≤ c.toNat))

private theorem isPrinted_of_isDigit {c : Char} (h : c.isDigit = true) : IsPrinted c := by
  rw [Char.isDigit, Bool.and_eq_true, decide_eq_true_iff, ge_iff_le, UInt32.le_iff_toNat_le] at h
  exact Nat.le_trans (by decide) h.1

def Printed (s : List Char) : Prop :=
  ∀ c ∈ s, IsPrinted c

instance (s : List Char) : Decidable (Printed s) :=
  List.decidableBAll IsPrinted s

variable {s t : List Char} {c : Char}

theorem printed_append (hs : Printed s) (ht : Printed t) : Printed (s ++ t) :=
  List.forall_mem_append.2 ⟨hs, ht⟩

theorem printed_cons (hc : IsPrinted c) (hs : Printed s) : Printed (c :: s) :=
  List.forall_mem_cons.2 ⟨hc, hs⟩

def PrintedLines (s : List Char) : Prop :=
  ∀ c ∈ s, c = '\n' ∨ IsPrinted c

theorem Printed.lines (h : Printed s) : PrintedLines s :=
  fun c hc => .inr (h c hc)

theorem PrintedLines.append (hs : PrintedLines s) (ht : PrintedLines t) : PrintedLines (s ++ t) :=
  List.forall_mem_append.2 ⟨hs, ht⟩

theorem PrintedLines.cons (hc : IsPrinted c) (hs : PrintedLines s) : PrintedLines (c :: s) :=
  List.forall_mem_cons.2 ⟨.inr hc, hs⟩

/-! ## Numbers -/

namespace Decimal

theorem printed_toDigits (n : Nat) : Printed (Nat.toDigits 10 n) := fun _ hc =>
  isPrinted_of_isDigit (Nat.isDigit_of_mem_toDigits (by decide) (by decide) hc)

private theorem printed_zeros (count : Nat) : Printed (zeros count) := by
  intro c hc
  rw [List.eq_of_mem_replicate hc]
  decide

private theorem printed_ofCandidate (p : Int) (found : Option (Nat × Nat)) :
    Printed (Digits.ofCandidate p found).digits := by
  cases found with
  | none => exact nofun
  | some candidate =>
    intro c hc
    apply printed_toDigits candidate.2
    have hkept := (List.dropWhile_sublist _).subset (List.mem_reverse.1 hc)
    exact List.mem_reverse.1 hkept

private theorem printed_shortest (b : Binary) (tie : Tie) : Printed (b.shortest tie).digits :=
  printed_ofCandidate b.point (b.found? tie)

variable {layout : Layout} {d : Digits}

private theorem printed_positionalText (hsuffix : Printed layout.wholeSuffix.toList)
    (hd : Printed d.digits) : Printed (positionalText layout d) := by
  simp only [positionalText]
  split
  · exact printed_append (printed_cons (by decide) (printed_cons (by decide) (printed_zeros _))) hd
  · split
    · exact printed_append (printed_append hd (printed_zeros _)) hsuffix
    · exact printed_append (fun c hc => hd c (List.mem_of_mem_take hc))
        (printed_cons (by decide) fun c hc => hd c (List.mem_of_mem_drop hc))

private theorem printed_scientificText (hd : Printed d.digits) : Printed (scientificText d) := by
  have hsign : ∀ exponent : Int, IsPrinted (if exponent < 0 then '-' else '+') := by
    intro exponent
    split <;> decide
  simp only [scientificText]
  refine printed_append ?_ (printed_cons (by decide) (printed_cons (hsign _) (printed_toDigits _)))
  split
  · exact nofun
  · next lead hlead =>
    rw [hlead] at hd
    exact hd
  · next lead rest _ hlead =>
    rw [hlead] at hd
    obtain ⟨hfirst, hrest⟩ := List.forall_mem_cons.1 hd
    exact printed_cons hfirst (printed_cons (by decide) hrest)

/-- A number is written without control characters if the suffix of whole numbers has none. -/
theorem printed_text (hsuffix : Printed layout.wholeSuffix.toList) (x : Float) :
    Printed (text layout x) := by
  have hmagnitude : Printed (if x.isInf then ['i', 'n', 'f']
      else if x == 0 then '0' :: layout.wholeSuffix.toList
      else
        let d := (Binary.ofFloat x).shortest layout.tie
        if layout.positional (d.point - 1) then positionalText layout d else scientificText d) := by
    have hd := printed_shortest (Binary.ofFloat x) layout.tie
    split
    · decide
    · split
      · exact printed_cons (by decide) hsuffix
      · dsimp only
        split
        · exact printed_positionalText hsuffix hd
        · exact printed_scientificText hd
  rw [text]
  split
  · decide
  · dsimp only
    split
    · exact printed_cons (by decide) hmagnitude
    · exact hmagnitude

end Decimal

namespace Json

/-! ## Scalars -/

private theorem isPrinted_hexDigit (n : Nat) : IsPrinted (hexDigit n) := by
  have hall : ∀ digit < 16, IsPrinted (Nat.digitChar digit) := by decide
  exact hall _ (Nat.mod_lt n (by decide))

private theorem printed_escapedChar (c : Char) : Printed (escapedChar c) := by
  have hcontrol : Printed ['\\', 'u', '0', '0', hexDigit (c.toNat / 16), hexDigit c.toNat] :=
    printed_append (s := ['\\', 'u', '0', '0']) (by decide)
      (printed_cons (isPrinted_hexDigit _) (printed_cons (isPrinted_hexDigit _) nofun))
  unfold escapedChar
  split
  iterate 5 decide
  split
  · decide
  · split
    · decide
    · split
      · exact hcontrol
      · next hprinted => exact printed_cons (Nat.not_lt.1 hprinted) nofun

theorem printed_stringText (s : String) : Printed (stringText s) := by
  refine printed_append (printed_cons (by decide) ?_) (by decide)
  intro c hc
  obtain ⟨d, -, hd⟩ := List.mem_flatMap.1 hc
  exact printed_escapedChar d c hd

private theorem printed_repr (n : Nat) : Printed n.repr.toList := by
  rw [Nat.toList_repr]
  exact Decimal.printed_toDigits n

theorem printed_numberText (value : JsonNumber) : Printed (numberText value) := by
  cases value with
  | integer value =>
    cases value with
    | ofNat n => exact printed_repr n
    | negSucc n =>
      have hminus : (toString (Int.negSucc n)).toList = '-' :: (n + 1).repr.toList :=
        String.toList_append
      rw [numberText, hminus]
      exact printed_cons (by decide) (printed_repr (n + 1))
  | float value => exact Decimal.printed_text (by decide) value

theorem printed_boolText (value : Bool) : Printed (boolText value) := by
  cases value <;> decide

/-! ## Indented values -/

theorem printedLines_lineBreak (level : Nat) : PrintedLines (lineBreak level) := by
  have hblanks : Printed (List.replicate (2 * level) ' ') := by
    intro c hc
    rw [List.eq_of_mem_replicate hc]
    decide
  exact List.forall_mem_cons.2 ⟨.inl rfl, hblanks.lines⟩

private theorem printedLines_close {close : Char} {level : Nat} (hs : PrintedLines s)
    (hclose : IsPrinted close) : PrintedLines (s ++ lineBreak level ++ [close]) :=
  (hs.append (printedLines_lineBreak level)).append (.cons hclose nofun)

mutual

theorem printedLines_indentedText (level : Nat) : ∀ doc : Json, PrintedLines (indentedText level doc)
  | .null => by
    have hnull : Printed "null".toList := by decide
    exact hnull.lines
  | .bool value => (printed_boolText value).lines
  | .number value => (printed_numberText value).lines
  | .string value => (printed_stringText value).lines
  | .array [] => .cons (by decide) (.cons (by decide) nofun)
  | .array (item :: rest) =>
    printedLines_close (.cons (by decide) (printedLines_indentedItems (level + 1) (item :: rest)))
      (by decide)
  | .object [] => .cons (by decide) (.cons (by decide) nofun)
  | .object (member :: rest) =>
    printedLines_close
      (.cons (by decide) (printedLines_indentedMembers (level + 1) (member :: rest))) (by decide)

theorem printedLines_indentedItems (level : Nat) :
    ∀ items : List Json, PrintedLines (indentedItems level items)
  | [] => nofun
  | [item] => (printedLines_lineBreak level).append (printedLines_indentedText level item)
  | item :: next :: rest =>
    ((printedLines_lineBreak level).append (printedLines_indentedText level item)).append
      (.cons (by decide) (printedLines_indentedItems level (next :: rest)))

theorem printedLines_indentedMembers (level : Nat) :
    ∀ members : List (String × Json), PrintedLines (indentedMembers level members)
  | [] => nofun
  | [(key, value)] =>
    ((printedLines_lineBreak level).append (printed_stringText key).lines).append
      (.cons (by decide) (.cons (by decide) (printedLines_indentedText level value)))
  | (key, value) :: next :: rest =>
    (((printedLines_lineBreak level).append (printed_stringText key).lines).append
      (.cons (by decide) (.cons (by decide) (printedLines_indentedText level value)))).append
      (.cons (by decide) (printedLines_indentedMembers level (next :: rest)))

end

theorem getLast?_indentedText_ne (level : Nat) (doc : Json) :
    (indentedText level doc).getLast? ≠ some '\n' := by
  have hprinted : ∀ {s : List Char}, Printed s → s.getLast? ≠ some '\n' := by
    intro s h hlast
    exact absurd (h '\n' (List.mem_of_getLast? hlast)) (by decide)
  have hclose : ∀ {s : List Char} {close : Char}, close ≠ '\n' →
      (s ++ [close]).getLast? ≠ some '\n' := by
    intro s close hne hlast
    rw [List.getLast?_concat] at hlast
    exact hne (Option.some.inj hlast)
  cases doc with
  | null => exact hprinted (s := "null".toList) (by decide)
  | bool value => exact hprinted (printed_boolText value)
  | number value => exact hprinted (printed_numberText value)
  | string value => exact hprinted (printed_stringText value)
  | array items =>
    cases items with
    | nil => exact hclose (s := ['[']) (by decide)
    | cons item rest => exact hclose (by decide)
  | object members =>
    cases members with
    | nil => exact hclose (s := ['\x7b']) (by decide)
    | cons member rest => exact hclose (by decide)

end Json

end LogDigest
