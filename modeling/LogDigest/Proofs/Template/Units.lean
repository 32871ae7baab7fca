import LogDigest.Proofs.Template.Grammar
import LogDigest.Proofs.Text.Span

/-!
# Units at the start of a text

What the readers of a template make of the units that operands are spelled with: blanks,
identifiers, texts up to a mark, quoted runs and the bodies of literals.
-/

namespace LogDigest.Template

open Text (Stops stops_nil stops_cons)

variable {c quote mark : Char} {s rest : List Char}

/-! ## Kinds of characters -/

private theorem toNat_of_isWordChar (h : isWordChar c = true) :
    c.toNat = 36 ∨ (48 ≤ c.toNat ∧ c.toNat ≤ 57) ∨ (65 ≤ c.toNat ∧ c.toNat ≤ 90) ∨
      c.toNat = 95 ∨ (97 ≤ c.toNat ∧ c.toNat ≤ 122) := by
  delta isWordChar Char.isAlphanum Char.isAlpha Char.isUpper Char.isLower Char.isDigit at h
  simp only [Bool.or_eq_true, Bool.and_eq_true, decide_eq_true_eq, beq_iff_eq, ge_iff_le,
    UInt32.le_iff_toNat_le] at h
  change ((((65 ≤ c.toNat ∧ c.toNat ≤ 90) ∨ (97 ≤ c.toNat ∧ c.toNat ≤ 122)) ∨
    (48 ≤ c.toNat ∧ c.toNat ≤ 57)) ∨ _) ∨ _ at h
  rcases h with (h | rfl) | rfl
  · omega
  · decide
  · decide

theorem isQuote_iff : isQuote c = true ↔ c = '\'' ∨ c = '"' ∨ c = '`' := by
  simp only [isQuote, Bool.or_eq_true, beq_iff_eq, or_assoc]

theorem isWordStart_of_isWordChar (h : isWordChar c = false) : isWordStart c = false := by
  by_contra hstart
  rw [Bool.not_eq_false] at hstart
  rw [isWordChar_of_isWordStart hstart] at h
  cases h

theorem isWordChar_of_isBlank (h : Text.isBlank c = true) : isWordChar c = false := by
  by_contra hword
  rw [Bool.not_eq_false] at hword
  have hval := toNat_of_isWordChar hword
  simp only [Text.isBlank, Bool.or_eq_true, Bool.and_eq_true, decide_eq_true_eq,
    beq_iff_eq] at h
  omega

theorem isWordChar_of_isQuote (h : isQuote c = true) : isWordChar c = false := by
  rcases isQuote_iff.1 h with rfl | rfl | rfl <;> decide

private theorem isBlank_of_isQuote (h : isQuote c = true) : Text.isBlank c = false := by
  rcases isQuote_iff.1 h with rfl | rfl | rfl <;> decide

theorem isQuote_of_isBlank (h : Text.isBlank c = true) : isQuote c = false := by
  by_contra hquote
  rw [Bool.not_eq_false] at hquote
  rw [isBlank_of_isQuote hquote] at h
  cases h

/-! ## Blanks and identifiers -/

theorem skipBlank_append (blanks : Blanks) (h : Stops Text.isBlank rest) :
    skipBlank (blanks.1 ++ rest) = rest :=
  Text.dropWhile_append_of_all blanks.2 h

theorem isWordChar_of_mem_text {name : Name} (h : c ∈ name.text) : isWordChar c = true := by
  rcases List.mem_cons.1 h with rfl | hrest
  · exact isWordChar_of_isWordStart name.isWordStart_first
  · exact name.isWordChar_rest c hrest

theorem word?_append (name : Name) (h : Stops isWordChar rest) :
    word? (name.text ++ rest) = some (name.text, rest) := by
  have hall : ∀ c ∈ name.text, isWordChar c = true := fun c hc => isWordChar_of_mem_text hc
  have hrun : wordRun (name.text ++ rest) = name.text := Text.takeWhile_append_of_all hall h
  have hafter : afterWordRun (name.text ++ rest) = rest := Text.dropWhile_append_of_all hall h
  change (if isWordStart name.first then
    some (wordRun (name.text ++ rest), afterWordRun (name.text ++ rest)) else none) = _
  rw [if_pos name.isWordStart_first, hrun, hafter]

theorem word?_eq_none (h : isWordStart c = false) : word? (c :: rest) = none := by
  rw [word?, h]
  rfl

/-! ## Texts up to a mark -/

theorem splitAt?_append (hs : ∀ c ∈ s, c ≠ mark) :
    splitAt? mark (s ++ mark :: rest) = some (s, rest) := by
  have hall : ∀ c ∈ s, (c != mark) = true := fun c hc => bne_iff_ne.2 (hs c hc)
  have hstop : Stops (· != mark) (mark :: rest) := stops_cons (bne_self_eq_false mark)
  rw [splitAt?, Text.dropWhile_append_of_all hall hstop,
    Text.takeWhile_append_of_all hall hstop]

/-! ## Quoted runs and literals -/

theorem quotedRun?_append (hquote : quote ≠ '\\') (hs : ∀ c ∈ s, c ≠ quote ∧ c ≠ '\\') :
    quotedRun? quote (s ++ quote :: rest) = some (s ++ [quote], rest) := by
  induction s with
  | nil =>
    rw [List.nil_append, quotedRun?.eq_3 _ _ _ (fun _ _ h _ => hquote h), if_pos rfl]
    rfl
  | cons c s ih =>
    obtain ⟨hc, hslash⟩ := hs c (by simp)
    rw [List.cons_append, quotedRun?.eq_3 _ _ _ (fun _ _ h _ => hslash h), if_neg hc,
      ih fun d hd => hs d (by simp [hd])]
    rfl

theorem quotedRun?_parts (parts : List LiteralPart) :
    quotedRun? '\'' (parts.flatMap LiteralPart.text ++ '\'' :: rest) =
      some (parts.flatMap LiteralPart.text ++ ['\''], rest) := by
  induction parts with
  | nil => exact quotedRun?_append (s := []) (by decide) (by simp)
  | cons part parts ih =>
    rw [List.flatMap_cons, List.append_assoc]
    cases part with
    | plain c ne =>
      rw [LiteralPart.text, List.singleton_append, List.cons_append,
        quotedRun?.eq_3 _ _ _ (fun _ _ h _ => ne.2 h), if_neg ne.1, ih]
      rfl
    | lineFeed | quote | backslash | kept =>
      simp only [LiteralPart.text, List.cons_append, List.nil_append, quotedRun?, ih,
        Option.map_some]

theorem literalBody?_plain (hquote : c ≠ '\'') (hslash : c ≠ '\\') :
    literalBody? (c :: rest) =
      (literalBody? rest).map fun (text, after) => (c :: text, after) := by
  rw [literalBody?.eq_6 _ _ hquote (fun _ h => absurd h hslash) (fun _ h => absurd h hslash)
    (fun _ h => absurd h hslash)]

private theorem literalBody?_kept (hn : c ≠ 'n') (hquote : c ≠ '\'') (hslash : c ≠ '\\') :
    literalBody? ('\\' :: c :: rest) =
      (literalBody? rest).map fun (text, after) => ('\\' :: c :: text, after) := by
  rw [literalBody?.eq_6 _ _ (by decide) (fun _ _ h => hn (List.cons.inj h).1)
    (fun _ _ h => hquote (List.cons.inj h).1) (fun _ _ h => hslash (List.cons.inj h).1),
    literalBody?_plain hquote hslash, Option.map_map]
  rfl

theorem literalBody?_parts (parts : List LiteralPart) :
    literalBody? (parts.flatMap LiteralPart.text ++ '\'' :: rest) =
      some (parts.flatMap LiteralPart.meaning, rest) := by
  induction parts with
  | nil =>
    rw [List.flatMap_nil, List.nil_append, literalBody?]
    rfl
  | cons part parts ih =>
    rw [List.flatMap_cons, List.flatMap_cons, List.append_assoc]
    cases part with
    | plain c ne =>
      simp only [LiteralPart.text, LiteralPart.meaning, List.cons_append, List.nil_append,
        literalBody?_plain ne.1 ne.2, ih, Option.map_some]
    | lineFeed | quote | backslash =>
      simp only [LiteralPart.text, LiteralPart.meaning, List.cons_append, List.nil_append,
        literalBody?, ih, Option.map_some]
    | kept c ne =>
      simp only [LiteralPart.text, LiteralPart.meaning, List.cons_append, List.nil_append,
        literalBody?_kept ne.1 ne.2.1 ne.2.2, ih, Option.map_some]

end LogDigest.Template
