import LogDigest.Markup
import LogDigest.Proofs.Text.Occurrence
import LogDigest.Text.Basic

/-!
# Encoded texts

An encoded text has no character that delimits a tag or an attribute, and every ampersand in it
begins an entity.  A written entity ends with its semicolon, so that reading one back does not depend
on what follows it, and no two texts have one encoding.  A text is passed on as it came exactly if
writing it anew would give the same characters.
-/

namespace LogDigest.Markup

variable {c : Char} {s t entity : List Char}

theorem encodedChar_cases (c : Char) :
    (isReserved c = false ∧ encodedChar c = [c]) ∨
      isReserved c = true ∧ ∃ name, encodedChar c = '&' :: (name ++ [';']) := by
  unfold encodedChar
  split
  · exact .inr ⟨rfl, ['a', 'm', 'p'], rfl⟩
  · exact .inr ⟨rfl, ['l', 't'], rfl⟩
  · exact .inr ⟨rfl, ['g', 't'], rfl⟩
  · exact .inr ⟨rfl, ['q', 'u', 'o', 't'], rfl⟩
  · exact .inr ⟨rfl, ['#', '3', '9'], rfl⟩
  · next hamp hlt hgt hquote hapostrophe =>
    refine .inl ⟨?_, rfl⟩
    simp only [isReserved, Bool.or_eq_false_iff, beq_eq_false_iff_ne]
    exact ⟨⟨⟨⟨hamp, hlt⟩, hgt⟩, hquote⟩, hapostrophe⟩

theorem isBlank_of_isReserved (h : isReserved c = true) : Text.isBlank c = false := by
  simp only [isReserved, Bool.or_eq_true, beq_iff_eq] at h
  rcases h with (((rfl | rfl) | rfl) | rfl) | rfl <;> rfl

theorem encode_cons (c : Char) (s : List Char) : encode (c :: s) = encodedChar c ++ encode s := by
  rw [encode, List.flatMap_cons, ← encode]

/-! ## Decoding -/

theorem decode_cons (h : c ≠ '&') (rest : List Char) : decode (c :: rest) = c :: decode rest := by
  rw [decode]
  all_goals
    intro tail hamp
    exact absurd hamp h

theorem decode_encodedChar_append (c : Char) (rest : List Char) :
    decode (encodedChar c ++ rest) = c :: decode rest := by
  unfold encodedChar
  split
  case h_6 hamp _ _ _ _ => exact decode_cons hamp rest
  all_goals rfl

theorem decode_encode_append (s rest : List Char) :
    decode (encode s ++ rest) = s ++ decode rest := by
  induction s with
  | nil => rfl
  | cons c s ih =>
    rw [encode_cons, List.append_assoc, decode_encodedChar_append, ih, List.cons_append]

theorem decode_encode_nil (s : List Char) : decode (encode s) = s := by
  have happend := decode_encode_append s []
  rwa [List.append_nil, decode, List.append_nil] at happend

/-! ## Entities -/

/-- The written forms of the reserved characters. -/
def entities : List (List Char) :=
  [['&', 'a', 'm', 'p', ';'], ['&', 'l', 't', ';'], ['&', 'g', 't', ';'],
    ['&', 'q', 'u', 'o', 't', ';'], ['&', '#', '3', '9', ';']]

/-- A text that cannot be taken for markup: nothing in it delimits a tag or an attribute, and every
ampersand begins an entity. -/
structure Inert (s : List Char) : Prop where
  delimiters : ∀ c ∈ ['<', '>', '"', '\''], c ∉ s
  ampersands : ∀ rest, '&' :: rest <:+ s → ∃ entity ∈ entities, entity <+: '&' :: rest

private theorem ledBy_of_mem_entities (h : entity ∈ entities) : Text.LedBy '&' entity := by
  revert entity
  decide

private theorem delimiters_of_mem_entities (h : entity ∈ entities) :
    ∀ c ∈ ['<', '>', '"', '\''], c ∉ entity := by
  intro c hc
  simp only [List.mem_cons, List.not_mem_nil, or_false] at hc
  revert entity
  rcases hc with rfl | rfl | rfl | rfl <;> decide

private theorem one_lt_length_of_mem_entities (h : entity ∈ entities) : 1 < entity.length := by
  revert entity
  decide

theorem encodedChar_of_not_isReserved (h : isReserved c = false) : encodedChar c = [c] := by
  rcases encodedChar_cases c with ⟨-, hself⟩ | ⟨hreserved, -⟩
  · exact hself
  · rw [h] at hreserved
    cases hreserved

theorem encodedChar_mem_entities (h : isReserved c = true) : encodedChar c ∈ entities := by
  simp only [isReserved, Bool.or_eq_true, beq_iff_eq] at h
  rcases h with (((rfl | rfl) | rfl) | rfl) | rfl <;> decide

private theorem encode_append (s t : List Char) : encode (s ++ t) = encode s ++ encode t := by
  rw [encode, List.flatMap_append, ← encode, ← encode]

/-! ## Inert texts -/

private theorem inert_nil : Inert [] where
  delimiters _ _ := List.not_mem_nil
  ampersands _ h := absurd (List.suffix_nil.mp h) (List.cons_ne_nil _ _)

/-- An ampersand of two texts begins an entity of the one in which it stands. -/
theorem Inert.append (hs : Inert s) (ht : Inert t) : Inert (s ++ t) where
  delimiters c hc hmem := by
    rcases List.mem_append.mp hmem with h | h
    · exact hs.delimiters c hc h
    · exact ht.delimiters c hc h
  ampersands rest hrest := by
    obtain ⟨front, hfront⟩ := hrest
    rcases List.append_eq_append_iff.mp hfront with ⟨back, hback, hrest⟩ | ⟨middle, -, hmiddle⟩
    · cases back with
      | nil => exact ht.ampersands rest (hrest ▸ List.suffix_rfl)
      | cons first back =>
        obtain ⟨rfl, rfl⟩ := List.cons.inj hrest
        obtain ⟨entity, hmem, hprefix⟩ := hs.ampersands back ⟨front, hback.symm⟩
        exact ⟨entity, hmem, hprefix.trans (List.prefix_append _ t)⟩
    · exact ht.ampersands rest ⟨middle, hmiddle.symm⟩

private theorem inert_singleton (h : isReserved c = false) : Inert [c] where
  delimiters d hd hmem := by
    rw [List.mem_singleton] at hmem
    subst hmem
    revert h
    simp only [List.mem_cons, List.not_mem_nil, or_false] at hd
    rcases hd with rfl | rfl | rfl | rfl <;> decide
  ampersands rest hrest := by
    have hamp : '&' ∈ [c] := hrest.subset List.mem_cons_self
    rw [List.mem_singleton] at hamp
    subst hamp
    cases h

private theorem inert_entity (h : entity ∈ entities) : Inert entity where
  delimiters := delimiters_of_mem_entities h
  ampersands rest hrest := by
    -- The ampersand at its front is the only one, so the entity it begins is the whole.
    obtain ⟨name, rfl, hname⟩ := ledBy_of_mem_entities h
    rcases List.suffix_cons_iff.mp hrest with heq | hinside
    · exact ⟨'&' :: name, h, heq ▸ List.prefix_rfl⟩
    · exact absurd (hinside.subset List.mem_cons_self) hname

theorem inert_encodedChar (c : Char) : Inert (encodedChar c) := by
  cases h : isReserved c with
  | false =>
    rw [encodedChar_of_not_isReserved h]
    exact inert_singleton h
  | true => exact inert_entity (encodedChar_mem_entities h)

theorem inert_encode (s : List Char) : Inert (encode s) := by
  induction s with
  | nil => exact inert_nil
  | cons c s ih =>
    rw [encode_cons]
    exact (inert_encodedChar c).append ih

theorem Inert.lt_not_mem (h : Inert s) : '<' ∉ s :=
  h.delimiters '<' List.mem_cons_self

theorem lt_not_mem_encodedChar (c : Char) : '<' ∉ encodedChar c :=
  (inert_encodedChar c).lt_not_mem

theorem lt_not_mem_encode (s : List Char) : '<' ∉ encode s :=
  (inert_encode s).lt_not_mem

/-! ## Texts passed on as they came -/

private theorem length_encodedChar_pos (c : Char) : 0 < (encodedChar c).length := by
  rcases encodedChar_cases c with ⟨-, hself⟩ | ⟨-, name, hname⟩
  · simp [hself]
  · simp [hname]

private theorem length_le_length_encode (s : List Char) : s.length ≤ (encode s).length := by
  induction s with
  | nil => exact Nat.le_refl 0
  | cons c s ih =>
    have hchar := length_encodedChar_pos c
    rw [encode_cons, List.length_append, List.length_cons]
    omega

/-- A reserved character makes a text longer, so only a text without one is its own encoding. -/
theorem encode_eq_self_iff : encode s = s ↔ ∀ c ∈ s, isReserved c = false := by
  induction s with
  | nil => exact ⟨fun _ c hc => absurd hc List.not_mem_nil, fun _ => rfl⟩
  | cons c s ih =>
    rw [encode_cons, List.forall_mem_cons]
    cases hc : isReserved c with
    | false =>
      rw [encodedChar_of_not_isReserved hc, List.singleton_append, List.cons_inj_right, ih]
      simp
    | true =>
      have hlong := one_lt_length_of_mem_entities (encodedChar_mem_entities hc)
      have hrest := length_le_length_encode s
      constructor
      · intro heq
        have hlength := congrArg List.length heq
        rw [List.length_append, List.length_cons] at hlength
        omega
      · rintro ⟨hfalse, -⟩
        cases hfalse

theorem needsEncoding_eq_false_iff (s : String) :
    needsEncoding s = false ↔ ∀ c ∈ s.toList, isReserved c = false := by
  rw [needsEncoding, List.any_eq_false]
  simp only [Bool.not_eq_true]

theorem encoded_eq_self_iff (s : String) :
    encoded s = s ↔ ∀ c ∈ s.toList, isReserved c = false := by
  rw [← encode_eq_self_iff, ← String.toList_inj, encoded, String.toList_ofList]

namespace Encoded

theorem of_eq_unchanged_iff (s : String) :
    of s = .unchanged s ↔ ∀ c ∈ s.toList, isReserved c = false := by
  rw [← needsEncoding_eq_false_iff, of]
  cases needsEncoding s <;> simp

theorem of_eq_rewritten_iff (s : String) :
    of s = .rewritten (encoded s) ↔ ∃ c ∈ s.toList, isReserved c = true := by
  rw [of, needsEncoding, ← List.any_eq_true]
  cases s.toList.any isReserved <;> simp

/-- A text stands in markup as if it were written anew, whether it is or not. -/
theorem text_of (s : String) : (of s).text = encoded s := by
  rw [of]
  cases hneeds : needsEncoding s with
  | false => exact ((encoded_eq_self_iff s).mpr ((needsEncoding_eq_false_iff s).mp hneeds)).symm
  | true => rfl

theorem toList_text_of (s : String) : (of s).text.toList = encode s.toList := by
  rw [text_of, encoded, String.toList_ofList]

theorem decode_text_of (s : String) : decode (of s).text.toList = s.toList := by
  rw [toList_text_of, decode_encode_nil]

theorem text_of_inj {s t : String} : (of s).text = (of t).text ↔ s = t := by
  constructor
  · intro heq
    rw [← String.toList_inj, ← decode_text_of s, heq, decode_text_of]
  · rintro rfl
    rfl

theorem text_of_append (s t : String) : (of (s ++ t)).text = (of s).text ++ (of t).text := by
  rw [← String.toList_inj, String.toList_append, toList_text_of, toList_text_of, toList_text_of,
    String.toList_append, encode_append]

end Encoded

/-- Encoding makes a text inert and loses nothing: it is read back in one pass.  It goes piece by
piece.  A text is passed on as it came exactly if nothing in it is reserved, which is exactly if
writing it anew would change nothing. -/
theorem encoding_inert_and_lossless (s : String) :
    Inert (Encoded.of s).text.toList ∧
      decode (Encoded.of s).text.toList = s.toList ∧
      (∀ t, (Encoded.of s).text = (Encoded.of t).text ↔ s = t) ∧
      (∀ t, (Encoded.of (s ++ t)).text = (Encoded.of s).text ++ (Encoded.of t).text) ∧
      (Encoded.of s = .unchanged s ↔ ∀ c ∈ s.toList, isReserved c = false) ∧
      (Encoded.of s = .rewritten (encoded s) ↔ ∃ c ∈ s.toList, isReserved c = true) ∧
      (encoded s = s ↔ ∀ c ∈ s.toList, isReserved c = false) := by
  refine ⟨?_, Encoded.decode_text_of s, fun t => Encoded.text_of_inj, Encoded.text_of_append s,
    Encoded.of_eq_unchanged_iff s, Encoded.of_eq_rewritten_iff s, encoded_eq_self_iff s⟩
  rw [Encoded.toList_text_of]
  exact inert_encode s.toList

/-- A text that spells an entity is encoded like any other, so that it is read back as it was. -/
example : encode ['&', 'l', 't', ';', '<'] =
    ['&', 'a', 'm', 'p', ';', 'l', 't', ';', '&', 'l', 't', ';'] := by
  decide

end LogDigest.Markup
