import LogDigest.Proofs.Text.Readers
import LogDigest.Toml.Document
import Mathlib.Algebra.Group.Nat.Defs

/-!
# Documents that give a text

Every text can be given in a TOML document.  Its characters are written by their numbers, so that
nothing in it is taken for a quote, a line break or a control.
-/

namespace LogDigest

open Text (Stops stops_nil stops_cons)
open Reader

/-! ## Hexadecimal digits -/

namespace Text

/-- A number in a fixed count of hexadecimal digits. -/
def hexDigits : (count n : Nat) → List Char
  | 0, _ => []
  | count + 1, n => hexDigits count (n / 16) ++ [Nat.digitChar (n % 16)]

theorem hexValue?_digitChar {n : Nat} (h : n < 16) : hexValue? (Nat.digitChar n) = some n := by
  have hall : ∀ n < 16, hexValue? (Nat.digitChar n) = some n := by decide
  exact hall n h

private theorem length_hexDigits (count n : Nat) : (hexDigits count n).length = count := by
  induction count generalizing n with
  | zero => rfl
  | succ count ih => rw [hexDigits, List.length_append, ih]; rfl

private theorem isHexDigit_of_mem_hexDigits {count n : Nat} {c : Char} (h : c ∈ hexDigits count n) :
    isHexDigit c = true := by
  induction count generalizing n with
  | zero => cases h
  | succ count ih =>
    rcases List.mem_append.1 h with h | h
    · exact ih h
    · rw [List.mem_singleton.1 h, isHexDigit, hexValue?_digitChar (Nat.mod_lt n (by decide))]
      rfl

private theorem hexNumber_hexDigits {count n : Nat} (h : n < 16 ^ count) :
    hexNumber (hexDigits count n) = n := by
  induction count generalizing n with
  | zero =>
    rw [Nat.pow_zero, Nat.lt_one_iff] at h
    exact h.symm
  | succ count ih =>
    have hquotient : n / 16 < 16 ^ count := by
      rw [Nat.pow_succ] at h
      exact Nat.div_lt_of_lt_mul (by omega)
    rw [hexDigits, hexNumber, List.foldl_append, ← hexNumber, ih hquotient]
    simp only [List.foldl_cons, List.foldl_nil, hexValue?_digitChar (Nat.mod_lt n (by decide)),
      Option.getD_some]
    omega

end Text

namespace Toml

open Grammar

variable {c : Char} {s rest : List Char}

/-! ## Texts in quotes -/

def escaped (c : Char) : List Char :=
  '\\' :: 'U' :: Text.hexDigits 8 c.toNat

def quoted (s : List Char) : List Char :=
  '"' :: (s.flatMap escaped ++ ['"'])

private theorem numbered_hexDigits (c : Char) (rest : List Char) :
    numbered 8 (Text.hexDigits 8 c.toNat ++ rest) = some (c, rest) := by
  have hlength := Text.length_hexDigits 8 c.toNat
  have hall : (Text.hexDigits 8 c.toNat).all Text.isHexDigit = true :=
    List.all_eq_true.2 fun _ => Text.isHexDigit_of_mem_hexDigits
  have hchar : Text.hexChar? (Text.hexDigits 8 c.toNat) = some c := by
    have hbound : c.toNat < 16 ^ 8 := c.val.toNat_lt
    rw [Text.hexChar?, Text.hexNumber_hexDigits hbound]
    exact (if_pos c.valid).trans (congrArg some c.ofNat_toNat)
  have htaken : exactly 8 Text.isHexDigit (Text.hexDigits 8 c.toNat ++ rest) =
      some (Text.hexDigits 8 c.toNat, rest) := by
    rw [exactly, List.take_left' hlength, List.drop_left' hlength]
    exact if_pos ⟨hlength, hall⟩
  rw [numbered, bind_apply, htaken, Option.bind_some, hchar]
  rfl

private theorem escape_escaped (c : Char) (rest : List Char) :
    escape (escaped c ++ rest) = some (c, rest) := by
  have hnext : next ('U' :: (Text.hexDigits 8 c.toNat ++ rest)) =
      some ('U', Text.hexDigits 8 c.toNat ++ rest) := rfl
  rw [escape, escaped, List.cons_append, List.cons_append, bind_apply, char_cons,
    Option.bind_some, bind_apply, hnext, Option.bind_some]
  exact numbered_hexDigits c rest

private theorem basic_quoted (s rest : List Char) : basic (quoted s ++ rest) = some (s, rest) := by
  have hpiece : ∀ c rest, True →
      (takeSome isBasic <|> (fun c => [c]) <$> escape) (escaped c ++ rest) =
        some ([c], rest) := by
    intro c rest _
    have hnone : takeSome isBasic (escaped c ++ rest) = none :=
      takeSome_eq_none (stops_cons (by decide))
    rw [orElse_apply, hnone, map_apply, escape_escaped]
    rfl
  have hstop : (takeSome isBasic <|> (fun c => [c]) <$> escape) ('"' :: rest) = none := by
    have hnone : takeSome isBasic ('"' :: rest) = none :=
      takeSome_eq_none (stops_cons (by decide))
    rw [orElse_apply, hnone, map_apply, escape, bind_apply, char_eq_none (stops_cons (by decide))]
    rfl
  have hpieces := manyFrom_pieces s hpiece (fun _ => List.cons_ne_nil _ _) (fun _ _ => trivial) trivial hstop
  rw [basic, quoted, List.cons_append, List.append_assoc, List.singleton_append, bind_apply,
    char_cons, Option.bind_some, bind_apply, many, hpieces, Option.bind_some]
  simp [char_cons, ← List.flatMap_def]

private theorem multiline_quoted (s : List Char) (piece : Reader (List Char))
    (h : Stops (· == '"') rest) : multiline '"' piece (quoted s ++ rest) = none := by
  have hword : word (String.ofList ['"', '"', '"']) (quoted s ++ rest) = none := by
    rw [word, String.toList_ofList]
    refine if_neg ?_
    cases s with
    | nil =>
      cases rest with
      | nil => decide
      | cons c rest =>
        have hc : (c == '"') = false := h c rfl
        simp [quoted, List.isPrefixOf, BEq.comm.trans hc]
    | cons c s => simp [quoted, escaped]
  rw [multiline, bind_apply, hword]
  rfl

private theorem quotation_quoted (s : List Char) (h : Stops (· == '"') rest) :
    quotation (quoted s ++ rest) = some (s, rest) := by
  rw [quotation, orElse_apply, multilineBasic, multiline_quoted s _ h, orElse_apply, basic_quoted]
  rfl

private theorem value_quoted (s : List Char) (h : Stops (· == '"') rest) (depth : Nat) :
    value depth (quoted s ++ rest) = some (.text (String.ofList s), rest) := by
  have hscalar : scalar (quoted s ++ rest) = some (.text (String.ofList s), rest) := by
    rw [scalar, orElse_apply, map_apply, quotation_quoted s h]
    rfl
  cases depth with
  | zero => exact hscalar
  | succ depth =>
    rw [value, orElse_apply, hscalar]
    rfl

/-! ## Dotted keys -/

/-- A part of a key that needs no quotes. -/
abbrev BareKey : Type :=
  { name : List Char // name ≠ [] ∧ ∀ c ∈ name, isKeyChar c = true }

def dotted (first : BareKey) (more : List BareKey) : List Char :=
  first.1 ++ more.flatMap fun part => '.' :: part.1

def parts (first : BareKey) (more : List BareKey) : List String :=
  (first :: more).map fun part => String.ofList part.1

/-- A text goes on with a further part of a key, or with a value. -/
def FollowsKey (rest : List Char) : Prop :=
  ∃ more, rest = '.' :: more ∨ rest = '=' :: more

theorem FollowsKey.stops {p : Char → Bool} (h : FollowsKey rest) (hpoint : p '.' = false)
    (hequals : p '=' = false) : Stops p rest := by
  obtain ⟨more, rfl | rfl⟩ := h
  · exact stops_cons hpoint
  · exact stops_cons hequals

theorem spaces_eq_self (h : Stops isSpace s) : spaces s = some ((), s) := by
  rw [spaces, discard_apply, takeWhile, Text.dropWhile_eq_self h]
  rfl

private theorem isSpace_of_isKeyChar (h : isKeyChar c = true) : isSpace c = false := by
  by_contra hspace
  rw [Bool.not_eq_false, isSpace, Bool.or_eq_true, beq_iff_eq, beq_iff_eq] at hspace
  rcases hspace with rfl | rfl <;> revert h <;> decide

theorem BareKey.stops (part : BareKey) : Stops isSpace (part.1 ++ rest) := by
  obtain ⟨c, name, hname⟩ := List.exists_cons_of_ne_nil part.2.1
  rw [hname, List.cons_append]
  exact stops_cons (isSpace_of_isKeyChar (part.2.2 c (by simp [hname])))

def spacedPart : Reader String :=
  spaces *> keyPart <* spaces

private theorem spacedPart_bare (part : BareKey) (h : FollowsKey rest) :
    spacedPart (part.1 ++ rest) = some (String.ofList part.1, rest) := by
  have hpart : keyPart (part.1 ++ rest) = some (String.ofList part.1, rest) := by
    rw [keyPart, map_apply, orElse_apply,
      takeSome_append part.2.1 part.2.2 (h.stops (by decide) (by decide))]
    rfl
  simp only [spacedPart, seqLeft_apply, seqRight_apply, spaces_eq_self part.stops, hpart,
    spaces_eq_self (h.stops (by decide) (by decide)), Option.bind_some, Option.map_some]

private theorem key_dotted (first : BareKey) (more : List BareKey) (h : more.length < maxDepth) :
    key (dotted first more ++ '=' :: rest) =
      some (((parts first more).dropLast, (parts first more).getLastD ""), '=' :: rest) := by
  have hend : FollowsKey ('=' :: rest) := ⟨rest, Or.inr rfl⟩
  have hbehind : ∀ (part : BareKey) rest, FollowsKey ('.' :: part.1 ++ rest) :=
    fun part rest => ⟨_, Or.inl rfl⟩
  have hread : ∀ (part : BareKey) rest, FollowsKey rest →
      (char '.' *> spacedPart) ('.' :: part.1 ++ rest) = some (String.ofList part.1, rest) := by
    intro part rest hrest
    rw [List.cons_append, seqRight_apply, char_cons, Option.bind_some]
    exact spacedPart_bare part hrest
  have hstop : (char '.' *> spacedPart) ('=' :: rest) = none := by
    rw [seqRight_apply, char_eq_none (stops_cons (by decide))]
    rfl
  have hmore := manyFrom_pieces more hread (fun _ => List.cons_ne_nil _ _) hbehind hend hstop
  have hfirst : FollowsKey ((more.flatMap fun part => '.' :: part.1) ++ '=' :: rest) := by
    cases more with
    | nil => exact hend
    | cons part more =>
      rw [List.flatMap_cons, List.append_assoc]
      exact hbehind part _
  have hparts : separated spacedPart (char '.') (dotted first more ++ '=' :: rest) =
      some (parts first more, '=' :: rest) := by
    rw [separated, bind_apply, dotted, List.append_assoc, spacedPart_bare first hfirst,
      Option.bind_some, bind_apply, many, hmore, Option.bind_some]
    rfl
  have hlength : (parts first more).length ≤ maxDepth := by
    simpa [parts] using Nat.succ_le_of_lt h
  have hguard : guard ((parts first more).length ≤ maxDepth) = (pure () : Reader Unit) :=
    if_pos hlength
  rw [key, bind_apply, ← spacedPart, hparts, Option.bind_some, bind_apply, hguard]
  rfl

/-! ## Documents -/

/-- A document that gives a text under a dotted key. -/
def assignment (first : BareKey) (more : List BareKey) (s : List Char) : List Char :=
  dotted first more ++ '=' :: quoted s

private theorem entry_assignment (first : BareKey) (more : List BareKey) (s : List Char)
    (h : more.length < maxDepth) :
    entry (value maxDepth) (assignment first more s) =
      some ((((parts first more).dropLast, (parts first more).getLastD ""),
        .text (String.ofList s)), []) := by
  have hvalue := value_quoted s stops_nil maxDepth
  rw [List.append_nil] at hvalue
  have hspaces : spaces (quoted s) = some ((), quoted s) := spaces_eq_self (stops_cons (by decide))
  rw [entry, bind_apply, assignment, key_dotted first more h, Option.bind_some, bind_apply,
    char_cons, Option.bind_some, bind_apply, hspaces, Option.bind_some, bind_apply, hvalue]
  rfl

private theorem reader_assignment (first : BareKey) (more : List BareKey) (s : List Char)
    (h : more.length < maxDepth) :
    Statement.reader (assignment first more s) =
      some (.entry (parts first more).dropLast ((parts first more).getLastD "")
        (.text (String.ofList s)), []) := by
  have hbracket : Stops (· == '[') (assignment first more s) := by
    obtain ⟨c, name, hname⟩ := List.exists_cons_of_ne_nil first.2.1
    have hc : isKeyChar c = true := first.2.2 c (by simp [hname])
    rw [assignment, dotted, hname, List.cons_append, List.cons_append]
    refine stops_cons (beq_eq_false_iff_ne.2 ?_)
    rintro rfl
    revert hc
    decide
  have hword : word "[[" (assignment first more s) = none := by
    have hexpected : "[[".toList = ['[', '['] := rfl
    rw [word, hexpected]
    refine if_neg ?_
    cases hs : assignment first more s with
    | nil => decide
    | cons c text =>
      have hc : (c == '[') = false := hbracket c (by rw [hs]; rfl)
      simp [List.isPrefixOf, BEq.comm.trans hc]
  rw [Statement.reader, orElse_apply, map_apply, seqLeft_apply, seqRight_apply, hword,
    Option.bind_none, orElse_apply, map_apply, seqLeft_apply, seqRight_apply,
    char_eq_none hbracket, map_apply, entry_assignment first more s h]
  rfl

private theorem line_assignment (first : BareKey) (more : List BareKey) (s : List Char)
    (h : more.length < maxDepth) :
    line (assignment first more s) =
      some (some (.entry (parts first more).dropLast ((parts first more).getLastD "")
        (.text (String.ofList s))), []) := by
  have hspaces : spaces (assignment first more s) = some ((), assignment first more s) := by
    rw [assignment, dotted, List.append_assoc]
    exact spaces_eq_self first.stops
  have hend : lineEnd [] = some ((), []) := rfl
  rw [line, seqRight_apply, hspaces, Option.bind_some, orElse_apply, seqLeft_apply, map_apply,
    reader_assignment first more s h, Option.map_some, Option.bind_some, hend]
  rfl

theorem statements_assignment (first : BareKey) (more : List BareKey) (s : List Char)
    (h : more.length < maxDepth) :
    statements.run? (assignment first more s) =
      some [.entry (parts first more).dropLast ((parts first more).getLastD "")
        (.text (String.ofList s))] := by
  have hline := line_assignment first more s h
  have hempty : manyFrom line [] = ([], []) := by
    have hblank : line [] = some (none, []) := rfl
    rw [manyFrom, hblank]
    rfl
  have hmany : manyFrom line (assignment first more s) =
      ([some (.entry (parts first more).dropLast ((parts first more).getLastD "")
        (.text (String.ofList s)))], []) := by
    have hpositive : 0 < (assignment first more s).length := by
      rw [assignment, List.length_append, List.length_cons]
      omega
    rw [manyFrom, hline]
    dsimp only [List.length_nil]
    rw [if_pos hpositive, hempty]
  rw [run?, statements, bind_apply, many, hmany]
  rfl

end Toml

end LogDigest
