import LogDigest.Json.Literal
import LogDigest.Text.Number

/-!
# Reading JSON

A reader takes a value off the start of a text and says what is left, together with the proof
that something was taken.  Arrays and objects nest at most `maxDepth` deep; a raw control
character, half a surrogate pair, a number out of range, or anything after the document makes a
text no document.
-/

namespace LogDigest.Json

def maxDepth : Nat := 127

def isSpace (c : Char) : Bool :=
  c == ' ' || c == '\t' || c == '\n' || c == '\r'

def skipSpace (s : List Char) : List Char :=
  s.dropWhile isSpace

theorem length_skipSpace_le (s : List Char) : (skipSpace s).length ≤ s.length :=
  (List.dropWhile_sublist isSpace).length_le

theorem length_lt_of_skipSpace {s rest : List Char} {c : Char} (h : skipSpace s = c :: rest) :
    rest.length < s.length := by
  have := length_skipSpace_le s
  rw [h] at this
  exact this

/-- What is left of a text after something was taken off its start. -/
abbrev Shorter (s : List Char) : Type :=
  { rest : List Char // rest.length < s.length }

/-! ## Strings -/

def unit? (a b c d : Char) : Option Nat :=
  match Text.hexValue? a, Text.hexValue? b, Text.hexValue? c, Text.hexValue? d with
  | some a, some b, some c, some d => some (((a * 16 + b) * 16 + c) * 16 + d)
  | _, _, _, _ => none

def isHighSurrogate (n : Nat) : Bool :=
  0xD800 ≤ n && n < 0xDC00

def isLowSurrogate (n : Nat) : Bool :=
  0xDC00 ≤ n && n < 0xE000

def paired (high low : Nat) : Char :=
  Char.ofNat (0x10000 + (high - 0xD800) * 0x400 + (low - 0xDC00))

/-- The second half of the pair that `high` begins, written as an escape of its own. -/
def lowHalf? (high : Nat) : List Char → Option (Char × List Char)
  | '\\' :: 'u' :: a :: b :: c :: d :: rest =>
    match unit? a b c d with
    | some low => if isLowSurrogate low then some (paired high low, rest) else none
    | none => none
  | _ => none

def escape? : List Char → Option (Char × List Char)
  | '"' :: rest => some ('"', rest)
  | '\\' :: rest => some ('\\', rest)
  | '/' :: rest => some ('/', rest)
  | 'b' :: rest => some (Char.ofNat 8, rest)
  | 'f' :: rest => some (Char.ofNat 12, rest)
  | 'n' :: rest => some ('\n', rest)
  | 'r' :: rest => some ('\r', rest)
  | 't' :: rest => some ('\t', rest)
  | 'u' :: a :: b :: c :: d :: rest =>
    match unit? a b c d with
    | some n =>
      if isHighSurrogate n then lowHalf? n rest
      else if isLowSurrogate n then none
      else some (Char.ofNat n, rest)
    | none => none
  | _ => none

private theorem length_of_lowHalf? {high : Nat} {s rest : List Char} {c : Char}
    (h : lowHalf? high s = some (c, rest)) : rest.length < s.length := by
  unfold lowHalf? at h
  split at h
  · split at h
    · split at h
      · simp only [Option.some.injEq, Prod.mk.injEq] at h
        obtain ⟨-, rfl⟩ := h
        simp only [List.length_cons]
        omega
      · cases h
    · cases h
  · cases h

theorem length_of_escape? {s rest : List Char} {c : Char} (h : escape? s = some (c, rest)) :
    rest.length < s.length := by
  unfold escape? at h
  split at h
  case h_9 =>
    split at h
    · split at h
      · have := length_of_lowHalf? h
        simp only [List.length_cons]
        omega
      · split at h
        · cases h
        · simp only [Option.some.injEq, Prod.mk.injEq] at h
          obtain ⟨-, rfl⟩ := h
          simp only [List.length_cons]
          omega
    · cases h
  case h_10 => cases h
  all_goals
    simp only [Option.some.injEq, Prod.mk.injEq] at h
    obtain ⟨-, rfl⟩ := h
    simp only [List.length_cons]
    omega

/-- Reads up to the closing quote; `done` holds the characters read so far, last first. -/
def stringBody? (done : List Char) (s : List Char) : Option (String × List Char) :=
  match s with
  | [] => none
  | '"' :: rest => some (String.ofList done.reverse, rest)
  | '\\' :: rest =>
    match h : escape? rest with
    | none => none
    | some (c, tail) =>
      have := length_of_escape? h
      stringBody? (c :: done) tail
  | c :: rest => if c.toNat < 0x20 then none else stringBody? (c :: done) rest
termination_by s.length
decreasing_by all_goals simp only [List.length_cons]; omega

theorem length_of_stringBody? {done s rest : List Char} {text : String}
    (h : stringBody? done s = some (text, rest)) : rest.length < s.length := by
  fun_induction stringBody? done s with
  | case1 => cases h
  | case2 =>
    simp only [Option.some.injEq, Prod.mk.injEq] at h
    obtain ⟨-, rfl⟩ := h
    simp
  | case3 => cases h
  | case4 done tail c left hc hlt ih =>
    have := ih h
    simp only [List.length_cons]
    omega
  | case5 => cases h
  | case6 done c tail _ _ _ ih =>
    have := ih h
    simp only [List.length_cons]
    omega

/-! ## Values -/

def scalar? (s : List Char) : Option (Json × Shorter s) :=
  match s with
  | 'n' :: 'u' :: 'l' :: 'l' :: rest =>
    some (.null, ⟨rest, by simp only [List.length_cons]; omega⟩)
  | 't' :: 'r' :: 'u' :: 'e' :: rest =>
    some (.bool true, ⟨rest, by simp only [List.length_cons]; omega⟩)
  | 'f' :: 'a' :: 'l' :: 's' :: 'e' :: rest =>
    some (.bool false, ⟨rest, by simp only [List.length_cons]; omega⟩)
  | '"' :: rest =>
    match h : stringBody? [] rest with
    | some (text, left) =>
      some (.string text, ⟨left, Nat.lt_succ_of_lt (length_of_stringBody? h)⟩)
    | none => none
  | s =>
    match h : Literal.read? s with
    | some (literal, rest) =>
      literal.value?.map fun n => (.number n, ⟨rest, Literal.length_of_read? h⟩)
    | none => none

/-- Reads the items of an array up to its closing bracket; `done` holds the items read so far,
last first. -/
def items? (value? : (s : List Char) → Option (Json × Shorter s)) (done : List Json)
    (s : List Char) : Option (List Json × List Char) :=
  match value? s with
  | none => none
  | some (item, ⟨rest, _⟩) =>
    match h : skipSpace rest with
    | ',' :: more =>
      have := length_lt_of_skipSpace h
      items? value? (item :: done) more
    | ']' :: left => some ((item :: done).reverse, left)
    | _ => none
termination_by s.length

private theorem length_of_items? {value? : (s : List Char) → Option (Json × Shorter s)}
    {done items : List Json} {s rest : List Char}
    (h : items? value? done s = some (items, rest)) : rest.length < s.length := by
  fun_induction items? value? done s with
  | case1 => cases h
  | case2 done s item tail htail _ more hmore hlt ih =>
    have := ih h
    omega
  | case3 done s item tail htail _ left hleft =>
    simp only [Option.some.injEq, Prod.mk.injEq] at h
    obtain ⟨-, rfl⟩ := h
    have := length_lt_of_skipSpace hleft
    omega
  | case4 => cases h

def member? (value? : (s : List Char) → Option (Json × Shorter s)) (s : List Char) :
    Option ((String × Json) × Shorter s) :=
  match h : skipSpace s with
  | '"' :: rest =>
    have hrest := length_lt_of_skipSpace h
    match htail : stringBody? [] rest with
    | none => none
    | some (key, tail) =>
      have htail := length_of_stringBody? htail
      match hcolon : skipSpace tail with
      | ':' :: after =>
        have hafter := length_lt_of_skipSpace hcolon
        match value? after with
        | none => none
        | some (value, ⟨left, hleft⟩) => some ((key, value), ⟨left, by omega⟩)
      | _ => none
  | _ => none

/-- Reads the members of an object up to its closing brace; `done` holds the members read so
far, last first. -/
def members? (value? : (s : List Char) → Option (Json × Shorter s))
    (done : List (String × Json)) (s : List Char) :
    Option (List (String × Json) × List Char) :=
  match member? value? s with
  | none => none
  | some (member, ⟨rest, _⟩) =>
    match h : skipSpace rest with
    | ',' :: more =>
      have := length_lt_of_skipSpace h
      members? value? (member :: done) more
    | '}' :: left => some ((member :: done).reverse, left)
    | _ => none
termination_by s.length

private theorem length_of_members? {value? : (s : List Char) → Option (Json × Shorter s)}
    {done members : List (String × Json)} {s rest : List Char}
    (h : members? value? done s = some (members, rest)) : rest.length < s.length := by
  fun_induction members? value? done s with
  | case1 => cases h
  | case2 done s member tail htail _ more hmore hlt ih =>
    have := ih h
    omega
  | case3 done s member tail htail _ left hleft =>
    simp only [Option.some.injEq, Prod.mk.injEq] at h
    obtain ⟨-, rfl⟩ := h
    have := length_lt_of_skipSpace hleft
    omega
  | case4 => cases h

def arrayBody? (value? : (s : List Char) → Option (Json × Shorter s)) (s : List Char) :
    Option (List Json × Shorter s) :=
  match h : skipSpace s with
  | ']' :: rest => some ([], ⟨rest, length_lt_of_skipSpace h⟩)
  | _ =>
    match h : items? value? [] s with
    | some (items, rest) => some (items, ⟨rest, length_of_items? h⟩)
    | none => none

def objectBody? (value? : (s : List Char) → Option (Json × Shorter s)) (s : List Char) :
    Option (List (String × Json) × Shorter s) :=
  match h : skipSpace s with
  | '}' :: rest => some ([], ⟨rest, length_lt_of_skipSpace h⟩)
  | _ =>
    match h : members? value? [] s with
    | some (members, rest) => some (members, ⟨rest, length_of_members? h⟩)
    | none => none

/-- A reader of a text without its leading blanks, as a reader of the text. -/
def Shorter.ofSkipSpace {s : List Char} (rest : Shorter (skipSpace s)) : Shorter s :=
  ⟨rest.1, Nat.lt_of_lt_of_le rest.2 (length_skipSpace_le s)⟩

def value? : (depth : Nat) → (s : List Char) → Option (Json × Shorter s)
  | 0, s => (scalar? (skipSpace s)).map fun (value, rest) => (value, rest.ofSkipSpace)
  | depth + 1, s =>
    match h : skipSpace s with
    | '[' :: rest =>
      have hrest := length_lt_of_skipSpace h
      (arrayBody? (value? depth) rest).map fun (items, left) =>
        (.array items, ⟨left.1, Nat.lt_trans left.2 hrest⟩)
    | '{' :: rest =>
      have hrest := length_lt_of_skipSpace h
      (objectBody? (value? depth) rest).map fun (members, left) =>
        (ofMembers members, ⟨left.1, Nat.lt_trans left.2 hrest⟩)
    | _ => (scalar? (skipSpace s)).map fun (value, rest) => (value, rest.ofSkipSpace)

def read? (s : List Char) : Option Json :=
  match value? maxDepth s with
  | some (doc, rest) => if (skipSpace rest).isEmpty then some doc else none
  | none => none

def parse? (s : String) : Option Json :=
  read? s.toList

end LogDigest.Json
