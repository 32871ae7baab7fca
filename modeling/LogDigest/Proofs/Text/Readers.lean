import LogDigest.Proofs.Text.Span
import LogDigest.Text.Reader

/-!
# What readers take

What composed readers make of a text, in terms of what their parts make of it, and what a reader
makes of a text that is put together from the pieces it takes one after the other.
-/

namespace LogDigest.Reader

open Text (Stops)

variable {α β ι : Type} {p : Char → Bool} {c : Char} {s rest : List Char}

/-! ## Composed readers -/

@[simp] theorem pure_apply (a : α) (s : List Char) : (pure a : Reader α) s = some (a, s) :=
  rfl

@[simp] theorem bind_apply (reader : Reader α) (next : α → Reader β) (s : List Char) :
    (reader >>= next) s = (reader s).bind fun taken => next taken.1 taken.2 :=
  rfl

@[simp] theorem map_apply (f : α → β) (reader : Reader α) (s : List Char) :
    (f <$> reader) s = (reader s).map fun taken => (f taken.1, taken.2) := by
  cases h : reader s <;> simp [Functor.map, StateT.map, h]

@[simp] theorem seqRight_apply (first : Reader α) (second : Reader β) (s : List Char) :
    (first *> second) s = (first s).bind fun taken => second taken.2 :=
  rfl

@[simp] theorem seqLeft_apply (first : Reader α) (second : Reader β) (s : List Char) :
    (first <* second) s =
      (first s).bind fun taken => (second taken.2).map fun left => (taken.1, left.2) := by
  change (first >>= fun a => second >>= fun _ => pure a) s = _
  simp only [bind_apply, pure_apply]
  congr 1
  funext taken
  exact Option.map_eq_bind.symm

@[simp] theorem orElse_apply (first second : Reader α) (s : List Char) :
    (first <|> second) s = (first s).or (second s) := by
  change (StateT.orElse first fun _ => second) s = _
  cases h : first s <;> simp [StateT.orElse, h]

@[simp] theorem discard_apply (reader : Reader α) (s : List Char) :
    (discard reader : Reader Unit) s = (reader s).map fun taken => ((), taken.2) :=
  map_apply _ reader s

/-! ## Single characters and runs -/

theorem char_cons (c : Char) (rest : List Char) : char c (c :: rest) = some ((), rest) := by
  simp [char, satisfy]

theorem char_eq_none (h : Stops (· == c) s) : char c s = none := by
  cases s with
  | nil => rfl
  | cons d s =>
    have hd : (d == c) = false := h d rfl
    simp [char, satisfy, hd]

theorem takeSome_append (hne : s ≠ []) (hs : ∀ c ∈ s, p c = true) (h : Stops p rest) :
    takeSome p (s ++ rest) = some (s, rest) := by
  rw [takeSome, Text.takeWhile_append_of_all hs h, Text.dropWhile_append_of_all hs h]
  cases s with
  | nil => exact absurd rfl hne
  | cons => rfl

theorem takeSome_eq_none (h : Stops p s) : takeSome p s = none := by
  rw [takeSome, Text.takeWhile_eq_nil h]

/-! ## Pieces in sequence -/

/-- Of pieces in sequence each is taken by itself, if the reader takes a piece before whatever may
stand behind it. -/
theorem manyFrom_pieces {reader : Reader α} {text : ι → List Char} {value : ι → α}
    {Behind : List Char → Prop} (pieces : List ι)
    (hread : ∀ i rest, Behind rest → reader (text i ++ rest) = some (value i, rest))
    (hne : ∀ i, text i ≠ []) (hbehind : ∀ i rest, Behind (text i ++ rest)) (hrest : Behind rest)
    (hstop : reader rest = none) :
    manyFrom reader (pieces.flatMap text ++ rest) = (pieces.map value, rest) := by
  induction pieces with
  | nil => rw [List.flatMap_nil, List.nil_append, manyFrom, hstop]; rfl
  | cons i pieces ih =>
    have hmore : Behind (pieces.flatMap text ++ rest) := by
      cases pieces with
      | nil => exact hrest
      | cons j pieces =>
        rw [List.flatMap_cons, List.append_assoc]
        exact hbehind j _
    have hshorter : (pieces.flatMap text ++ rest).length <
        (text i ++ (pieces.flatMap text ++ rest)).length := by
      have hpositive := List.length_pos_iff.2 (hne i)
      simp only [List.length_append]
      omega
    rw [List.flatMap_cons, List.append_assoc, manyFrom, hread i _ hmore]
    dsimp only
    rw [if_pos hshorter, ih]
    rfl

end LogDigest.Reader
