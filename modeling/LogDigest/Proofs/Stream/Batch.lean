import LogDigest.Stream.Session
import Mathlib.Data.List.DropRight

/-!
# Sessions as one batch

What a session owes its input, said of the input as a whole: the lines of the input, what is
written for each of them, and how they are counted.
-/

namespace LogDigest.Stream

/-! ## Lines of an input -/

/-- The lines of an input, each with its line feed; the last one may lack it. -/
def linesOf : List UInt8 → List (List UInt8)
  | [] => []
  | byte :: rest =>
    if byte = lineFeed then [byte] :: linesOf rest
    else
      match linesOf rest with
      | [] => [[byte]]
      | line :: lines => (byte :: line) :: lines

/-- The part of an input whose lines are complete. -/
def completePart (input : List UInt8) : List UInt8 :=
  input.rdropWhile (· != lineFeed)

/-- The part of an input after its last line feed. -/
def incompletePart (input : List UInt8) : List UInt8 :=
  input.rtakeWhile (· != lineFeed)

private theorem flatten_linesOf (input : List UInt8) : (linesOf input).flatten = input := by
  induction input with
  | nil => rfl
  | cons byte rest ih =>
    rw [linesOf]
    by_cases hfeed : byte = lineFeed
    · rw [if_pos hfeed, List.flatten_cons, ih]
      rfl
    · rw [if_neg hfeed]
      cases hrest : linesOf rest with
      | nil =>
        rw [hrest] at ih
        rw [← ih]
        rfl
      | cons line lines =>
        rw [hrest] at ih
        rw [← ih]
        rfl

example : linesOf [97, 10, 10, 98] = [[97, 10], [10], [98]] := by decide

private theorem linesOf_eq_nil_iff {input : List UInt8} : linesOf input = [] ↔ input = [] := by
  constructor
  · intro h
    rw [← flatten_linesOf input, h]
    rfl
  · rintro rfl
    rfl

theorem linesOf_of_not_mem {line : List UInt8} (hsome : line ≠ []) (hfeed : lineFeed ∉ line) :
    linesOf line = [line] := by
  induction line with
  | nil => exact absurd rfl hsome
  | cons byte rest ih =>
    have hbyte : byte ≠ lineFeed := fun h => hfeed (h ▸ List.mem_cons_self)
    rw [linesOf, if_neg hbyte]
    by_cases hrest : rest = []
    · subst hrest
      rfl
    · rw [ih hrest fun h => hfeed (List.mem_cons_of_mem _ h)]

private theorem linesOf_append_cons (front rest : List UInt8) :
    linesOf (front ++ lineFeed :: rest) = linesOf (front ++ [lineFeed]) ++ linesOf rest := by
  induction front with
  | nil => rfl
  | cons byte front ih =>
    rw [List.cons_append, List.cons_append, linesOf, linesOf, ih]
    by_cases hbyte : byte = lineFeed
    · rw [if_pos hbyte, if_pos hbyte]
      rfl
    · rw [if_neg hbyte, if_neg hbyte]
      cases hfront : linesOf (front ++ [lineFeed]) with
      | nil =>
        rw [linesOf_eq_nil_iff] at hfront
        exact absurd hfront (List.append_ne_nil_of_right_ne_nil _ (List.cons_ne_nil _ _))
      | cons line lines => rfl

theorem linesOf_line {line : List UInt8} (hfeed : lineFeed ∉ line) :
    linesOf (line ++ [lineFeed]) = [line ++ [lineFeed]] := by
  induction line with
  | nil => rfl
  | cons byte rest ih =>
    have hbyte : byte ≠ lineFeed := fun h => hfeed (h ▸ List.mem_cons_self)
    rw [List.cons_append, linesOf, if_neg hbyte, ih fun h => hfeed (List.mem_cons_of_mem _ h)]

/-! ## Complete and incomplete parts -/

theorem completePart_append_incompletePart (input : List UInt8) :
    completePart input ++ incompletePart input = input :=
  List.rdropWhile_append_rtakeWhile

theorem lineFeed_not_mem_incompletePart (input : List UInt8) :
    lineFeed ∉ incompletePart input := by
  intro h
  have hne := List.mem_rtakeWhile_imp h
  simp at hne

theorem parts_append {tail : List UInt8} (input : List UInt8) (h : lineFeed ∉ tail) :
    completePart (input ++ tail) = completePart input ∧
      incompletePart (input ++ tail) = incompletePart input ++ tail := by
  induction tail using List.reverseRecOn with
  | nil => simp
  | append_singleton tail byte ih =>
    have hbyte : byte ≠ lineFeed := fun e => h (by simp [e])
    obtain ⟨hcomplete, hincomplete⟩ := ih fun hmem => h (List.mem_append_left _ hmem)
    have hp : (byte != lineFeed) = true := bne_iff_ne.mpr hbyte
    rw [← List.append_assoc, ← List.append_assoc, ← hcomplete, ← hincomplete]
    exact ⟨List.rdropWhile_concat_pos _ _ _ hp, List.rtakeWhile_concat_pos _ _ _ hp⟩

theorem parts_concat (input : List UInt8) :
    completePart (input ++ [lineFeed]) = input ++ [lineFeed] ∧
      incompletePart (input ++ [lineFeed]) = [] :=
  ⟨List.rdropWhile_concat_neg _ _ _ (by simp), List.rtakeWhile_concat_neg _ _ _ (by simp)⟩

theorem completePart_eq_nil_or_concat (input : List UInt8) :
    completePart input = [] ∨ ∃ front, completePart input = front ++ [lineFeed] := by
  by_cases hnil : completePart input = []
  · exact .inl hnil
  · have hlast := List.rdropWhile_last_not (· != lineFeed) input hnil
    have hfeed : (completePart input).getLast hnil = lineFeed := by
      by_contra hne
      exact hlast (bne_iff_ne.mpr hne)
    refine .inr ⟨(completePart input).dropLast, ?_⟩
    rw [← hfeed, List.dropLast_concat_getLast]

theorem linesOf_completePart_append (input tail : List UInt8) :
    linesOf (completePart input ++ tail) = linesOf (completePart input) ++ linesOf tail := by
  rcases completePart_eq_nil_or_concat input with hnil | ⟨front, hfront⟩
  · rw [hnil]
    rfl
  · rw [hfront, List.append_assoc]
    exact linesOf_append_cons front tail

theorem linesOf_eq_append_incompletePart {input : List UInt8} (h : incompletePart input ≠ []) :
    linesOf input = linesOf (completePart input) ++ [incompletePart input] := by
  rw [← linesOf_of_not_mem h (lineFeed_not_mem_incompletePart input),
    ← linesOf_completePart_append, completePart_append_incompletePart]

theorem completePart_eq_self {input : List UInt8} (h : incompletePart input = []) :
    completePart input = input := by
  have happend := completePart_append_incompletePart input
  rwa [h, List.append_nil] at happend

/-! ## What is written and counted -/

/-- The blob that a line holds, without its ending. -/
def blobOf? (setup : Setup) (line : List UInt8) : Option Blob :=
  match textOf? (withoutEnding line) with
  | some text => (setup.digester.read text).toOption
  | none => none

/-- What is written for a line: the presentation of its blob and a line feed, or else the line
with a line feed for its ending if such lines are passed through. -/
def lineOutput (setup : Setup) (line : List UInt8) : List UInt8 :=
  match blobOf? setup line, setup.digester.view.medium with
  | some blob, .html => bytesOf blob.html ++ [lineFeed]
  | some blob, .plain => bytesOf (blob.text setup.options.showDetails) ++ [lineFeed]
  | none, _ =>
    if setup.options.passthrough then withoutEnding line ++ [lineFeed] else []

/-- What is written for lines, in their order. -/
def batchOutput (setup : Setup) (lines : List (List UInt8)) : List UInt8 :=
  lines.flatMap (lineOutput setup)

/-- How lines are counted: those that hold a blob, and the others by what becomes of them. -/
def batchStats (setup : Setup) (lines : List (List UInt8)) : Stats :=
  let others := lines.countP fun line => (blobOf? setup line).isNone
  { lines := lines.length
    formatted := lines.countP fun line => (blobOf? setup line).isSome
    passedThrough := if setup.options.passthrough then others else 0
    dropped := if setup.options.passthrough then 0 else others }

theorem batchStats_nil (setup : Setup) : batchStats setup [] = {} := by simp [batchStats]

theorem batchOutput_append (setup : Setup) (first second : List (List UInt8)) :
    batchOutput setup (first ++ second) = batchOutput setup first ++ batchOutput setup second :=
  List.flatMap_append

theorem batchStats_append (setup : Setup) (first second : List (List UInt8)) :
    batchStats setup (first ++ second) = batchStats setup first + batchStats setup second := by
  show _ = Stats.add _ _
  cases hpass : setup.options.passthrough with
  | true => simp [batchStats, Stats.add, hpass]
  | false => simp [batchStats, Stats.add, hpass]

end LogDigest.Stream
