import LogDigest.Text.CaseTable
import LogDigest.Text.CasedTable

/-!
# Lower case

The full lower-case mapping of Unicode.  Every character maps by itself, except the capital
sigma, whose form depends on whether it ends a word.
-/

namespace LogDigest.Text

def CaseRun.target? (run : CaseRun) (n : Nat) : Option Nat :=
  if run.first ≤ n && n ≤ run.last && (n - run.first) % run.step == 0 then
    some (run.shift + n).toNat
  else none

def lowerChar (c : Char) : List Char :=
  if c.toNat < 0x80 then [c.toLower]
  else if c.toNat = 0x130 then ['i', Char.ofNat 0x307]
  else match caseRuns.findSome? (·.target? c.toNat) with
    | some n => [Char.ofNat n]
    | none => [c]

def meetsCased (s : List Char) : Bool :=
  match s.dropWhile caseIgnorables.contains with
  | [] => false
  | c :: _ => casedPoints.contains c

def capitalSigma : Char := Char.ofNat 0x3A3

/-- The form of a capital sigma between the reversed text `before` it and the text `after` it:
final at the end of a word, medial elsewhere. -/
def lowerSigma (before after : List Char) : Char :=
  if meetsCased before && !meetsCased after then Char.ofNat 0x3C2 else Char.ofNat 0x3C3

/-- Lower case of a text that follows the reversed text `before`. -/
def lowerAfter (before : List Char) : List Char → List Char
  | [] => []
  | c :: rest =>
    (if c = capitalSigma then [lowerSigma before rest] else lowerChar c) ++
      lowerAfter (c :: before) rest

def lower (s : List Char) : List Char :=
  lowerAfter [] s

def lowered (s : String) : String :=
  String.ofList (lower s.toList)

theorem toNat_toLower (c : Char) :
    c.toLower.toNat = if 65 ≤ c.toNat ∧ c.toNat ≤ 90 then c.toNat + 32 else c.toNat := by
  unfold Char.toLower
  simp only [ge_iff_le, UInt32.le_iff_toNat_le]
  split
  · next h =>
    have hcapital : 65 ≤ c.toNat ∧ c.toNat ≤ 90 := h
    rw [if_pos hcapital]
    show (c.val + 32).toNat = _
    rw [UInt32.toNat_add]
    show (c.toNat + 32) % 2 ^ 32 = c.toNat + 32
    omega
  · next h =>
    have hother : ¬ (65 ≤ c.toNat ∧ c.toNat ≤ 90) := h
    exact (if_neg hother).symm

private theorem lowerAfter_of_ascii {s : List Char} (before : List Char)
    (h : ∀ c ∈ s, c.toNat < 0x80) : lowerAfter before s = s.map Char.toLower := by
  induction s generalizing before with
  | nil => rfl
  | cons c rest ih =>
    rw [List.forall_mem_cons] at h
    have hsigma : c ≠ capitalSigma := by
      rintro rfl
      exact absurd h.1 (by decide)
    rw [lowerAfter, if_neg hsigma, lowerChar, if_pos h.1, ih _ h.2]
    rfl

theorem lower_of_ascii {s : List Char} (h : ∀ c ∈ s, c.toNat < 0x80) :
    lower s = s.map Char.toLower :=
  lowerAfter_of_ascii [] h

end LogDigest.Text
