import LogDigest.Profile
import Mathlib.Data.String.Basic

/-!
# Limits of profiles

The messages about profiles give the limits of texts in characters, but the limits are kept in
bytes.  A text that keeps a limit in bytes keeps it in characters as well, so every profile that is
accepted is as the messages say.  A text that is not ASCII may be refused although the message does
not apply to it, and then hides what is wrong with the profile otherwise.
-/

namespace LogDigest

namespace Profile

/-! ## Faults by a measure of texts -/

/-- The faults in the order in which a profile is checked for them. -/
def Fault.inOrder : List Fault :=
  [.idLength, .idCharacters, .nameLength, .templateLength, .blankField]

variable (length : String → Nat)

/-- Whether what the message of a fault asks for fails, if `length` tells how long texts are. -/
def Fault.Applies (profile : Profile) : Fault → Prop
  | .idLength => ¬ (1 ≤ length profile.id ∧ length profile.id ≤ 64)
  | .idCharacters => ∃ c ∈ profile.id.toList, isIdChar c = false
  | .nameLength => ¬ (1 ≤ length profile.name ∧ length profile.name ≤ 256)
  | .templateLength => ∃ template ∈ profile.template, 4096 < length template
  | .blankField => ∃ field ∈ profile.fields, ∀ c ∈ field.toList, Text.isBlank c = true

instance (profile : Profile) : DecidablePred (Fault.Applies length profile)
  | .idLength => inferInstanceAs (Decidable (¬ _))
  | .idCharacters => List.decidableBEx (isIdChar · = false) profile.id.toList
  | .nameLength => inferInstanceAs (Decidable (¬ _))
  | .templateLength => inferInstanceAs (Decidable (∃ template ∈ profile.template, _))
  | .blankField =>
    have (field : String) : Decidable (∀ c ∈ field.toList, Text.isBlank c = true) :=
      List.decidableBAll (Text.isBlank · = true) field.toList
    List.decidableBEx (fun field : String => ∀ c ∈ field.toList, Text.isBlank c = true) profile.fields

/-- The first fault that applies to a profile. -/
def firstFault? (profile : Profile) : Option Fault :=
  Fault.inOrder.find? fun fault => decide (fault.Applies length profile)

variable {profile : Profile} {fault : Fault}

/-! ## What the check of a profile finds -/

def Fault.found (profile : Profile) : Fault → Bool
  | .idLength => !hasLength profile.id maxIdLength
  | .idCharacters => !profile.id.toList.all isIdChar
  | .nameLength => !hasLength profile.name maxNameLength
  | .templateLength =>
    profile.template.any fun template => maxTemplateLength < template.utf8ByteSize
  | .blankField => profile.fields.any fun field => field.toList.all Text.isBlank

theorem fault?_eq_find? (profile : Profile) :
    profile.fault? = Fault.inOrder.find? (Fault.found profile) := by
  simp only [fault?, Fault.inOrder, List.find?_cons, List.find?_nil, Fault.found]
  cases hasLength profile.id maxIdLength with
  | false => rfl
  | true =>
    cases profile.id.toList.all isIdChar with
    | false => rfl
    | true =>
      cases hasLength profile.name maxNameLength with
      | false => rfl
      | true =>
        cases profile.template.any fun template => maxTemplateLength < template.utf8ByteSize with
        | true => rfl
        | false =>
          cases profile.fields.any fun field => field.toList.all Text.isBlank with
          | true => rfl
          | false => rfl

private theorem hasLength_iff {text : String} {most : Nat} :
    hasLength text most = true ↔ 1 ≤ text.utf8ByteSize ∧ text.utf8ByteSize ≤ most := by
  rw [hasLength, Bool.and_eq_true, decide_eq_true_iff, decide_eq_true_iff]
  exact Iff.rfl

private theorem found_iff :
    fault.found profile = true ↔ fault.Applies String.utf8ByteSize profile := by
  cases fault with
  | idLength | nameLength =>
    rw [Fault.found, Bool.not_eq_true', Bool.eq_false_iff, ne_eq, hasLength_iff]
    exact Iff.rfl
  | idCharacters =>
    rw [Fault.found, Bool.not_eq_true', List.all_eq_false]
    simp only [Fault.Applies, Bool.not_eq_true]
  | templateLength =>
    rw [Fault.found, Option.any_eq_true]
    exact exists_congr fun template => and_congr_right fun _ => decide_eq_true_iff
  | blankField =>
    rw [Fault.found, List.any_eq_true]
    simp only [Fault.Applies, List.all_eq_true]

/-- The check of a profile finds the first fault that applies to it in bytes. -/
theorem fault?_eq_firstFault? (profile : Profile) :
    profile.fault? = profile.firstFault? String.utf8ByteSize := by
  rw [fault?_eq_find?, firstFault?]
  congr 1
  funext fault
  rw [Bool.eq_iff_iff, decide_eq_true_iff]
  exact found_iff

/-! ## Bytes and characters -/

private theorem length_le_utf8ByteSize (text : String) : text.length ≤ text.utf8ByteSize := by
  rw [← String.ofList_toList (s := text), String.utf8ByteSize_ofList, String.length_ofList]
  induction text.toList with
  | nil => exact Nat.le_refl 0
  | cons c rest ih =>
    rw [List.length_cons, String.utf8Len_cons]
    exact Nat.add_le_add ih c.utf8Size_pos

private theorem one_le_length {text : String} (h : 1 ≤ text.utf8ByteSize) : 1 ≤ text.length := by
  rw [Nat.one_le_iff_ne_zero] at h ⊢
  intro hzero
  rw [String.length_eq_zero_iff.1 hzero] at h
  exact h rfl

theorem Fault.Applies.bytes (h : fault.Applies String.length profile) :
    fault.Applies String.utf8ByteSize profile := by
  cases fault with
  | idLength | nameLength =>
    rintro ⟨hsome, hmost⟩
    exact h ⟨one_le_length hsome, Nat.le_trans (length_le_utf8ByteSize _) hmost⟩
  | idCharacters | blankField => exact h
  | templateLength =>
    obtain ⟨template, hmem, hlong⟩ := h
    exact ⟨template, hmem, Nat.lt_of_lt_of_le hlong (length_le_utf8ByteSize template)⟩

/-- Of two searches, one of which finds only what the other finds, the results agree if that of the
other is a result for both. -/
theorem find?_eq_find?_iff {α : Type} {p q : α → Bool} {items : List α}
    (himp : ∀ item, q item = true → p item = true) :
    items.find? p = items.find? q ↔ ∀ item ∈ items.find? p, q item = true := by
  constructor
  · intro heq item hitem
    rw [heq] at hitem
    exact List.find?_some hitem
  · intro hall
    induction items with
    | nil => rfl
    | cons item rest ih =>
      by_cases hp : p item = true
      · rw [List.find?_cons_of_pos hp] at hall ⊢
        rw [List.find?_cons_of_pos (hall item rfl)]
      · rw [List.find?_cons_of_neg hp] at hall ⊢
        rw [List.find?_cons_of_neg fun hq => hp (himp item hq)]
        exact ih hall

/-- The check of a profile finds the first fault that applies to it in bytes.  That is what the
messages describe, the first fault that applies in characters, exactly if the fault that is found,
if any, applies in characters. -/
theorem fault?_described_iff (profile : Profile) :
    profile.fault? = profile.firstFault? String.utf8ByteSize ∧
      (profile.fault? = profile.firstFault? String.length ↔
        ∀ fault ∈ profile.fault?, fault.Applies String.length profile) := by
  refine ⟨profile.fault?_eq_firstFault?, ?_⟩
  rw [profile.fault?_eq_firstFault?, firstFault?, firstFault?, find?_eq_find?_iff]
  · simp only [decide_eq_true_iff]
  · intro fault h
    rw [decide_eq_true_iff] at h ⊢
    exact h.bytes

/-- An identifier of 33 letters of two bytes each is too long in bytes and not in characters. -/
theorem fault?_not_described :
    let cafes : Profile := { id := String.ofList (List.replicate 33 'é'), name := "Cafés" }
    cafes.fault? = some .idLength ∧ cafes.firstFault? String.length = none := by
  decide +kernel

end Profile

end LogDigest
