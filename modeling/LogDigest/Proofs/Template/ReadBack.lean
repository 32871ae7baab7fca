import LogDigest.Proofs.Template.Cutting
import LogDigest.Proofs.Template.Reading

/-!
# Templates are read back

Scanning a composition gives the token of each of its operands, in order, and nothing else: every
operand is a form, and what follows it in a composition adds no suffix to it.
-/

namespace LogDigest.Template

open Text (Stops)

variable {c : Char} {rest : List Char}

/-! ## Operands are forms -/

/-- A path in brackets, of which no more is asked than that its quote does not occur in it. -/
def Bracket.subscript (bracket : Bracket) : Subscript where
  before := bracket.before
  opening := bracket.opening
  quote := bracket.quote
  path := ⟨bracket.path.1, fun c hc => (bracket.path.2 c hc).1⟩
  closing := bracket.closing

theorem Index.ne_of_mem_content {index : Index} (h : c ∈ index.content) : c ≠ ']' := by
  rintro rfl
  cases index with
  | plain text => exact (text.2 _ h).2 (by decide)
  | quoted quote hquote text =>
    rw [Index.content, List.mem_cons, List.mem_append, List.mem_singleton] at h
    rcases h with rfl | h | rfl
    · cases hquote
    · exact (text.2 _ h).2 (by decide)
    · cases hquote

def KeywordReference.form (reference : KeywordReference) : KeywordForm where
  marker := reference.marker
  subscript := reference.bracket.subscript
  indexes := reference.indexes.map fun index => ⟨index.content, fun _ => Index.ne_of_mem_content⟩
  value := reference.value
  marker_eq_doc := reference.marker_eq_doc

def Member.link : Member → Link
  | .name id => .name id
  | .method id arguments => .method id ⟨arguments.1, by
      rintro c hc rfl
      exact (arguments.2 _ hc).2 (by decide)⟩
  | .index text => .index ⟨text.1, by
      rintro c hc rfl
      exact (text.2 _ hc).2 (by decide)⟩

def Call.form (call : Call) : CallForm where
  name := call.name
  before := call.before
  opening := call.opening
  subscript := call.bracket.subscript
  value := call.value
  closing := call.closing
  links := call.members.map Member.link

def Operand.form : Operand → Form
  | .literal parts => .literal parts
  | .keyword reference => .keyword reference.form
  | .call reference => .call reference.form

theorem Member.text_link (member : Member) : member.link.text = member.text := by
  cases member <;> rfl

theorem Operand.text_form (operand : Operand) : operand.form.text = operand.text := by
  cases operand with
  | literal parts => rfl
  | keyword reference =>
    have hindexes : reference.form.indexes.flatMap indexText =
        reference.indexes.flatMap Index.text := by
      rw [KeywordReference.form, List.flatMap_map]
      rfl
    rw [Operand.form, Form.text, KeywordForm.text, hindexes]
    rfl
  | call reference =>
    have hlinks : reference.form.links.flatMap Link.text =
        reference.members.flatMap Member.text := by
      rw [Call.form, List.flatMap_map]
      exact congrArg (reference.members.flatMap ·) (funext Member.text_link)
    rw [Operand.form, Form.text, CallForm.text, hlinks]
    rfl

theorem Operand.token_form (operand : Operand) : operand.form.token = operand.token := by
  cases operand <;> rfl

/-- Nothing of a text goes on with a chain of links. -/
def Ends (rest : List Char) : Prop :=
  ∀ c ∈ rest.head?, isWordChar c = false ∧ c ∉ ['.', '[', '(']

theorem ends_nil : Ends [] := by
  intro c hc
  cases hc

theorem Ends.stops (h : Ends rest) : Stops isWordChar rest :=
  fun c hc => (h c hc).1

theorem Ends.not_startsWith (h : Ends rest) (hc : c ∈ ['.', '[', '(']) (text : List Char) :
    ¬ c :: text <+: rest := by
  rintro ⟨more, rfl⟩
  exact (h c rfl).2 hc

theorem Ends.noIndex (h : Ends rest) : NoIndex rest :=
  fun _ => h.not_startsWith (by decide) _

theorem Ends.noValue (h : Ends rest) : NoValue rest := by
  rintro more _ rfl
  exact h.not_startsWith (by decide) _ (List.prefix_append _ _)

theorem Ends.chainEnds (h : Ends rest) (links : List Link) : ChainEnds links rest := by
  refine ⟨fun link => ?_, fun link _ => ?_⟩
  · cases link with
    | name | method | index => exact h.not_startsWith (by decide) _
  · cases link with
    | name => exact ⟨h.stops, fun _ => h.not_startsWith (by decide) _⟩
    | method | index => trivial

theorem Ends.endsBefore (h : Ends rest) (form : Form) : form.EndsBefore rest := by
  cases form with
  | literal => trivial
  | keyword => exact ⟨fun _ => h.stops, fun _ => ⟨h.noIndex, fun _ => h.noValue⟩⟩
  | call => exact h.chainEnds _

private theorem form?_operand (operand : Operand) (h : Ends rest) :
    form? (operand.text ++ rest) = some (operand.token, rest) := by
  rw [← operand.text_form, form?_form _ (h.endsBefore _), operand.token_form]

/-! ## Compositions -/

private theorem scanForms_skip (hword : isWordChar c = false) (hquote : c ≠ '\'') :
    scanForms (c :: rest) = scanForms rest := by
  have hnone : form? (c :: rest) = none := by
    rw [form?.eq_2, if_neg hquote, reference?, word?_eq_none (isWordStart_of_isWordChar hword)]
    rfl
  rw [scanForms_of_none hnone, skipOne, if_neg (by simp [hword])]

theorem scanForms_gap (gap : Gap) : scanForms (gap.1 ++ rest) = scanForms rest := by
  obtain ⟨gap, hgap⟩ := gap
  induction gap with
  | nil => rfl
  | cons c gap ih =>
    have hseparator := hgap c (by simp)
    have hquote : c ≠ '\'' := by
      rintro rfl
      exact absurd (isQuote_of_isSeparator hseparator) (by decide)
    rw [List.cons_append, scanForms_skip (isWordChar_of_isSeparator hseparator) hquote]
    exact ih fun d hd => hgap d (by simp [hd])

theorem ends_gap {gap : Gap} (h : gap.1 ≠ []) : Ends (gap.1 ++ rest) := by
  intro c hc
  rw [List.head?_append_of_ne_nil _ h] at hc
  have hseparator := gap.2 c (List.mem_of_mem_head? hc)
  refine ⟨isWordChar_of_isSeparator hseparator, fun hmem => ?_⟩
  simp only [List.mem_cons, List.not_mem_nil, or_false] at hmem
  rcases hmem with rfl | rfl | rfl <;> exact absurd hseparator (by decide)

private theorem scanForms_sequence (operands : List (Operand × Gap))
    (h : operands.IsChain fun left right => Parts left.1 left.2 right.1) :
    scanForms (sequenceText operands) =
      { tokens := operands.map fun operand => operand.1.token, matched := !operands.isEmpty } := by
  induction operands with
  | nil => rw [sequenceText, List.flatMap_nil, scanForms]; rfl
  | cons operand operands ih =>
    -- The last gap alone may be empty, and then the text is over.
    have hends : Ends (operand.2.1 ++ sequenceText operands) := by
      cases operands with
      | nil =>
        by_cases hgap : operand.2.1 = []
        · rw [hgap]
          exact ends_nil
        · exact ends_gap hgap
      | cons next operands => exact ends_gap (List.isChain_cons_cons.1 h).1.1
    rw [sequenceText_cons, scanForms_of_form? (form?_operand operand.1 hends), scanForms_gap,
      ih h.tail]
    rfl

/-- Scanning reads back every composition: nothing is cut out of it, and it has the tokens of its
operands, in order. -/
theorem scanned_composition (composition : Composition) :
    withoutDefinitions composition.text = composition.text ∧
      Scanned.of (String.ofList composition.text) =
        { tokens := composition.tokens, matched := !composition.operands.isEmpty } := by
  have hkept := withoutDefinitions_composition composition
  refine ⟨hkept, ?_⟩
  rw [Scanned.of, String.toList_ofList, hkept, Composition.text, scanForms_gap,
    scanForms_sequence _ composition.parted]
  rfl

def space : Blanks :=
  ⟨[' '], by simp [Text.isBlank]⟩

/-- A literal with an escape, a reference with blanks, an index and its suffix, and a call with a
member, in sequence. -/
def greeting : Composition where
  lead := ⟨[], by simp⟩
  operands := [
    (.literal [.plain 'i' (by decide), .plain 't' (by decide), .quote, .plain 's' (by decide)],
      ⟨[' ', '+', ' '], by simp [IsSeparator, Text.isBlank]⟩),
    (.keyword {
      marker := .doc
      bracket := {
        before := space
        opening := space
        quote := .double
        path := ⟨['a', '.', 'b'], by simp [PathQuote.char]⟩
        closing := space }
      indexes := [.plain ⟨['0'], by simp [IsPlain, isQuote]⟩]
      value := true
      marker_eq_doc := fun _ => rfl },
      ⟨[',', ' '], by simp [IsSeparator, Text.isBlank]⟩),
    (.call {
      name := ⟨'f', ['n'], by decide, List.all_eq_true.mp (by decide)⟩
      before := space
      opening := space
      bracket := {
        before := space
        opening := space
        quote := .single
        path := ⟨['c'], by simp [PathQuote.char]⟩
        closing := space }
      value := false
      closing := space
      members := [.name ⟨'k', ['e', 'y'], by decide, List.all_eq_true.mp (by decide)⟩] },
      ⟨[], by simp⟩)]
  parted := List.isChain_cons_cons.2 ⟨⟨by simp, fun h => absurd h (by decide)⟩,
    List.isChain_cons_cons.2 ⟨⟨by simp, fun _ _ => ⟨',', by simp, by decide⟩⟩,
      List.isChain_singleton _⟩⟩

theorem scanned_composition_greeting :
    Scanned.of "'it\\'s' + doc [ \"a.b\" ][0].value, fn ( doc [ 'c' ] ).key" =
      { tokens := [.literal "it's", .field .doc "a.b", .field .doc "c"], matched := true } := by
  have htext : greeting.text =
      "'it\\'s' + doc [ \"a.b\" ][0].value, fn ( doc [ 'c' ] ).key".toList :=
    String.toList_ofList.symm
  have hscanned := (scanned_composition greeting).2
  rwa [htext, String.ofList_toList] at hscanned

end LogDigest.Template
