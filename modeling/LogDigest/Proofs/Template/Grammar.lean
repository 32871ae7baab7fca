import LogDigest.Template.Scan
import Mathlib.Data.List.Chain

/-!
# The template language

Templates as a writer may spell them.  An operand is a literal with its escapes, a reference by
keyword with the blanks, indexes and suffixes that it admits, or a call on a `doc` reference with
its chain of members.  Each operand has a text that spells it and a token that it stands for.  A
composition puts operands in sequence, with blanks, `+`, `;` and `,` between them.
-/

namespace LogDigest.Template

/-- A text all of whose characters are of one kind. -/
abbrev TextOf (kind : Char → Prop) : Type :=
  { s : List Char // ∀ c ∈ s, kind c }

abbrev Blanks : Type :=
  TextOf fun c => Text.isBlank c = true

/-- Characters of plain indexes and arguments: no quotes, brackets, parentheses or braces. -/
def IsPlain (c : Char) : Prop :=
  isQuote c = false ∧ c ∉ ['[', ']', '(', ')', '{', '}']

/-- Characters of quoted indexes: no quotes, brackets or backslashes. -/
def IsQuotable (c : Char) : Prop :=
  isQuote c = false ∧ c ∉ ['[', ']', '\\']

structure Name where
  first : Char
  rest : List Char
  isWordStart_first : isWordStart first = true
  isWordChar_rest : ∀ c ∈ rest, isWordChar c = true

def Name.text (name : Name) : List Char :=
  name.first :: name.rest

def Marker.name : Marker → Name
  | .doc => ⟨'d', ['o', 'c'], by decide, List.all_eq_true.mp (by decide)⟩
  | .wrap => ⟨'w', ['r', 'a', 'p'], by decide, List.all_eq_true.mp (by decide)⟩
  | .error => ⟨'e', ['r', 'r', 'o', 'r'], by decide, List.all_eq_true.mp (by decide)⟩

theorem Marker.text_name (marker : Marker) : marker.name.text = marker.keyword := by
  cases marker <;> rfl

/-! ## Literals -/

inductive LiteralPart where
  | plain (c : Char) (ne : c ≠ '\'' ∧ c ≠ '\\')
  /-- A line feed, written as `\n`. -/
  | lineFeed
  /-- A quote after a backslash. -/
  | quote
  /-- A backslash after a backslash. -/
  | backslash
  /-- A backslash that is kept, before any other character. -/
  | kept (c : Char) (ne : c ≠ 'n' ∧ c ≠ '\'' ∧ c ≠ '\\')

namespace LiteralPart

/-- How a part of a literal is written. -/
def text : LiteralPart → List Char
  | .plain c _ => [c]
  | .lineFeed => ['\\', 'n']
  | .quote => ['\\', '\'']
  | .backslash => ['\\', '\\']
  | .kept c _ => ['\\', c]

/-- What a part of a literal stands for. -/
def meaning : LiteralPart → List Char
  | .plain c _ => [c]
  | .lineFeed => ['\n']
  | .quote => ['\'']
  | .backslash => ['\\']
  | .kept c _ => ['\\', c]

end LiteralPart

/-! ## References -/

inductive PathQuote where
  | single
  | double
  deriving DecidableEq, Repr

def PathQuote.char : PathQuote → Char
  | .single => '\''
  | .double => '"'

/-- A path between quotes and brackets, with the blanks before and inside the brackets. -/
structure Bracket where
  before : Blanks
  opening : Blanks
  quote : PathQuote
  path : TextOf fun c => c ≠ quote.char ∧ c ≠ '\\'
  closing : Blanks

/-- How a path in brackets is written. -/
def Bracket.text (bracket : Bracket) : List Char :=
  bracket.before.1 ++ '[' :: (bracket.opening.1 ++ bracket.quote.char ::
    (bracket.path.1 ++ bracket.quote.char :: (bracket.closing.1 ++ [']'])))

inductive Index where
  | plain (text : TextOf IsPlain)
  | quoted (quote : Char) (isQuote_quote : isQuote quote = true) (text : TextOf IsQuotable)

/-- What an index holds between its brackets. -/
def Index.content : Index → List Char
  | .plain text => text.1
  | .quoted quote _ text => quote :: (text.1 ++ [quote])

def Index.text (index : Index) : List Char :=
  '[' :: (index.content ++ [']'])

/-- The identifier of the suffix that `doc` references admit. -/
def valueName : Name :=
  ⟨'v', ['a', 'l', 'u', 'e'], by decide, List.all_eq_true.mp (by decide)⟩

def valueSuffix (present : Bool) : List Char :=
  if present then '.' :: valueName.text else []

structure KeywordReference where
  marker : Marker
  bracket : Bracket
  indexes : List Index
  value : Bool
  marker_eq_doc : value = true → marker = .doc

/-- How a reference by keyword is written. -/
def KeywordReference.text (reference : KeywordReference) : List Char :=
  reference.marker.keyword ++ (reference.bracket.text ++
    (reference.indexes.flatMap Index.text ++ valueSuffix reference.value))

/-- A link of the chain after a call. -/
inductive Member where
  | name (id : Name)
  | method (id : Name) (arguments : TextOf IsPlain)
  | index (text : TextOf IsPlain)

def Member.text : Member → List Char
  | .name id => '.' :: id.text
  | .method id arguments => '.' :: (id.text ++ '(' :: (arguments.1 ++ [')']))
  | .index text => '[' :: (text.1 ++ [']'])

/-- Whether the last character of a link is one of a word. -/
def Member.endsInWord : Member → Bool
  | .name _ => true
  | _ => false

/-- A call of any identifier on a `doc` reference, and a chain of links after it. -/
structure Call where
  name : Name
  before : Blanks
  opening : Blanks
  bracket : Bracket
  value : Bool
  closing : Blanks
  members : List Member

def Call.text (call : Call) : List Char :=
  call.name.text ++ (call.before.1 ++ '(' :: (call.opening.1 ++ (Marker.doc.keyword ++
    (call.bracket.text ++ (valueSuffix call.value ++ (call.closing.1 ++ ')' ::
      call.members.flatMap Member.text))))))

/-! ## Operands in sequence -/

inductive Operand where
  | literal (parts : List LiteralPart)
  | keyword (reference : KeywordReference)
  | call (reference : Call)

namespace Operand

def text : Operand → List Char
  | .literal parts => '\'' :: (parts.flatMap LiteralPart.text ++ ['\''])
  | .keyword reference => reference.text
  | .call reference => reference.text

/-- The token that an operand stands for. -/
def token : Operand → Token
  | .literal parts => .literal (String.ofList (parts.flatMap LiteralPart.meaning))
  | .keyword reference => .field reference.marker (String.ofList reference.bracket.path.1)
  | .call reference => .field .doc (String.ofList reference.bracket.path.1)

/-- Whether the last character of an operand is one of a word. -/
def endsInWord : Operand → Bool
  | .literal _ => false
  | .keyword reference => reference.value
  | .call reference => reference.members.getLast?.any Member.endsInWord

def isCall : Operand → Bool
  | .call _ => true
  | _ => false

end Operand

def IsSeparator (c : Char) : Prop :=
  Text.isBlank c = true ∨ c ∈ ['+', ';', ',']

instance (c : Char) : Decidable (IsSeparator c) :=
  inferInstanceAs (Decidable (Text.isBlank c = true ∨ c ∈ ['+', ';', ',']))

abbrev Gap : Type :=
  TextOf IsSeparator

/-- A gap keeps its neighbours apart: it is not empty, and it holds more than blanks where a word
before it and the call after it would look like the head of a function definition. -/
def Parts (left : Operand) (gap : Gap) (right : Operand) : Prop :=
  gap.1 ≠ [] ∧
    (left.endsInWord = true → right.isCall = true → ∃ c ∈ gap.1, Text.isBlank c = false)

/-- Operands in sequence, each with the gap after it.  The gaps before the first operand and after
the last one may be empty. -/
structure Composition where
  lead : Gap
  operands : List (Operand × Gap)
  parted : operands.IsChain fun left right => Parts left.1 left.2 right.1

/-- How operands and the gaps after them are written. -/
def sequenceText (operands : List (Operand × Gap)) : List Char :=
  operands.flatMap fun operand => operand.1.text ++ operand.2.1

theorem sequenceText_cons (operand : Operand × Gap) (operands : List (Operand × Gap)) :
    sequenceText (operand :: operands) =
      operand.1.text ++ (operand.2.1 ++ sequenceText operands) := by
  rw [sequenceText, List.flatMap_cons, List.append_assoc]
  rfl

namespace Composition

def text (composition : Composition) : List Char :=
  composition.lead.1 ++ sequenceText composition.operands

/-- The tokens that a composition stands for. -/
def tokens (composition : Composition) : List Token :=
  composition.operands.map fun operand => operand.1.token

end Composition

end LogDigest.Template
