import LogDigest.Proofs.Template.Grammar
import LogDigest.Proofs.Text.Span

/-!
# Forms of a template

What may be recognised in a template that nobody took care to compose.  The forms admit every text
that a reader passes over: backslashes in paths, quotes in indexes, any argument up to the first
parenthesis.  A form comes with all the suffixes that stand next to it, so whether a text spells it
depends on what follows.
-/

namespace LogDigest.Template

open Text (Stops)

/-- A text in which a character does not occur. -/
abbrev Without (mark : Char) : Type :=
  TextOf (· ≠ mark)

def enclosed (opening closing : Char) (content : List Char) : List Char :=
  opening :: (content ++ [closing])

/-! ## References and their suffixes -/

/-- A path between two equal quotes that do not occur in it, in brackets, with the blanks before
and inside the brackets. -/
structure Subscript where
  before : Blanks
  opening : Blanks
  quote : PathQuote
  path : Without quote.char
  closing : Blanks

/-- How a path in brackets is written. -/
def Subscript.text (subscript : Subscript) : List Char :=
  subscript.before.1 ++ '[' :: (subscript.opening.1 ++ subscript.quote.char ::
    (subscript.path.1 ++ subscript.quote.char :: (subscript.closing.1 ++ [']'])))

/-- How an index that adds nothing to the meaning is written. -/
def indexText (content : Without ']') : List Char :=
  enclosed '[' ']' content.1

/-- A text does not start with a whole index. -/
def NoIndex (rest : List Char) : Prop :=
  ∀ content, ¬ indexText content <+: rest

/-- A text does not start with the suffix `.value` as a whole word. -/
def NoValue (rest : List Char) : Prop :=
  ∀ more, Stops isWordChar more → rest ≠ valueSuffix true ++ more

/-- A reference by keyword, with the indexes next to it.  Only `doc` admits the suffix `.value`. -/
structure KeywordForm where
  marker : Marker
  subscript : Subscript
  indexes : List (Without ']')
  value : Bool
  marker_eq_doc : value = true → marker = .doc

namespace KeywordForm

/-- How a reference by keyword is written. -/
def text (form : KeywordForm) : List Char :=
  form.marker.keyword ++ (form.subscript.text ++
    (form.indexes.flatMap indexText ++ valueSuffix form.value))

/-- A reference by keyword has all its suffixes, the rest of the text being what it is. -/
def EndsBefore (form : KeywordForm) (rest : List Char) : Prop :=
  (form.value = true → Stops isWordChar rest) ∧
    (form.value = false → NoIndex rest ∧ (form.marker = .doc → NoValue rest))

end KeywordForm

inductive Link where
  | name (id : Name)
  | method (id : Name) (arguments : Without ')')
  | index (content : Without ']')

def Link.text : Link → List Char
  | .name id => '.' :: id.text
  | .method id arguments => '.' :: (id.text ++ enclosed '(' ')' arguments.1)
  | .index content => indexText content

/-- A link is not a name that goes on, with further characters or with arguments. -/
def Link.EndsBefore (rest : List Char) : Link → Prop
  | .name _ =>
    Stops isWordChar rest ∧ ∀ arguments : Without ')', ¬ enclosed '(' ')' arguments.1 <+: rest
  | _ => True

/-- A chain of links has no further link, the rest of the text being what it is. -/
def ChainEnds (links : List Link) (rest : List Char) : Prop :=
  (∀ link : Link, ¬ link.text <+: rest) ∧ ∀ link ∈ links.getLast?, link.EndsBefore rest

/-- A call of any identifier on one `doc` reference, with the chain of links after it. -/
structure CallForm where
  name : Name
  before : Blanks
  opening : Blanks
  subscript : Subscript
  value : Bool
  closing : Blanks
  links : List Link

def CallForm.text (form : CallForm) : List Char :=
  form.name.text ++ (form.before.1 ++ '(' :: (form.opening.1 ++ (Marker.doc.keyword ++
    (form.subscript.text ++ (valueSuffix form.value ++ (form.closing.1 ++ ')' ::
      form.links.flatMap Link.text))))))

/-! ## Forms -/

inductive Form where
  | literal (parts : List LiteralPart)
  | keyword (form : KeywordForm)
  | call (form : CallForm)

namespace Form

def text : Form → List Char
  | .literal parts => enclosed '\'' '\'' (parts.flatMap LiteralPart.text)
  | .keyword form => form.text
  | .call form => form.text

def token : Form → Token
  | .literal parts => .literal (String.ofList (parts.flatMap LiteralPart.meaning))
  | .keyword form => .field form.marker (String.ofList form.subscript.path.1)
  | .call form => .field .doc (String.ofList form.subscript.path.1)

/-- A form has all its suffixes, the rest of the text being what it is. -/
def EndsBefore (rest : List Char) : Form → Prop
  | .literal _ => True
  | .keyword form => form.EndsBefore rest
  | .call form => ChainEnds form.links rest

end Form

/-! ## Leftmost forms -/

/-- The last character of a text, if there is one, belongs to no word. -/
def Closed (s : List Char) : Prop :=
  ∀ c ∈ s.getLast?, isWordChar c = false

/-- A form may begin between two texts: at a quote, or where a run of word characters begins. -/
def MayBegin (before after : List Char) : Prop :=
  after.head? = some '\'' ∨ (∃ c ∈ after.head?, isWordChar c = true) ∧ Closed before

/-- Between two texts, nothing is recognised in a gap. -/
def Barren (before gap after : List Char) : Prop :=
  ∀ skipped more, gap = skipped ++ more → more ≠ [] →
    MayBegin (before ++ skipped) (more ++ after) → ∀ form : Form, ¬ form.text <+: more ++ after

structure Cut where
  gap : List Char
  form : Form

/-- The leftmost forms of what is left of a text, each with the gap before it.  The first text is
what has been passed over so far. -/
inductive Leftmost : List Char → List Char → List Cut → Prop where
  | last {before gap : List Char} (barren : Barren before gap []) : Leftmost before gap []
  | cut {before gap rest : List Char} {form : Form} {cuts : List Cut}
      (barren : Barren before gap (form.text ++ rest))
      (begins : MayBegin (before ++ gap) (form.text ++ rest))
      (ends : form.EndsBefore rest)
      (more : Leftmost (before ++ gap ++ form.text) rest cuts) :
      Leftmost before (gap ++ (form.text ++ rest)) (⟨gap, form⟩ :: cuts)

end LogDigest.Template
