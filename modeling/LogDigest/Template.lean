import LogDigest.Markup
import LogDigest.Path
import LogDigest.Template.Scan

/-!
# Templates

A template is scanned once and then shows any number of documents, each as one line.  References
that name no field add nothing to the line but are counted.  A view says for which
medium lines are written and how deep paths may descend.
-/

namespace LogDigest

inductive Medium where
  /-- As markup: values are encoded, and errors stand in a span of their own. -/
  | html
  /-- In a terminal: values are verbatim, and errors stand between marks. -/
  | plain
  deriving DecidableEq, Repr

structure View where
  medium : Medium := .html
  /-- The most steps that a path may take into a document. -/
  depth : Nat := 64
  deriving DecidableEq, Repr

structure Template where
  tokens : List Template.Token
  tokens_ne_nil : tokens ≠ []

structure Line where
  text : String
  unresolved : Nat
  deriving DecidableEq, Repr

namespace Template

/-- Scans a template; `none` if it is blank or no form is recognised in it, so that there is
nothing to show. -/
def compile? (source : String) : Option Template :=
  let found := Scanned.of source
  if (Text.trim source.toList).isEmpty then none
  else if h : found.matched then
    some ⟨found.tokens, by
      have := matched_scanForms (withoutDefinitions source.toList)
      simpa [found, Scanned.of, this] using h⟩
  else none

def errorOpen : String := "<span class=\"kibana-json-error\">"

def errorClose : String := "</span>"

/-- What stands on both sides of an error in a terminal. -/
def errorMark : String := "!!"

def decorated (medium : Medium) (marker : Marker) (value : List Char) : List Char :=
  let shown := match medium with
    | .html => Markup.encode value
    | .plain => value
  match marker, medium with
  | .doc, _ => shown
  | .wrap, _ => '[' :: shown ++ [']']
  | .error, .html => errorOpen.toList ++ shown ++ errorClose.toList
  | .error, .plain => errorMark.toList ++ shown ++ errorMark.toList

/-- What a token shows of a document; `none` if it names no field of it. -/
def Token.shown? (view : View) (doc : Json) : Token → Option (List Char)
  | .literal text => some text.toList
  | .field marker path =>
    (doc.find? path view.depth).map fun value =>
      decorated view.medium marker value.display.toList

def render (template : Template) (view : View) (doc : Json) : Line :=
  let parts := template.tokens.map (Token.shown? view doc)
  { text := String.ofList (Text.trim (parts.flatMap fun part => part.getD []))
    unresolved := parts.countP Option.isNone }

end Template

end LogDigest
