import LogDigest.Digest
import LogDigest.Text.Basic

/-!
# Blobs

A blob is a text that spells a JSON array or object.  It is presented by its digest, followed by
the indented document: always in markup, where the document is folded away, and on request in
a terminal.
-/

namespace LogDigest

structure Blob where
  digest : Digest
  document : Json

inductive Refusal where
  /-- It begins with neither a bracket nor a brace. -/
  | notJson
  /-- It begins like a container but is no JSON document. -/
  | malformed
  | notUtf8
  deriving DecidableEq, Repr

/-- Whether the first character of a text that is not blank opens a JSON container. -/
def opensContainer (s : List Char) : Bool :=
  match Text.trimStart s with
  | c :: _ => c == '\x7b' || c == '['
  | [] => false

def Digester.read (digester : Digester) (text : String) : Except Refusal Blob :=
  let bare := Text.trim text.toList
  if opensContainer bare then
    match Json.read? bare with
    | some document => .ok ⟨digester.digest document, document⟩
    | none => .error .malformed
  else .error .notJson

namespace Blob

def details (blob : Blob) : String :=
  blob.document.indented

/-! ## Markup -/

inductive Element where
  | summary
  | templateRow
  | row
  | key
  | value
  | details
  | toggle
  | document
  deriving DecidableEq, Repr

namespace Element

def openTag : Element → String
  | .summary => "<div class=\"kibana-json-summary\">"
  | .templateRow => "<div class=\"kibana-json-summary-row kibana-json-template\">"
  | .row => "<div class=\"kibana-json-summary-row\">"
  | .key => "<span class=\"kibana-json-key\">"
  | .value => "<span class=\"kibana-json-value\">"
  | .details => "<div class=\"kibana-json-details\">"
  | .toggle => "<span class=\"kibana-json-toggle\">"
  | .document => "<pre class=\"kibana-json-parsed\">"

def closeTag : Element → String
  | .summary => "</div>"
  | .templateRow => "</div>"
  | .row => "</div>"
  | .key => "</span>"
  | .value => "</span>"
  | .details => "</div>"
  | .toggle => "</span>"
  | .document => "</pre>"

end Element

inductive Node where
  | element (kind : Element) (content : List Node)
  | text (s : String)
  /-- Text that is markup already. -/
  | ready (s : String)

mutual

def Node.write : Node → List Char
  | .element kind content =>
    kind.openTag.toList ++ Node.writeAll content ++ kind.closeTag.toList
  | .text s => Markup.encode s.toList
  | .ready s => s.toList

def Node.writeAll : List Node → List Char
  | [] => []
  | node :: rest => node.write ++ Node.writeAll rest

end

def toggleLabel : String := "▶ Show Full JSON"

def rowNode (row : String × String) : Node :=
  .element .row
    [.element .key [.text row.1, .ready ":"], .element .value [.text row.2]]

def digestNodes : Digest → List Node
  | .line line => [.element .templateRow [.ready line.text]]
  | .fields rows => rows.map rowNode
  | .placeholder => [.element .row [.element .key [.text placeholderLabel]]]

def nodes (blob : Blob) : List Node :=
  [.element .summary (digestNodes blob.digest),
    .element .details
      [.element .toggle [.ready toggleLabel], .element .document [.text blob.details]]]

def html (blob : Blob) : String :=
  String.ofList (Node.writeAll blob.nodes)

/-! ## Text -/

def digestText : Digest → List Char
  | .line line => line.text.toList
  | .fields rows =>
    ['\n'].intercalate (rows.map fun row => row.1.toList ++ ':' :: ' ' :: row.2.toList)
  | .placeholder => placeholderLabel.toList

def indentedBlock (text : List Char) : List Char :=
  (Text.lines text).flatMap fun line => '\n' :: ' ' :: ' ' :: line

/-- The text of a blob, with the indented document on request. -/
def text (blob : Blob) (showDetails : Bool) : String :=
  String.ofList (digestText blob.digest ++
    if showDetails then indentedBlock blob.details.toList else [])

def presented (blob : Blob) (medium : Medium) (showDetails : Bool) : String :=
  match medium with
  | .html => blob.html
  | .plain => blob.text showDetails

end Blob

end LogDigest
