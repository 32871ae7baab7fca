import LogDigest.Plan
import LogDigest.Template

/-!
# Digests

The digest of a document is one line made by a template or, when no template applies, the values
of the fields that the plan names.  A digester compiles its plan once and then digests any number
of documents.
-/

namespace LogDigest

inductive Digest where
  | line (line : Line)
  /-- The named top-level fields that the document has, with their values. -/
  | fields (rows : List (String × String))
  /-- The document has none of the named fields. -/
  | placeholder

/-- What stands for a document that has none of the named fields. -/
def placeholderLabel : String := "JSON Object"

namespace Digest

/-- The digest of a document by top-level fields.  A name is a key, not a path. -/
def ofFields (fields : List String) (doc : Json) : Digest :=
  match fields.filterMap fun key => (doc.get? key).map fun value => (key, value.display) with
  | [] => .placeholder
  | rows => .fields rows

/-- The digest of a document by a plan, whose template is compiled for this document. -/
def ofPlan (plan : Plan) (view : View) (doc : Json) : Digest :=
  match plan.template.bind Template.compile? with
  | some template => .line (template.render view doc)
  | none => .ofFields plan.fields doc

end Digest

structure Digester where
  template : Option Template
  fields : List String
  view : View

namespace Digester

def ofPlan (plan : Plan) (view : View) : Digester :=
  ⟨plan.template.bind Template.compile?, plan.fields, view⟩

def hasTemplate (digester : Digester) : Bool :=
  digester.template.isSome

def digest (digester : Digester) (doc : Json) : Digest :=
  match digester.template with
  | some template => .line (template.render digester.view doc)
  | none => .ofFields digester.fields doc

end Digester

end LogDigest
