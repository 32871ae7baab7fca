import LogDigest.LogFilter.Directive

/-!
# Log filters

A log filter says how much is logged from which target.  Its text lists directives with commas
between them; one that is not valid makes the whole text invalid.  A filter lists the directives
that apply whatever span is open before those about spans, the most specific ones first, and never
two for the same subject.
-/

namespace LogDigest

structure LogFilter where
  directives : List LogDirective := []

namespace LogFilter

def insertInto (directive : LogDirective) : List LogDirective → List LogDirective
  | [] => [directive]
  | first :: rest =>
    match directive.order first with
    | .eq => directive :: rest
    | .gt => directive :: first :: rest
    | .lt => first :: insertInto directive rest

def sorted (directives : List LogDirective) : List LogDirective :=
  directives.foldl (fun sorted directive => insertInto directive sorted) []

/-- The filter of directives.  One about spans of any name that have a field applies whatever span
is open, too. -/
def ofDirectives (directives : List LogDirective) : LogFilter :=
  let (dynamic, plain) := directives.partition LogDirective.isDynamic
  ⟨sorted (plain ++ dynamic.filter LogDirective.isStatic) ++ sorted dynamic⟩

def ofText? (text : String) : Option LogFilter :=
  ofDirectives <$> ((text.toList.splitOn ',').filter (!·.isEmpty)).mapM LogDirective.ofText?

/-- The filter of a run: what the environment asks for, else what the settings ask for, else the
general level.  A text that is not valid asks for nothing. -/
def choose (requested : Option String) (setting : String) : LogFilter :=
  ((requested.bind ofText?) <|> ofText? setting).getD ⟨[{ level := .info }]⟩

def text (filter : LogFilter) : String :=
  ",".intercalate (filter.directives.map LogDirective.text)

end LogFilter

end LogDigest
