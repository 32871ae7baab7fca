import LogDigest.Blob

/-!
# Tallies

A tally counts what became of texts: blobs by the kind of their digest, refused texts by reason,
and the work of templates.  A report lists the counters by families, in the order of their names.
-/

namespace LogDigest

structure Tally where
  template : Nat := 0
  fields : Nat := 0
  /-- Blobs with none of the named fields. -/
  placeholder : Nat := 0
  notJson : Nat := 0
  malformed : Nat := 0
  notUtf8 : Nat := 0
  /-- References that named no field. -/
  unresolved : Nat := 0
  renders : Nat := 0
  deriving DecidableEq, Repr

namespace Tally

def add (a b : Tally) : Tally where
  template := a.template + b.template
  fields := a.fields + b.fields
  placeholder := a.placeholder + b.placeholder
  notJson := a.notJson + b.notJson
  malformed := a.malformed + b.malformed
  notUtf8 := a.notUtf8 + b.notUtf8
  unresolved := a.unresolved + b.unresolved
  renders := a.renders + b.renders

instance : Add Tally := ⟨add⟩

def total (tallies : List Tally) : Tally :=
  tallies.foldl add {}

def ofDigest : Digest → Tally
  | .line line => { unresolved := line.unresolved, renders := 1 }
  | _ => {}

def ofKind : Digest → Tally
  | .line _ => { template := 1 }
  | .fields _ => { fields := 1 }
  | .placeholder => { placeholder := 1 }

def ofRefusal : Refusal → Tally
  | .notJson => { notJson := 1 }
  | .malformed => { malformed := 1 }
  | .notUtf8 => { notUtf8 := 1 }

def ofReading : Except Refusal Blob → Tally
  | .ok blob => ofDigest blob.digest + ofKind blob.digest
  | .error refusal => ofRefusal refusal

/-! ## Reports -/

structure Family where
  name : String
  help : String
  kind : String
  /-- The counters, each with what follows the family's name. -/
  samples : List (String × Nat)

namespace Family

def lines (family : Family) : List String :=
  ("# HELP " ++ family.name ++ " " ++ family.help) ::
  ("# TYPE " ++ family.name ++ " " ++ family.kind) ::
  family.samples.map fun (suffix, count) => family.name ++ suffix ++ " " ++ toString count

end Family

def labelled (label : String) (counts : List (String × Nat)) : List (String × Nat) :=
  (counts.filter (·.2 != 0)).map fun (value, count) =>
    ("\x7b" ++ label ++ "=\"" ++ value ++ "\"\x7d", count)

def blobFamily (tally : Tally) : Family where
  name := "kjf_blobs_formatted_total"
  help := "Total JSON blobs formatted"
  kind := "counter"
  samples := labelled "summary"
    [("fields", tally.fields), ("placeholder", tally.placeholder), ("template", tally.template)]

def unresolvedFamily (tally : Tally) : Family where
  name := "kjf_fields_unresolved_total"
  help := "Total template field references that did not resolve"
  kind := "counter"
  samples := [("", tally.unresolved)]

def refusalFamily (tally : Tally) : Family where
  name := "kjf_lines_skipped_total"
  help := "Total lines that were not formatted"
  kind := "counter"
  samples := labelled "reason"
    [("invalid_utf8", tally.notUtf8), ("not_json", tally.notJson),
      ("parse_error", tally.malformed)]

/-- Lines made by a template; how long each took is not recorded here. -/
def renderFamily (tally : Tally) : Family where
  name := "kjf_render_duration_seconds"
  help := "Template render duration in seconds"
  kind := "histogram"
  samples := [("_count", tally.renders)]

/-- The report of a tally.  Families without samples are left out, and those of template lines
unless `rendering` asks for them. -/
def report (tally : Tally) (rendering : Bool) : List String :=
  let families :=
    [tally.blobFamily] ++ (if rendering then [tally.unresolvedFamily] else []) ++
      [tally.refusalFamily] ++ (if rendering then [tally.renderFamily] else [])
  (families.filter (!·.samples.isEmpty)).flatMap Family.lines

end Tally

end LogDigest
