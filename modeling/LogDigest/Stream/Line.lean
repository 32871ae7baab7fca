import LogDigest.Tally

/-!
# Lines

What becomes of one line of bytes.  A line that holds a blob is presented; every other line is
passed through or dropped.
-/

namespace LogDigest.Stream

structure Options where
  /-- Whether the indented document follows a digest in a terminal. -/
  showDetails : Bool := false
  /-- Whether lines that hold no blob are passed through. -/
  passthrough : Bool := true
  deriving DecidableEq, Repr

structure Stats where
  lines : Nat := 0
  formatted : Nat := 0
  passedThrough : Nat := 0
  dropped : Nat := 0
  deriving DecidableEq, Repr

def lineFeed : UInt8 := 10

def carriageReturn : UInt8 := 13

def splitLine? (bytes : List UInt8) : Option (List UInt8 × List UInt8) :=
  match bytes.dropWhile (· != lineFeed) with
  | [] => none
  | feed :: rest => some (bytes.takeWhile (· != lineFeed) ++ [feed], rest)

theorem length_of_splitLine? {bytes front rest : List UInt8}
    (h : splitLine? bytes = some (front, rest)) : rest.length < bytes.length := by
  unfold splitLine? at h
  split at h
  · cases h
  · next feed tail heq =>
    cases h
    have := (List.dropWhile_sublist (l := bytes) (· != lineFeed)).length_le
    rw [heq, List.length_cons] at this
    omega

def withoutLast (last : UInt8) (bytes : List UInt8) : List UInt8 :=
  if bytes.getLast? = some last then bytes.dropLast else bytes

/-- A line without the line feed that it ends with, and then without the carriage return. -/
def withoutEnding (line : List UInt8) : List UInt8 :=
  withoutLast carriageReturn (withoutLast lineFeed line)

def bytesOf (text : String) : List UInt8 :=
  text.toUTF8.data.toList

/-- The text that bytes spell, if they are valid UTF-8. -/
def textOf? (bytes : List UInt8) : Option String :=
  String.fromUTF8? ⟨bytes.toArray⟩

def readLine (digester : Digester) (line : List UInt8) : Except Refusal Blob :=
  match textOf? line with
  | some text => digester.read text
  | none => .error .notUtf8

/-- What is written for a line, without a line feed; nothing if the line is dropped. -/
def shown? (digester : Digester) (options : Options) (line : List UInt8) :
    Option (List UInt8) :=
  match readLine digester line with
  | .ok blob => some (bytesOf (blob.presented digester.view.medium options.showDetails))
  | .error _ => if options.passthrough then some line else none

def statsOf (digester : Digester) (options : Options) (line : List UInt8) : Stats :=
  match readLine digester line with
  | .ok _ => { lines := 1, formatted := 1 }
  | .error _ =>
    if options.passthrough then { lines := 1, passedThrough := 1 }
    else { lines := 1, dropped := 1 }

def Stats.add (a b : Stats) : Stats where
  lines := a.lines + b.lines
  formatted := a.formatted + b.formatted
  passedThrough := a.passedThrough + b.passedThrough
  dropped := a.dropped + b.dropped

instance : Add Stats := ⟨Stats.add⟩

end LogDigest.Stream
