import LogDigest.Stream.Line

/-!
# Sessions

A session reads its source through a buffer, line by line, and writes each line as soon as it is
complete.  It ends with its source, on request, or when reading or writing fails.

Between two reads of the source the session looks at the shutdown channel first.  When the last
sender of that channel is lost, the read of the current line starts anew: the bytes that the line
has so far are kept, but at the end of the source the line counts only if the new read took one.

A sink takes bytes until its room is used up.  A write that does not fit is cut where the room
ends and fails.
-/

namespace LogDigest.Stream

/-! ## Sinks -/

/-- What a sink has taken, and how many more bytes it takes; no number means any. -/
structure Sink where
  taken : Array UInt8 := #[]
  room : Option Nat := none
  deriving DecidableEq

namespace Sink

def fits (sink : Sink) (bytes : List UInt8) : Bool :=
  match sink.room with
  | none => true
  | some room => bytes.length ≤ room

def write (sink : Sink) (bytes : List UInt8) : Sink :=
  match sink.room with
  | none => { sink with taken := sink.taken ++ bytes }
  | some room =>
    { taken := sink.taken ++ bytes.take room
      room := some (room - bytes.length) }

end Sink

/-! ## What a session meets -/

inductive Arrival where
  | bytes (chunk : List UInt8)
  | pending
  | shutdown
  /-- The last sender of shutdown requests is gone. -/
  | senderLost
  | failure
  deriving DecidableEq

inductive Channel where
  | waiting
  /-- A request, or the trace of requests that were overwritten, is there already. -/
  | requested
  | closed
  deriving DecidableEq

inductive Fault where
  | read
  | write
  | flush
  deriving DecidableEq, Repr

def Fault.message : Fault → String
  | .read => "read failed"
  | .write => "write failed"
  | .flush => "flush failed"

inductive Ending where
  | sourceEnd
  | shutdown
  | fault (fault : Fault)
  deriving DecidableEq, Repr

structure Setup where
  digester : Digester
  options : Options

structure Session where
  /-- The bytes of the incomplete line. -/
  held : List UInt8 := []
  /-- How many of them the current read took. -/
  count : Nat := 0
  listening : Bool := true
  stats : Stats := {}
  tally : Tally := {}
  sink : Sink := {}
  ending : Option Ending := none

/-- How many bytes a reader takes from its source at a time, unless told otherwise. -/
def defaultCapacity : Nat := 8192

/-- What a reader's buffer holds one time after the other until a chunk is used up.  A buffer
without room never holds anything. -/
def buffers (capacity : Nat) (chunk : List UInt8) : List (List UInt8) :=
  if _h : 0 < capacity ∧ chunk ≠ [] then
    chunk.take capacity :: buffers capacity (chunk.drop capacity)
  else []
termination_by chunk.length
decreasing_by
  have := List.length_pos_iff.2 _h.2
  simp only [List.length_drop]
  omega

namespace Session

/-- Looks at the shutdown channel.  A request ends the session; a channel without senders is
looked at no more, and the read of the current line starts anew. -/
def heed (session : Session) (channel : Channel) : Session :=
  if session.listening then
    match channel with
    | .waiting => session
    | .requested => { session with ending := some .shutdown }
    | .closed => { session with listening := false, count := 0 }
  else session

def start (channel : Channel) (room : Option Nat) : Session :=
  heed { sink := { room } } channel

def write (session : Session) (bytes : List UInt8) : Session :=
  if session.ending.isSome then session
  else
    { session with
      sink := session.sink.write bytes
      ending := if session.sink.fits bytes then none else some (.fault .write) }

def line (setup : Setup) (session : Session) (bytes : List UInt8) : Session :=
  let bare := withoutEnding bytes
  let counted :=
    { session with
      stats := session.stats + statsOf setup.digester setup.options bare
      tally := session.tally + Tally.ofReading (readLine setup.digester bare) }
  match shown? setup.digester setup.options bare with
  | none => counted
  | some shown => (counted.write shown).write [lineFeed]

def hold (session : Session) (bytes : List UInt8) : Session :=
  { session with held := session.held ++ bytes, count := session.count + bytes.length }

def finishLine (setup : Setup) (session : Session) : Session :=
  { line setup session session.held with held := [], count := 0 }

def takeBuffer (setup : Setup) (session : Session) (buffer : List UInt8) : Session :=
  if session.ending.isSome then session
  else match h : splitLine? buffer with
    | some (front, rest) =>
      have := length_of_splitLine? h
      takeBuffer setup (finishLine setup (session.hold front)) rest
    | none => session.hold buffer
termination_by buffer.length

def step (setup : Setup) (capacity : Nat) (session : Session) (arrival : Arrival) : Session :=
  if session.ending.isSome then session
  else match arrival with
    | .bytes chunk => (buffers capacity chunk).foldl (takeBuffer setup) session
    | .pending => session
    | .shutdown => session.heed .requested
    | .senderLost => session.heed .closed
    | .failure => { session with ending := some (.fault .read) }

/-- The bytes that were written since this was last asked, and the session without them. -/
def drained (session : Session) : Array UInt8 × Session :=
  (session.sink.taken, { session with sink := { session.sink with taken := #[] } })

/-- The end of the source.  A read that took nothing ends the session; one that took something
has filled a last line without line feed. -/
def close (setup : Setup) (session : Session) : Session :=
  if session.ending.isSome then session
  else
    let last := if session.count = 0 then session else finishLine setup session
    { last with ending := some (last.ending.getD .sourceEnd) }

def flush (flushFails : Bool) (session : Session) : Session :=
  match session.ending with
  | some (.fault _) => session
  | _ => if flushFails then { session with ending := some (.fault .flush) } else session

end Session

def run (setup : Setup) (channel : Channel) (room : Option Nat) (flushFails : Bool)
    (arrivals : List Arrival) (capacity : Nat := defaultCapacity) : Session :=
  ((arrivals.foldl (Session.step setup capacity) (Session.start channel room)).close setup).flush
    flushFails

end LogDigest.Stream
