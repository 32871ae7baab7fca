import LogDigest.Proofs.Stream.Chunking

/-!
# Sinks with limited room

A session whose sink has room for a number of bytes goes along with one whose sink takes any, until
a write reaches beyond that number.  It then keeps what fitted and does nothing more.
-/

namespace LogDigest.Stream.Session

variable {setup : Setup} {capacity n : Nat} {limited free later session : Session}

/-- A session whose sink takes any number of bytes, so that no write of it has failed. -/
structure Unlimited (session : Session) : Prop where
  room : session.sink.room = none
  ending : session.ending ≠ some (.fault .write)

/-- A session without limit that has written what `free` has, and perhaps more. -/
structure Continues (free later : Session) : Prop where
  unlimited : later.Unlimited
  output : free.sink.taken.toList <+: later.sink.taken.toList

/-- A session with room for as many more bytes as its sink lacks to `n`. -/
def upTo (free : Session) (n : Nat) : Session :=
  { free with sink := { free.sink with room := some (n - free.sink.taken.size) } }

/-- The session without limit has written at most `n` bytes, and the limited one does the same. -/
structure Within (n : Nat) (limited free : Session) : Prop where
  unlimited : free.Unlimited
  fits : free.sink.taken.size ≤ n
  same : limited = free.upTo n

/-- The session without limit has written more than `n` bytes, and the limited one has failed. -/
structure Beyond (n : Nat) (limited free : Session) : Prop where
  unlimited : free.Unlimited
  exceeds : n < free.sink.taken.size
  ending : limited.ending = some (.fault .write)
  output : limited.sink.taken.toList = free.sink.taken.toList.take n

def Limits (n : Nat) (limited free : Session) : Prop :=
  Within n limited free ∨ Beyond n limited free

/-! ## Sessions that have ended -/

theorem write_of_ended (bytes : List UInt8) (h : session.ending.isSome) :
    session.write bytes = session := by
  rw [write, if_pos h]

private theorem takeBuffer_of_ended (buffer : List UInt8) (h : session.ending.isSome) :
    session.takeBuffer setup buffer = session := by
  rw [takeBuffer, if_pos h]

theorem step_of_ended (capacity : Nat) (arrival : Arrival) (h : session.ending.isSome) :
    session.step setup capacity arrival = session := by
  unfold Session.step
  rw [if_pos h]

theorem steps_of_ended (capacity : Nat) (arrivals : List Arrival) (h : session.ending.isSome) :
    arrivals.foldl (Session.step setup capacity) session = session := by
  induction arrivals with
  | nil => rfl
  | cons arrival rest ih => rw [List.foldl_cons, step_of_ended capacity arrival h, ih]

theorem close_of_ended (h : session.ending.isSome) : session.close setup = session := by
  rw [Session.close, if_pos h]

/-! ## Going on without a limit -/

theorem Continues.refl (h : free.Unlimited) : Continues free free :=
  ⟨h, List.prefix_refl _⟩

theorem Continues.trans {last : Session} (h : Continues free later)
    (hlast : Continues later last) : Continues free last :=
  ⟨hlast.unlimited, h.output.trans hlast.output⟩

theorem continues_hold (h : free.Unlimited) (bytes : List UInt8) :
    Continues free (free.hold bytes) :=
  ⟨⟨h.room, h.ending⟩, List.prefix_refl _⟩

theorem continues_finishLine (setup : Setup) (hending : free.ending = none)
    (hroom : free.sink.room = none) :
    Continues free (free.finishLine setup) ∧ (free.finishLine setup).ending = none := by
  rw [finishLine_of_open hending hroom]
  refine ⟨⟨⟨rfl, by simp [hending]⟩, ?_⟩, hending⟩
  simp

theorem continues_takeBuffer (setup : Setup) (h : free.Unlimited) (buffer : List UInt8) :
    Continues free (free.takeBuffer setup buffer) := by
  fun_induction Session.takeBuffer setup free buffer with
  | case1 session buffer hended => exact .refl h
  | case2 session buffer hrunning front rest hsplit hlt ih =>
    have hhold := continues_hold h front
    have hopen : session.ending = none := by simpa using hrunning
    obtain ⟨hfinish, -⟩ : Continues (session.hold front) _ ∧ _ :=
      continues_finishLine setup hopen h.room
    exact (hhold.trans hfinish).trans (ih hfinish.unlimited)
  | case3 session buffer hrunning hsplit => exact continues_hold h buffer

private theorem continues_takeBuffers (h : free.Unlimited) (buffers : List (List UInt8)) :
    Continues free (buffers.foldl (Session.takeBuffer setup) free) := by
  induction buffers generalizing free with
  | nil => exact .refl h
  | cons buffer rest ih =>
    have hbuffer := continues_takeBuffer setup h buffer
    exact hbuffer.trans (ih hbuffer.unlimited)

private theorem continues_heed (h : free.Unlimited) (channel : Channel) :
    Continues free (free.heed channel) := by
  unfold heed
  split
  · split
    · exact .refl h
    · exact ⟨⟨h.room, by simp⟩, List.prefix_refl _⟩
    · exact ⟨⟨h.room, h.ending⟩, List.prefix_refl _⟩
  · exact .refl h

private theorem continues_step (h : free.Unlimited) (arrival : Arrival) :
    Continues free (free.step setup capacity arrival) := by
  unfold Session.step
  split
  · exact .refl h
  · cases arrival with
    | bytes chunk => exact continues_takeBuffers h _
    | pending => exact .refl h
    | shutdown => exact continues_heed h _
    | senderLost => exact continues_heed h _
    | failure => exact ⟨⟨h.room, by simp⟩, List.prefix_refl _⟩

private theorem continues_close (h : free.Unlimited) : Continues free (free.close setup) := by
  unfold Session.close
  split
  · exact .refl h
  · next hrunning =>
    have hopen : free.ending = none := by simpa using hrunning
    split
    · exact ⟨⟨h.room, by simp [hopen]⟩, List.prefix_refl _⟩
    · obtain ⟨hfinish, hending⟩ := continues_finishLine setup hopen h.room
      exact ⟨⟨hfinish.unlimited.room, by simp [hending]⟩, hfinish.output⟩

theorem Beyond.ended (h : Beyond n limited free) : limited.ending.isSome := by
  simp [h.ending]

theorem Beyond.of_continues (h : Beyond n limited free) (hlater : Continues free later) :
    Beyond n limited later := by
  obtain ⟨tail, htail⟩ := hlater.output
  have hsize := congrArg List.length htail
  have hover := h.exceeds
  simp only [List.length_append, Array.length_toList] at hsize
  refine ⟨hlater.unlimited, by omega, h.ending, ?_⟩
  rw [h.output, ← htail, List.take_append_of_le_length]
  rw [Array.length_toList]
  omega

private theorem continues_write (h : free.Unlimited) (bytes : List UInt8) :
    Continues free (free.write bytes) := by
  by_cases hended : free.ending.isSome
  · rw [write_of_ended bytes hended]
    exact .refl h
  · rw [write_of_open bytes (by simpa using hended) h.room]
    exact ⟨⟨rfl, h.ending⟩, by simp⟩

/-! ## Going along with a limit -/

/-- A write that fits is done as without the limit, and any other one is cut at the limit. -/
theorem Within.write (h : Within n limited free) (bytes : List UInt8) :
    Limits n (limited.write bytes) (free.write bytes) := by
  by_cases hended : free.ending.isSome
  · have hended' : limited.ending.isSome := by rwa [h.same]
    rw [write_of_ended bytes hended, write_of_ended bytes hended']
    exact .inl h
  have hopen : free.ending = none := by simpa using hended
  have hfits := h.fits
  have hsize : (free.sink.taken ++ bytes).size = free.sink.taken.size + bytes.length := by
    rw [← Array.length_toList, Array.toList_appendList, List.length_append, Array.length_toList]
  have hlimited : limited.write bytes =
      { free with
        sink := { taken := free.sink.taken ++ bytes.take (n - free.sink.taken.size)
                  room := some (n - free.sink.taken.size - bytes.length) }
        ending := if bytes.length ≤ n - free.sink.taken.size then none
          else some (.fault .write) } := by
    rw [h.same]
    simp [Session.write, upTo, hopen, Sink.write, Sink.fits]
  rw [hlimited, write_of_open bytes hopen h.unlimited.room]
  -- The write is the first that does not fit exactly if it is longer than the room that is left.
  by_cases hroom : bytes.length ≤ n - free.sink.taken.size
  · refine .inl ⟨⟨rfl, h.unlimited.ending⟩, ?_, ?_⟩
    · rw [hsize]
      omega
    · rw [if_pos hroom, List.take_of_length_le hroom, upTo, hsize, hopen, Nat.sub_sub]
  · refine .inr ⟨⟨rfl, h.unlimited.ending⟩, ?_, ?_, ?_⟩
    · rw [hsize]
      omega
    · rw [if_neg hroom]
    · have htake : free.sink.taken.toList.take n = free.sink.taken.toList :=
        List.take_of_length_le (by simpa using hfits)
      simp [List.take_append, htake]

theorem Limits.write (h : Limits n limited free) (bytes : List UInt8) :
    Limits n (limited.write bytes) (free.write bytes) := by
  rcases h with hwithin | hbeyond
  · exact hwithin.write bytes
  · rw [write_of_ended bytes hbeyond.ended]
    exact .inr (hbeyond.of_continues (continues_write hbeyond.unlimited bytes))

theorem Within.line (setup : Setup) (h : Within n limited free) (bytes : List UInt8) :
    Limits n (limited.line setup bytes) (free.line setup bytes) := by
  have hcounted : ∀ stats tally,
      Limits n { limited with stats, tally } { free with stats, tally } := by
    intro stats tally
    exact .inl ⟨⟨h.unlimited.room, h.unlimited.ending⟩, h.fits, by rw [h.same]; rfl⟩
  have hstats : limited.stats = free.stats := by rw [h.same]; rfl
  have htally : limited.tally = free.tally := by rw [h.same]; rfl
  rw [Session.line, Session.line, hstats, htally]
  cases shown? setup.digester setup.options (withoutEnding bytes) with
  | none => exact hcounted _ _
  | some shown => exact ((hcounted _ _).write shown).write [lineFeed]

theorem Within.hold (h : Within n limited free) (bytes : List UInt8) :
    Within n (limited.hold bytes) (free.hold bytes) :=
  ⟨⟨h.unlimited.room, h.unlimited.ending⟩, h.fits, by rw [h.same]; rfl⟩

theorem Within.finishLine (h : Within n limited free) :
    Limits n (limited.finishLine setup) (free.finishLine setup) := by
  have hheld : limited.held = free.held := by rw [h.same]; rfl
  rw [Session.finishLine, Session.finishLine, hheld]
  rcases h.line setup free.held with hwithin | hbeyond
  · exact .inl ⟨⟨hwithin.unlimited.room, hwithin.unlimited.ending⟩, hwithin.fits,
      by rw [hwithin.same]; rfl⟩
  · exact .inr ⟨⟨hbeyond.unlimited.room, hbeyond.unlimited.ending⟩, hbeyond.exceeds, hbeyond.ending,
      hbeyond.output⟩

/-! ## Whole runs with a limit -/

private theorem takeBuffer_of_splitLine? {buffer front rest : List UInt8}
    (hopen : session.ending = none) (h : splitLine? buffer = some (front, rest)) :
    session.takeBuffer setup buffer =
      ((session.hold front).finishLine setup).takeBuffer setup rest := by
  rw [takeBuffer, hopen]
  simp only [Option.isSome_none, Bool.false_eq_true, if_false]
  split
  · next heq =>
    rw [h] at heq
    cases heq
    rfl
  · next heq =>
    rw [h] at heq
    cases heq

private theorem takeBuffer_of_splitLine?_eq_none {buffer : List UInt8}
    (hopen : session.ending = none)
    (h : splitLine? buffer = none) : session.takeBuffer setup buffer = session.hold buffer := by
  rw [takeBuffer, hopen]
  simp only [Option.isSome_none, Bool.false_eq_true, if_false]
  split
  · next heq =>
    rw [h] at heq
    cases heq
  · rfl

theorem Limits.takeBuffer (h : Limits n limited free) (buffer : List UInt8) :
    Limits n (limited.takeBuffer setup buffer) (free.takeBuffer setup buffer) := by
  -- The session without limit leads: the limited one takes the same lines while it is within, and
  -- once it is beyond it stands still while the other one continues.
  fun_induction Session.takeBuffer setup free buffer generalizing limited with
  | case1 session buffer hended =>
    have hended' : limited.ending.isSome := by
      rcases h with hwithin | hbeyond
      · rwa [hwithin.same]
      · exact hbeyond.ended
    rwa [takeBuffer_of_ended buffer hended']
  | case2 session buffer hrunning front rest hsplit hlt ih =>
    have hopen : session.ending = none := by simpa using hrunning
    rcases h with hwithin | hbeyond
    · have hopen' : limited.ending = none := by rw [hwithin.same]; exact hopen
      rw [takeBuffer_of_splitLine? hopen' hsplit]
      exact ih (hwithin.hold front).finishLine
    · rw [takeBuffer_of_ended buffer hbeyond.ended]
      have hbuffer := continues_takeBuffer setup hbeyond.unlimited buffer
      rw [takeBuffer_of_splitLine? hopen hsplit] at hbuffer
      exact .inr (hbeyond.of_continues hbuffer)
  | case3 session buffer hrunning hsplit =>
    have hopen : session.ending = none := by simpa using hrunning
    rcases h with hwithin | hbeyond
    · have hopen' : limited.ending = none := by rw [hwithin.same]; exact hopen
      rw [takeBuffer_of_splitLine?_eq_none hopen' hsplit]
      exact .inl (hwithin.hold buffer)
    · rw [takeBuffer_of_ended buffer hbeyond.ended]
      exact .inr (hbeyond.of_continues (continues_hold hbeyond.unlimited buffer))

theorem Limits.takeBuffers (h : Limits n limited free) (buffers : List (List UInt8)) :
    Limits n (buffers.foldl (Session.takeBuffer setup) limited)
      (buffers.foldl (Session.takeBuffer setup) free) := by
  induction buffers generalizing limited free with
  | nil => exact h
  | cons buffer rest ih => exact ih (h.takeBuffer buffer)

theorem Within.heed (h : Within n limited free) (channel : Channel) :
    Within n (limited.heed channel) (free.heed channel) := by
  rw [h.same]
  unfold Session.heed
  show Within n (if free.listening then _ else _) _
  split
  · cases channel with
    | waiting => exact ⟨h.unlimited, h.fits, rfl⟩
    | requested => exact ⟨⟨h.unlimited.room, by simp⟩, h.fits, rfl⟩
    | closed => exact ⟨⟨h.unlimited.room, h.unlimited.ending⟩, h.fits, rfl⟩
  · exact ⟨h.unlimited, h.fits, rfl⟩

theorem Limits.step (h : Limits n limited free) (arrival : Arrival) :
    Limits n (limited.step setup capacity arrival) (free.step setup capacity arrival) := by
  rcases h with hwithin | hbeyond
  · unfold Session.step
    have hsame : limited.ending.isSome = free.ending.isSome := by rw [hwithin.same]; rfl
    rw [hsame]
    split
    · exact .inl hwithin
    · cases arrival with
      | bytes chunk => exact Limits.takeBuffers (.inl hwithin) _
      | pending => exact .inl hwithin
      | shutdown => exact .inl (hwithin.heed _)
      | senderLost => exact .inl (hwithin.heed _)
      | failure =>
        exact .inl ⟨⟨hwithin.unlimited.room, by simp⟩, hwithin.fits, by rw [hwithin.same]; rfl⟩
  · rw [step_of_ended capacity arrival hbeyond.ended]
    exact .inr (hbeyond.of_continues (continues_step hbeyond.unlimited arrival))

theorem Limits.steps (h : Limits n limited free) (arrivals : List Arrival) :
    Limits n (arrivals.foldl (Session.step setup capacity) limited)
      (arrivals.foldl (Session.step setup capacity) free) := by
  induction arrivals generalizing limited free with
  | nil => exact h
  | cons arrival rest ih => exact ih (h.step arrival)

theorem Limits.sourceEnd (h : Limits n limited free) :
    Limits n { limited with ending := some (limited.ending.getD .sourceEnd) }
      { free with ending := some (free.ending.getD .sourceEnd) } := by
  have hwrite : ∀ ending : Option Ending, ending ≠ some (.fault .write) →
      some (ending.getD .sourceEnd) ≠ some (.fault .write) := by
    intro ending hne
    cases ending with
    | none => simp
    | some ending => exact hne
  rcases h with hwithin | hbeyond
  · exact .inl ⟨⟨hwithin.unlimited.room, hwrite _ hwithin.unlimited.ending⟩, hwithin.fits,
      by rw [hwithin.same]; rfl⟩
  · exact .inr ⟨⟨hbeyond.unlimited.room, hwrite _ hbeyond.unlimited.ending⟩, hbeyond.exceeds,
      by rw [hbeyond.ending]; rfl, hbeyond.output⟩

theorem Limits.close (h : Limits n limited free) :
    Limits n (limited.close setup) (free.close setup) := by
  rcases h with hwithin | hbeyond
  · have hsame : limited.ending.isSome = free.ending.isSome := by rw [hwithin.same]; rfl
    have hcount : limited.count = free.count := by rw [hwithin.same]; rfl
    unfold Session.close
    rw [hsame, hcount]
    split
    · exact .inl hwithin
    · split
      · exact Limits.sourceEnd (.inl hwithin)
      · exact hwithin.finishLine.sourceEnd
  · rw [close_of_ended hbeyond.ended]
    exact .inr (hbeyond.of_continues (continues_close hbeyond.unlimited))

theorem flush_of_fault {fault : Fault} (flushFails : Bool)
    (h : session.ending = some (.fault fault)) : session.flush flushFails = session := by
  rw [Session.flush, h]

theorem flush_of_regular (flushFails : Bool) (h : ∀ fault, session.ending ≠ some (.fault fault)) :
    session.flush flushFails =
      if flushFails then { session with ending := some (.fault .flush) } else session := by
  unfold Session.flush
  split
  · next fault hfault => exact absurd hfault (h fault)
  · rfl

private theorem continues_flush (h : free.Unlimited) (flushFails : Bool) :
    Continues free (free.flush flushFails) := by
  unfold Session.flush
  split
  · exact .refl h
  · split
    · exact ⟨⟨h.room, by simp⟩, List.prefix_refl _⟩
    · exact .refl h

theorem Limits.flush (h : Limits n limited free) (flushFails : Bool) :
    Limits n (limited.flush flushFails) (free.flush flushFails) := by
  rcases h with hwithin | hbeyond
  · have hending : limited.ending = free.ending := by rw [hwithin.same]; rfl
    by_cases hfault : ∃ fault, free.ending = some (.fault fault)
    · obtain ⟨fault, hfault⟩ := hfault
      rw [flush_of_fault flushFails hfault, flush_of_fault flushFails (hending.trans hfault)]
      exact .inl hwithin
    · rw [not_exists] at hfault
      rw [flush_of_regular flushFails hfault, flush_of_regular flushFails (by rwa [hending])]
      split
      · exact .inl ⟨⟨hwithin.unlimited.room, by simp⟩, hwithin.fits, by rw [hwithin.same]; rfl⟩
      · exact .inl hwithin
  · rw [flush_of_fault flushFails hbeyond.ending]
    exact .inr (hbeyond.of_continues (continues_flush hbeyond.unlimited flushFails))

private theorem limits_start (n : Nat) (channel : Channel) :
    Limits n (start channel (some n)) (start channel none) := by
  have hstart : Within n { sink := { room := some n } } { sink := { room := none } } :=
    ⟨⟨rfl, by simp⟩, Nat.zero_le _, by simp [upTo]⟩
  exact .inl (hstart.heed channel)

/-- A run with room for `n` bytes writes the first `n` bytes of what it writes without a limit. -/
theorem limits_run (setup : Setup) (channel : Channel) (n : Nat) (flushFails : Bool)
    (arrivals : List Arrival) (capacity : Nat) :
    Limits n (run setup channel (some n) flushFails arrivals capacity)
      (run setup channel none flushFails arrivals capacity) :=
  ((limits_start n channel).steps arrivals).close.flush flushFails

theorem Limits.unlimited (h : Limits n limited free) : free.Unlimited :=
  h.elim Within.unlimited Beyond.unlimited

theorem Limits.output (h : Limits n limited free) :
    limited.sink.taken.toList = free.sink.taken.toList.take n := by
  rcases h with hwithin | hbeyond
  · have hfits := hwithin.fits
    rw [hwithin.same, List.take_of_length_le (by simpa using hfits)]
    rfl
  · exact hbeyond.output

theorem Limits.ending (h : Limits n limited free) :
    limited.ending =
      if n < free.sink.taken.toList.length then some (.fault .write) else free.ending := by
  rw [Array.length_toList]
  rcases h with hwithin | hbeyond
  · rw [if_neg (Nat.not_lt.mpr hwithin.fits), hwithin.same]
    rfl
  · rw [if_pos hbeyond.exceeds, hbeyond.ending]

end LogDigest.Stream.Session
