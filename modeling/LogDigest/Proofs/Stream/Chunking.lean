import LogDigest.Proofs.Stream.Batch

/-!
# Sessions and chunks

What a session has written and counted, and what it holds, depends on the bytes that it took and
not on the chunks in which they came.  At the end of the source the held bytes make a last line
as long as the current read took some of them.
-/

namespace LogDigest.Stream

/-! ## Arrivals -/

def Arrival.IsQuiet : Arrival → Prop
  | .bytes _ => True
  | .pending => True
  | _ => False

def Arrival.payload : Arrival → List UInt8
  | .bytes chunk => chunk
  | _ => []

def payload (arrivals : List Arrival) : List UInt8 :=
  arrivals.flatMap Arrival.payload

theorem payload_append (first second : List Arrival) :
    payload (first ++ second) = payload first ++ payload second :=
  List.flatMap_append

namespace Session

/-! ## The invariant -/

/-- A session in the middle of an input: the complete lines are written and counted, and the
incomplete one is held.  The current read took some of the held bytes, or none of them. -/
structure HasTaken (setup : Setup) (listening : Bool) (session : Session) (input : List UInt8) :
    Prop where
  ending : session.ending = none
  listens : session.listening = listening
  room : session.sink.room = none
  held : session.held = incompletePart input
  count : session.count ≤ session.held.length
  output : session.sink.taken.toList = batchOutput setup (linesOf (completePart input))
  stats : session.stats = batchStats setup (linesOf (completePart input))

/-- The current read took a part of the held bytes, if there are any. -/
def CountsHeld (session : Session) : Prop :=
  session.count = 0 → session.held = []

/-- A session that ended with its source and did what is due for an input. -/
structure Finished (setup : Setup) (session : Session) (input : List UInt8) : Prop where
  ending : session.ending = some .sourceEnd
  output : session.sink.taken.toList = batchOutput setup (linesOf input)
  stats : session.stats = batchStats setup (linesOf input)

variable {setup : Setup} {listening : Bool} {session : Session} {input : List UInt8}

/-! ## One line -/

theorem write_of_open (bytes : List UInt8) (hending : session.ending = none)
    (hroom : session.sink.room = none) :
    session.write bytes = { session with sink := { taken := session.sink.taken ++ bytes } } := by
  have hwrite : session.sink.write bytes = { taken := session.sink.taken ++ bytes } := by
    rw [Sink.write, hroom]
  have hfits : session.sink.fits bytes = true := by rw [Sink.fits, hroom]
  rw [write, hwrite, hfits, hending]
  simp

private theorem write_write_of_open (first second : List UInt8) (hending : session.ending = none)
    (hroom : session.sink.room = none) :
    (session.write first).write second =
      { session with sink := { taken := session.sink.taken ++ (first ++ second) } } := by
  have htaken : session.sink.taken ++ first ++ second = session.sink.taken ++ (first ++ second) :=
    Array.ext' (by simp)
  rw [write_of_open first hending hroom, ← htaken]
  exact write_of_open second hending rfl

theorem readLine_cases (setup : Setup) (line : List UInt8) :
    (∃ blob, readLine setup.digester (withoutEnding line) = .ok blob ∧
        blobOf? setup line = some blob) ∨
      ∃ refusal, readLine setup.digester (withoutEnding line) = .error refusal ∧
        blobOf? setup line = none := by
  rw [readLine, blobOf?]
  cases textOf? (withoutEnding line) with
  | none => exact .inr ⟨_, rfl, rfl⟩
  | some text =>
    cases hread : setup.digester.read text with
    | ok blob => exact .inl ⟨blob, hread, by simp [hread, Except.toOption]⟩
    | error refusal => exact .inr ⟨refusal, hread, by simp [hread, Except.toOption]⟩

private theorem statsOf_eq_batchStats (setup : Setup) (line : List UInt8) :
    statsOf setup.digester setup.options (withoutEnding line) = batchStats setup [line] := by
  rcases readLine_cases setup line with ⟨blob, hread, hblob⟩ | ⟨refusal, hread, hblob⟩
  · simp [statsOf, hread, batchStats, hblob]
  · cases hpass : setup.options.passthrough with
    | true => simp [statsOf, hread, batchStats, hblob, hpass]
    | false => simp [statsOf, hread, batchStats, hblob, hpass]

private theorem lineOutput_eq (setup : Setup) (line : List UInt8) :
    lineOutput setup line =
      match shown? setup.digester setup.options (withoutEnding line) with
      | some shown => shown ++ [lineFeed]
      | none => [] := by
  rcases readLine_cases setup line with ⟨blob, hread, hblob⟩ | ⟨refusal, hread, hblob⟩
  · cases hmedium : setup.digester.view.medium with
    | html => simp [lineOutput, hblob, shown?, hread, hmedium, Blob.presented]
    | plain => simp [lineOutput, hblob, shown?, hread, hmedium, Blob.presented]
  · cases hpass : setup.options.passthrough with
    | true => simp [lineOutput, hblob, shown?, hread, hpass]
    | false => simp [lineOutput, hblob, shown?, hread, hpass]

private theorem line_of_open (line : List UInt8) (hending : session.ending = none)
    (hroom : session.sink.room = none) :
    session.line setup line =
      { session with
        sink := { taken := session.sink.taken ++ lineOutput setup line }
        stats := session.stats + batchStats setup [line]
        tally := session.tally +
          Tally.ofReading (readLine setup.digester (withoutEnding line)) } := by
  rw [Session.line, statsOf_eq_batchStats, lineOutput_eq]
  cases shown? setup.digester setup.options (withoutEnding line) with
  | none =>
    have hsink : session.sink = { taken := session.sink.taken ++ ([] : List UInt8) } := by
      rw [Array.appendList_nil, ← hroom]
    dsimp only
    rw [← hsink]
  | some shown => exact write_write_of_open shown [lineFeed] hending hroom

theorem finishLine_of_open (hending : session.ending = none) (hroom : session.sink.room = none) :
    session.finishLine setup =
      { session with
        held := []
        count := 0
        sink := { taken := session.sink.taken ++ lineOutput setup session.held }
        stats := session.stats + batchStats setup [session.held]
        tally := session.tally +
          Tally.ofReading (readLine setup.digester (withoutEnding session.held)) } := by
  rw [Session.finishLine, line_of_open session.held hending hroom]

/-! ## One step -/

theorem HasTaken.hold (h : HasTaken setup listening session input) {tail : List UInt8}
    (hfeed : lineFeed ∉ tail) : HasTaken setup listening (session.hold tail) (input ++ tail) := by
  obtain ⟨hcomplete, hincomplete⟩ := parts_append input hfeed
  refine ⟨h.ending, h.listens, h.room, ?_, ?_, ?_, ?_⟩
  · rw [hincomplete, ← h.held]
    rfl
  · have hcount := h.count
    simp only [Session.hold, List.length_append]
    omega
  · rw [hcomplete]
    exact h.output
  · rw [hcomplete]
    exact h.stats

theorem HasTaken.finishLine (h : HasTaken setup listening session input) {tail : List UInt8}
    (hfeed : lineFeed ∉ tail) :
    HasTaken setup listening ((session.hold (tail ++ [lineFeed])).finishLine setup)
      (input ++ (tail ++ [lineFeed])) := by
  have hline : linesOf (completePart input ++ (incompletePart input ++ tail ++ [lineFeed])) =
      linesOf (completePart input) ++ [incompletePart input ++ tail ++ [lineFeed]] := by
    have hnot : lineFeed ∉ incompletePart input ++ tail := by
      simp [lineFeed_not_mem_incompletePart, hfeed]
    rw [linesOf_completePart_append, linesOf_line hnot]
  have hinput : input ++ (tail ++ [lineFeed]) =
      completePart input ++ (incompletePart input ++ tail ++ [lineFeed]) := by
    rw [← List.append_assoc, ← List.append_assoc, ← List.append_assoc,
      completePart_append_incompletePart]
  have hheld : (session.hold (tail ++ [lineFeed])).held =
      incompletePart input ++ tail ++ [lineFeed] := by
    rw [Session.hold, h.held, List.append_assoc]
  -- With its line feed the held line joins the complete part, and nothing is held any more.
  obtain ⟨hcomplete, hincomplete⟩ := parts_concat (input ++ tail)
  rw [List.append_assoc] at hcomplete hincomplete
  have hending : (session.hold (tail ++ [lineFeed])).ending = none := h.ending
  have hroom : (session.hold (tail ++ [lineFeed])).sink.room = none := h.room
  rw [finishLine_of_open hending hroom, hheld]
  refine ⟨h.ending, h.listens, rfl, hincomplete.symm, Nat.le_refl _, ?_, ?_⟩
  · rw [hcomplete, hinput, hline, batchOutput_append, ← h.output]
    simp [Session.hold, batchOutput]
  · rw [hcomplete, hinput, hline, batchStats_append, ← h.stats]
    rfl

/-! ## Buffers -/

theorem splitLine?_some {bytes front rest : List UInt8}
    (h : splitLine? bytes = some (front, rest)) :
    ∃ tail, front = tail ++ [lineFeed] ∧ lineFeed ∉ tail ∧ bytes = front ++ rest := by
  unfold splitLine? at h
  split at h
  · cases h
  · next feed tail heq =>
    have hfeed : feed = lineFeed := by
      have hhead := List.head_dropWhile_not (· != lineFeed)
        (show bytes.dropWhile (· != lineFeed) ≠ [] by simp [heq])
      simpa [heq] using hhead
    have hbytes := List.takeWhile_append_dropWhile (p := (· != lineFeed)) (l := bytes)
    cases h
    subst hfeed
    refine ⟨_, rfl, ?_, ?_⟩
    · intro hmem
      have hne := List.mem_takeWhile_imp hmem
      simp at hne
    · rw [heq] at hbytes
      rw [List.append_assoc]
      exact hbytes.symm

theorem splitLine?_none {bytes : List UInt8} (h : splitLine? bytes = none) :
    lineFeed ∉ bytes := by
  unfold splitLine? at h
  split at h
  · next heq =>
    intro hmem
    have hall := List.dropWhile_eq_nil_iff.mp heq lineFeed hmem
    simp at hall
  · cases h

theorem HasTaken.takeBuffer (h : HasTaken setup listening session input) (buffer : List UInt8) :
    HasTaken setup listening (session.takeBuffer setup buffer) (input ++ buffer) := by
  fun_induction Session.takeBuffer setup session buffer generalizing input with
  | case1 session buffer hended =>
    rw [h.ending] at hended
    cases hended
  | case2 session buffer hrunning front rest hsplit hlt ih =>
    obtain ⟨tail, rfl, hfeed, rfl⟩ := splitLine?_some hsplit
    rw [← List.append_assoc]
    exact ih (h.finishLine hfeed)
  | case3 session buffer hrunning hsplit => exact h.hold (splitLine?_none hsplit)

/-- After a buffer with bytes the current read took what is held since the last line. -/
theorem countsHeld_takeBuffer (hending : session.ending = none) (hroom : session.sink.room = none)
    {buffer : List UInt8} (h : buffer ≠ [] ∨ session.CountsHeld) :
    (session.takeBuffer setup buffer).CountsHeld := by
  fun_induction Session.takeBuffer setup session buffer with
  | case1 session buffer hended =>
    rw [hending] at hended
    cases hended
  | case2 session buffer hrunning front rest hsplit hlt ih =>
    have hfinish : (session.hold front).finishLine setup = _ :=
      finishLine_of_open hending hroom
    rw [hfinish] at ih ⊢
    exact ih hending rfl (.inr fun _ => rfl)
  | case3 session buffer hrunning hsplit =>
    intro hcount
    have hzero : session.count + buffer.length = 0 := hcount
    have hbuffer : buffer = [] := List.length_eq_zero_iff.mp (by omega)
    rcases h with hsome | hheld
    · exact absurd hbuffer hsome
    · show session.held ++ buffer = []
      rw [hheld (by omega), hbuffer]
      rfl

/-! ## Chunks -/

/-- A chunk is taken as its bytes stand, whatever the reader's buffer holds at a time. -/
theorem HasTaken.takeBuffers (h : HasTaken setup listening session input) {capacity : Nat}
    (hcapacity : 0 < capacity) (chunk : List UInt8) :
    HasTaken setup listening ((buffers capacity chunk).foldl (Session.takeBuffer setup) session)
      (input ++ chunk) := by
  fun_induction buffers capacity chunk generalizing session input with
  | case1 chunk hsome ih =>
    rw [List.foldl_cons]
    have hrest := ih (h.takeBuffer (chunk.take capacity))
    rwa [List.append_assoc, List.take_append_drop] at hrest
  | case2 chunk hnone =>
    have hchunk : chunk = [] := by
      by_contra hsome
      exact hnone ⟨hcapacity, hsome⟩
    rw [hchunk, List.append_nil]
    exact h

theorem HasTaken.countsHeld_takeBuffers (h : HasTaken setup listening session input) {capacity : Nat}
    (hcapacity : 0 < capacity) {chunk : List UInt8} (hsome : chunk ≠ [] ∨ session.CountsHeld) :
    ((buffers capacity chunk).foldl (Session.takeBuffer setup) session).CountsHeld := by
  fun_induction buffers capacity chunk generalizing session input with
  | case1 chunk hchunk ih =>
    rw [List.foldl_cons]
    have hbuffer : chunk.take capacity ≠ [] := by
      have hlength := List.length_pos_of_ne_nil hchunk.2
      refine List.ne_nil_of_length_pos ?_
      rw [List.length_take]
      omega
    exact ih (h.takeBuffer _) (.inr (countsHeld_takeBuffer h.ending h.room (.inl hbuffer)))
  | case2 chunk hnone =>
    rcases hsome with hsome | hheld
    · exact absurd ⟨hcapacity, hsome⟩ hnone
    · exact hheld

/-! ## Arrivals -/

theorem step_bytes (capacity : Nat) (chunk : List UInt8) (hending : session.ending = none) :
    session.step setup capacity (.bytes chunk) =
      (buffers capacity chunk).foldl (Session.takeBuffer setup) session := by
  rw [Session.step, hending]
  rfl

theorem step_pending (capacity : Nat) : session.step setup capacity .pending = session := by
  rw [Session.step]
  split <;> rfl

theorem HasTaken.step (h : HasTaken setup listening session input) {capacity : Nat}
    (hcapacity : 0 < capacity) {arrival : Arrival} (hquiet : arrival.IsQuiet) :
    HasTaken setup listening (session.step setup capacity arrival) (input ++ arrival.payload) := by
  cases arrival with
  | bytes chunk =>
    rw [step_bytes capacity chunk h.ending]
    exact h.takeBuffers hcapacity chunk
  | pending =>
    rw [step_pending]
    show HasTaken setup listening session (input ++ [])
    rwa [List.append_nil]
  | _ => exact hquiet.elim

theorem HasTaken.countsHeld_step (h : HasTaken setup listening session input) {capacity : Nat}
    (hcapacity : 0 < capacity) {arrival : Arrival} (hquiet : arrival.IsQuiet)
    (hsome : arrival.payload ≠ [] ∨ session.CountsHeld) :
    (session.step setup capacity arrival).CountsHeld := by
  cases arrival with
  | bytes chunk =>
    rw [step_bytes capacity chunk h.ending]
    exact h.countsHeld_takeBuffers hcapacity hsome
  | pending =>
    rw [step_pending]
    exact hsome.resolve_left fun hne => hne rfl
  | _ => exact hquiet.elim

theorem HasTaken.steps (h : HasTaken setup listening session input) {capacity : Nat}
    (hcapacity : 0 < capacity) {arrivals : List Arrival}
    (hquiet : ∀ arrival ∈ arrivals, arrival.IsQuiet) :
    HasTaken setup listening (arrivals.foldl (Session.step setup capacity) session)
      (input ++ payload arrivals) := by
  induction arrivals generalizing session input with
  | nil => rwa [payload, List.flatMap_nil, List.append_nil]
  | cons arrival rest ih =>
    rw [List.forall_mem_cons] at hquiet
    rw [payload, List.flatMap_cons, ← List.append_assoc, List.foldl_cons]
    exact ih (h.step hcapacity hquiet.1) hquiet.2

theorem HasTaken.countsHeld_steps (h : HasTaken setup listening session input) {capacity : Nat}
    (hcapacity : 0 < capacity) {arrivals : List Arrival}
    (hquiet : ∀ arrival ∈ arrivals, arrival.IsQuiet)
    (hsome : payload arrivals ≠ [] ∨ session.CountsHeld) :
    (arrivals.foldl (Session.step setup capacity) session).CountsHeld := by
  induction arrivals generalizing session input with
  | nil => exact hsome.resolve_left fun hne => hne rfl
  | cons arrival rest ih =>
    rw [List.forall_mem_cons] at hquiet
    rw [payload, List.flatMap_cons, ne_eq, List.append_eq_nil_iff] at hsome
    rw [List.foldl_cons]
    have hstep := h.countsHeld_step hcapacity hquiet.1
    refine ih (h.step hcapacity hquiet.1) hquiet.2 ?_
    -- The first arrival with bytes sets the count right; those before it change nothing.
    by_cases harrival : arrival.payload = []
    · rcases hsome with hpayload | hheld
      · exact .inl fun hrest => hpayload ⟨harrival, hrest⟩
      · exact .inr (hstep (.inr hheld))
    · exact .inr (hstep (.inl harrival))

/-! ## The end of the source -/

/-- At the end of the source the held bytes make a last line if the current read took some. -/
theorem HasTaken.close (h : HasTaken setup listening session input) :
    Finished setup (session.close setup)
      (if session.count = 0 then completePart input else input) := by
  have hrunning : ¬ session.ending.isSome := by simp [h.ending]
  rw [Session.close, if_neg hrunning]
  by_cases hcount : session.count = 0
  · rw [if_pos hcount, if_pos hcount]
    refine ⟨?_, h.output, h.stats⟩
    show some (session.ending.getD .sourceEnd) = some .sourceEnd
    rw [h.ending]
    rfl
  · rw [if_neg hcount, if_neg hcount, finishLine_of_open h.ending h.room]
    have hsome : incompletePart input ≠ [] := by
      rw [← h.held]
      refine List.ne_nil_of_length_pos ?_
      have hle := h.count
      omega
    refine ⟨?_, ?_, ?_⟩
    · show some (session.ending.getD .sourceEnd) = some .sourceEnd
      rw [h.ending]
      rfl
    · rw [linesOf_eq_append_incompletePart hsome, batchOutput_append, ← h.output, ← h.held]
      simp [batchOutput]
    · rw [linesOf_eq_append_incompletePart hsome, batchStats_append, ← h.stats, ← h.held]

theorem HasTaken.close_of_countsHeld (h : HasTaken setup listening session input)
    (hcounts : session.CountsHeld) : Finished setup (session.close setup) input := by
  have hclose := h.close
  by_cases hcount : session.count = 0
  · have hheld := hcounts hcount
    rw [h.held] at hheld
    rwa [if_pos hcount, completePart_eq_self hheld] at hclose
  · rwa [if_neg hcount] at hclose

theorem Finished.flush (h : Finished setup session input) :
    Finished setup (session.flush false) input := by
  have hflush : session.flush false = session := by
    rw [Session.flush, h.ending]
    rfl
  rwa [hflush]

/-- If the source ends after quiet arrivals, all that it gave is dealt with, as long as some of it
came in these arrivals or the current read had taken what was held. -/
theorem HasTaken.finished (h : HasTaken setup listening session input) {capacity : Nat}
    (hcapacity : 0 < capacity) {arrivals : List Arrival}
    (hquiet : ∀ arrival ∈ arrivals, arrival.IsQuiet)
    (hsome : payload arrivals ≠ [] ∨ session.CountsHeld) :
    Finished setup (((arrivals.foldl (Session.step setup capacity) session).close setup).flush
      false) (input ++ payload arrivals) := by
  have htaken := h.steps hcapacity hquiet
  have hcounts := h.countsHeld_steps hcapacity hquiet hsome
  exact (htaken.close_of_countsHeld hcounts).flush

theorem hasTaken_start (setup : Setup) {channel : Channel} (hchannel : channel ≠ .requested) :
    HasTaken setup (channel == .waiting) (start channel none) [] := by
  cases channel with
  | waiting => exact ⟨rfl, rfl, rfl, rfl, Nat.le_refl _, rfl, (batchStats_nil setup).symm⟩
  | requested => exact absurd rfl hchannel
  | closed => exact ⟨rfl, rfl, rfl, rfl, Nat.le_refl _, rfl, (batchStats_nil setup).symm⟩

theorem countsHeld_start (channel : Channel) : (start channel none).CountsHeld := by
  cases channel with
  | _ => exact fun _ => rfl

end Session

/-! ## Runs -/

/-- Without interruption a run does for its source what a batch would do, however the source cuts
its bytes into chunks and whatever the reader's capacity. -/
theorem run_finished (setup : Setup) (channel : Channel) (capacity : Nat)
    (arrivals : List Arrival) (hchannel : channel ≠ .requested) (hcapacity : 0 < capacity)
    (hquiet : ∀ arrival ∈ arrivals, arrival.IsQuiet) :
    (run setup channel none false arrivals capacity).Finished setup (payload arrivals) := by
  have hstart := Session.hasTaken_start setup hchannel
  exact hstart.finished hcapacity hquiet (.inr (Session.countsHeld_start channel))

/-- A line in two chunks, with a wait in between, comes out in one piece. -/
theorem run_finished_across_chunks :
    (run ⟨⟨none, [], {}⟩, {}⟩ .waiting none false [.bytes [97], .pending, .bytes [98, 10]]
      1).sink.taken.toList = [97, 98, 10] := by
  have hfinished := run_finished ⟨⟨none, [], {}⟩, {}⟩ .waiting 1
    [.bytes [97], .pending, .bytes [98, 10]] (by decide) (by decide) (by simp [Arrival.IsQuiet])
  exact hfinished.output.trans (by decide +kernel)

end LogDigest.Stream
