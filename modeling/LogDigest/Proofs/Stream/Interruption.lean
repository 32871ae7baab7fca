import LogDigest.Proofs.Stream.Room

/-!
# Runs that end early

A request to shut down and a failure of the source end a run between two lines: what was complete
by then is written and counted, and what was not is dropped.  A sink without room cuts the output
where the room ends, and only regular ends are followed by a flush.
-/

namespace LogDigest.Stream

/-- How an arrival ends a session that waits for requests. -/
inductive Interrupts : Arrival → Ending → Prop where
  | shutdown : Interrupts .shutdown .shutdown
  | failure : Interrupts .failure (.fault .read)

/-- Whether a session has ended with its source or on request, and not by a fault. -/
def Ending.isRegular : Ending → Bool
  | .sourceEnd => true
  | .shutdown => true
  | .fault _ => false

/-- A session that has ended so, after it dealt with the lines of an input that have their line
feed, and with nothing else. -/
structure Session.CutShort (setup : Setup) (session : Session) (ending : Ending)
    (input : List UInt8) : Prop where
  ending : session.ending = some ending
  output : session.sink.taken.toList = batchOutput setup (linesOf (completePart input))
  stats : session.stats = batchStats setup (linesOf (completePart input))
  lines : session.stats.lines = input.count lineFeed

/-! ## Complete lines -/

private theorem length_linesOf_concat (front : List UInt8) :
    (linesOf (front ++ [lineFeed])).length = front.count lineFeed + 1 := by
  induction front with
  | nil => rfl
  | cons byte front ih =>
    rw [List.cons_append, linesOf]
    by_cases hbyte : byte = lineFeed
    · rw [if_pos hbyte, List.length_cons, ih, hbyte, List.count_cons_self]
    · rw [if_neg hbyte, List.count_cons_of_ne hbyte]
      cases hfront : linesOf (front ++ [lineFeed]) with
      | nil => rw [hfront] at ih; simp at ih
      | cons line lines => rw [hfront] at ih; exact ih

private theorem length_linesOf_completePart (input : List UInt8) :
    (linesOf (completePart input)).length = input.count lineFeed := by
  have hnone : (incompletePart input).count lineFeed = 0 :=
    List.count_eq_zero.mpr (lineFeed_not_mem_incompletePart input)
  have hcount : input.count lineFeed = (completePart input).count lineFeed := by
    have happend := congrArg (List.count lineFeed) (completePart_append_incompletePart input)
    rw [List.count_append, hnone] at happend
    omega
  rw [hcount]
  rcases completePart_eq_nil_or_concat input with hnil | ⟨front, hfront⟩
  · rw [hnil]
    rfl
  · rw [hfront, length_linesOf_concat, List.count_append, List.count_singleton_self]

private theorem batchOutput_completePart_prefix (setup : Setup) (input rest : List UInt8) :
    batchOutput setup (linesOf (completePart input)) <+:
      batchOutput setup (linesOf (input ++ rest)) := by
  have hinput : input ++ rest = completePart input ++ (incompletePart input ++ rest) := by
    rw [← List.append_assoc, completePart_append_incompletePart]
  rw [hinput, linesOf_completePart_append, batchOutput_append]
  exact List.prefix_append _ _

/-! ## Interruptions -/

namespace Session

variable {setup : Setup} {session : Session} {input : List UInt8} {stop : Arrival}
  {ending : Ending}

theorem HasTaken.step_interrupts (h : HasTaken setup true session input)
    (hstop : Interrupts stop ending) (capacity : Nat) :
    session.step setup capacity stop = { session with ending := some ending } := by
  have hrunning : ¬ session.ending.isSome := by simp [h.ending]
  unfold Session.step
  rw [if_neg hrunning]
  cases hstop with
  | shutdown =>
    show session.heed .requested = _
    rw [heed, if_pos h.listens]
  | failure => rfl

theorem HasTaken.cutShort (h : HasTaken setup true session input)
    (hstop : Interrupts stop ending) (capacity : Nat) (after : List Arrival) :
    CutShort setup (((stop :: after).foldl (Session.step setup capacity) session).close setup)
      ending input := by
  rw [List.foldl_cons, h.step_interrupts hstop, steps_of_ended _ _ rfl, close_of_ended rfl]
  refine ⟨rfl, h.output, h.stats, ?_⟩
  show session.stats.lines = _
  rw [h.stats]
  exact length_linesOf_completePart input

theorem CutShort.flush (h : CutShort setup session ending input) :
    CutShort setup (session.flush false) ending input := by
  have hflush : session.flush false = session := by
    unfold Session.flush
    split <;> rfl
  rwa [hflush]

private theorem ending_close (setup : Setup) (session : Session) :
    ∃ ending, (session.close setup).ending = some ending := by
  unfold Session.close
  split
  · next hended => exact Option.isSome_iff_exists.mp hended
  · exact ⟨_, rfl⟩

private theorem flush_true (h : session.ending = some ending) :
    session.flush true =
      if ending.isRegular then { session.flush false with ending := some (.fault .flush) }
      else session.flush false := by
  cases ending with
  | fault fault =>
    rw [flush_of_fault true h, flush_of_fault false h]
    rfl
  | _ =>
    have hregular : ∀ fault, session.ending ≠ some (.fault fault) := by simp [h]
    rw [flush_of_regular true hregular, flush_of_regular false hregular]
    rfl

end Session

section

variable {before : List Arrival} {stop : Arrival} {ending : Ending} {capacity : Nat}

/-- An interruption leaves the complete lines that came before it, and nothing else. -/
theorem run_cutShort (setup : Setup) (hcapacity : 0 < capacity)
    (hbefore : ∀ arrival ∈ before, arrival.IsQuiet) (hstop : Interrupts stop ending)
    (after : List Arrival) :
    (run setup .waiting none false (before ++ stop :: after) capacity).CutShort setup ending
      (payload before) := by
  have hwaiting : Channel.waiting ≠ .requested := by decide
  have htaken := (Session.hasTaken_start setup hwaiting).steps hcapacity hbefore
  rw [List.nil_append] at htaken
  rw [run, List.foldl_append]
  exact (htaken.cutShort hstop capacity after).flush

/-- A request that is there before the start ends a run before its first line. -/
theorem run_requested_cutShort (setup : Setup) (arrivals : List Arrival) (capacity : Nat) :
    (run setup .requested none false arrivals capacity).CutShort setup .shutdown [] := by
  have hended : (Session.start .requested none).ending.isSome := rfl
  have hstart : (Session.start .requested none).CutShort setup .shutdown [] :=
    ⟨rfl, rfl, (batchStats_nil setup).symm, rfl⟩
  rw [run, Session.steps_of_ended capacity arrivals hended, Session.close_of_ended hended]
  exact hstart.flush

private theorem run_flush (setup : Setup) (channel : Channel) (room : Option Nat)
    (arrivals : List Arrival) (capacity : Nat) :
    ∃ ending, (run setup channel room false arrivals capacity).ending = some ending ∧
      run setup channel room true arrivals capacity =
        if ending.isRegular then
          { run setup channel room false arrivals capacity with ending := some (.fault .flush) }
        else run setup channel room false arrivals capacity := by
  obtain ⟨ending, hending⟩ := Session.ending_close setup
    (arrivals.foldl (Session.step setup capacity) (Session.start channel room))
  refine ⟨ending, ?_, Session.flush_true hending⟩
  rw [run]
  unfold Session.flush
  split <;> exact hending

/-- Every early end leaves a clean beginning of the output: an interruption the lines that were
complete by then, a request before the start nothing, and a sink without room the bytes that
fitted.  The sink is flushed after regular ends only. -/
theorem run_ends_early (setup : Setup) (capacity : Nat) (before after : List Arrival)
    (hcapacity : 0 < capacity) (hbefore : ∀ arrival ∈ before, arrival.IsQuiet) :
    (∀ stop ending, Interrupts stop ending →
      (run setup .waiting none false (before ++ stop :: after) capacity).CutShort setup ending
        (payload before) ∧
      ∀ whole : List Arrival, (∀ arrival ∈ whole, arrival.IsQuiet) →
        payload whole = payload (before ++ stop :: after) →
        (run setup .waiting none false (before ++ stop :: after) capacity).sink.taken.toList <+:
          (run setup .waiting none false whole capacity).sink.taken.toList) ∧
    (∀ arrivals, (run setup .requested none false arrivals capacity).CutShort setup .shutdown []) ∧
    (∀ channel flushFails arrivals n,
      let free := run setup channel none flushFails arrivals capacity
      let limited := run setup channel (some n) flushFails arrivals capacity
      limited.sink.taken.toList = free.sink.taken.toList.take n ∧
      (limited.ending = some (.fault .write) ↔ n < free.sink.taken.toList.length) ∧
      (free.sink.taken.toList.length ≤ n → limited.ending = free.ending)) ∧
    ∀ channel room arrivals,
      ∃ ending, (run setup channel room false arrivals capacity).ending = some ending ∧
        run setup channel room true arrivals capacity =
          if ending.isRegular then
            { run setup channel room false arrivals capacity with
              ending := some (.fault .flush) }
          else run setup channel room false arrivals capacity := by
  refine ⟨?_, fun arrivals => run_requested_cutShort setup arrivals capacity, ?_,
    fun channel room arrivals => run_flush setup channel room arrivals capacity⟩
  · intro stop ending hstop
    have hcut := run_cutShort setup hcapacity hbefore hstop after
    refine ⟨hcut, ?_⟩
    intro whole hwhole hbytes
    have hwaiting : Channel.waiting ≠ .requested := by decide
    have hfull := (Session.hasTaken_start setup hwaiting).finished hcapacity hwhole
      (.inr (Session.countsHeld_start .waiting))
    rw [List.nil_append, hbytes, payload_append] at hfull
    have hfullOutput : (run setup .waiting none false whole capacity).sink.taken.toList = _ :=
      hfull.output
    rw [hcut.output, hfullOutput]
    exact batchOutput_completePart_prefix setup (payload before) _
  · intro channel flushFails arrivals n
    have hlimits := Session.limits_run setup channel n flushFails arrivals capacity
    have hending := hlimits.ending
    refine ⟨hlimits.output, ⟨?_, ?_⟩, ?_⟩
    · intro hwrite
      by_contra hfits
      rw [if_neg hfits] at hending
      exact hlimits.unlimited.ending (hending.symm.trans hwrite)
    · intro hover
      rw [hending, if_pos hover]
    · intro hfits
      rw [hending, if_neg (Nat.not_lt.mpr hfits)]

/-- A request in the middle of the second line leaves the first one; a sink for one byte has room
for the first byte of it. -/
theorem run_ends_early_in_second_line :
    (run ⟨⟨none, [], {}⟩, {}⟩ .waiting none false
      ([.bytes [97, 10, 98]] ++ .shutdown :: [.bytes [10]]) 2).sink.taken.toList = [97, 10] ∧
    (run ⟨⟨none, [], {}⟩, {}⟩ .waiting (some 1) false
      [.bytes [97, 10, 98]] 2).sink.taken.toList = [97] := by
  obtain ⟨hinterrupted, -, hlimited, -⟩ := run_ends_early ⟨⟨none, [], {}⟩, {}⟩ 2
    [.bytes [97, 10, 98]] [.bytes [10]] (by decide) (by simp [Arrival.IsQuiet])
  constructor
  · exact (hinterrupted .shutdown .shutdown .shutdown).1.output.trans (by decide +kernel)
  · exact (hlimited .waiting false [.bytes [97, 10, 98]] 1).1.trans (by decide +kernel)

end

end LogDigest.Stream
