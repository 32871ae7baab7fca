import LogDigest.Proofs.Stream.Chunking

/-!
# Losing the last sender

When the last sender of shutdown requests is lost the read of the current line starts anew.  The
line keeps its bytes, but a read that takes nothing more before the source ends takes the end for
an empty read: the line is neither written nor counted.
-/

namespace LogDigest.Stream

namespace Session

/-- Two sessions with the same result: they ended alike, wrote the same and counted the same. -/
structure Agrees (first second : Session) : Prop where
  ending : first.ending = second.ending
  output : first.sink.taken = second.sink.taken
  stats : first.stats = second.stats

variable {setup : Setup} {session : Session} {input : List UInt8}

theorem Finished.agrees {other : Session} (h : Finished setup session input)
    (hother : Finished setup other input) : session.Agrees other := by
  refine ⟨?_, ?_, ?_⟩
  · rw [h.ending, hother.ending]
  · apply Array.ext'
    rw [h.output, hother.output]
  · rw [h.stats, hother.stats]

/-- Without senders the session goes on with a new read, and with what it holds. -/
theorem step_senderLost (h : HasTaken setup true session input) (capacity : Nat) :
    session.step setup capacity .senderLost = { session with listening := false, count := 0 } := by
  have hrunning : ¬ session.ending.isSome := by simp [h.ending]
  rw [Session.step, if_neg hrunning]
  show session.heed .closed = _
  rw [heed, if_pos h.listens]

theorem HasTaken.step_senderLost (h : HasTaken setup true session input) (capacity : Nat) :
    HasTaken setup false (session.step setup capacity .senderLost) input := by
  rw [Session.step_senderLost h capacity]
  exact ⟨h.ending, rfl, h.room, h.held, Nat.zero_le _, h.output, h.stats⟩

private theorem steps_of_payload_eq_nil {listening : Bool}
    (h : HasTaken setup listening session input)
    (capacity : Nat) {arrivals : List Arrival} (hquiet : ∀ arrival ∈ arrivals, arrival.IsQuiet)
    (hnone : payload arrivals = []) :
    arrivals.foldl (Session.step setup capacity) session = session := by
  induction arrivals with
  | nil => rfl
  | cons arrival rest ih =>
    rw [List.forall_mem_cons] at hquiet
    rw [payload, List.flatMap_cons, List.append_eq_nil_iff] at hnone
    have hstep : session.step setup capacity arrival = session := by
      cases arrival with
      | bytes chunk =>
        have hchunk : chunk = [] := hnone.1
        rw [step_bytes capacity chunk h.ending, hchunk, buffers]
        simp
      | pending => exact step_pending capacity
      | _ => exact hquiet.1.elim
    rw [List.foldl_cons, hstep]
    exact ih hquiet.2 hnone.2

end Session

/-! ## Runs that lose the last sender -/

def Session.orphaned (setup : Setup) (capacity : Nat) (before : List Arrival) : Session :=
  (before.foldl (Session.step setup capacity) (Session.start .waiting none)).step setup capacity
    .senderLost

theorem run_append_senderLost (setup : Setup) (capacity : Nat) (before after : List Arrival) :
    run setup .waiting none false (before ++ .senderLost :: after) capacity =
      ((after.foldl (Session.step setup capacity)
        (Session.orphaned setup capacity before)).close setup).flush false := by
  rw [run, List.foldl_append, List.foldl_cons, Session.orphaned]

section

variable {before after : List Arrival} {capacity : Nat}

theorem hasTaken_orphaned (setup : Setup) (hcapacity : 0 < capacity)
    (hbefore : ∀ arrival ∈ before, arrival.IsQuiet) :
    Session.HasTaken setup false (Session.orphaned setup capacity before) (payload before) ∧
      (Session.orphaned setup capacity before).count = 0 := by
  have hwaiting : Channel.waiting ≠ .requested := by decide
  have hstart := Session.hasTaken_start setup hwaiting
  have htaken := hstart.steps hcapacity hbefore
  rw [List.nil_append] at htaken
  refine ⟨htaken.step_senderLost capacity, ?_⟩
  rw [Session.orphaned, Session.step_senderLost htaken capacity]

theorem run_senderLost_finished (setup : Setup) (hcapacity : 0 < capacity)
    (hbefore : ∀ arrival ∈ before, arrival.IsQuiet)
    (hafter : ∀ arrival ∈ after, arrival.IsQuiet)
    (hsafe : payload after ≠ [] ∨ incompletePart (payload before) = []) :
    (run setup .waiting none false (before ++ .senderLost :: after) capacity).Finished setup
      (payload before ++ payload after) := by
  obtain ⟨htaken, -⟩ := hasTaken_orphaned setup hcapacity hbefore
  have hheld : payload after ≠ [] ∨ (Session.orphaned setup capacity before).CountsHeld := by
    refine hsafe.imp_right ?_
    intro hnone _
    rw [htaken.held, hnone]
  rw [run_append_senderLost]
  exact htaken.finished hcapacity hafter hheld

/-- A line that is incomplete when the last sender is lost, and does not go on, is lost. -/
theorem run_senderLost_loses_line (setup : Setup) (hcapacity : 0 < capacity)
    (hbefore : ∀ arrival ∈ before, arrival.IsQuiet)
    (hafter : ∀ arrival ∈ after, arrival.IsQuiet) (hnone : payload after = []) :
    (run setup .waiting none false (before ++ .senderLost :: after) capacity).Finished setup
      (completePart (payload before)) := by
  obtain ⟨htaken, hcount⟩ := hasTaken_orphaned setup hcapacity hbefore
  -- The new read has taken nothing when the source ends, whatever the session holds.
  rw [run_append_senderLost, Session.steps_of_payload_eq_nil htaken capacity hafter hnone]
  have hclose := htaken.close
  rw [if_pos hcount] at hclose
  exact hclose.flush

private theorem not_agrees_of_completePart {setup : Setup} {input : List UInt8}
    {lost kept : Session}
    (hlost : lost.Finished setup (completePart input)) (hkept : kept.Finished setup input)
    (hsome : incompletePart input ≠ []) : ¬ lost.Agrees kept := by
  intro hagrees
  have hstats := hagrees.stats
  rw [hlost.stats, hkept.stats, linesOf_eq_append_incompletePart hsome] at hstats
  have hlines := congrArg Stats.lines hstats
  simp [batchStats] at hlines

/-- The loss of the last sender shows exactly if it leaves a line incomplete that does not go on
before the source ends.  The run then ends regularly, but without that line. -/
theorem senderLost_agrees_iff (setup : Setup) (capacity : Nat) (before after : List Arrival)
    (hcapacity : 0 < capacity) (hbefore : ∀ arrival ∈ before, arrival.IsQuiet)
    (hafter : ∀ arrival ∈ after, arrival.IsQuiet) :
    ((run setup .waiting none false (before ++ .senderLost :: after) capacity).Agrees
        (run setup .waiting none false (before ++ after) capacity) ↔
      payload after ≠ [] ∨ incompletePart (payload before) = []) ∧
    (payload after = [] →
      (run setup .waiting none false (before ++ .senderLost :: after) capacity).Finished setup
        (completePart (payload before))) := by
  have hwaiting : Channel.waiting ≠ .requested := by decide
  have hquiet : ∀ arrival ∈ before ++ after, arrival.IsQuiet := by
    intro arrival hmem
    exact (List.mem_append.mp hmem).elim (hbefore arrival) (hafter arrival)
  have hkept : (run setup .waiting none false (before ++ after) capacity).Finished setup
      (payload before ++ payload after) := by
    rw [← payload_append]
    exact (Session.hasTaken_start setup hwaiting).finished hcapacity hquiet
      (.inr (Session.countsHeld_start .waiting))
  refine ⟨⟨?_, ?_⟩, run_senderLost_loses_line setup hcapacity hbefore hafter⟩
  · intro hagrees
    by_cases hnone : payload after = []
    · by_cases hcomplete : incompletePart (payload before) = []
      · exact .inr hcomplete
      · rw [hnone, List.append_nil] at hkept
        have hlost := run_senderLost_loses_line setup hcapacity hbefore hafter hnone
        exact absurd hagrees (not_agrees_of_completePart hlost hkept hcomplete)
    · exact .inl hnone
  · intro hsafe
    exact (run_senderLost_finished setup hcapacity hbefore hafter hsafe).agrees hkept

/-- A line goes on after the loss, here with its line feed, and is kept. -/
theorem senderLost_agrees_when_line_goes_on :
    (run ⟨⟨none, [], {}⟩, {}⟩ .waiting none false [.bytes [97], .senderLost, .bytes [10]] 1).Agrees
      (run ⟨⟨none, [], {}⟩, {}⟩ .waiting none false [.bytes [97], .bytes [10]] 1) := by
  have hiff := senderLost_agrees_iff ⟨⟨none, [], {}⟩, {}⟩ 1 [.bytes [97]] [.bytes [10]]
    (by decide) (by simp [Arrival.IsQuiet]) (by simp [Arrival.IsQuiet])
  exact hiff.1.mpr (.inl (by simp [payload, Arrival.payload]))

/-- The three bytes `abc` are lost if the sender is lost between them and the end. -/
theorem senderLost_loses_abc :
    ¬ (run ⟨⟨none, [], ⟨.plain, 64⟩⟩, {}⟩ .waiting none false
        [.bytes [97, 98, 99], .senderLost]).Agrees
      (run ⟨⟨none, [], ⟨.plain, 64⟩⟩, {}⟩ .waiting none false [.bytes [97, 98, 99]]) := by
  intro hagrees
  have hlines := congrArg Stats.lines hagrees.stats
  revert hlines
  decide +kernel

end

end LogDigest.Stream
