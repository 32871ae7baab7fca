import LogDigest.Proofs.Stream.Interruption
import LogDigest.Proofs.Stream.SenderLoss

/-!
# What is due

Which lines a run deals with depends on what arrives alone.  These are all the lines of its input,
unless an arrival ends the run early or the loss of the last sender makes it read the end of its
source in vain: then only the complete lines that came before are due.
-/

namespace LogDigest.Stream

/-- Whether an arrival ends a session that listens for requests, or one that does not. -/
def Arrival.stops (listening : Bool) : Arrival → Bool
  | .failure => true
  | .shutdown => listening
  | _ => false

/-- The arrivals before the one that ends a session. -/
def heard (listening : Bool) : List Arrival → List Arrival
  | [] => []
  | arrival :: rest =>
    if arrival.stops listening then []
    else arrival :: heard (listening && arrival != .senderLost) rest

/-- Whether the last sender is lost when no more bytes are to come, so that the read that starts
anew takes nothing. -/
def rereadsInVain (arrivals : List Arrival) : Bool :=
  arrivals.contains .senderLost && (payload (arrivals.dropWhile (· != .senderLost))).isEmpty

def dueBytes (channel : Channel) (arrivals : List Arrival) : List UInt8 :=
  let listening := channel == .waiting
  if channel = .requested then []
  else if heard listening arrivals = arrivals ∧ (listening && rereadsInVain arrivals) = false then
    payload arrivals
  else completePart (payload (heard listening arrivals))

/-- The lines that a run has to deal with. -/
def dueLines (channel : Channel) (arrivals : List Arrival) : List (List UInt8) :=
  linesOf (dueBytes channel arrivals)

variable {arrivals before after : List Arrival} {arrival : Arrival} {channel : Channel}
  {listening : Bool}

/-! ## Arrivals -/

theorem payload_cons (arrival : Arrival) (rest : List Arrival) :
    payload (arrival :: rest) = arrival.payload ++ payload rest :=
  List.flatMap_cons

theorem heard_cons_of_not_stops (hstops : arrival.stops listening = false) (rest : List Arrival) :
    heard listening (arrival :: rest) =
      arrival :: heard (listening && arrival != .senderLost) rest := by
  rw [heard, hstops, if_neg Bool.false_ne_true]

theorem heard_cons_eq_self_iff (rest : List Arrival) :
    heard listening (arrival :: rest) = arrival :: rest ↔
      arrival.stops listening = false ∧
        heard (listening && arrival != .senderLost) rest = rest := by
  rw [heard]
  cases arrival.stops listening with
  | true => simp
  | false => simp

private theorem stops_of_isQuiet (h : arrival.IsQuiet) : arrival.stops listening = false := by
  cases arrival with
  | bytes chunk => rfl
  | pending => rfl
  | _ => exact h.elim

theorem ne_senderLost_of_isQuiet (h : arrival.IsQuiet) : arrival ≠ .senderLost := by
  rintro rfl
  exact h.elim

private theorem heard_prefix (listening : Bool) (arrivals : List Arrival) :
    heard listening arrivals <+: arrivals := by
  induction arrivals generalizing listening with
  | nil => exact List.prefix_rfl
  | cons arrival rest ih =>
    rw [heard]
    split
    · exact List.nil_prefix
    · exact (List.prefix_cons_inj arrival).2 (ih _)

theorem heard_append_of_quiet (hquiet : ∀ arrival ∈ before, arrival.IsQuiet)
    (after : List Arrival) : heard listening (before ++ after) = before ++ heard listening after := by
  induction before with
  | nil => rfl
  | cons arrival rest ih =>
    rw [List.forall_mem_cons] at hquiet
    have hlost : (arrival != .senderLost) = true :=
      bne_iff_ne.2 (ne_senderLost_of_isQuiet hquiet.1)
    rw [List.cons_append, heard_cons_of_not_stops (stops_of_isQuiet hquiet.1), hlost,
      Bool.and_true, ih hquiet.2, List.cons_append]

private theorem heard_of_quiet (hquiet : ∀ arrival ∈ arrivals, arrival.IsQuiet) :
    heard listening arrivals = arrivals := by
  have happend : heard listening (arrivals ++ []) = arrivals ++ heard listening [] :=
    heard_append_of_quiet hquiet []
  rwa [List.append_nil, heard, List.append_nil] at happend

/-- A session that listens and is not ended takes quiet arrivals only, until the last sender is
lost. -/
theorem quiet_or_loses (h : heard true arrivals = arrivals) :
    (∀ arrival ∈ arrivals, arrival.IsQuiet) ∨
      ∃ before after, arrivals = before ++ .senderLost :: after ∧
        (∀ arrival ∈ before, arrival.IsQuiet) ∧ heard false after = after := by
  induction arrivals with
  | nil => exact .inl (by simp)
  | cons arrival rest ih =>
    obtain ⟨hstops, hrest⟩ := (heard_cons_eq_self_iff rest).1 h
    by_cases hlost : arrival = .senderLost
    · subst hlost
      exact .inr ⟨[], rest, rfl, by simp, hrest⟩
    · have hquiet : arrival.IsQuiet := by
        cases arrival with
        | bytes chunk => trivial
        | pending => trivial
        | shutdown => cases hstops
        | senderLost => exact absurd rfl hlost
        | failure => cases hstops
      rw [bne_iff_ne.2 hlost, Bool.and_true] at hrest
      rcases ih hrest with hall | ⟨before, after, rfl, hbefore, hafter⟩
      · exact .inl (List.forall_mem_cons.2 ⟨hquiet, hall⟩)
      · exact .inr ⟨arrival :: before, after, rfl, List.forall_mem_cons.2 ⟨hquiet, hbefore⟩, hafter⟩

theorem rereadsInVain_of_quiet (hquiet : ∀ arrival ∈ arrivals, arrival.IsQuiet) :
    rereadsInVain arrivals = false := by
  have hnot : arrivals.contains .senderLost = false := by
    rw [List.contains_eq_mem, decide_eq_false_iff_not]
    exact fun hmem => ne_senderLost_of_isQuiet (hquiet _ hmem) rfl
  rw [rereadsInVain, hnot, Bool.false_and]

private theorem rereadsInVain_of_loses (hquiet : ∀ arrival ∈ before, arrival.IsQuiet)
    (after : List Arrival) :
    rereadsInVain (before ++ .senderLost :: after) = (payload after).isEmpty := by
  have hdrop : (before ++ .senderLost :: after).dropWhile (· != .senderLost) =
      .senderLost :: after := by
    rw [List.dropWhile_append_of_pos]
    · rfl
    · exact fun arrival hmem => bne_iff_ne.2 (ne_senderLost_of_isQuiet (hquiet arrival hmem))
  rw [rereadsInVain, hdrop, payload_cons]
  simp [Arrival.payload]

theorem dueLines_prefix_linesOf (channel : Channel) (arrivals : List Arrival) :
    dueLines channel arrivals <+: linesOf (payload arrivals) := by
  rw [dueLines, dueBytes]
  split
  · exact List.nil_prefix
  · split
    · exact List.prefix_rfl
    · obtain ⟨rest, hrest⟩ := heard_prefix (channel == .waiting) arrivals
      have hbytes := congrArg payload hrest
      rw [payload_append, ← completePart_append_incompletePart (payload (heard _ _)),
        List.append_assoc] at hbytes
      rw [← hbytes, linesOf_completePart_append]
      exact List.prefix_append _ _

theorem dueLines_of_quiet (hchannel : channel ≠ .requested)
    (hquiet : ∀ arrival ∈ arrivals, arrival.IsQuiet) :
    dueLines channel arrivals = linesOf (payload arrivals) := by
  rw [dueLines, dueBytes, if_neg hchannel, rereadsInVain_of_quiet hquiet, Bool.and_false,
    if_pos ⟨heard_of_quiet hquiet, rfl⟩]

theorem dueLines_interrupted {stop : Arrival} {ending : Ending} (hstop : Interrupts stop ending)
    (hquiet : ∀ arrival ∈ before, arrival.IsQuiet) (after : List Arrival) :
    dueLines .waiting (before ++ stop :: after) = linesOf (completePart (payload before)) := by
  have hheard : heard true (before ++ stop :: after) = before := by
    rw [heard_append_of_quiet hquiet, heard, if_pos, List.append_nil]
    cases hstop with
    | shutdown => rfl
    | failure => rfl
  have hne : ¬ before = before ++ stop :: after := by simp
  rw [dueLines, dueBytes, if_neg (by decide)]
  simp only [beq_self_eq_true, hheard, hne, false_and, if_false]

/-! ## Sessions -/

/-- What an arrival is to a session that does not listen for requests. -/
def Arrival.hushed : Arrival → Arrival
  | .bytes chunk => .bytes chunk
  | .failure => .failure
  | _ => .pending

theorem payload_map_hushed (arrivals : List Arrival) :
    payload (arrivals.map Arrival.hushed) = payload arrivals := by
  rw [payload, payload, List.flatMap_map]
  refine List.flatMap_congr fun arrival _ => ?_
  cases arrival with
  | _ => rfl

theorem isQuiet_hushed (hheard : heard false arrivals = arrivals) :
    ∀ arrival ∈ arrivals.map Arrival.hushed, arrival.IsQuiet := by
  induction arrivals with
  | nil => simp
  | cons arrival rest ih =>
    obtain ⟨hstops, hrest⟩ := (heard_cons_eq_self_iff rest).1 hheard
    rw [List.map_cons, List.forall_mem_cons]
    refine ⟨?_, ih hrest⟩
    cases arrival with
    | failure => cases hstops
    | _ => trivial

namespace Session

variable {setup : Setup} {session : Session} {input : List UInt8} {capacity : Nat}

theorem step_hushed (hlistens : session.listening = false) (arrival : Arrival) :
    session.step setup capacity arrival = session.step setup capacity arrival.hushed := by
  cases arrival with
  | shutdown => simp [Session.step, Arrival.hushed, heed, hlistens]
  | senderLost => simp [Session.step, Arrival.hushed, heed, hlistens]
  | _ => rfl

/-- A session that takes what does not end it is in the middle of its input afterwards. -/
theorem HasTaken.step_of_not_stops (h : HasTaken setup listening session input)
    (hcapacity : 0 < capacity) (hstops : arrival.stops listening = false) :
    HasTaken setup (listening && arrival != .senderLost) (session.step setup capacity arrival)
      (input ++ arrival.payload) := by
  cases listening with
  | false =>
    have hquiet : arrival.hushed.IsQuiet := by
      cases arrival with
      | failure => cases hstops
      | _ => trivial
    have hpayload : arrival.hushed.payload = arrival.payload := by
      cases arrival with
      | _ => rfl
    rw [step_hushed h.listens, ← hpayload]
    exact h.step hcapacity hquiet
  | true =>
    cases arrival with
    | bytes chunk => exact h.step hcapacity trivial
    | pending => exact h.step hcapacity trivial
    | shutdown => cases hstops
    | senderLost =>
      show HasTaken setup false _ (input ++ [])
      rw [List.append_nil]
      exact h.step_senderLost capacity
    | failure => cases hstops

theorem HasTaken.step_of_stops (h : HasTaken setup listening session input) (capacity : Nat)
    (hstops : arrival.stops listening = true) :
    (session.step setup capacity arrival).ending.isSome ∧
      (session.step setup capacity arrival).stats = session.stats := by
  have hrunning : ¬ session.ending.isSome := by simp [h.ending]
  cases arrival with
  | failure =>
    rw [Session.step, if_neg hrunning]
    exact ⟨rfl, rfl⟩
  | shutdown =>
    have hlistens : session.listening = true := h.listens.trans hstops
    rw [Session.step, if_neg hrunning]
    show (session.heed .requested).ending.isSome ∧ (session.heed .requested).stats = _
    rw [heed, if_pos hlistens]
    exact ⟨rfl, rfl⟩
  | _ => cases hstops

/-- A session that is ended early has dealt with the complete lines that it heard of. -/
theorem HasTaken.stats_of_stopped (h : HasTaken setup listening session input)
    (hcapacity : 0 < capacity) (hstopped : heard listening arrivals ≠ arrivals) :
    ((arrivals.foldl (Session.step setup capacity) session).close setup).stats =
      batchStats setup (linesOf (completePart (input ++ payload (heard listening arrivals)))) := by
  induction arrivals generalizing session input listening with
  | nil => exact absurd rfl hstopped
  | cons arrival rest ih =>
    rw [List.foldl_cons]
    cases hstops : arrival.stops listening with
    | true =>
      obtain ⟨hended, hstats⟩ := h.step_of_stops capacity hstops
      have hheard : heard listening (arrival :: rest) = [] := by rw [heard, hstops, if_pos rfl]
      rw [steps_of_ended capacity rest hended, close_of_ended hended, hstats, h.stats, hheard,
        payload, List.flatMap_nil, List.append_nil]
    | false =>
      have hrest : heard (listening && arrival != .senderLost) rest ≠ rest := fun heq =>
        hstopped ((heard_cons_eq_self_iff rest).2 ⟨hstops, heq⟩)
      rw [heard_cons_of_not_stops hstops, payload_cons, ← List.append_assoc]
      exact ih (h.step_of_not_stops hcapacity hstops) hrest

theorem HasTaken.steps_hushed (h : HasTaken setup false session input) (hcapacity : 0 < capacity)
    (hheard : heard false arrivals = arrivals) :
    arrivals.foldl (Session.step setup capacity) session =
      (arrivals.map Arrival.hushed).foldl (Session.step setup capacity) session := by
  induction arrivals generalizing session input with
  | nil => rfl
  | cons arrival rest ih =>
    obtain ⟨hstops, hrest⟩ := (heard_cons_eq_self_iff rest).1 hheard
    rw [List.map_cons, List.foldl_cons, List.foldl_cons, ← step_hushed h.listens]
    exact ih (h.step_of_not_stops hcapacity hstops) hrest

theorem stats_flush (session : Session) (flushFails : Bool) :
    (session.flush flushFails).stats = session.stats := by
  unfold Session.flush
  split
  · rfl
  · split <;> rfl

end Session

/-! ## Runs -/

section

variable {capacity : Nat}

private theorem stats_run_flush (setup : Setup) (channel : Channel) (room : Option Nat)
    (flushFails : Bool) (arrivals : List Arrival) (capacity : Nat) :
    (run setup channel room flushFails arrivals capacity).stats =
      (run setup channel room false arrivals capacity).stats := by
  rw [run, run, Session.stats_flush, Session.stats_flush]

private theorem stats_run_of_stopped (setup : Setup) (hchannel : channel ≠ .requested)
    (hcapacity : 0 < capacity) (hstopped : heard (channel == .waiting) arrivals ≠ arrivals) :
    (run setup channel none false arrivals capacity).stats =
      batchStats setup (linesOf (completePart (payload (heard (channel == .waiting) arrivals)))) := by
  rw [run, Session.stats_flush]
  exact (Session.hasTaken_start setup hchannel).stats_of_stopped hcapacity hstopped

/-- A session that loses the last sender deals with all lines, unless its new read is in vain. -/
theorem stats_run_of_loses (setup : Setup) (hcapacity : 0 < capacity)
    (hbefore : ∀ arrival ∈ before, arrival.IsQuiet) (hafter : heard false after = after) :
    (run setup .waiting none false (before ++ .senderLost :: after) capacity).stats =
      batchStats setup (linesOf (if payload after = [] then completePart (payload before)
        else payload before ++ payload after)) := by
  have hhushed : run setup .waiting none false (before ++ .senderLost :: after) capacity =
      run setup .waiting none false (before ++ .senderLost :: after.map Arrival.hushed)
        capacity := by
    obtain ⟨htaken, -⟩ := hasTaken_orphaned setup hcapacity hbefore
    rw [run_append_senderLost, run_append_senderLost, htaken.steps_hushed hcapacity hafter]
  have hquiet := isQuiet_hushed hafter
  rw [hhushed, ← payload_map_hushed after]
  split
  · next hnone => exact (run_senderLost_loses_line setup hcapacity hbefore hquiet hnone).stats
  · next hsome =>
    exact (run_senderLost_finished setup hcapacity hbefore hquiet (.inl hsome)).stats

private theorem stats_run_of_closed (setup : Setup) (hcapacity : 0 < capacity)
    (hheard : heard false arrivals = arrivals) :
    (run setup .closed none false arrivals capacity).stats =
      batchStats setup (linesOf (payload arrivals)) := by
  have hclosed : Channel.closed ≠ .requested := by decide
  have hstart := Session.hasTaken_start setup hclosed
  rw [run, hstart.steps_hushed hcapacity hheard, ← payload_map_hushed arrivals]
  exact (hstart.finished hcapacity (isQuiet_hushed hheard)
    (.inr (Session.countsHeld_start .closed))).stats

private theorem stats_run_of_quiet (setup : Setup) (hcapacity : 0 < capacity)
    (hquiet : ∀ arrival ∈ arrivals, arrival.IsQuiet) :
    (run setup .waiting none false arrivals capacity).stats =
      batchStats setup (linesOf (payload arrivals)) := by
  have hwaiting : Channel.waiting ≠ .requested := by decide
  exact ((Session.hasTaken_start setup hwaiting).finished hcapacity hquiet
    (.inr (Session.countsHeld_start .waiting))).stats

/-- Whatever arrives, a run whose sink takes all counts the lines that are due. -/
theorem stats_run (setup : Setup) (channel : Channel) (flushFails : Bool)
    (arrivals : List Arrival) (hcapacity : 0 < capacity) :
    (run setup channel none flushFails arrivals capacity).stats =
      batchStats setup (dueLines channel arrivals) := by
  rw [stats_run_flush, dueLines, dueBytes]
  by_cases hrequested : channel = .requested
  · subst hrequested
    exact (run_requested_cutShort setup arrivals capacity).stats
  rw [if_neg hrequested]
  by_cases hheard : heard (channel == .waiting) arrivals = arrivals
  · cases channel with
    | requested => exact absurd rfl hrequested
    | closed =>
      rw [if_pos ⟨hheard, rfl⟩]
      exact stats_run_of_closed setup hcapacity hheard
    | waiting =>
      rcases quiet_or_loses hheard with hquiet | ⟨before, after, rfl, hbefore, hafter⟩
      · rw [if_pos ⟨hheard, rereadsInVain_of_quiet hquiet⟩]
        exact stats_run_of_quiet setup hcapacity hquiet
      · rw [stats_run_of_loses setup hcapacity hbefore hafter, hheard,
          rereadsInVain_of_loses hbefore, payload_append, payload_cons]
        cases hnone : payload after with
        | nil => simp [Arrival.payload]
        | cons byte rest => simp [Arrival.payload]
  · rw [if_neg fun h => hheard h.1]
    exact stats_run_of_stopped setup hrequested hcapacity hheard

theorem stats_run_of_roomy (setup : Setup) (channel : Channel) (room : Option Nat)
    (flushFails : Bool) (arrivals : List Arrival) (hcapacity : 0 < capacity)
    (hroomy : (run setup channel room flushFails arrivals capacity).ending ≠
      some (.fault .write)) :
    (run setup channel room flushFails arrivals capacity).stats =
      batchStats setup (dueLines channel arrivals) := by
  cases room with
  | none => exact stats_run setup channel flushFails arrivals hcapacity
  | some n =>
    rcases Session.limits_run setup channel n flushFails arrivals capacity with hwithin | hbeyond
    · rw [hwithin.same]
      exact stats_run setup channel flushFails arrivals hcapacity
    · exact absurd hbeyond.ending hroomy

end

end LogDigest.Stream
