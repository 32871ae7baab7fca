import LogDigest.Proofs.Blob.Markup
import LogDigest.Proofs.Stream.Due
import Mathlib.Algebra.GroupWithZero.Nat

/-!
# Accounts of a run

Every line that a run deals with is counted once by its fate, and once by the kind of its digest
or the reason for its refusal.  The counters of templates and placeholders follow from the
documents that were digested.  All this holds however a run ends.
-/

namespace LogDigest

/-! ## Documents -/

/-- Whether a token is a reference that names no field of a document. -/
def Template.Token.isUnresolved (depth : Nat) (doc : Json) : Template.Token → Bool
  | .literal _ => false
  | .field _ path => (doc.find? path depth).isNone

/-- How many references of a template name no field of a document. -/
def Template.countUnresolved (template : Template) (depth : Nat) (doc : Json) : Nat :=
  template.tokens.countP (Token.isUnresolved depth doc)

/-- Whether a document is an object that has one of some fields as a key. -/
def Json.hasField (fields : List String) : Json → Bool
  | .object members => fields.any (members.map Prod.fst).contains
  | _ => false

private theorem Template.unresolved_eq_countUnresolved (template : Template) (view : View)
    (doc : Json) :
    (template.render view doc).unresolved = template.countUnresolved view.depth doc := by
  rw [render, countUnresolved, List.countP_map]
  refine List.countP_congr fun token _ => ?_
  cases token with
  | literal text => rfl
  | field marker path =>
    rw [Function.comp_apply, Token.shown?, Option.isNone_map]
    rfl

private theorem Json.get?_eq_none_iff {doc : Json} {key : String} :
    doc.get? key = none ↔ key ∉ doc.members.map Prod.fst := by
  rw [get?, List.lookup_eq_none_iff, List.mem_map, not_exists]
  refine forall_congr' fun member => ?_
  rw [bne_iff_ne, not_and]
  exact forall_congr' fun _ => ne_comm

private theorem Json.hasField_eq_false_iff {fields : List String} {doc : Json} :
    doc.hasField fields = false ↔ ∀ field ∈ fields, doc.get? field = none := by
  simp only [get?_eq_none_iff]
  cases doc with
  | object members => simp [hasField, Json.members]
  | _ => simp [hasField, Json.members]

theorem Digest.ofFields_cases (fields : List String) (doc : Json) :
    (doc.hasField fields = false ∧ Digest.ofFields fields doc = .placeholder) ∨
      (doc.hasField fields = true ∧ ∃ rows, Digest.ofFields fields doc = .fields rows) := by
  rw [Digest.ofFields]
  cases hrows : fields.filterMap fun key =>
    (doc.get? key).map fun value => (key, value.display) with
  | nil =>
    refine .inl ⟨Json.hasField_eq_false_iff.2 fun field hfield => ?_, rfl⟩
    have hnone := List.filterMap_eq_nil_iff.1 hrows field hfield
    exact Option.map_eq_none_iff.1 hnone
  | cons row rows =>
    refine .inr ⟨?_, _, rfl⟩
    by_contra hfalse
    rw [Bool.not_eq_true, Json.hasField_eq_false_iff] at hfalse
    have hnil : fields.filterMap (fun key =>
        (doc.get? key).map fun value => (key, value.display)) = [] :=
      List.filterMap_eq_nil_iff.2 fun field hfield => by rw [hfalse field hfield, Option.map_none]
    rw [hrows] at hnil
    cases hnil

/-! ## Tallies -/

namespace Tally

def blobs (tally : Tally) : Nat :=
  tally.template + tally.fields + tally.placeholder

def refused (tally : Tally) : Nat :=
  tally.notJson + tally.malformed + tally.notUtf8

theorem blobs_add (a b : Tally) : (a + b).blobs = a.blobs + b.blobs := by
  show a.template + b.template + (a.fields + b.fields) + (a.placeholder + b.placeholder) = _
  simp only [blobs]
  omega

theorem refused_add (a b : Tally) : (a + b).refused = a.refused + b.refused := by
  show a.notJson + b.notJson + (a.malformed + b.malformed) + (a.notUtf8 + b.notUtf8) = _
  simp only [refused]
  omega

private theorem blobs_digest (digest : Digest) : (ofDigest digest + ofKind digest).blobs = 1 := by
  cases digest with
  | _ => rfl

private theorem refused_digest (digest : Digest) :
    (ofDigest digest + ofKind digest).refused = 0 := by
  cases digest with
  | _ => rfl

private theorem blobs_ofRefusal (refusal : Refusal) : (ofRefusal refusal).blobs = 0 := by
  cases refusal with
  | _ => rfl

private theorem refused_ofRefusal (refusal : Refusal) : (ofRefusal refusal).refused = 1 := by
  cases refusal with
  | _ => rfl

end Tally

namespace Stream

/-- The documents of the lines that hold a blob. -/
def documentsOf (setup : Setup) (lines : List (List UInt8)) : List Json :=
  lines.filterMap fun line => (blobOf? setup line).map Blob.document

/-! ## The balance -/

/-- The counters of digests follow from the documents that were digested: with a template from its
lines and references, without one from the documents that have none of the fields. -/
def CountsDigests (setup : Setup) (documents : List Json) (tally : Tally) : Prop :=
  match setup.digester.template with
  | some template =>
    tally.template = documents.length ∧ tally.renders = documents.length ∧
      tally.fields = 0 ∧ tally.placeholder = 0 ∧
      tally.unresolved =
        (documents.map (template.countUnresolved setup.digester.view.depth)).sum
  | none =>
    tally.template = 0 ∧ tally.renders = 0 ∧ tally.unresolved = 0 ∧
      tally.placeholder = documents.countP fun doc => !doc.hasField setup.digester.fields

/-- The counts of lines and the counters of a tally belong to the same lines, of which those with
a blob hold the given documents. -/
structure Balanced (setup : Setup) (documents : List Json) (stats : Stats) (tally : Tally) :
    Prop where
  /-- Every line has one fate. -/
  fates : stats.lines = stats.formatted + stats.passedThrough + stats.dropped
  /-- What holds no blob is passed through, or else dropped, throughout. -/
  passthrough :
    if setup.options.passthrough then stats.dropped = 0 else stats.passedThrough = 0
  formatted : stats.formatted = documents.length
  /-- Every blob has one kind. -/
  kinds : tally.blobs = stats.formatted
  /-- Every other line has one reason. -/
  refusals : tally.refused = stats.passedThrough + stats.dropped
  digests : CountsDigests setup documents tally

variable {setup : Setup} {documents : List Json} {stats : Stats} {tally : Tally}

private theorem balanced_nil (setup : Setup) : Balanced setup [] {} {} := by
  refine ⟨rfl, ?_, rfl, rfl, rfl, ?_⟩
  · split <;> rfl
  · rw [CountsDigests]
    split <;> simp

theorem CountsDigests.digest (h : CountsDigests setup documents tally) (doc : Json) :
    CountsDigests setup (documents ++ [doc])
      (tally + (Tally.ofDigest (setup.digester.digest doc) +
        Tally.ofKind (setup.digester.digest doc))) := by
  rw [CountsDigests] at h ⊢
  rw [Digester.digest]
  cases htemplate : setup.digester.template with
  | some template =>
    rw [htemplate] at h
    obtain ⟨htally, hrenders, hfields, hplaceholder, hunresolved⟩ := h
    refine ⟨?_, ?_, hfields, hplaceholder, ?_⟩
    · show tally.template + 1 = _
      rw [htally, List.length_append]
      rfl
    · show tally.renders + 1 = _
      rw [hrenders, List.length_append]
      rfl
    · show tally.unresolved + (template.render setup.digester.view doc).unresolved = _
      rw [hunresolved, Template.unresolved_eq_countUnresolved]
      simp
  | none =>
    rw [htemplate] at h
    obtain ⟨htally, hrenders, hunresolved, hplaceholder⟩ := h
    rcases Digest.ofFields_cases setup.digester.fields doc with ⟨hnone, hdigest⟩ |
      ⟨hsome, rows, hdigest⟩
    · simp only [hdigest]
      refine ⟨htally, hrenders, hunresolved, ?_⟩
      show tally.placeholder + 1 = _
      rw [hplaceholder, List.countP_append, List.countP_singleton, hnone]
      rfl
    · simp only [hdigest]
      refine ⟨htally, hrenders, hunresolved, ?_⟩
      show tally.placeholder = _
      rw [hplaceholder, List.countP_append, List.countP_singleton, hsome]
      rfl

theorem CountsDigests.refusal (h : CountsDigests setup documents tally) (refusal : Refusal) :
    CountsDigests setup documents (tally + Tally.ofRefusal refusal) := by
  cases refusal with
  | _ => exact h

theorem Balanced.blob (h : Balanced setup documents stats tally) (doc : Json) :
    Balanced setup (documents ++ [doc]) (stats + { lines := 1, formatted := 1 })
      (tally + (Tally.ofDigest (setup.digester.digest doc) +
        Tally.ofKind (setup.digester.digest doc))) := by
  have hdigests := h.digests.digest doc
  obtain ⟨hfates, hpass, hformatted, hkinds, hrefusals, -⟩ := h
  refine ⟨?_, hpass, ?_, ?_, ?_, hdigests⟩
  · show stats.lines + 1 = stats.formatted + 1 + stats.passedThrough + stats.dropped
    omega
  · show stats.formatted + 1 = _
    rw [hformatted, List.length_append]
    rfl
  · rw [Tally.blobs_add, Tally.blobs_digest, hkinds]
    rfl
  · rw [Tally.refused_add, Tally.refused_digest, hrefusals]
    rfl

theorem Balanced.refusal (h : Balanced setup documents stats tally) (refusal : Refusal) :
    Balanced setup documents
      (stats + if setup.options.passthrough then { lines := 1, passedThrough := 1 }
        else { lines := 1, dropped := 1 })
      (tally + Tally.ofRefusal refusal) := by
  have hdigests := h.digests.refusal refusal
  obtain ⟨hfates, hpass, hformatted, hkinds, hrefusals, -⟩ := h
  have hblobs : (tally + Tally.ofRefusal refusal).blobs = stats.formatted := by
    rw [Tally.blobs_add, Tally.blobs_ofRefusal, hkinds, Nat.add_zero]
  have hrefused : (tally + Tally.ofRefusal refusal).refused =
      stats.passedThrough + stats.dropped + 1 := by
    rw [Tally.refused_add, Tally.refused_ofRefusal, hrefusals]
  cases hpassthrough : setup.options.passthrough with
  | true =>
    rw [hpassthrough, if_pos rfl] at hpass
    refine ⟨?_, ?_, hformatted, hblobs, ?_, hdigests⟩
    · show stats.lines + 1 = stats.formatted + (stats.passedThrough + 1) + stats.dropped
      omega
    · rw [hpassthrough, if_pos rfl]
      exact hpass
    · show _ = stats.passedThrough + 1 + stats.dropped
      omega
  | false =>
    rw [hpassthrough, if_neg Bool.false_ne_true] at hpass
    refine ⟨?_, ?_, hformatted, hblobs, ?_, hdigests⟩
    · show stats.lines + 1 = stats.formatted + stats.passedThrough + (stats.dropped + 1)
      omega
    · rw [hpassthrough, if_neg Bool.false_ne_true]
      exact hpass
    · show _ = stats.passedThrough + (stats.dropped + 1)
      omega

private theorem documentsOf_append (setup : Setup) (first second : List (List UInt8)) :
    documentsOf setup (first ++ second) = documentsOf setup first ++ documentsOf setup second :=
  List.filterMap_append

theorem Balanced.line {lines : List (List UInt8)}
    (h : Balanced setup (documentsOf setup lines) stats tally) (line : List UInt8) :
    Balanced setup (documentsOf setup (lines ++ [line]))
      (stats + statsOf setup.digester setup.options (withoutEnding line))
      (tally + Tally.ofReading (readLine setup.digester (withoutEnding line))) := by
  rw [documentsOf_append]
  rcases Session.readLine_cases setup line with ⟨blob, hread, hblob⟩ | ⟨refusal, hread, hblob⟩
  · have hdigest : blob.digest = setup.digester.digest blob.document := by
      rw [readLine] at hread
      split at hread
      · exact Blob.digest_of_read hread
      · cases hread
    have hdocuments : documentsOf setup [line] = [blob.document] := by simp [documentsOf, hblob]
    rw [hdocuments, statsOf, hread, Tally.ofReading, hdigest]
    exact h.blob blob.document
  · have hdocuments : documentsOf setup [line] = [] := by simp [documentsOf, hblob]
    rw [hdocuments, List.append_nil, statsOf, hread, Tally.ofReading]
    exact h.refusal refusal

/-! ## Sessions -/

namespace Session

/-- A session that has dealt with some lines, and with no others. -/
structure HasCounted (setup : Setup) (session : Session) (lines : List (List UInt8)) : Prop where
  length : session.stats.lines = lines.length
  balanced : Balanced setup (documentsOf setup lines) session.stats session.tally

/-- A session that has dealt with the complete lines of `done`.  Unless it has ended, it holds the
`rest` of what it took, which is an incomplete line. -/
structure Accounts (setup : Setup) (session : Session) (done rest : List UInt8) : Prop where
  complete : completePart done = done
  counted : HasCounted setup session (linesOf done)
  held : session.ending = none →
    session.held = rest ∧ lineFeed ∉ rest ∧ session.count ≤ rest.length

def AccountsFor (setup : Setup) (session : Session) (input : List UInt8) : Prop :=
  ∃ done rest, done ++ rest = input ∧ Accounts setup session done rest

variable {session : Session} {done rest input : List UInt8} {lines : List (List UInt8)}

private theorem stats_write (session : Session) (bytes : List UInt8) :
    (session.write bytes).stats = session.stats := by
  unfold write
  split <;> rfl

private theorem tally_write (session : Session) (bytes : List UInt8) :
    (session.write bytes).tally = session.tally := by
  unfold write
  split <;> rfl

private theorem counts_line (setup : Setup) (session : Session) (line : List UInt8) :
    (session.line setup line).stats =
        session.stats + statsOf setup.digester setup.options (withoutEnding line) ∧
      (session.line setup line).tally =
        session.tally + Tally.ofReading (readLine setup.digester (withoutEnding line)) := by
  rw [Session.line]
  cases shown? setup.digester setup.options (withoutEnding line) with
  | none => exact ⟨rfl, rfl⟩
  | some shown =>
    simp only [stats_write, tally_write, and_self]

private theorem lines_statsOf (setup : Setup) (line : List UInt8) :
    (statsOf setup.digester setup.options line).lines = 1 := by
  rw [statsOf]
  split
  · rfl
  · split <;> rfl

theorem HasCounted.line (h : HasCounted setup session lines) (line : List UInt8) :
    HasCounted setup (session.line setup line) (lines ++ [line]) := by
  obtain ⟨hstats, htally⟩ := counts_line setup session line
  refine ⟨?_, ?_⟩
  · rw [hstats, List.length_append, ← h.length]
    show session.stats.lines + (statsOf _ _ _).lines = _
    rw [lines_statsOf]
    rfl
  · rw [hstats, htally]
    exact h.balanced.line line

theorem Accounts.hold (h : Accounts setup session done rest) (hopen : session.ending = none)
    {tail : List UInt8} (hfeed : lineFeed ∉ tail) :
    Accounts setup (session.hold tail) done (rest ++ tail) := by
  obtain ⟨hheld, hrest, hcount⟩ := h.held hopen
  refine ⟨h.complete, ⟨h.counted.length, h.counted.balanced⟩, fun _ => ⟨?_, ?_, ?_⟩⟩
  · rw [Session.hold, hheld]
  · simp [hrest, hfeed]
  · simp only [Session.hold, List.length_append]
    omega

/-- The end of a line leaves it counted, whether or not it could be written. -/
theorem Accounts.finishLine (h : Accounts setup session done rest) (hopen : session.ending = none)
    {tail : List UInt8} (hfeed : lineFeed ∉ tail) :
    Accounts setup ((session.hold (tail ++ [lineFeed])).finishLine setup)
      (done ++ (rest ++ tail ++ [lineFeed])) [] := by
  obtain ⟨hheld, hrest, -⟩ := h.held hopen
  have hline : (session.hold (tail ++ [lineFeed])).held = rest ++ tail ++ [lineFeed] := by
    rw [Session.hold, hheld, List.append_assoc]
  have hnot : lineFeed ∉ rest ++ tail := by simp [hrest, hfeed]
  have hlines : linesOf (done ++ (rest ++ tail ++ [lineFeed])) =
      linesOf done ++ [rest ++ tail ++ [lineFeed]] := by
    rw [← linesOf_line hnot, ← h.complete, linesOf_completePart_append, h.complete]
  refine ⟨?_, ?_, fun _ => ⟨rfl, List.not_mem_nil, Nat.le_refl _⟩⟩
  · rw [← List.append_assoc]
    exact (parts_concat _).1
  · have hcounted : HasCounted setup (session.hold (tail ++ [lineFeed])) (linesOf done) :=
      ⟨h.counted.length, h.counted.balanced⟩
    rw [Session.finishLine, hline, hlines]
    have hafter := hcounted.line (rest ++ tail ++ [lineFeed])
    exact ⟨hafter.length, hafter.balanced⟩

theorem AccountsFor.of_ended (h : AccountsFor setup session input) (hended : session.ending.isSome)
    (more : List UInt8) : AccountsFor setup session (input ++ more) := by
  obtain ⟨done, rest, rfl, haccounts⟩ := h
  refine ⟨done, rest ++ more, (List.append_assoc _ _ _).symm, haccounts.complete,
    haccounts.counted, fun hopen => ?_⟩
  rw [hopen] at hended
  cases hended

theorem AccountsFor.takeBuffer (h : AccountsFor setup session input) (buffer : List UInt8) :
    AccountsFor setup (session.takeBuffer setup buffer) (input ++ buffer) := by
  fun_induction Session.takeBuffer setup session buffer generalizing input with
  | case1 session buffer hended => exact h.of_ended hended buffer
  | case2 session buffer hrunning front after hsplit hlt ih =>
    have hopen : session.ending = none := by simpa using hrunning
    obtain ⟨tail, rfl, hfeed, rfl⟩ := splitLine?_some hsplit
    obtain ⟨done, rest, rfl, haccounts⟩ := h
    have hfinish : AccountsFor setup ((session.hold (tail ++ [lineFeed])).finishLine setup)
        (done ++ rest ++ (tail ++ [lineFeed])) :=
      ⟨_, _, by simp, haccounts.finishLine hopen hfeed⟩
    rw [← List.append_assoc]
    exact ih hfinish
  | case3 session buffer hrunning hsplit =>
    have hopen : session.ending = none := by simpa using hrunning
    obtain ⟨done, rest, rfl, haccounts⟩ := h
    exact ⟨done, rest ++ buffer, (List.append_assoc _ _ _).symm,
      haccounts.hold hopen (splitLine?_none hsplit)⟩

theorem AccountsFor.takeBuffers (h : AccountsFor setup session input)
    (buffers : List (List UInt8)) :
    AccountsFor setup (buffers.foldl (Session.takeBuffer setup) session)
      (input ++ buffers.flatten) := by
  induction buffers generalizing session input with
  | nil =>
    rw [List.flatten_nil, List.append_nil]
    exact h
  | cons buffer rest ih =>
    rw [List.flatten_cons, ← List.append_assoc]
    exact ih (h.takeBuffer buffer)

theorem AccountsFor.end (h : AccountsFor setup session input) (ending : Ending) :
    AccountsFor setup { session with ending := some ending } input := by
  obtain ⟨done, rest, happend, haccounts⟩ := h
  exact ⟨done, rest, happend, haccounts.complete,
    ⟨haccounts.counted.length, haccounts.counted.balanced⟩, fun hopen => by cases hopen⟩

theorem AccountsFor.heed (h : AccountsFor setup session input) (channel : Channel) :
    AccountsFor setup (session.heed channel) input := by
  unfold Session.heed
  split
  · cases channel with
    | waiting => exact h
    | requested => exact h.end .shutdown
    | closed =>
      obtain ⟨done, rest, happend, haccounts⟩ := h
      refine ⟨done, rest, happend, haccounts.complete,
        ⟨haccounts.counted.length, haccounts.counted.balanced⟩, fun hopen => ?_⟩
      obtain ⟨hheld, hrest, -⟩ := haccounts.held hopen
      exact ⟨hheld, hrest, Nat.zero_le _⟩
  · exact h

/-- The bytes of arrivals that go through a reader's buffer: all of them, if it has any room. -/
def throughBuffer (capacity : Nat) (arrivals : List Arrival) : List UInt8 :=
  arrivals.flatMap fun arrival => (buffers capacity arrival.payload).flatten

theorem flatten_buffers (capacity : Nat) (chunk : List UInt8) :
    (buffers capacity chunk).flatten = if 0 < capacity then chunk else [] := by
  fun_induction buffers capacity chunk with
  | case1 chunk hsome ih =>
    rw [if_pos hsome.1] at ih ⊢
    rw [List.flatten_cons, ih, List.take_append_drop]
  | case2 chunk hnone =>
    split
    · next hcapacity =>
      by_contra hchunk
      exact hnone ⟨hcapacity, fun hnil => hchunk hnil.symm⟩
    · rfl

theorem AccountsFor.step (h : AccountsFor setup session input) (capacity : Nat)
    (arrival : Arrival) :
    AccountsFor setup (session.step setup capacity arrival)
      (input ++ (buffers capacity arrival.payload).flatten) := by
  unfold Session.step
  split
  · next hended => exact h.of_ended hended _
  · have hnone : AccountsFor setup session (input ++ (buffers capacity []).flatten) := by
      rw [flatten_buffers, ite_self, List.append_nil]
      exact h
    cases arrival with
    | bytes chunk => exact h.takeBuffers _
    | pending => exact hnone
    | shutdown => exact hnone.heed .requested
    | senderLost => exact hnone.heed .closed
    | failure => exact hnone.end _

theorem AccountsFor.steps (h : AccountsFor setup session input) (capacity : Nat)
    (arrivals : List Arrival) :
    AccountsFor setup (arrivals.foldl (Session.step setup capacity) session)
      (input ++ throughBuffer capacity arrivals) := by
  induction arrivals generalizing session input with
  | nil =>
    rw [throughBuffer, List.flatMap_nil, List.append_nil]
    exact h
  | cons arrival rest ih =>
    rw [throughBuffer, List.flatMap_cons, ← List.append_assoc]
    exact ih (h.step capacity arrival)

private theorem accountsFor_start (setup : Setup) (channel : Channel) (room : Option Nat) :
    AccountsFor setup (start channel room) [] := by
  have hfresh : AccountsFor setup { sink := { room } } [] :=
    ⟨[], [], rfl, rfl, ⟨rfl, balanced_nil setup⟩,
      fun _ => ⟨rfl, List.not_mem_nil, Nat.le_refl _⟩⟩
  exact hfresh.heed channel

/-! ## Runs -/

/-- At the end a session has dealt with the first lines of what it took. -/
theorem AccountsFor.close (h : AccountsFor setup session input) :
    ∃ lines, lines <+: linesOf input ∧ HasCounted setup (session.close setup) lines := by
  obtain ⟨done, rest, rfl, haccounts⟩ := h
  have hfirst : linesOf (done ++ rest) = linesOf done ++ linesOf rest := by
    rw [← haccounts.complete, linesOf_completePart_append, haccounts.complete]
  have hdone : ∃ lines, lines <+: linesOf (done ++ rest) ∧ HasCounted setup session lines := by
    refine ⟨linesOf done, ?_, haccounts.counted⟩
    rw [hfirst]
    exact List.prefix_append _ _
  unfold Session.close
  split
  · exact hdone
  · next hrunning =>
    have hopen : session.ending = none := by simpa using hrunning
    obtain ⟨hheld, hfeed, hcount⟩ := haccounts.held hopen
    split
    · obtain ⟨lines, hprefix, hcounted⟩ := hdone
      exact ⟨lines, hprefix, hcounted.length, hcounted.balanced⟩
    · next hsome =>
      have hrest : rest ≠ [] := by
        rintro rfl
        exact hsome (Nat.le_zero.1 hcount)
      have hlast := haccounts.counted.line rest
      refine ⟨linesOf done ++ [rest], ?_, ?_⟩
      · rw [hfirst, linesOf_of_not_mem hrest hfeed]
      · rw [Session.finishLine, hheld]
        exact ⟨hlast.length, hlast.balanced⟩

theorem HasCounted.flush (h : HasCounted setup session lines) (flushFails : Bool) :
    HasCounted setup (session.flush flushFails) lines := by
  unfold Session.flush
  split
  · exact h
  · split
    · exact ⟨h.length, h.balanced⟩
    · exact h

end Session

private theorem prefix_linesOf_throughBuffer (capacity : Nat) (arrivals : List Arrival) :
    linesOf (Session.throughBuffer capacity arrivals) <+: linesOf (payload arrivals) := by
  rw [Session.throughBuffer, payload]
  simp only [Session.flatten_buffers]
  by_cases hcapacity : 0 < capacity
  · simp [hcapacity]
  · have hnil : (arrivals.flatMap fun _ => ([] : List UInt8)) = [] :=
      List.flatMap_eq_nil_iff.2 fun _ _ => rfl
    simp only [if_neg hcapacity, hnil]
    exact List.nil_prefix

/-- However a run ends, it has dealt with the first lines of its input. -/
theorem run_hasCounted (setup : Setup) (channel : Channel) (room : Option Nat) (flushFails : Bool)
    (arrivals : List Arrival) (capacity : Nat) :
    ∃ lines, lines <+: linesOf (payload arrivals) ∧
      (run setup channel room flushFails arrivals capacity).HasCounted setup lines := by
  have hsteps := (Session.accountsFor_start setup channel room).steps capacity arrivals
  rw [List.nil_append] at hsteps
  obtain ⟨lines, hprefix, hcounted⟩ := hsteps.close
  exact ⟨lines, hprefix.trans (prefix_linesOf_throughBuffer capacity arrivals),
    hcounted.flush flushFails⟩

/-- However a run ends, its counts and counters are those of the first lines of its input: each line
has one fate, each blob one kind and each other line one reason, and the counters of digests follow
from the documents.  The lines are all that are due, unless a write failed for lack of room. -/
theorem run_balanced (setup : Setup) (channel : Channel) (room : Option Nat) (flushFails : Bool)
    (arrivals : List Arrival) (capacity : Nat) (hcapacity : 0 < capacity) :
    let session := run setup channel room flushFails arrivals capacity
    ∃ read, read <+: linesOf (payload arrivals) ∧ session.stats.lines = read.length ∧
      (session.ending ≠ some (.fault .write) → read = dueLines channel arrivals) ∧
      (room = none → session.ending ≠ some (.fault .write)) ∧
      Balanced setup (documentsOf setup read) session.stats session.tally := by
  intro session
  obtain ⟨read, hprefix, hcounted⟩ :=
    run_hasCounted setup channel room flushFails arrivals capacity
  refine ⟨read, hprefix, hcounted.length, ?_, ?_, hcounted.balanced⟩
  · intro hroomy
    -- Both are beginnings of the input's lines, and the run counts as many as are due.
    have hstats := stats_run_of_roomy setup channel room flushFails arrivals hcapacity hroomy
    have hlength : read.length = (dueLines channel arrivals).length := by
      rw [← hcounted.length, hstats]
      rfl
    rw [List.prefix_iff_eq_take.1 hprefix, hlength]
    exact (List.prefix_iff_eq_take.1 (dueLines_prefix_linesOf channel arrivals)).symm
  · rintro rfl
    exact (Session.limits_run setup channel 0 flushFails arrivals capacity).unlimited.ending

/-- Three lines in pieces, of which two hold blobs and one of these has the field; and one line
before a request in the middle of the second. -/
theorem run_balanced_pieces :
    let session := run ⟨⟨none, ["a"], {}⟩, {}⟩ .waiting none false
      [.bytes (bytesOf "\x7b\"a\": 1\x7d\n["), .pending, .bytes (bytesOf "]\r\nx")] 4
    let interrupted := run ⟨⟨none, ["a"], {}⟩, {}⟩ .waiting none false
      ([.bytes [97, 10, 98]] ++ .shutdown :: [.bytes [10]]) 4
    session.stats.lines = 3 ∧ session.stats.formatted = 2 ∧ session.stats.passedThrough = 1 ∧
      session.tally.blobs = 2 ∧ session.tally.placeholder = 1 ∧ session.tally.refused = 1 ∧
      interrupted.stats.lines = 1 := by
  generalize harrivals : [Arrival.bytes (bytesOf "\x7b\"a\": 1\x7d\n["), .pending,
    .bytes (bytesOf "]\r\nx")] = arrivals
  obtain ⟨read, -, hlines, hall, hroom, hbalanced⟩ :=
    run_balanced ⟨⟨none, ["a"], {}⟩, {}⟩ .waiting none false arrivals 4 (by decide)
  have hread : read = linesOf (payload arrivals) := by
    rw [hall (hroom rfl)]
    refine dueLines_of_quiet (by decide) ?_
    simp [← harrivals, Arrival.IsQuiet]
  obtain ⟨hcount, hdocuments, hothers⟩ : read.length = 3 ∧
      (documentsOf ⟨⟨none, ["a"], {}⟩, {}⟩ read).length = 2 ∧
      ((documentsOf ⟨⟨none, ["a"], {}⟩, {}⟩ read).countP fun doc => !doc.hasField ["a"]) = 1 := by
    rw [hread, ← harrivals]
    decide +kernel
  obtain ⟨hfates, hpassthrough, hformatted, hkinds, hrefusals, hdigests⟩ := hbalanced
  obtain ⟨-, -, -, hplaceholder⟩ := hdigests
  have hdropped : _ = 0 := hpassthrough
  refine ⟨by omega, by omega, by omega, by omega, hplaceholder.trans hothers, by omega, ?_⟩
  obtain ⟨first, -, hfirst, hall, hroom, -⟩ :=
    run_balanced ⟨⟨none, ["a"], {}⟩, {}⟩ .waiting none false
      ([.bytes [97, 10, 98]] ++ .shutdown :: [.bytes [10]]) 4 (by decide)
  rw [hfirst, hall (hroom rfl), dueLines_interrupted .shutdown (by simp [Arrival.IsQuiet])]
  decide +kernel

end Stream

end LogDigest
