import Provisioning.Proofs.Link.History
import Provisioning.Proofs.Link.RoundTrip

/-! # What is read depends on the stream alone

A source delivers a stream if it hands out the bytes of the stream, in whatever pieces and with
whatever waits in between, and from then on nothing. What a line or a frame is that is awaited in
front of such a source can be told from the stream: `Want.read` tells it, and what is left of the
stream, without a receiver or a source. This holds of any stream: where it breaks off, or announces
a frame that is too large, the call fails at the same place however the stream arrives, and the
next one goes on from there. `persist_of_awaits` says so for one call that is made until it comes
back, and `persistAll_eq_of_delivers` compares two deliveries of one stream over any sequence of
calls.
-/

namespace Provisioning

/-- The read finds the stream at its end. -/
def ReadStep.endsStream (step : ReadStep) : Bool :=
  match step.outcome with
  | .ok [] => true
  | _ => false

namespace Source

/-- The stream does not end before the script does, and then for good. -/
def isUnbroken (source : Source) : Bool := source.script.all (!·.endsStream)

/-- The source hands out this stream, in whatever pieces and with whatever waits, and then nothing
any more. -/
structure Delivers (stream : Bytes) (source : Source) : Prop where
  steady : source.isSteady = true
  unbroken : source.isUnbroken = true
  toCome : source.toCome = stream

theorem read_script_suffix (limit : Nat) (source : Source) :
    (source.read limit).2.script <:+ source.script := by
  unfold read
  split
  · exact List.suffix_refl _
  · split
    · rename_i step rest script
      rw [script]
      split <;> exact List.suffix_cons step rest
    · split <;> exact List.suffix_refl _

/-- Reading a source never gives its script new steps. -/
theorem Leads.script_suffix {before after : Source} (leads : before.Leads after) :
    after.script <:+ before.script := by
  induction leads with
  | refl => exact List.suffix_refl _
  | tail _ step ih =>
    cases step with
    | read => exact (read_script_suffix _ _).trans ih
    | outside => exact ih

theorem Leads.unbroken {before after : Source} (leads : before.Leads after)
    (unbroken : before.isUnbroken = true) : after.isUnbroken = true := by
  rw [isUnbroken, List.all_eq_true] at unbroken ⊢
  intro step member
  exact unbroken step (leads.script_suffix.subset member)

/-- An unbroken stream that has ended is at an end for good. -/
theorem Returns.exhausted {before after : Source} (returned : before.Returns (.ok []) after)
    (unbroken : before.isUnbroken = true) : after.isSteady = true ∧ after.toCome = [] := by
  obtain ⟨last, leads, reading⟩ := returned
  have kept := leads.unbroken unbroken
  -- Nothing comes back from a read only if nothing is pending and the script is at its end.
  have some : readChunkSize ≠ 0 := by decide
  unfold read at reading
  split at reading
  · rename_i byte bytes pending
    rw [pending] at reading
    simp [List.take_eq_nil_iff, some] at reading
  · rename_i empty
    split at reading
    · rename_i step rest script
      split at reading
      · cases reading
      · rename_i data outcome
        have ended : step.endsStream = true := by
          simp only [Prod.mk.injEq, Except.ok.injEq, List.take_eq_nil_iff, some, false_or]
            at reading
          rw [ReadStep.endsStream, outcome, reading.1]
        simp [isUnbroken, script, ended] at kept
    · rename_i script
      split at reading
      · rename_i closed
        cases reading
        exact ⟨by simp [isSteady, counted, script, scriptSteady, closed],
          by simp [toCome, counted, script, empty, scriptData]⟩
      · cases reading

end Source

namespace Receiver

/-- The receiver stands in front of a source that delivers the rest of this stream. -/
structure Awaits (maxPayload : Nat) (stream : Bytes) (receiver : Receiver) : Prop
    extends Faces maxPayload stream receiver where
  unbroken : receiver.source.isUnbroken = true

theorem Awaits.of_delivers {source : Source} {stream : Bytes} (delivers : source.Delivers stream)
    (maxPayload : Nat) : Awaits maxPayload stream { source, maxPayload } :=
  ⟨⟨delivers.steady, rfl, delivers.toCome⟩, delivers.unbroken⟩

/-! ## The end of a delivery

When the stream has ended, what could not be used of it is still in the buffer.
-/

private theorem fill_of_ended {receiver after : Receiver} (steady : receiver.source.isSteady = true)
    (unbroken : receiver.source.isUnbroken = true)
    (filled : receiver.fill = (.error .closed, after)) :
    after.Faces receiver.maxPayload receiver.stream := by
  unfold fill at filled
  split at filled
  · cases filled
  · rename_i source drawn
    cases filled
    obtain ⟨still, nothing⟩ := (Source.draw_returns drawn).exhausted unbroken
    refine ⟨still, rfl, ?_⟩
    cases Source.draw_of_steady (by decide) steady drawn with
    | ended none => rw [stream, stream, nothing, none]
  · cases filled

private theorem awaitLine_of_ended {receiver after : Receiver}
    (steady : receiver.source.isSteady = true)
    (unbroken : receiver.source.isUnbroken = true)
    (awaited : receiver.awaitLine = (.error .closed, after)) :
    after.Faces receiver.maxPayload receiver.stream := by
  fun_induction awaitLine receiver with
  | case1 => cases awaited
  | case2 receiver _ next fills ih =>
    cases fill_of_steady steady fills with
    | more leaves =>
      have kept : next.source.isUnbroken = true :=
        Source.Leads.unbroken (fill_history fills) unbroken
      have faces := ih leaves.steady kept awaited
      rwa [leaves.maxPayload, leaves.stream] at faces
  | case3 receiver _ error next fills =>
    cases awaited
    exact fill_of_ended steady unbroken fills

private theorem stepFrame_of_ended {receiver after : Receiver}
    (steady : receiver.source.isSteady = true)
    (unbroken : receiver.source.isUnbroken = true)
    (stepped : receiver.stepFrame = (.error .closed, after)) :
    after.Faces receiver.maxPayload receiver.stream := by
  have unrefused {other last : Receiver} : other.takeFrame ≠ (.error .closed, last) := by
    intro taken
    obtain ⟨size, max, refused⟩ := (takeFrame_history taken).2 _ rfl
    cases refused
  unfold stepFrame at stepped
  split at stepped
  · rename_i same taken
    cases takeFrame_none taken
    split at stepped
    · exact absurd stepped unrefused
    · rename_i error filled fills
      cases stepped
      exact fill_of_ended steady unbroken fills
  · exact absurd stepped unrefused

private theorem awaitFrame_of_ended {receiver after : Receiver}
    (steady : receiver.source.isSteady = true)
    (unbroken : receiver.source.isUnbroken = true)
    (awaited : receiver.awaitFrame = (.error .closed, after)) :
    after.Faces receiver.maxPayload receiver.stream := by
  fun_induction awaitFrame receiver with
  | case1 => cases awaited
  | case2 receiver next stepped ih =>
    cases stepFrame_of_steady steady stepped with
    | incomplete leaves =>
      have faces := ih leaves.steady ((stepFrame_leads stepped).unbroken unbroken) awaited
      rwa [leaves.maxPayload, leaves.stream] at faces
  | case3 receiver error next stepped =>
    cases awaited
    exact stepFrame_of_ended steady unbroken stepped

end Receiver

/-! ## Reading without a receiver -/

/-- What can be awaited. -/
inductive Want where
  | line
  | frame
  deriving DecidableEq, Repr

namespace Want

/-- The call that awaits it. -/
def call : Want → Receiver.Call
  | line => .line
  | frame => .frame

/-- What is read off a stream, and what is left of the stream. Where the stream breaks off before
the end of a line or a frame, nothing is taken off it. -/
def read (maxPayload : Nat) (stream : Bytes) : Want → Receiver.Reply × Bytes
  | line => match firstLine? stream with
    | some (text, rest) => (.line (.ok (.whole text)), rest)
    | none => (.line (.error .closed), stream)
  | frame => match Frame.decode maxPayload stream with
    | .frame found rest => (.frame (.ok found), rest)
    | .oversized size rest => (.frame (.error (.oversized size maxPayload)), rest)
    | .incomplete => (.frame (.error .closed), stream)

/-- What is read off a stream, one after the other, and what is left in the end. -/
def readAll (maxPayload : Nat) (stream : Bytes) : List Want → List Receiver.Reply × Bytes
  | [] => ([], stream)
  | want :: later =>
    let (reply, rest) := want.read maxPayload stream
    let (replies, last) := readAll maxPayload rest later
    (reply :: replies, last)

private theorem length_read_le (want : Want) (maxPayload : Nat) (stream : Bytes) :
    (want.read maxPayload stream).2.length ≤ stream.length := by
  cases want with
  | line =>
    rw [read]
    split
    · rename_i found
      exact Nat.le_of_lt (firstLine?_length_lt found)
    · exact Nat.le_refl _
  | frame =>
    rw [read]
    split
    · rename_i decoded
      rw [(Frame.decode_eq_frame_iff.mp decoded).2.2, List.length_append]
      exact Nat.le_add_left _ _
    · rename_i decoded
      rw [(Frame.decode_eq_oversized_iff.mp decoded).2.2, List.length_append]
      exact Nat.le_add_left _ _
    · exact Nat.le_refl _

/-- What is read is a result, and none of those after which the call is made again. -/
theorem isTimeout_read (want : Want) (maxPayload : Nat) (stream : Bytes) :
    (want.read maxPayload stream).1.isTimeout = false := by
  cases want with
  | line =>
    rw [read]
    split <;> rfl
  | frame =>
    rw [read]
    split <;> rfl

private theorem isTimeout_readAll (wants : List Want) (maxPayload : Nat) (stream : Bytes) :
    ∀ reply ∈ (readAll maxPayload stream wants).1, reply.isTimeout = false := by
  induction wants generalizing stream with
  | nil =>
    intro reply member
    cases member
  | cons want later ih =>
    intro reply member
    rcases List.mem_cons.mp member with rfl | other
    · exact isTimeout_read want maxPayload stream
    · exact ih _ reply other

end Want

namespace Receiver

variable {maxPayload : Nat} {stream rest : Bytes} {receiver after : Receiver}

theorem Awaits.of_leaves (awaits : receiver.Awaits maxPayload stream)
    (leaves : receiver.Leaves rest after) (leads : receiver.source.Leads after.source) :
    after.Awaits maxPayload rest :=
  ⟨awaits.maxPayload ▸ leaves.faces, leads.unbroken awaits.unbroken⟩

/-- At the end of the stream what could not be used is left. -/
theorem Awaits.of_ended (awaits : receiver.Awaits maxPayload stream)
    (faces : after.Faces receiver.maxPayload receiver.stream)
    (leads : receiver.source.Leads after.source) : after.Awaits maxPayload stream := by
  rw [awaits.maxPayload, awaits.stream] at faces
  exact ⟨faces, leads.unbroken awaits.unbroken⟩

theorem perform_leads (want : Want) (receiver : Receiver) :
    receiver.source.Leads (receiver.perform want.call).2.source := by
  cases want with
  | line => exact (@awaitLine_history receiver _ _ rfl).leads
  | frame => exact @awaitFrame_leads receiver _ _ rfl

/-- A call comes back with what can be read off the stream, or runs into a timeout. -/
theorem perform_of_awaits (want : Want) (awaits : receiver.Awaits maxPayload stream)
    (short : want = .line → firstRun stream < maxLineLength) :
    receiver.SteadyCall
      (fun reply after => reply = (want.read maxPayload stream).1 ∧
        after.Awaits maxPayload (want.read maxPayload stream).2)
      (receiver.perform want.call).1 (receiver.perform want.call).2 := by
  have leads := perform_leads want receiver
  have limit : receiver.maxPayload = maxPayload := awaits.maxPayload
  cases want with
  | line =>
    rcases awaited : receiver.awaitLine with ⟨result, next⟩
    have run : firstRun receiver.stream < maxLineLength := awaits.stream ▸ short rfl
    simp only [Want.call, perform, awaited, Prod.map, id] at leads ⊢
    cases awaitLine_of_steady awaits.steady run awaited with
    | line first leaves =>
      rw [awaits.stream] at first
      simp only [Want.read, first]
      exact .final rfl ⟨rfl, awaits.of_leaves leaves leads⟩
    | idle again leaves => exact .idle again leaves
    | ended none =>
      have ended := awaitLine_of_ended awaits.steady awaits.unbroken awaited
      rw [awaits.stream] at none
      simp only [Want.read, none]
      exact .final rfl ⟨rfl, awaits.of_ended ended leads⟩
  | frame =>
    rcases awaited : receiver.awaitFrame with ⟨result, next⟩
    have outcome := awaitFrame_of_steady awaits.steady awaited
    simp only [Want.call, perform, awaited, Prod.map, id] at leads ⊢
    cases result with
    | ok frame =>
      simp only [Except.map] at outcome
      cases outcome with
      | frame decoded leaves =>
        rw [limit, awaits.stream] at decoded
        simp only [Want.read, decoded]
        exact .final rfl ⟨rfl, awaits.of_leaves leaves leads⟩
    | error error =>
      simp only [Except.map] at outcome
      cases outcome with
      | oversized decoded leaves =>
        rw [limit, awaits.stream] at decoded
        simp only [Want.read, decoded, limit]
        exact .final rfl ⟨rfl, awaits.of_leaves leaves leads⟩
      | idle again leaves => exact .idle again leaves
      | ended decoded =>
        have ended := awaitFrame_of_ended awaits.steady awaits.unbroken awaited
        rw [limit, awaits.stream] at decoded
        simp only [Want.read, decoded]
        exact .final rfl ⟨rfl, awaits.of_ended ended leads⟩

/-- A call that is made until it comes back reads off the stream what can be read off it. -/
theorem persist_of_awaits (want : Want) (awaits : receiver.Awaits maxPayload stream)
    (short : want = .line → firstRun stream < maxLineLength) :
    (receiver.persist want.call).1 = (want.read maxPayload stream).1 ∧
      (receiver.persist want.call).2.Awaits maxPayload (want.read maxPayload stream).2 := by
  refine persist_of_retried (Awaits maxPayload stream)
    (fun reply after => reply = (want.read maxPayload stream).1 ∧
      after.Awaits maxPayload (want.read maxPayload stream).2) ?_ awaits
  intro receiver awaits reply after performed
  have called := perform_of_awaits want awaits short
  have leads := perform_leads want receiver
  rw [performed] at called leads
  cases called with
  | idle again leaves =>
    rw [awaits.stream] at leaves
    rw [if_pos again]
    exact ⟨awaits.of_leaves leaves leads, Source.isSilent_of_steady leaves.steady⟩
  | final last done =>
    rw [if_neg (Bool.eq_false_iff.mp last)]
    exact done

/-- Wherever a line is awaited, the text up to the next line feed, or up to the end, is not so long
that it would be cut. -/
def FindsShortLines (receiver : Receiver) : List Want → Prop
  | [] => True
  | want :: later =>
    (want = .line → firstRun receiver.stream < maxLineLength) ∧
      (receiver.persist want.call).2.FindsShortLines later

theorem FindsShortLines.of_length_lt {wants : List Want}
    (awaits : receiver.Awaits maxPayload stream) (short : stream.length < maxLineLength) :
    receiver.FindsShortLines wants := by
  induction wants generalizing receiver stream with
  | nil => trivial
  | cons want later ih =>
    have run : firstRun stream < maxLineLength :=
      Nat.lt_of_le_of_lt (List.takeWhile_prefix _).length_le short
    have next := (persist_of_awaits want awaits fun _ => run).2
    refine ⟨fun _ => awaits.stream ▸ run, ih next ?_⟩
    exact Nat.lt_of_le_of_lt (want.length_read_le maxPayload stream) short

private theorem persistAll_of_awaits {wants : List Want}
    (awaits : receiver.Awaits maxPayload stream)
    (short : receiver.FindsShortLines wants) :
    (receiver.persistAll (wants.map Want.call)).1 = (Want.readAll maxPayload stream wants).1 ∧
      (receiver.persistAll (wants.map Want.call)).2.Awaits maxPayload
        (Want.readAll maxPayload stream wants).2 := by
  induction wants generalizing receiver stream with
  | nil => exact ⟨rfl, awaits⟩
  | cons want later ih =>
    obtain ⟨run, others⟩ := short
    rw [awaits.stream] at run
    obtain ⟨same, next⟩ := persist_of_awaits want awaits run
    obtain ⟨all, last⟩ := ih next others
    refine ⟨?_, last⟩
    change _ :: _ = _ :: _
    rw [same]
    exact congrArg _ all

/-- Whether a line is found that is too long does not depend on how the stream arrives. -/
theorem FindsShortLines.of_awaits {wants : List Want} {other : Receiver}
    (short : receiver.FindsShortLines wants) (awaits : receiver.Awaits maxPayload stream)
    (others : other.Awaits maxPayload stream) : other.FindsShortLines wants := by
  induction wants generalizing receiver other stream with
  | nil => trivial
  | cons want later ih =>
    obtain ⟨run, further⟩ := short
    rw [awaits.stream] at run
    refine ⟨others.stream ▸ run, ?_⟩
    exact ih further (persist_of_awaits want awaits run).2 (persist_of_awaits want others run).2

/-- Two sources that deliver one stream are read alike. However each of them cuts the stream and
keeps its reader waiting, the same calls, each made until it comes back, come back with the same,
and with what is told by the stream alone; and the same bytes are left to be read. -/
theorem persistAll_eq_of_delivers (maxPayload : Nat) (wants : List Want) (stream : Bytes)
    (first second : Source) (once : first.Delivers stream) (again : second.Delivers stream)
    (short : FindsShortLines { source := first, maxPayload } wants) :
    let (replies, last) := persistAll { source := first, maxPayload } (wants.map Want.call)
    let (others, final) := persistAll { source := second, maxPayload } (wants.map Want.call)
    replies = others ∧ last.stream = final.stream ∧
      replies = (Want.readAll maxPayload stream wants).1 ∧
        ∀ reply ∈ replies, reply.isTimeout = false := by
  have awaits := Awaits.of_delivers once maxPayload
  have others := Awaits.of_delivers again maxPayload
  obtain ⟨same, last⟩ := persistAll_of_awaits awaits short
  obtain ⟨alike, final⟩ := persistAll_of_awaits others (short.of_awaits awaits others)
  refine ⟨same.trans alike.symm, last.stream.trans final.stream.symm, same, ?_⟩
  rw [same]
  exact Want.isTimeout_readAll wants maxPayload stream

/-- A line, a length that is too large, another line and the beginning of a frame. -/
def brokenStream : Bytes :=
  Bytes.ofText "MFG:ekcert\r\n" ++ Bytes.ofWord 9 ++ Bytes.ofText "x\n" ++ [3, 0, 0, 0, 7]

/-- A source that brings `brokenStream` in reads that end before the first line feed, inside the
length and inside the frame, and that fails in between, but not for good. -/
def brokenSource : Source where
  script := [{ outcome := .ok (brokenStream.take 11) },
    { outcome := .error (.ofKind .timedOut) },
    { outcome := .ok ((brokenStream.drop 11).take 3) },
    { outcome := .error (.ofKind .interrupted) },
    { outcome := .ok ((brokenStream.drop 14).take 6) },
    { outcome := .error (.ofKind .wouldBlock) },
    { outcome := .ok (brokenStream.drop 20) }]

theorem persistAll_eq_of_delivers_brokenStream :
    let wants : List Want := [.line, .frame, .line, .frame, .line]
    let (replies, last) := persistAll { source := { pending := brokenStream }, maxPayload := 4 }
      (wants.map Want.call)
    let (others, final) := persistAll { source := brokenSource, maxPayload := 4 }
      (wants.map Want.call)
    replies = others ∧ last.stream = final.stream ∧
      replies = [.line (.ok (.whole (Bytes.ofText "MFG:ekcert"))),
        .frame (.error (.oversized 9 4)), .line (.ok (.whole (Bytes.ofText "x"))),
        .frame (.error .closed), .line (.error .closed)] ∧
      ∀ reply ∈ replies, reply.isTimeout = false := by
  have once : Source.Delivers brokenStream { pending := brokenStream } :=
    ⟨by decide, by decide, by decide⟩
  have again : Source.Delivers brokenStream brokenSource := ⟨by decide, by decide, by decide⟩
  exact persistAll_eq_of_delivers 4 [.line, .frame, .line, .frame, .line] brokenStream _ _ once
    again (.of_length_lt (.of_delivers once 4) (by decide))

end Receiver

end Provisioning
