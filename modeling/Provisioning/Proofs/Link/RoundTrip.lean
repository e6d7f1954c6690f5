import Provisioning.Proofs.Link.Accounting
import Provisioning.Proofs.Link.Stream
import Provisioning.Proofs.Link.Willing

/-! # What was sent is received

Payloads and lines in any order are sent to a willing sink, which takes them in pieces of its own
choosing. A steady source brings what the sink has taken, in pieces of its choosing and with waits
anywhere. If the receiving side then calls for what was sent, item by item, and makes a call again
as long as it runs into a timeout, it gets the items back and finds the end of the stream behind
them: `persistAll_sendAll`. Nothing is assumed of the bytes of a payload, which may look like lines,
nor of those of a line, but that it has no line feed and is not so long that it would be cut.
-/

namespace Provisioning

namespace Receiver

/-- The call has run into a timeout. -/
def Reply.isTimeout : Reply → Bool
  | line (.error error) => error.isTimeout
  | frame (.error error) => error.isTimeout
  | step (.error error) => error.isTimeout
  | _ => false

private theorem awaitLine_lighter {receiver after : Receiver} {error : FrameError}
    (awaited : receiver.awaitLine = (.error error, after)) (timeout : error.isTimeout = true) :
    after.source.weight < receiver.source.weight ∨ after.isSilent = true := by
  fun_induction awaitLine receiver with
  | case1 => cases awaited
  | case2 receiver _ next fills ih =>
    rcases ih awaited with lighter | silent
    · exact .inl (Nat.lt_trans lighter (fill_ok fills).1)
    · exact .inr silent
  | case3 receiver _ error next fills =>
    cases awaited
    rcases (fill_timeout fills timeout).2.2 with lighter | ⟨_, _, silent, _⟩
    · exact .inl lighter
    · exact .inr silent

private theorem awaitFrame_lighter {receiver after : Receiver} {error : FrameError}
    (awaited : receiver.awaitFrame = (.error error, after)) (timeout : error.isTimeout = true) :
    after.source.weight < receiver.source.weight ∨ after.isSilent = true := by
  fun_induction awaitFrame receiver with
  | case1 => cases awaited
  | case2 receiver next stepped ih =>
    rcases ih awaited with lighter | silent
    · exact .inl (Nat.lt_trans lighter (stepFrame_none stepped))
    · exact .inr silent
  | case3 receiver error next stepped =>
    cases awaited
    rcases stepFrame_timeout stepped timeout with lighter | ⟨_, _, silent, _⟩
    · exact .inl lighter
    · exact .inr silent

/-- After a timeout there is less to come, or nothing but timeouts. -/
theorem perform_lighter {call : Call} {receiver after : Receiver} {reply : Reply}
    (performed : receiver.perform call = (reply, after)) (timeout : reply.isTimeout = true) :
    after.source.weight < receiver.source.weight ∨ after.isSilent = true := by
  cases call with
  | line =>
    rcases awaited : receiver.awaitLine with ⟨result, next⟩
    simp only [perform, awaited] at performed
    cases performed
    cases result with
    | ok line => cases timeout
    | error error => exact awaitLine_lighter awaited timeout
  | frame =>
    rcases awaited : receiver.awaitFrame with ⟨result, next⟩
    simp only [perform, awaited] at performed
    cases performed
    cases result with
    | ok frame => cases timeout
    | error error => exact awaitFrame_lighter awaited timeout
  | step =>
    rcases stepped : receiver.stepFrame with ⟨result, next⟩
    simp only [perform, stepped] at performed
    cases performed
    cases result with
    | ok frame => cases timeout
    | error error =>
      rcases stepFrame_timeout stepped timeout with lighter | ⟨_, _, silent, _⟩
      · exact .inl lighter
      · exact .inr silent
  | discard =>
    cases performed
    cases timeout

/-- Make a call, and make it again as long as it runs into a timeout, unless nothing but timeouts
will come. -/
def persist (call : Call) (receiver : Receiver) : Reply × Receiver :=
  match performed : receiver.perform call with
  | (reply, after) =>
    if again : reply.isTimeout = true ∧ after.isSilent = false then after.persist call
    else (reply, after)
termination_by receiver.source.weight
decreasing_by
  rcases perform_lighter performed again.1 with lighter | silent
  · exact lighter
  · rw [again.2] at silent
    cases silent

/-- The replies to a sequence of calls that are made again until they come back, and where they
leave the receiver. -/
def persistAll (receiver : Receiver) : List Call → List Reply × Receiver
  | [] => ([], receiver)
  | call :: rest =>
    let (reply, next) := receiver.persist call
    let (replies, last) := next.persistAll rest
    (reply :: replies, last)

end Receiver

/-- What is sent in one go. -/
inductive Item where
  /-- A payload, in a frame. -/
  | payload (bytes : Bytes)
  /-- A line. -/
  | line (text : Bytes)
  deriving DecidableEq, Repr

namespace Item

/-- The item as it travels. -/
def wire : Item → Bytes
  | payload bytes => (Frame.ofPayload bytes).wire
  | line text => text ++ [carriageReturn, lineFeed]

/-- The payload is not refused for its length, and the line is one line and not cut. -/
def isAdmissible (maxPayload : Nat) : Item → Bool
  | payload bytes => bytes.length ≤ maxPayload && bytes.length ≤ maxDeclaredLength
  | line text => !text.contains lineFeed && text.length < maxLineLength - 1

def send (item : Item) (transmitter : Transmitter) : Except FrameError Unit × Transmitter :=
  match item with
  | payload bytes => transmitter.send bytes
  | line text => transmitter.sendRaw (text ++ [carriageReturn, lineFeed])

/-- The call that the item is received with. -/
def call : Item → Receiver.Call
  | payload _ => .frame
  | line _ => .line

/-- The reply is the item, and a frame has the checksum that it declares. -/
inductive Arrives : Item → Receiver.Reply → Prop where
  | payload {frame : Frame} (verified : frame.verified = true) :
      Arrives (.payload frame.payload) (.frame (.ok frame))
  | line (text : Bytes) : Arrives (.line text) (.line (.ok (.whole text)))

end Item

/-- Send items until one cannot be sent. -/
def Transmitter.sendAll (transmitter : Transmitter) :
    List Item → Except FrameError Unit × Transmitter
  | [] => (.ok (), transmitter)
  | item :: rest => match item.send transmitter with
    | (.ok (), next) => next.sendAll rest
    | (.error error, next) => (.error error, next)

/-! ## Sending -/

private theorem Item.send_of_willing {item : Item} {transmitter : Transmitter}
    (admissible : item.isAdmissible transmitter.maxPayload = true)
    (willing : transmitter.sink.isWilling = true) :
    ∃ after, item.send transmitter = (.ok (), after) ∧ transmitter.Sends item.wire after := by
  cases item with
  | payload bytes =>
    simp only [isAdmissible, Bool.and_eq_true, decide_eq_true_eq] at admissible
    have encoded := Frame.encodeWithin_eq_ok_iff.mpr ⟨admissible.1, admissible.2, rfl⟩
    obtain ⟨after, sent, sends⟩ := @Transmitter.sendRaw_of_willing (Frame.ofPayload bytes).wire
      { transmitter with buffer := (Frame.ofPayload bytes).wire } willing
    refine ⟨after, ?_, sends.takes, sends.maxPayload⟩
    rw [send, Transmitter.send_of_encoded encoded]
    exact sent
  | line text => exact Transmitter.sendRaw_of_willing _ willing

private theorem Transmitter.sendAll_of_willing {items : List Item} {transmitter : Transmitter}
    (admissible : ∀ item ∈ items, item.isAdmissible transmitter.maxPayload = true)
    (willing : transmitter.sink.isWilling = true) :
    ∃ after, transmitter.sendAll items = (.ok (), after) ∧
      transmitter.Sends (items.flatMap Item.wire) after := by
  induction items generalizing transmitter with
  | nil => exact ⟨transmitter, rfl, ⟨willing, (List.append_nil _).symm⟩, rfl⟩
  | cons item rest ih =>
    obtain ⟨next, sent, sends⟩ :=
      Item.send_of_willing (admissible item List.mem_cons_self) willing
    rw [← sends.maxPayload] at admissible
    obtain ⟨after, later, all⟩ :=
      ih (fun other member => admissible other (List.mem_cons_of_mem _ member)) sends.takes.willing
    refine ⟨after, ?_, ?_⟩
    · rw [sendAll, sent]
      exact later
    · exact ⟨sends.takes.trans all.takes, all.maxPayload.trans sends.maxPayload⟩

/-! ## Receiving -/

/-- A line that was sent is the first of the stream that it is at the front of. -/
theorem firstLine?_wire {text : Bytes} (oneLine : lineFeed ∉ text) (rest : Bytes) :
    firstLine? ((Item.line text).wire ++ rest) = some (text, rest) ∧
      firstRun ((Item.line text).wire ++ rest) = text.length + 1 := by
  have front : (Item.line text).wire ++ rest = (text ++ [carriageReturn]) ++ lineFeed :: rest := by
    simp [Item.wire]
  have plain : ∀ byte ∈ text ++ [carriageReturn], (byte != lineFeed) = true := by
    intro byte member
    rw [bne_iff_ne]
    rintro rfl
    rcases List.mem_append.mp member with inside | last
    · exact oneLine inside
    · exact absurd last (by decide)
  have run : ((text ++ [carriageReturn]) ++ lineFeed :: rest).takeWhile (· != lineFeed) =
      text ++ [carriageReturn] := by
    rw [List.takeWhile_append_of_pos plain]
    simp
  have behind : ((text ++ [carriageReturn]) ++ lineFeed :: rest).dropWhile (· != lineFeed) =
      lineFeed :: rest := by
    rw [List.dropWhile_append_of_pos plain]
    simp
  rw [front, firstLine?, firstRun, run, behind]
  simp [stripReturn]

namespace Receiver

/-- The receiver stands in front of a steady source, with this stream before it. -/
structure Faces (maxPayload : Nat) (stream : Bytes) (receiver : Receiver) : Prop where
  steady : receiver.source.isSteady = true
  maxPayload : receiver.maxPayload = maxPayload
  stream : receiver.stream = stream

theorem Leaves.faces {before after : Receiver} {rest : Bytes} (leaves : before.Leaves rest after) :
    after.Faces before.maxPayload rest :=
  ⟨leaves.steady, leaves.maxPayload, leaves.stream⟩

/-- How a call comes out in front of a steady source: there is nothing for the time being, and the
stream is left as it was, or this is what comes of it. -/
inductive SteadyCall (before : Receiver) (outcome : Reply → Receiver → Prop) :
    Reply → Receiver → Prop where
  | idle {reply : Reply} {after : Receiver} (again : reply.isTimeout = true)
      (leaves : before.Leaves before.stream after) : SteadyCall before outcome reply after
  | final {reply : Reply} {after : Receiver} (last : reply.isTimeout = false)
      (done : outcome reply after) : SteadyCall before outcome reply after

/-- A call that is made until it comes back comes back with what a single call comes back with, if a
timeout leaves the receiver standing as it stood before. -/
theorem persist_of_retried (stands : Receiver → Prop) (outcome : Reply → Receiver → Prop)
    {call : Call}
    (once : ∀ receiver, stands receiver → ∀ reply after, receiver.perform call = (reply, after) →
      if reply.isTimeout then stands after ∧ after.isSilent = false else outcome reply after)
    {receiver : Receiver} (begun : stands receiver) :
    outcome (receiver.persist call).1 (receiver.persist call).2 := by
  fun_induction persist call receiver with
  | case1 receiver reply after performed again ih =>
    have called := once receiver begun reply after performed
    rw [if_pos again.1] at called
    exact ih called.1
  | case2 receiver reply after performed final =>
    have called := once receiver begun reply after performed
    split at called
    · rename_i timeout
      exact absurd ⟨timeout, called.2⟩ final
    · exact called

/-- A call that is made again in front of a steady source comes back with what a single call comes
back with that does not run into a timeout. -/
theorem persist_of_steady (outcome : Reply → Receiver → Prop) {call : Call} {stream : Bytes}
    {maxPayload : Nat}
    (once : ∀ receiver, Faces maxPayload stream receiver →
      receiver.SteadyCall outcome (receiver.perform call).1 (receiver.perform call).2)
    {receiver : Receiver} (faces : receiver.Faces maxPayload stream) :
    outcome (receiver.persist call).1 (receiver.persist call).2 := by
  refine persist_of_retried (Faces maxPayload stream) outcome ?_ faces
  intro receiver faces reply after performed
  have called := once receiver faces
  rw [performed] at called
  cases called with
  | idle again leaves =>
    have still := leaves.faces
    rw [faces.maxPayload, faces.stream] at still
    rw [if_pos again]
    exact ⟨still, Source.isSilent_of_steady leaves.steady⟩
  | final last done =>
    rw [if_neg (Bool.eq_false_iff.mp last)]
    exact done

/-- A payload at the front of the stream arrives. -/
theorem perform_payload {bytes rest : Bytes} {receiver : Receiver}
    (steady : receiver.source.isSteady = true)
    (decoded : Frame.decode receiver.maxPayload receiver.stream =
      .frame (Frame.ofPayload bytes) rest) :
    receiver.SteadyCall
      (fun reply after => (Item.payload bytes).Arrives reply ∧ after.Faces receiver.maxPayload rest)
      (receiver.perform .frame).1 (receiver.perform .frame).2 := by
  rcases awaited : receiver.awaitFrame with ⟨result, after⟩
  have outcome := awaitFrame_of_steady steady awaited
  simp only [perform, awaited, Prod.map]
  cases result with
  | ok frame =>
    simp only [Except.map] at outcome
    cases outcome with
    | frame found leaves =>
      rw [decoded] at found
      cases found
      exact .final rfl ⟨@Item.Arrives.payload (.ofPayload bytes) (beq_self_eq_true _), leaves.faces⟩
  | error error =>
    simp only [Except.map] at outcome
    cases outcome with
    | oversized found _ =>
      rw [decoded] at found
      cases found
    | idle again leaves => exact .idle again leaves
    | ended found =>
      rw [decoded] at found
      cases found

/-- A line at the front of the stream arrives. -/
theorem perform_line {text rest : Bytes} {receiver : Receiver}
    (steady : receiver.source.isSteady = true)
    (short : firstRun receiver.stream < maxLineLength)
    (first : firstLine? receiver.stream = some (text, rest)) :
    receiver.SteadyCall
      (fun reply after => (Item.line text).Arrives reply ∧ after.Faces receiver.maxPayload rest)
      (receiver.perform .line).1 (receiver.perform .line).2 := by
  rcases awaited : receiver.awaitLine with ⟨result, after⟩
  have outcome := awaitLine_of_steady steady short awaited
  simp only [perform, awaited, Prod.map]
  cases outcome with
  | line found leaves =>
    rw [first] at found
    cases found
    exact .final rfl ⟨.line text, leaves.faces⟩
  | idle again leaves => exact .idle again leaves
  | ended none =>
    rw [first] at none
    cases none

/-- An item at the front of the stream arrives once its call is made often enough. -/
theorem persist_item {item : Item} {maxPayload : Nat} {rest : Bytes} {receiver : Receiver}
    (admissible : item.isAdmissible maxPayload = true)
    (faces : receiver.Faces maxPayload (item.wire ++ rest)) :
    item.Arrives (receiver.persist item.call).1 ∧
      (receiver.persist item.call).2.Faces maxPayload rest := by
  refine persist_of_steady
    (fun reply after => item.Arrives reply ∧ after.Faces maxPayload rest) ?_ faces
  rintro receiver ⟨steady, rfl, front⟩
  cases item with
  | payload bytes =>
    simp only [Item.isAdmissible, Bool.and_eq_true, decide_eq_true_eq] at admissible
    refine perform_payload steady ?_
    rw [front]
    exact Frame.decode_wire rest admissible.1 admissible.2
  | line text =>
    simp only [Item.isAdmissible, Bool.and_eq_true, Bool.not_eq_true', List.contains_eq_mem,
      decide_eq_true_eq, decide_eq_false_iff_not] at admissible
    obtain ⟨first, run⟩ := firstLine?_wire admissible.1 rest
    rw [← front] at first run
    exact perform_line steady (by omega) first

theorem persistAll_items {items : List Item} {maxPayload : Nat} {receiver : Receiver}
    (admissible : ∀ item ∈ items, item.isAdmissible maxPayload = true)
    (faces : receiver.Faces maxPayload (items.flatMap Item.wire)) :
    List.Forall₂ Item.Arrives items (receiver.persistAll (items.map Item.call)).1 ∧
      (receiver.persistAll (items.map Item.call)).2.Faces maxPayload [] := by
  induction items generalizing receiver with
  | nil => exact ⟨.nil, faces⟩
  | cons item rest ih =>
    rw [List.flatMap_cons] at faces
    obtain ⟨arrives, left⟩ := persist_item (admissible item List.mem_cons_self) faces
    obtain ⟨others, last⟩ :=
      ih (fun other member => admissible other (List.mem_cons_of_mem _ member)) left
    exact ⟨.cons arrives others, last⟩

/-! ## The end of the stream -/

theorem Faces.buffer_eq_nil {maxPayload : Nat} {receiver : Receiver}
    (faces : receiver.Faces maxPayload []) : receiver.buffer = [] :=
  (List.append_eq_nil_iff.mp faces.stream).1

/-- Nothing is left to be read. -/
theorem fill_of_exhausted {maxPayload : Nat} {receiver after : Receiver}
    {result : Except FrameError Unit} (faces : receiver.Faces maxPayload [])
    (filled : receiver.fill = (result, after)) :
    ∃ error, result = .error error ∧ after.buffer = [] := by
  have buffer := faces.buffer_eq_nil
  have toCome : receiver.source.toCome = [] := (List.append_eq_nil_iff.mp faces.stream).2
  unfold fill at filled
  split at filled
  · cases filled
    exact ⟨_, rfl, buffer⟩
  · cases filled
    exact ⟨_, rfl, buffer⟩
  · rename_i byte bytes source drawn
    cases Source.draw_of_steady (by decide) faces.steady drawn with
    | data next _ =>
      rw [toCome] at next
      cases next

private theorem awaitLine_of_exhausted {maxPayload : Nat} {receiver after : Receiver}
    {result : Except FrameError Line} (faces : receiver.Faces maxPayload [])
    (awaited : receiver.awaitLine = (result, after)) : after.buffer = [] := by
  have uncut : cutLine? receiver.buffer = none := by
    rw [faces.buffer_eq_nil]
    rfl
  rw [awaitLine] at awaited
  split at awaited
  · rename_i cut
    rw [uncut] at cut
    cases cut
  · split at awaited
    · rename_i filled
      obtain ⟨error, failed, _⟩ := fill_of_exhausted faces filled
      cases failed
    · rename_i filled
      obtain ⟨_, _, buffer⟩ := fill_of_exhausted faces filled
      cases awaited
      exact buffer

private theorem stepFrame_of_exhausted {maxPayload : Nat} {receiver after : Receiver}
    {result : Except FrameError (Option Frame)} (faces : receiver.Faces maxPayload [])
    (stepped : receiver.stepFrame = (result, after)) :
    ∃ error, result = .error error ∧ after.buffer = [] := by
  have untaken : receiver.takeFrame = (.ok none, receiver) := by
    rw [takeFrame, faces.buffer_eq_nil]
    rfl
  rw [stepFrame, untaken] at stepped
  simp only at stepped
  split at stepped
  · rename_i filled
    obtain ⟨error, failed, _⟩ := fill_of_exhausted faces filled
    cases failed
  · rename_i filled
    obtain ⟨_, _, buffer⟩ := fill_of_exhausted faces filled
    cases stepped
    exact ⟨_, rfl, buffer⟩

private theorem awaitFrame_of_exhausted {maxPayload : Nat} {receiver after : Receiver}
    {result : Except FrameError Frame} (faces : receiver.Faces maxPayload [])
    (awaited : receiver.awaitFrame = (result, after)) : after.buffer = [] := by
  rw [awaitFrame] at awaited
  split at awaited
  · rename_i stepped
    obtain ⟨error, failed, _⟩ := stepFrame_of_exhausted faces stepped
    cases failed
  · rename_i stepped
    obtain ⟨error, failed, _⟩ := stepFrame_of_exhausted faces stepped
    cases failed
  · rename_i stepped
    obtain ⟨_, _, buffer⟩ := stepFrame_of_exhausted faces stepped
    cases awaited
    exact buffer

/-- Behind the last item a line is awaited in vain. -/
theorem persist_line_of_exhausted {maxPayload : Nat} {receiver : Receiver}
    (faces : receiver.Faces maxPayload []) :
    (receiver.persist .line).1 = .line (.error .closed) ∧
      (receiver.persist .line).2.buffer = [] := by
  refine persist_of_steady (fun reply after => reply = .line (.error .closed) ∧ after.buffer = [])
    ?_ faces
  intro receiver faces
  rcases awaited : receiver.awaitLine with ⟨result, after⟩
  have short : firstRun receiver.stream < maxLineLength := by
    rw [faces.stream]
    decide
  have buffer := awaitLine_of_exhausted faces awaited
  simp only [perform, awaited, Prod.map]
  cases awaitLine_of_steady faces.steady short awaited with
  | line first _ =>
    rw [faces.stream] at first
    cases first
  | idle again leaves => exact .idle again leaves
  | ended _ => exact .final rfl ⟨rfl, buffer⟩

/-- And so is a frame. -/
theorem persist_frame_of_exhausted {maxPayload : Nat} {receiver : Receiver}
    (faces : receiver.Faces maxPayload []) :
    (receiver.persist .frame).1 = .frame (.error .closed) ∧
      (receiver.persist .frame).2.buffer = [] := by
  refine persist_of_steady (fun reply after => reply = .frame (.error .closed) ∧ after.buffer = [])
    ?_ faces
  intro receiver faces
  rcases awaited : receiver.awaitFrame with ⟨result, after⟩
  have buffer := awaitFrame_of_exhausted faces awaited
  have outcome := awaitFrame_of_steady faces.steady awaited
  have incomplete : Frame.decode receiver.maxPayload receiver.stream = .incomplete := by
    rw [faces.stream]
    rfl
  simp only [perform, awaited, Prod.map]
  cases result with
  | ok frame =>
    simp only [Except.map] at outcome
    cases outcome with
    | frame found _ =>
      rw [incomplete] at found
      cases found
  | error error =>
    simp only [Except.map] at outcome
    cases outcome with
    | oversized found _ =>
      rw [incomplete] at found
      cases found
    | idle again leaves => exact .idle again leaves
    | ended _ => exact .final rfl ⟨rfl, buffer⟩

end Receiver

/-- What a willing sink was sent, item by item, and a steady source brings, is received item by
item. Behind the last item the stream ends and nothing is left over. -/
theorem persistAll_sendAll (maxPayload : Nat) (items : List Item) (sink : Sink) (source : Source)
    (admissible : ∀ item ∈ items, item.isAdmissible maxPayload = true)
    (willing : sink.isWilling = true) (steady : source.isSteady = true)
    (brought : sink.written ++ source.toCome =
      (Transmitter.sendAll { sink, maxPayload } items).2.sink.written) :
    (Transmitter.sendAll { sink, maxPayload } items).1 = .ok () ∧
      let (replies, last) := Receiver.persistAll { source, maxPayload } (items.map Item.call)
      List.Forall₂ Item.Arrives items replies ∧ last.buffer = [] ∧
        ((last.persist .line).1 = .line (.error .closed) ∧
          (last.persist .line).2.buffer = []) ∧
        (last.persist .frame).1 = .frame (.error .closed) ∧
          (last.persist .frame).2.buffer = [] := by
  obtain ⟨after, sent, sends⟩ :=
    @Transmitter.sendAll_of_willing items { sink, maxPayload } admissible willing
  rw [sent, sends.takes.written] at brought
  have stream : source.toCome = items.flatMap Item.wire := List.append_cancel_left brought
  obtain ⟨arrive, last⟩ := @Receiver.persistAll_items items maxPayload { source, maxPayload }
    admissible ⟨steady, rfl, stream⟩
  refine ⟨by rw [sent], arrive, last.buffer_eq_nil, ?_, ?_⟩
  · exact Receiver.persist_line_of_exhausted last
  · exact Receiver.persist_frame_of_exhausted last

/-- A line that looks like the length of a frame and has a carriage return of its own, between two
payloads that look like lines. -/
def lookalikes : List Item :=
  [.payload (Bytes.ofText "MFG:finish\r\n"), .line [2, 0, 0, 0, carriageReturn],
    .payload [lineFeed]]

/-- A sink that takes a few bytes at a time and fails in between, but not for good. -/
def haltingSink : Sink where
  writes := [.take 3, .fail (.ofKind .interrupted), .take 1, .fail (.ofKind .wouldBlock), .take 9]
  flushes := [none, some (.ofKind .wouldBlock), some (.ofKind .interrupted)]

/-- A source that brings `lookalikes` in reads that end inside the first length, inside the first
checksum and inside the line ending, and that fails in between, but not for good. -/
def haltingSource : Source where
  script :=
    let sent := lookalikes.flatMap Item.wire
    [{ outcome := .ok (sent.take 2) },
      { outcome := .error (.ofKind .timedOut) },
      { outcome := .ok ((sent.drop 2).take 15) },
      { outcome := .error (.ofKind .interrupted) },
      { outcome := .ok ((sent.drop 17).take 9) },
      { outcome := .error (.ofKind .wouldBlock) },
      { outcome := .ok (sent.drop 26) }]

theorem persistAll_sendAll_lookalikes :
    (Transmitter.sendAll { sink := haltingSink, maxPayload := 16 } lookalikes).1 = .ok () ∧
      let (replies, last) := Receiver.persistAll { source := haltingSource, maxPayload := 16 }
        (lookalikes.map Item.call)
      List.Forall₂ Item.Arrives lookalikes replies ∧ last.buffer = [] ∧
        ((last.persist .line).1 = .line (.error .closed) ∧
          (last.persist .line).2.buffer = []) ∧
        (last.persist .frame).1 = .frame (.error .closed) ∧
          (last.persist .frame).2.buffer = [] := by
  have admissible : ∀ item ∈ lookalikes, item.isAdmissible 16 = true := by decide
  have willing : haltingSink.isWilling = true := by decide
  have toCome : haltingSource.toCome = lookalikes.flatMap Item.wire := by decide
  refine persistAll_sendAll 16 lookalikes haltingSink haltingSource admissible willing
    (by decide) ?_
  obtain ⟨after, sent, sends⟩ :=
    @Transmitter.sendAll_of_willing lookalikes { sink := haltingSink, maxPayload := 16 }
      admissible willing
  rw [sent, sends.takes.written, toCome]

end Provisioning
