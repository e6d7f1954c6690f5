import Provisioning.Proofs.Capture
import Provisioning.Proofs.Link.Reading

/-! # A line read to its end and a capture of it

A receiver is drained when frames are awaited until one does not come. In front of a source that
never keeps it waiting it finds what a survey of the same bytes finds: `drain_eq_survey` compares
the frames, why there is not another one, and how many bytes are left over.
-/

namespace Provisioning

namespace Source

/-- No read fails, and the stream ends in the end. -/
def isPrompt (source : Source) : Bool :=
  source.tail == .closed && source.script.all (·.outcome.isOk)

private theorem read_of_prompt {limit : Nat} {source after : Source} {result : Except IoError Bytes}
    (prompt : source.isPrompt = true) (reading : source.read limit = (result, after)) :
    (∃ bytes, result = .ok bytes) ∧ after.isPrompt = true := by
  unfold read at reading
  split at reading
  · cases reading
    exact ⟨⟨_, rfl⟩, prompt⟩
  · split at reading
    · rename_i step rest script
      simp only [isPrompt, script, List.all_cons, Bool.and_eq_true] at prompt
      obtain ⟨closed, arrives, others⟩ := prompt
      split at reading
      · rename_i error outcome
        rw [outcome] at arrives
        cases arrives
      · cases reading
        refine ⟨⟨_, rfl⟩, ?_⟩
        simp only [isPrompt, begin, counted, closed, others, Bool.and_self]
    · split at reading
      · cases reading
        exact ⟨⟨_, rfl⟩, prompt⟩
      · rename_i silent
        simp [isPrompt, silent] at prompt

theorem Leads.prompt {before after : Source} (leads : before.Leads after)
    (prompt : before.isPrompt = true) : after.isPrompt = true := by
  induction leads with
  | refl => exact prompt
  | tail _ step ih =>
    cases step with
    | read => exact (read_of_prompt ih rfl).2
    | outside => exact ih

end Source

namespace Receiver

private theorem takeFrame_weight_lt {receiver after : Receiver} {frame : Frame}
    (taken : receiver.takeFrame = (.ok (some frame), after)) : after.weight < receiver.weight := by
  unfold takeFrame at taken
  split at taken
  · cases taken
  · cases taken
  · rename_i decoded
    cases taken
    have overhead : frameOverhead = 8 := rfl
    have bytes := (Frame.decode_eq_frame_iff.mp decoded).2.2
    simp only [weight, bytes, List.length_append, Frame.length_wire, Frame.wireSize]
    omega

private theorem stepFrame_weight_lt {receiver after : Receiver} {frame : Frame}
    (stepped : receiver.stepFrame = (.ok (some frame), after)) :
    after.weight < receiver.weight := by
  unfold stepFrame at stepped
  split at stepped
  · rename_i same taken
    cases takeFrame_none taken
    split at stepped
    · rename_i filled fills
      exact Nat.lt_trans (takeFrame_weight_lt stepped) (fill_ok fills).2.1
    · cases stepped
  · exact takeFrame_weight_lt stepped

private theorem awaitFrame_weight_lt {receiver after : Receiver} {frame : Frame}
    (awaited : receiver.awaitFrame = (.ok frame, after)) : after.weight < receiver.weight := by
  fun_induction awaitFrame receiver with
  | case1 receiver frame next stepped =>
    cases awaited
    exact stepFrame_weight_lt stepped
  | case2 receiver next stepped ih =>
    have lighter := stepFrame_weight_le receiver
    rw [stepped] at lighter
    exact Nat.lt_of_lt_of_le (ih awaited) lighter
  | case3 => cases awaited

/-- Await frames until one does not come. -/
def drain (receiver : Receiver) : List Frame × FrameError × Receiver :=
  match awaited : receiver.awaitFrame with
  | (.ok frame, after) =>
    let (frames, error, last) := after.drain
    (frame :: frames, error, last)
  | (.error error, after) => ([], error, after)
termination_by receiver.weight
decreasing_by exact awaitFrame_weight_lt awaited

private theorem drain_of_frame {receiver after : Receiver} {frame : Frame}
    (awaited : receiver.awaitFrame = (.ok frame, after)) :
    receiver.drain = (frame :: after.drain.1, after.drain.2) := by
  rw [drain]
  split
  · rename_i again
    rw [awaited] at again
    cases again
    rfl
  · rename_i again
    rw [awaited] at again
    cases again

private theorem drain_of_error {receiver after : Receiver} {error : FrameError}
    (awaited : receiver.awaitFrame = (.error error, after)) :
    receiver.drain = ([], error, after) := by
  rw [drain]
  split
  · rename_i again
    rw [awaited] at again
    cases again
  · rename_i again
    rw [awaited] at again
    cases again
    rfl

/-! ## Receivers that are never kept waiting -/

private theorem isTimeout_of_prompt {receiver after : Receiver} {error : FrameError}
    (prompt : receiver.source.isPrompt = true)
    (awaited : receiver.awaitFrame = (.error error, after)) : error.isTimeout = false := by
  rcases awaitFrame_history awaited with fails | ⟨⟨size, max, refused⟩, _⟩
  · cases fails with
    | hungUp => rfl
    | broken _ returned =>
      obtain ⟨last, leads, reading⟩ := returned
      obtain ⟨⟨bytes, arrived⟩, _⟩ := Source.read_of_prompt (leads.prompt prompt) reading
      cases arrived
  · cases refused
    rfl

/-- A receiver that is never kept waiting awaits what its stream begins with. -/
theorem awaitFrame_of_prompt {maxPayload : Nat} {stream : Bytes} {receiver after : Receiver}
    {result : Except FrameError Frame} (awaits : receiver.Awaits maxPayload stream)
    (prompt : receiver.source.isPrompt = true) (awaited : receiver.awaitFrame = (result, after)) :
    .frame result = (Want.frame.read maxPayload stream).1 ∧
      after.Awaits maxPayload (Want.frame.read maxPayload stream).2 ∧
        after.source.isPrompt = true := by
  have called := perform_of_awaits .frame awaits nofun
  simp only [Want.call, perform, awaited, Prod.map, id] at called
  cases called with
  | final _ done => exact ⟨done.1, done.2, (awaitFrame_leads awaited).prompt prompt⟩
  | idle again _ =>
    cases result with
    | ok frame => cases again
    | error error =>
      have never := isTimeout_of_prompt prompt awaited
      exact absurd again (Bool.eq_false_iff.mp never)

/-- Frames that the stream begins with are drained one by one, and the rest is left. -/
theorem drain_of_prompt {maxPayload : Nat} {frames : List Frame} {rest left : Bytes}
    {error : FrameError} {receiver : Receiver} (fit : ∀ frame ∈ frames, frame.Fits maxPayload)
    (stops : Want.frame.read maxPayload rest = (.frame (.error error), left))
    (awaits : receiver.Awaits maxPayload (frames.flatMap Frame.wire ++ rest))
    (prompt : receiver.source.isPrompt = true) :
    ∃ last, receiver.drain = (frames, error, last) ∧ last.Awaits maxPayload left := by
  -- Every frame is taken off a stream that still holds the others and the rest.
  induction frames generalizing receiver with
  | nil =>
    rcases awaited : receiver.awaitFrame with ⟨result, after⟩
    obtain ⟨same, behind, _⟩ := awaitFrame_of_prompt awaits prompt awaited
    rw [List.flatMap_nil, List.nil_append, stops] at same behind
    cases same
    exact ⟨after, drain_of_error awaited, behind⟩
  | cons frame later ih =>
    rcases awaited : receiver.awaitFrame with ⟨result, after⟩
    obtain ⟨same, behind, further⟩ := awaitFrame_of_prompt awaits prompt awaited
    obtain ⟨accepted, declarable⟩ := fit frame List.mem_cons_self
    rw [List.flatMap_cons, List.append_assoc, Want.read,
      Frame.decode_wire _ accepted declarable] at same behind
    cases same
    have others : ∀ other ∈ later, other.Fits maxPayload :=
      fun other member => fit other (List.mem_cons_of_mem _ member)
    obtain ⟨last, drained, left⟩ := ih others behind further
    refine ⟨last, ?_, left⟩
    rw [drain_of_frame awaited, drained]

/-- What is drained from a source that delivers a capture without a wait is what the survey of the
capture finds: the same frames, the same length that is too large or else the end of the stream, and
as many bytes that are left over. -/
theorem drain_eq_survey (maxPayload : Nat) (capture : Bytes) (source : Source)
    (delivers : source.Delivers capture) (prompt : source.isPrompt = true) :
    let survey := Survey.ofCapture maxPayload capture
    let (frames, error, last) := drain { source, maxPayload }
    frames = survey.frames.map (·.frame) ∧
      (survey.fault = none ∧ survey.faultMessage? = none ∧ error = .closed ∨
        ∃ place length, survey.fault = some (place, .oversized (UInt32.toNat length) maxPayload) ∧
          survey.faultMessage? = some (s!"at offset {place}: " ++ error.message) ∧
            Bytes.ofWord length <+: capture.drop place ∧
              error = .oversized length.toNat maxPayload) ∧
      last.buffer.length + last.source.toCome.length = survey.trailing := by
  obtain ⟨frames, rest, rfl, fit, divides⟩ := Survey.walk_divides maxPayload 0 0 capture
  rw [← Survey.ofCapture, Nat.zero_add] at divides
  have awaits := Awaits.of_delivers delivers maxPayload
  have found := divides.frames_eq
  cases divided : Survey.ofCapture maxPayload (frames.flatMap Frame.wire ++ rest) with
  | mk placed trailing fault =>
    rw [divided] at divides found
    cases found
    cases divides with
    | incomplete short =>
      have stops : Want.frame.read maxPayload rest = (.frame (.error .closed), rest) := by
        rw [Want.read, short]
      obtain ⟨last, drained, left⟩ := drain_of_prompt fit stops awaits prompt
      rw [drained]
      refine ⟨Survey.map_frame_place.symm, .inl ⟨rfl, rfl, rfl⟩, ?_⟩
      rw [← List.length_append]
      exact congrArg List.length left.stream
    | @oversized size behind large =>
      have stops : Want.frame.read maxPayload rest =
          (.frame (.error (.oversized size maxPayload)), behind) := by
        rw [Want.read, large]
      obtain ⟨last, drained, left⟩ := drain_of_prompt fit stops awaits prompt
      obtain ⟨_, declarable, announced⟩ := Frame.decode_eq_oversized_iff.mp large
      have length := Frame.toNat_ofNat_of_le declarable
      rw [drained]
      refine ⟨Survey.map_frame_place.symm,
        .inr ⟨(frames.flatMap Frame.wire).length, .ofNat size, ?_, rfl, ?_, ?_⟩, ?_⟩
      · rw [length]
      · rw [List.drop_left, announced]
        exact List.prefix_append _ _
      · rw [length]
      · rw [← List.length_append]
        exact congrArg List.length left.stream

/-- A frame, one with a wrong checksum, a length that is too large, and something behind it. -/
def faultyCapture : Bytes :=
  (Frame.ofPayload [1, 2, 3]).wire ++ (Frame.mk [7] 8).wire ++ Bytes.ofWord 5 ++ [10, 20]

/-- A source that brings `faultyCapture` in reads that end inside a length, a payload and a
checksum. -/
def choppedSource : Source where
  script := [{ outcome := .ok (faultyCapture.take 2) },
    { outcome := .ok ((faultyCapture.drop 2).take 7) },
    { outcome := .ok ((faultyCapture.drop 9).take 14) },
    { outcome := .ok (faultyCapture.drop 23) }]

theorem drain_eq_survey_faultyCapture :
    let survey := Survey.ofCapture 4 faultyCapture
    let (frames, error, last) := drain { source := choppedSource, maxPayload := 4 }
    frames = survey.frames.map (·.frame) ∧
      (survey.fault = none ∧ survey.faultMessage? = none ∧ error = .closed ∨
        ∃ place length, survey.fault = some (place, .oversized (UInt32.toNat length) 4) ∧
          survey.faultMessage? = some (s!"at offset {place}: " ++ error.message) ∧
            Bytes.ofWord length <+: faultyCapture.drop place ∧
              error = .oversized length.toNat 4) ∧
      last.buffer.length + last.source.toCome.length = survey.trailing := by
  have delivers : Source.Delivers faultyCapture choppedSource := ⟨by decide, by decide, by decide⟩
  exact drain_eq_survey 4 faultyCapture choppedSource delivers (by decide)

end Receiver

end Provisioning
