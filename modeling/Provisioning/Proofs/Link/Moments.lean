import Mathlib.Logic.Relation
import Provisioning.Proofs.Link.Accounting
import Provisioning.Proofs.Link.Pieces

/-! # How much the buffer holds

Nothing ever empties the buffer for its size, and what one call leaves in it the next one inherits,
whether it is for a line or for a frame. What bounds it is that a read is made only for want of
bytes: for a line as long as less than a piece of text is held, and for a frame as long as less is
held than the frame takes. So it never holds more than `capacity`.

This is so at every moment, also in the middle of a call. `Next` goes from one moment of a receiver
to the next one, through the reads that a call makes; `Next.bounded` is what such a step keeps.
Every call goes through moments of its own until it ends (`perform_ends`), and through no others
(`Ends.of_during`).
-/

namespace Provisioning

namespace Source

/-- A read hands out no more than it was asked for. -/
theorem length_of_read {limit : Nat} {source after : Source} {data : Bytes}
    (reading : source.read limit = (.ok data, after)) : data.length ≤ limit := by
  unfold read at reading
  split at reading
  · cases reading
    exact List.length_take_le _ _
  · split at reading
    · split at reading
      · cases reading
      · cases reading
        exact List.length_take_le _ _
    · split at reading
      · cases reading
        exact Nat.zero_le _
      · cases reading

end Source

namespace Frame

/-- What is not yet a frame is shorter than the largest one that is accepted. -/
theorem length_lt_of_incomplete {maxPayload : Nat} {bytes : Bytes}
    (short : decode maxPayload bytes = .incomplete) :
    bytes.length < frameOverhead + min maxPayload maxDeclaredLength := by
  have overhead : frameOverhead = 8 := rfl
  rcases decode_eq_incomplete_iff.mp short with word | ⟨length, _, accepted, missing⟩
  · omega
  · have declarable := le_maxDeclaredLength_iff.mpr length.toNat_lt
    omega

end Frame

namespace Receiver

/-- The most that is ever held: a piece of text or the largest frame, less one byte, and what one
more read brings. -/
def capacity (maxPayload : Nat) : Nat :=
  max maxLineLength (frameOverhead + min maxPayload maxDeclaredLength) - 1 + readChunkSize

/-- The receiver once a call has taken off the buffer what it is for, if enough has arrived. -/
def taken? (call : Call) (receiver : Receiver) : Option Receiver :=
  match call with
  | .line => (cutLine? receiver.buffer).map fun cut => { receiver with buffer := cut.2 }
  | .frame | .step => match Frame.decode receiver.maxPayload receiver.buffer with
    | .incomplete => none
    | .oversized _ rest | .frame _ rest => some { receiver with buffer := rest }
  | .discard => some receiver.discard.2

variable {receiver after : Receiver} {call : Call}

/-- As long as a call lacks something, what is held leaves room for a read. -/
theorem room_of_lack (lack : receiver.taken? call = none) :
    receiver.buffer.length + readChunkSize ≤ capacity receiver.maxPayload := by
  have overhead : frameOverhead = 8 := rfl
  have incomplete (short : Frame.decode receiver.maxPayload receiver.buffer = .incomplete) :
      receiver.buffer.length + readChunkSize ≤ capacity receiver.maxPayload := by
    have := Frame.length_lt_of_incomplete short
    rw [capacity]
    omega
  cases call with
  | line =>
    rw [taken?, Option.map_eq_none_iff, cutLine?_eq_none_iff] at lack
    rw [capacity]
    omega
  | frame | step =>
    rw [taken?] at lack
    split at lack
    · rename_i short
      exact incomplete short
    · cases lack
    · cases lack
  | discard => cases lack

private theorem length_of_taken (taken : receiver.taken? call = some after) :
    after.maxPayload = receiver.maxPayload ∧ after.buffer.length ≤ receiver.buffer.length := by
  have decoded {found : Option Receiver}
      (same : found = match Frame.decode receiver.maxPayload receiver.buffer with
        | .incomplete => none
        | .oversized _ rest | .frame _ rest => some { receiver with buffer := rest })
      (taken : found = some after) :
      after.maxPayload = receiver.maxPayload ∧ after.buffer.length ≤ receiver.buffer.length := by
    subst same
    split at taken
    · cases taken
    · rename_i size rest outcome
      cases taken
      refine ⟨rfl, ?_⟩
      rw [(Frame.decode_eq_oversized_iff.mp outcome).2.2, List.length_append]
      exact Nat.le_add_left _ _
    · rename_i frame rest outcome
      cases taken
      refine ⟨rfl, ?_⟩
      rw [(Frame.decode_eq_frame_iff.mp outcome).2.2, List.length_append]
      exact Nat.le_add_left _ _
  cases call with
  | line =>
    obtain ⟨⟨line, rest⟩, cut, rfl⟩ := Option.map_eq_some_iff.mp taken
    exact ⟨rfl, Nat.le_of_lt (cutLine?_length_lt cut)⟩
  | frame => exact decoded rfl taken
  | step => exact decoded rfl taken
  | discard =>
    cases taken
    exact ⟨rfl, Nat.zero_le _⟩

/-- An attempt to take a frame finds one, or lacks bytes and changes nothing. -/
theorem takeFrame_taken {result : Except FrameError (Option Frame)}
    (attempted : receiver.takeFrame = (result, after)) (wants : call = .frame ∨ call = .step) :
    (result = .ok none ∧ after = receiver ∧ receiver.taken? call = none) ∨
      result ≠ .ok none ∧ receiver.taken? call = some after := by
  have same : receiver.taken? call = receiver.taken? .frame := by
    rcases wants with rfl | rfl <;> rfl
  unfold takeFrame at attempted
  split at attempted
  · rename_i short
    cases attempted
    refine .inl ⟨rfl, rfl, ?_⟩
    rw [same, taken?, short]
  · rename_i decoded
    cases attempted
    refine .inr ⟨nofun, ?_⟩
    rw [same, taken?, decoded]
  · rename_i decoded
    cases attempted
    refine .inr ⟨nofun, ?_⟩
    rw [same, taken?, decoded]

/-! ## From moment to moment -/

/-- What a receiver is about. -/
inductive Activity where
  /-- No call is under way. -/
  | idle
  /-- A call looks at what has arrived, and may have read more for it. -/
  | looking (call : Call) (filled : Bool)
  /-- A read is under way. -/
  | reading (call : Call)
  /-- A read has come back. -/
  | answered (call : Call) (result : Except IoError Bytes)

/-- The call that is under way. -/
def Activity.call? : Activity → Option Call
  | idle => none
  | looking call _ | reading call | answered call _ => some call

/-- A receiver and what it is about. -/
structure Moment where
  activity : Activity
  receiver : Receiver

/-- From one moment to the next. -/
inductive Next : Moment → Moment → Prop where
  | begin (call : Call) (receiver : Receiver) :
      Next ⟨.idle, receiver⟩ ⟨.looking call false, receiver⟩
  | take {call : Call} {filled : Bool} {receiver after : Receiver}
      (taken : receiver.taken? call = some after) :
      Next ⟨.looking call filled, receiver⟩ ⟨.idle, after⟩
  /-- More is read for a line or a frame as often as it takes, and once for a step. -/
  | lack {call : Call} {filled : Bool} {receiver : Receiver} (lack : receiver.taken? call = none)
      (again : call = .step → filled = false) :
      Next ⟨.looking call filled, receiver⟩ ⟨.reading call, receiver⟩
  | incomplete {receiver : Receiver} (lack : receiver.taken? .step = none) :
      Next ⟨.looking .step true, receiver⟩ ⟨.idle, receiver⟩
  | read (call : Call) (receiver : Receiver) :
      Next ⟨.reading call, receiver⟩
        ⟨.answered call (receiver.source.read readChunkSize).1,
          { receiver with source := (receiver.source.read readChunkSize).2 }⟩
  | retry {error : IoError} (call : Call) (receiver : Receiver)
      (interrupted : error.kind = .interrupted) :
      Next ⟨.answered call (.error error), receiver⟩ ⟨.reading call, receiver⟩
  | fail {error : IoError} (call : Call) (receiver : Receiver)
      (uninterrupted : error.kind ≠ .interrupted) :
      Next ⟨.answered call (.error error), receiver⟩ ⟨.idle, receiver⟩
  | hangUp (call : Call) (receiver : Receiver) :
      Next ⟨.answered call (.ok []), receiver⟩ ⟨.idle, receiver⟩
  | arrive (call : Call) (receiver : Receiver) (byte : UInt8) (bytes : Bytes) :
      Next ⟨.answered call (.ok (byte :: bytes)), receiver⟩
        ⟨.looking call true, { receiver with buffer := receiver.buffer ++ byte :: bytes }⟩

/-- In the middle of a call there is never a choice. -/
theorem Next.unique {before after other : Moment} (busy : before.activity ≠ .idle)
    (one : Next before after) (another : Next before other) : other = after := by
  cases one with
  | begin => exact absurd rfl busy
  | take | lack | incomplete | read | retry | fail | hangUp | arrive => cases another <;> grind

/-- One moment comes to be the other. -/
def Becomes : Moment → Moment → Prop := Relation.ReflTransGen Next

/-- What a read that is under way, or has come back, may still add to the buffer. -/
def Activity.room : Activity → Nat
  | idle | looking _ _ => 0
  | reading _ | answered _ (.error _) => readChunkSize
  | answered _ (.ok data) => data.length

/-- What is held and what a read may add to it is within the capacity. -/
def Moment.Bounded (moment : Moment) : Prop :=
  moment.receiver.buffer.length + moment.activity.room ≤ capacity moment.receiver.maxPayload

theorem Next.maxPayload {before after : Moment} (step : Next before after) :
    after.receiver.maxPayload = before.receiver.maxPayload := by
  cases step with
  | take taken => exact (length_of_taken taken).1
  | begin | lack | incomplete | read | retry | fail | hangUp | arrive => rfl

theorem Next.bounded {before after : Moment} (step : Next before after) (bounded : before.Bounded) :
    after.Bounded := by
  cases step with
  | begin call receiver => exact bounded
  | take taken =>
    obtain ⟨limit, shorter⟩ := length_of_taken taken
    rw [Moment.Bounded, limit]
    exact Nat.le_trans shorter bounded
  | lack lack again => exact room_of_lack lack
  | incomplete lack => exact bounded
  | read call receiver =>
    rcases reading : receiver.source.read readChunkSize with ⟨error | data, source⟩
    · exact bounded
    · have few := Source.length_of_read reading
      simp only [Moment.Bounded, Activity.room] at bounded ⊢
      omega
  | retry call receiver interrupted => exact bounded
  | fail call receiver uninterrupted => exact Nat.le_trans (Nat.le_add_right _ _) bounded
  | hangUp call receiver => exact bounded
  | arrive call receiver byte bytes =>
    simpa only [Moment.Bounded, Activity.room, List.length_append, Nat.add_zero] using bounded

theorem Becomes.maxPayload {before after : Moment} (path : Becomes before after) :
    after.receiver.maxPayload = before.receiver.maxPayload := by
  induction path with
  | refl => rfl
  | tail _ step ih => exact step.maxPayload.trans ih

theorem Becomes.bounded {before after : Moment} (path : Becomes before after)
    (bounded : before.Bounded) : after.Bounded := by
  induction path with
  | refl => exact bounded
  | tail _ step ih => exact step.bounded ih

/-! ## Calls -/

theorem Becomes.trans {first middle last : Moment} (left : Becomes first middle)
    (right : Becomes middle last) : Becomes first last :=
  Relation.ReflTransGen.trans left right

theorem Next.becomes {before after : Moment} (step : Next before after) : Becomes before after :=
  .single step

/-- From one moment of a call to another one, through moments of this call only. -/
def During (call : Call) : Moment → Moment → Prop :=
  Relation.ReflTransGen fun before after => Next before after ∧ after.activity.call? = some call

/-- The call goes from this moment through others of its own, and ends with this receiver. -/
def Ends (call : Call) (first : Moment) (after : Receiver) : Prop :=
  ∃ last, During call first last ∧ Next last ⟨.idle, after⟩

theorem Next.during {before after : Moment} (step : Next before after)
    (same : after.activity.call? = some call) : During call before after :=
  .single ⟨step, same⟩

namespace During

variable {first middle last : Moment}

theorem trans (left : During call first middle) (right : During call middle last) :
    During call first last :=
  Relation.ReflTransGen.trans left right

theorem step (during : During call first middle) (step : Next middle last)
    (same : last.activity.call? = some call) : During call first last :=
  .tail during ⟨step, same⟩

theorem becomes (during : During call first last) : Becomes first last := by
  induction during with
  | refl => exact .refl
  | tail _ step ih => exact ih.tail step.1

theorem ends (during : During call first middle) (step : Next middle ⟨.idle, after⟩) :
    Ends call first after :=
  ⟨middle, during, step⟩

end During

namespace Ends

variable {first middle : Moment}

theorem of_next (step : Next first ⟨.idle, after⟩) : Ends call first after :=
  ⟨first, .refl, step⟩

theorem earlier (during : During call first middle) (ends : Ends call middle after) :
    Ends call first after := by
  obtain ⟨last, later, step⟩ := ends
  exact ⟨last, during.trans later, step⟩

theorem becomes (ends : Ends call first after) : Becomes first ⟨.idle, after⟩ := by
  obtain ⟨last, during, step⟩ := ends
  exact during.becomes.trans step.becomes

/-- A call that ends goes through every moment that can be reached during it. -/
theorem of_during (ends : Ends call first after) (busy : first.activity.call? = some call)
    (during : During call first middle) : Ends call middle after := by
  induction during with
  | refl => exact ends
  | @tail middle last past step ih =>
    obtain ⟨step, same⟩ := step
    obtain ⟨final, later, ending⟩ := ih
    have going : middle.activity ≠ .idle := by
      intro idle
      cases past with
      | refl => simp [idle, Activity.call?] at busy
      | tail _ earlier => simp [idle, Activity.call?] at earlier
    cases later.cases_head with
    | inl here =>
      subst here
      cases ending.unique going step
      cases same
    | inr further =>
      obtain ⟨next, ⟨twin, _⟩, later⟩ := further
      rw [step.unique going twin] at later
      exact ⟨final, later, ending⟩

end Ends

/-- But for a single step, more is read as often as it takes. -/
theorem Next.more {filled : Bool} (lack : receiver.taken? call = none) (waits : call ≠ .step) :
    Next ⟨.looking call filled, receiver⟩ ⟨.reading call, receiver⟩ :=
  .lack lack fun step => absurd step waits

/-- A read that is interrupted is made again. -/
theorem draw_during {source last : Source} {result : Except IoError Bytes}
    (drawn : source.draw readChunkSize = (result, last)) (call : Call) (receiver : Receiver) :
    During call ⟨.reading call, { receiver with source }⟩
      ⟨.answered call result, { receiver with source := last }⟩ := by
  have read {source next : Source} {result : Except IoError Bytes}
      (reading : source.read readChunkSize = (result, next)) :
      During call ⟨.reading call, { receiver with source }⟩
        ⟨.answered call result, { receiver with source := next }⟩ := by
    have step := Next.read call { receiver with source }
    simp only [reading] at step
    exact step.during rfl
  fun_induction Source.draw readChunkSize source with
  | case1 source error next reading interrupted ih =>
    exact ((read reading).step (.retry call _ interrupted) rfl).trans (ih drawn)
  | case2 source error next reading other =>
    cases drawn
    exact read reading
  | case3 source data next reading =>
    cases drawn
    exact read reading

/-- How a read for a call leaves it. -/
inductive Filled (call : Call) (receiver : Receiver) :
    Except FrameError Unit → Receiver → Prop where
  | more {after : Receiver}
      (during : During call ⟨.reading call, receiver⟩ ⟨.looking call true, after⟩) :
      Filled call receiver (.ok ()) after
  | failed {error : FrameError} {after : Receiver}
      (ends : Ends call ⟨.reading call, receiver⟩ after) : Filled call receiver (.error error) after

private theorem fill_filled (call : Call) {result : Except FrameError Unit}
    (filled : receiver.fill = (result, after)) : Filled call receiver result after := by
  unfold fill at filled
  split at filled
  · rename_i error source drawn
    cases filled
    exact .failed ((draw_during drawn call receiver).ends
      (.fail call _ (Source.draw_error_kind drawn)))
  · rename_i source drawn
    cases filled
    exact .failed ((draw_during drawn call receiver).ends (.hangUp call _))
  · rename_i byte bytes source drawn
    cases filled
    exact .more ((draw_during drawn call receiver).step (.arrive call _ byte bytes) rfl)

theorem awaitLine_ends (filled : Bool) (receiver : Receiver) :
    Ends .line ⟨.looking .line filled, receiver⟩ receiver.awaitLine.2 := by
  fun_induction awaitLine receiver generalizing filled with
  | case1 receiver line rest cut =>
    have taken : receiver.taken? .line = some { receiver with buffer := rest } := by
      rw [taken?, cut]
      rfl
    exact .of_next (.take taken)
  | case2 receiver uncut next fills ih =>
    have lack : receiver.taken? .line = none := by rw [taken?, uncut]; rfl
    have reads : During .line ⟨.looking .line filled, receiver⟩ ⟨.reading .line, receiver⟩ :=
      (Next.more lack (by simp)).during rfl
    cases fill_filled .line fills with
    | more during => exact (ih true).earlier (reads.trans during)
  | case3 receiver uncut error next fills =>
    have lack : receiver.taken? .line = none := by rw [taken?, uncut]; rfl
    have reads : During .line ⟨.looking .line filled, receiver⟩ ⟨.reading .line, receiver⟩ :=
      (Next.more lack (by simp)).during rfl
    cases fill_filled .line fills with
    | failed ends => exact ends.earlier reads

/-- Where one step towards a frame leaves a call: at its end, or looking at what has arrived. -/
theorem stepFrame_ends {filled : Bool} {receiver after : Receiver}
    {result : Except FrameError (Option Frame)} (wants : call = .frame ∨ call = .step)
    (again : call = .step → filled = false) (stepped : receiver.stepFrame = (result, after)) :
    (result = .ok none ∧ after.taken? call = none ∧
        During call ⟨.looking call filled, receiver⟩ ⟨.looking call true, after⟩) ∨
      result ≠ .ok none ∧ Ends call ⟨.looking call filled, receiver⟩ after := by
  unfold stepFrame at stepped
  split at stepped
  · rename_i same attempted
    rcases takeFrame_taken attempted wants with ⟨_, rfl, lack⟩ | ⟨found, _⟩
    · have reads : During call ⟨.looking call filled, same⟩ ⟨.reading call, same⟩ :=
        (Next.lack lack again).during rfl
      split at stepped
      · rename_i filled fills
        cases fill_filled call fills with
        | more during =>
          rcases takeFrame_taken stepped wants with ⟨none, rfl, lack⟩ | ⟨found, taken⟩
          · exact .inl ⟨none, lack, reads.trans during⟩
          · exact .inr ⟨found, (reads.trans during).ends (.take taken)⟩
      · rename_i error filled fills
        cases stepped
        cases fill_filled call fills with
        | failed ends => exact .inr ⟨nofun, ends.earlier reads⟩
    · exact absurd rfl found
  · rename_i some
    rcases takeFrame_taken stepped wants with ⟨none, rfl, _⟩ | ⟨found, taken⟩
    · rw [none] at stepped
      exact absurd stepped (some after)
    · exact .inr ⟨found, .of_next (.take taken)⟩

private theorem awaitFrame_ends (filled : Bool) (receiver : Receiver) :
    Ends .frame ⟨.looking .frame filled, receiver⟩ receiver.awaitFrame.2 := by
  fun_induction awaitFrame receiver generalizing filled with
  | case1 receiver frame next stepped =>
    rcases stepFrame_ends (.inl rfl) (by simp) stepped with ⟨none, _⟩ | ⟨_, ends⟩
    · cases none
    · exact ends
  | case2 receiver next stepped ih =>
    rcases stepFrame_ends (.inl rfl) (by simp) stepped with ⟨_, _, during⟩ | ⟨found, _⟩
    · exact (ih true).earlier during
    · exact absurd rfl found
  | case3 receiver error next stepped =>
    rcases stepFrame_ends (.inl rfl) (by simp) stepped with ⟨none, _⟩ | ⟨_, ends⟩
    · cases none
    · exact ends

/-- Every call goes through moments of its own and ends. -/
theorem perform_ends (call : Call) (receiver : Receiver) :
    Ends call ⟨.looking call false, receiver⟩ (receiver.perform call).2 := by
  cases call with
  | line => exact awaitLine_ends false receiver
  | frame => exact awaitFrame_ends false receiver
  | step =>
    rcases stepped : receiver.stepFrame with ⟨result, after⟩
    rw [perform, stepped]
    rcases stepFrame_ends (.inr rfl) (fun _ => rfl) stepped with ⟨_, lack, during⟩ | ⟨_, ends⟩
    · exact during.ends (.incomplete lack)
    · exact ends
  | discard =>
    have taken : receiver.taken? .discard = some receiver.discard.2 := rfl
    exact .of_next (.take taken)

theorem perform_becomes (call : Call) (receiver : Receiver) :
    Becomes ⟨.idle, receiver⟩ ⟨.idle, (receiver.perform call).2⟩ :=
  (Next.begin call receiver).becomes.trans (perform_ends call receiver).becomes

theorem performAll_becomes (calls : List Call) (receiver : Receiver) :
    Becomes ⟨.idle, receiver⟩ ⟨.idle, (receiver.performAll calls).2⟩ := by
  induction calls generalizing receiver with
  | nil => exact .refl
  | cons call rest ih => exact (perform_becomes call receiver).trans (ih (receiver.perform call).2)

/-- No more is held than the capacity. -/
def Bounded (receiver : Receiver) : Prop :=
  receiver.buffer.length ≤ capacity receiver.maxPayload

theorem perform_bounded (call : Call) (bounded : receiver.Bounded) :
    (receiver.perform call).2.Bounded :=
  (perform_becomes call receiver).bounded bounded

theorem awaitLine_bounded {result : Except FrameError Line}
    (awaited : receiver.awaitLine = (result, after)) (bounded : receiver.Bounded) :
    after.Bounded := by
  have kept := perform_bounded .line bounded
  rwa [perform, awaited] at kept

theorem stepFrame_bounded {result : Except FrameError (Option Frame)}
    (stepped : receiver.stepFrame = (result, after)) (bounded : receiver.Bounded) :
    after.Bounded := by
  have kept := perform_bounded .step bounded
  rwa [perform, stepped] at kept

/-- At every moment a new receiver holds no more than its capacity. -/
theorem length_buffer_le {source : Source} {maxPayload : Nat} {moment : Moment}
    (path : Becomes ⟨.idle, { source, maxPayload }⟩ moment) :
    moment.receiver.buffer.length ≤ capacity maxPayload := by
  have begun : Moment.Bounded ⟨.idle, { source, maxPayload }⟩ := Nat.zero_le _
  have bounded := path.bounded begun
  rw [Moment.Bounded, path.maxPayload] at bounded
  exact Nat.le_trans (Nat.le_add_right _ _) bounded

end Receiver

end Provisioning
