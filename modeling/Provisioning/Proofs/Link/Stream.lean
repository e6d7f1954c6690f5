import Provisioning.Link.Receiver

/-! # What a steady source will bring

A source is steady if it hands out its data, in whatever pieces, then ends, and does nothing worse
in between than to keep its reader waiting: reads may be interrupted or run into a timeout, but
none fails for good and none sees the program stopped. What such a source will bring is one byte
string, `toCome`, and a receiver in front of it has one `stream` to read: its buffer and what is to
come.

How the stream is cut into reads then makes no difference. `awaitLine_of_steady` finds the first
line of the stream or, without a line feed to come, its end; `stepFrame_of_steady` takes the frame
that the stream begins with. Either may find nothing for the time being, and then leaves the stream
as it was.
-/

namespace Provisioning

/-- A read that failed in this way is made again, at once or later. -/
def IoKind.isIdle (kind : IoKind) : Bool := kind = interrupted || kind.isTimeout

/-- The line that a byte string begins with, and what follows its line feed. -/
def firstLine? (bytes : Bytes) : Option (Bytes × Bytes) :=
  match bytes.dropWhile (· != lineFeed) with
  | [] => none
  | _ :: rest => some (stripReturn (bytes.takeWhile (· != lineFeed)), rest)

theorem firstLine?_length_lt {bytes line rest : Bytes}
    (found : firstLine? bytes = some (line, rest)) : rest.length < bytes.length := by
  unfold firstLine? at found
  split at found
  · cases found
  · rename_i suffix
    cases found
    have shorter := length_dropWhile_le (· != lineFeed) bytes
    rw [suffix, List.length_cons] at shorter
    exact shorter

/-- A line that is complete stays the first when more arrives. -/
theorem firstLine?_append {bytes line rest : Bytes} (found : firstLine? bytes = some (line, rest))
    (more : Bytes) : firstLine? (bytes ++ more) = some (line, rest ++ more) := by
  unfold firstLine? at found
  split at found
  · cases found
  · rename_i suffix
    cases found
    have nonempty : (bytes.dropWhile (· != lineFeed)).isEmpty = false := by simp [suffix]
    have lengths := congrArg List.length
      (List.takeWhile_append_dropWhile (p := (· != lineFeed)) (l := bytes))
    simp only [suffix, List.length_append, List.length_cons] at lengths
    have proper : (bytes.takeWhile (· != lineFeed)).length ≠ bytes.length := by omega
    rw [firstLine?, List.dropWhile_append, nonempty, suffix, List.takeWhile_append, if_neg proper]
    rfl

/-- How long the text is that a byte string begins with, up to a line feed or the end. -/
def firstRun (bytes : Bytes) : Nat := (bytes.takeWhile (· != lineFeed)).length

/-- A buffer is cut at the end of its first line, unless it holds too much text without one. -/
theorem cutLine?_eq_some {buffer rest : Bytes} {line : Line}
    (cut : cutLine? buffer = some (line, rest)) :
    (∃ text, line = .whole text ∧ firstLine? buffer = some (text, rest)) ∨
      maxLineLength ≤ firstRun buffer ∧ firstLine? buffer = none := by
  unfold cutLine? at cut
  split at cut
  · rename_i suffix
    cases cut
    exact .inl ⟨_, rfl, by rw [firstLine?, suffix]⟩
  · rename_i none
    split at cut
    · rename_i large
      have all := List.takeWhile_append_dropWhile (p := (· != lineFeed)) (l := buffer)
      rw [none, List.append_nil] at all
      exact .inr ⟨by rw [firstRun, all]; exact large, by rw [firstLine?, none]⟩
    · cases cut

private theorem firstLine?_eq_none_of_cutLine? {buffer : Bytes} (uncut : cutLine? buffer = none) :
    firstLine? buffer = none := by
  unfold cutLine? at uncut
  split at uncut
  · cases uncut
  · rename_i none
    rw [firstLine?, none]

/-- Text without a line feed is still the beginning of the first line when more arrives. -/
theorem firstRun_le_append {bytes : Bytes} (endless : firstLine? bytes = none) (more : Bytes) :
    firstRun bytes ≤ firstRun (bytes ++ more) := by
  unfold firstLine? at endless
  split at endless
  · rename_i none
    have all := List.takeWhile_append_dropWhile (p := (· != lineFeed)) (l := bytes)
    rw [none, List.append_nil] at all
    rw [firstRun, firstRun, List.takeWhile_append, if_pos (by rw [all]), List.length_append, all]
    exact Nat.le_add_right _ _
  · cases endless

namespace Frame

/-- A frame that is complete stays the first when more arrives. -/
theorem decode_frame_append {maxPayload : Nat} {bytes rest : Bytes} {frame : Frame}
    (decoded : decode maxPayload bytes = .frame frame rest) (more : Bytes) :
    decode maxPayload (bytes ++ more) = .frame frame (rest ++ more) := by
  obtain ⟨accepted, declarable, rfl⟩ := decode_eq_frame_iff.mp decoded
  rw [List.append_assoc]
  exact decode_wire _ accepted declarable

theorem decode_oversized_append {maxPayload size : Nat} {bytes rest : Bytes}
    (decoded : decode maxPayload bytes = .oversized size rest) (more : Bytes) :
    decode maxPayload (bytes ++ more) = .oversized size (rest ++ more) := by
  obtain ⟨large, declarable, rfl⟩ := decode_eq_oversized_iff.mp decoded
  rw [List.append_assoc]
  exact decode_eq_oversized_iff.mpr ⟨large, declarable, rfl⟩

end Frame

/-! ## Sources -/

namespace Source

/-- The data that a script will bring before the stream ends. -/
def scriptData : List ReadStep → Bytes
  | [] => []
  | step :: rest => match step.outcome with
    | .error _ => scriptData rest
    | .ok [] => []
    | .ok (byte :: bytes) => byte :: bytes ++ scriptData rest

/-- Up to the end of the stream, a script brings only data and idle reads and stops nothing. -/
def scriptSteady (tail : Tail) : List ReadStep → Bool
  | [] => tail = .closed
  | step :: rest => !step.stops && match step.outcome with
    | .error error => error.kind.isIdle && scriptSteady tail rest
    | .ok [] => true
    | .ok (_ :: _) => scriptSteady tail rest

/-- The data that the source will bring before the stream ends. -/
def toCome (source : Source) : Bytes := source.pending ++ scriptData source.script

/-- Nothing but data and idle reads will come, and then the end of the stream. -/
def isSteady (source : Source) : Bool := scriptSteady source.tail source.script

/-- A steady source comes to an end, so it never falls silent for good. -/
theorem isSilent_of_steady {source : Source} (steady : source.isSteady = true) :
    source.isSilent = false := by
  cases script : source.script with
  | nil =>
    simp only [isSteady, script, scriptSteady, decide_eq_true_eq] at steady
    simp [isSilent, steady]
  | cons step rest => simp [isSilent, script]

/-- The source goes on as steadily, with this much to come. -/
structure Leaves (before : Source) (rest : Bytes) (after : Source) : Prop where
  steady : after.isSteady = true
  running : after.running = before.running
  toCome : after.toCome = rest

theorem Leaves.trans {first middle last : Source} {here there : Bytes}
    (left : first.Leaves here middle) (right : middle.Leaves there last) :
    first.Leaves there last :=
  ⟨right.steady, right.running.trans left.running, right.toCome⟩

/-- How a steady source answers a read: the read is idle, the stream has ended, or it goes on with
the data that are handed out. -/
inductive SteadyRead (idle : IoKind → Bool) (before : Source) :
    Except IoError Bytes → Source → Prop where
  | idle {error : IoError} {after : Source} (again : idle error.kind = true)
      (leaves : before.Leaves before.toCome after) : SteadyRead idle before (.error error) after
  | ended {after : Source} (nothing : before.toCome = []) : SteadyRead idle before (.ok []) after
  | data {byte : UInt8} {bytes rest : Bytes} {after : Source}
      (next : before.toCome = byte :: bytes ++ rest) (leaves : before.Leaves rest after) :
      SteadyRead idle before (.ok (byte :: bytes)) after

theorem SteadyRead.later {idle : IoKind → Bool} {before middle after : Source}
    {result : Except IoError Bytes} (outcome : SteadyRead idle middle result after)
    (leaves : before.Leaves before.toCome middle) : SteadyRead idle before result after := by
  cases outcome with
  | idle again later => exact .idle again (leaves.toCome ▸ leaves.trans later)
  | ended nothing => exact .ended (leaves.toCome.symm.trans nothing)
  | data next later => exact .data (leaves.toCome.symm.trans next) (leaves.trans later)

/-- Data that have arrived are handed out as far as the reader's limit goes. -/
theorem SteadyRead.of_data {idle : IoKind → Bool} {before after : Source} {limit : Nat}
    (positive : 0 < limit) {byte : UInt8} {bytes rest : Bytes}
    (next : before.toCome = byte :: bytes ++ rest) (steady : after.isSteady = true)
    (running : after.running = before.running)
    (left : after.toCome = (byte :: bytes).drop limit ++ rest) :
    SteadyRead idle before (.ok ((byte :: bytes).take limit)) after := by
  obtain ⟨limit, rfl⟩ : ∃ less, limit = less + 1 := ⟨limit - 1, by omega⟩
  have leaves : before.Leaves (bytes.drop limit ++ rest) after := ⟨steady, running, left⟩
  refine .data ?_ leaves
  rw [next]
  change byte :: (bytes ++ rest) = byte :: (bytes.take limit ++ (bytes.drop limit ++ rest))
  rw [← List.append_assoc, List.take_append_drop]

private theorem read_of_steady {limit : Nat} (positive : 0 < limit) {source after : Source}
    {result : Except IoError Bytes} (steady : source.isSteady = true)
    (reading : source.read limit = (result, after)) :
    SteadyRead IoKind.isIdle source result after := by
  unfold read at reading
  split at reading
  · rename_i byte bytes pending
    cases reading
    rw [pending]
    exact .of_data positive (by rw [toCome, pending]; rfl) steady rfl rfl
  · rename_i empty
    split at reading
    · rename_i step rest script
      simp only [isSteady, script, scriptSteady, Bool.and_eq_true, Bool.not_eq_true'] at steady
      obtain ⟨going, steady⟩ := steady
      split at reading
      · rename_i error outcome
        cases reading
        simp only [outcome, Bool.and_eq_true] at steady
        refine .idle steady.1 ⟨steady.2, ?_, ?_⟩
        · simp [begin, counted, going]
        · simp [toCome, begin, counted, empty, script, scriptData, outcome]
      · rename_i data outcome
        cases reading
        cases data with
        | nil =>
          rw [List.take_nil]
          exact .ended (by simp [toCome, empty, script, scriptData, outcome])
        | cons byte bytes =>
          simp only [outcome] at steady
          refine .of_data positive ?_ steady ?_ rfl
          · simp [toCome, begin, counted, empty, script, scriptData, outcome]
          · simp [begin, counted, going]
    · rename_i script
      have closed : source.tail = .closed := by simpa [isSteady, script, scriptSteady] using steady
      rw [closed] at reading
      cases reading
      exact .ended (by simp [toCome, empty, script, scriptData])

theorem draw_of_steady {limit : Nat} (positive : 0 < limit) {source after : Source}
    {result : Except IoError Bytes} (steady : source.isSteady = true)
    (drawn : source.draw limit = (result, after)) :
    SteadyRead IoKind.isTimeout source result after := by
  fun_induction draw limit source with
  | case1 source error next reading interrupted ih =>
    cases read_of_steady positive steady reading with
    | idle again leaves => exact (ih leaves.steady drawn).later leaves
  | case2 source error next reading other =>
    cases drawn
    cases read_of_steady positive steady reading with
    | idle again leaves => exact .idle (by simpa [IoKind.isIdle, other] using again) leaves
  | case3 source data next reading =>
    cases drawn
    cases read_of_steady positive steady reading with
    | ended nothing => exact .ended nothing
    | data bytes leaves => exact .data bytes leaves

end Source

/-! ## Receivers -/

namespace Receiver

/-- Everything that the receiver has before it: what is in its buffer and what will come. -/
def stream (receiver : Receiver) : Bytes := receiver.buffer ++ receiver.source.toCome

/-- The receiver goes on in front of a source as steady, with this much of the stream before it. -/
structure Leaves (before : Receiver) (rest : Bytes) (after : Receiver) : Prop where
  steady : after.source.isSteady = true
  running : after.source.running = before.source.running
  maxPayload : after.maxPayload = before.maxPayload
  stream : after.stream = rest

theorem Leaves.trans {first middle last : Receiver} {here there : Bytes}
    (left : first.Leaves here middle) (right : middle.Leaves there last) :
    first.Leaves there last :=
  ⟨right.steady, right.running.trans left.running, right.maxPayload.trans left.maxPayload,
    right.stream⟩

/-- Taking bytes off the front of the buffer takes them off the stream. -/
theorem Leaves.of_buffer {receiver : Receiver} (steady : receiver.source.isSteady = true)
    (rest : Bytes) :
    receiver.Leaves (rest ++ receiver.source.toCome) { receiver with buffer := rest } :=
  ⟨steady, rfl, rfl, rfl⟩

/-- How reading more comes out in front of a steady source. It leaves the stream as it is, and fails
only if nothing comes for the time being, or for good because the buffer is all that is left. -/
inductive SteadyFill (before : Receiver) : Except FrameError Unit → Receiver → Prop where
  | more {after : Receiver} (leaves : before.Leaves before.stream after) :
      SteadyFill before (.ok ()) after
  | idle {error : FrameError} {after : Receiver} (again : error.isTimeout = true)
      (leaves : before.Leaves before.stream after) : SteadyFill before (.error error) after
  | ended {after : Receiver} (all : before.stream = before.buffer) :
      SteadyFill before (.error .closed) after

theorem fill_of_steady {receiver after : Receiver} {result : Except FrameError Unit}
    (steady : receiver.source.isSteady = true) (filled : receiver.fill = (result, after)) :
    SteadyFill receiver result after := by
  unfold fill at filled
  split at filled
  · rename_i error source drawn
    cases filled
    cases Source.draw_of_steady (by decide) steady drawn with
    | idle again leaves =>
      exact .idle again ⟨leaves.steady, leaves.running, rfl,
        congrArg (receiver.buffer ++ ·) leaves.toCome⟩
  · rename_i source drawn
    cases filled
    cases Source.draw_of_steady (by decide) steady drawn with
    | ended nothing => exact .ended (by rw [stream, nothing, List.append_nil])
  · rename_i byte bytes source drawn
    cases filled
    cases Source.draw_of_steady (by decide) steady drawn with
    | data next leaves =>
      refine .more ⟨leaves.steady, leaves.running, rfl, ?_⟩
      rw [stream, stream, leaves.toCome, next, List.append_assoc]

/-- How waiting for a line comes out in front of a steady source. -/
inductive SteadyLine (before : Receiver) : Except FrameError Line → Receiver → Prop where
  | line {text rest : Bytes} {after : Receiver}
      (first : firstLine? before.stream = some (text, rest)) (leaves : before.Leaves rest after) :
      SteadyLine before (.ok (.whole text)) after
  | idle {error : FrameError} {after : Receiver} (again : error.isTimeout = true)
      (leaves : before.Leaves before.stream after) : SteadyLine before (.error error) after
  | ended {after : Receiver} (none : firstLine? before.stream = none) :
      SteadyLine before (.error .closed) after

/-- What comes of a wait when a part of the stream has been read is what comes of all of it. -/
theorem SteadyLine.later {before middle after : Receiver} {result : Except FrameError Line}
    (outcome : SteadyLine middle result after) (leaves : before.Leaves before.stream middle) :
    SteadyLine before result after := by
  cases outcome with
  | line first later => exact .line (leaves.stream ▸ first) (leaves.trans later)
  | idle again later => exact .idle again (leaves.stream ▸ leaves.trans later)
  | ended none => exact .ended (leaves.stream ▸ none)

/-- A receiver in front of a steady source finds the first line of its stream, unless it is too long
to be held. -/
theorem awaitLine_of_steady {receiver after : Receiver} {result : Except FrameError Line}
    (steady : receiver.source.isSteady = true) (short : firstRun receiver.stream < maxLineLength)
    (awaited : receiver.awaitLine = (result, after)) : SteadyLine receiver result after := by
  fun_induction awaitLine receiver with
  | case1 receiver line rest cut =>
    cases awaited
    rcases cutLine?_eq_some cut with ⟨text, rfl, first⟩ | ⟨long, endless⟩
    · exact .line (firstLine?_append first _) (.of_buffer steady rest)
    · have := firstRun_le_append endless receiver.source.toCome
      rw [stream] at short
      omega
  | case2 receiver _ next fills ih =>
    cases fill_of_steady steady fills with
    | more leaves => exact (ih leaves.steady (leaves.stream.symm ▸ short) awaited).later leaves
  | case3 receiver uncut error next fills =>
    cases awaited
    cases fill_of_steady steady fills with
    | idle again leaves => exact .idle again leaves
    | ended all => exact .ended (all.symm ▸ firstLine?_eq_none_of_cutLine? uncut)

/-- How one step towards a frame comes out in front of a steady source. -/
inductive SteadyFrame (before : Receiver) : Except FrameError (Option Frame) → Receiver → Prop where
  | frame {frame : Frame} {rest : Bytes} {after : Receiver}
      (decoded : Frame.decode before.maxPayload before.stream = .frame frame rest)
      (leaves : before.Leaves rest after) : SteadyFrame before (.ok (some frame)) after
  | oversized {size : Nat} {rest : Bytes} {after : Receiver}
      (decoded : Frame.decode before.maxPayload before.stream = .oversized size rest)
      (leaves : before.Leaves rest after) :
      SteadyFrame before (.error (.oversized size before.maxPayload)) after
  | incomplete {after : Receiver} (leaves : before.Leaves before.stream after) :
      SteadyFrame before (.ok none) after
  | idle {error : FrameError} {after : Receiver} (again : error.isTimeout = true)
      (leaves : before.Leaves before.stream after) : SteadyFrame before (.error error) after
  | ended {after : Receiver}
      (decoded : Frame.decode before.maxPayload before.stream = .incomplete) :
      SteadyFrame before (.error .closed) after

theorem SteadyFrame.later {before middle after : Receiver}
    {result : Except FrameError (Option Frame)} (outcome : SteadyFrame middle result after)
    (leaves : before.Leaves before.stream middle) :
    SteadyFrame before result after := by
  cases outcome with
  | frame decoded later =>
    rw [leaves.maxPayload, leaves.stream] at decoded
    exact .frame decoded (leaves.trans later)
  | oversized decoded later =>
    rw [leaves.maxPayload, leaves.stream] at decoded
    rw [leaves.maxPayload]
    exact .oversized decoded (leaves.trans later)
  | incomplete later => exact .incomplete (leaves.stream ▸ leaves.trans later)
  | idle again later => exact .idle again (leaves.stream ▸ leaves.trans later)
  | ended decoded =>
    rw [leaves.maxPayload, leaves.stream] at decoded
    exact .ended decoded

private theorem takeFrame_of_steady {receiver after : Receiver}
    {result : Except FrameError (Option Frame)}
    (steady : receiver.source.isSteady = true) (taken : receiver.takeFrame = (result, after)) :
    SteadyFrame receiver result after := by
  unfold takeFrame at taken
  split at taken
  · cases taken
    exact .incomplete ⟨steady, rfl, rfl, rfl⟩
  · rename_i size rest decoded
    cases taken
    exact .oversized (Frame.decode_oversized_append decoded _) (.of_buffer steady rest)
  · rename_i frame rest decoded
    cases taken
    exact .frame (Frame.decode_frame_append decoded _) (.of_buffer steady rest)

theorem takeFrame_none_decode {receiver after : Receiver}
    (taken : receiver.takeFrame = (.ok none, after)) :
    Frame.decode receiver.maxPayload receiver.buffer = .incomplete := by
  unfold takeFrame at taken
  split at taken
  · assumption
  · cases taken
  · cases taken

/-- A receiver in front of a steady source takes the frame that its stream begins with. -/
theorem stepFrame_of_steady {receiver after : Receiver} {result : Except FrameError (Option Frame)}
    (steady : receiver.source.isSteady = true) (stepped : receiver.stepFrame = (result, after)) :
    SteadyFrame receiver result after := by
  unfold stepFrame at stepped
  split at stepped
  · rename_i same taken
    cases takeFrame_none taken
    split at stepped
    · rename_i filled fills
      cases fill_of_steady steady fills with
      | more leaves => exact (takeFrame_of_steady leaves.steady stepped).later leaves
    · rename_i error filled fills
      cases stepped
      cases fill_of_steady steady fills with
      | idle again leaves => exact .idle again leaves
      | ended all => exact .ended (all.symm ▸ takeFrame_none_decode taken)
  · exact takeFrame_of_steady steady stepped

/-- Awaiting a frame comes out like a last step towards it, and never short of the frame. -/
theorem awaitFrame_of_steady {receiver after : Receiver} {result : Except FrameError Frame}
    (steady : receiver.source.isSteady = true) (awaited : receiver.awaitFrame = (result, after)) :
    SteadyFrame receiver (result.map some) after := by
  fun_induction awaitFrame receiver with
  | case1 receiver frame next stepped =>
    cases awaited
    exact stepFrame_of_steady steady stepped
  | case2 receiver next stepped ih =>
    cases stepFrame_of_steady steady stepped with
    | incomplete leaves => exact (ih leaves.steady awaited).later leaves
  | case3 receiver error next stepped =>
    cases awaited
    exact stepFrame_of_steady steady stepped

end Receiver

end Provisioning
