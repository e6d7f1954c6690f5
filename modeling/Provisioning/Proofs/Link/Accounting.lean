import Mathlib.Data.List.Forall2
import Provisioning.Link.Receiver

/-! # The receive buffer keeps account of every byte

A source is followed through its reads: `afterReads` is where so many of them bring it, `delivered`
the data they hand out. `Accounts` then says of a receiver, before and after some work, which bytes
the work has consumed: these and the buffer behind are the buffer before and what was delivered in
between. Every operation has such an account, also when it fails, and accounts add up.

`performAll_accounts` follows any sequence of calls on a receiver. What each call consumes is read
off its reply by `Reply.Consumes`, without a look at the receiver.
-/

namespace Provisioning

namespace Source

/-- The data that a read has handed out; one that failed has handed out none. -/
def readData : Except IoError Bytes → Bytes
  | .ok data => data
  | .error _ => []

/-- The source once it has been read so many times. -/
def afterReads (source : Source) : Nat → Source
  | 0 => source
  | count + 1 => ((source.afterReads count).read readChunkSize).2

/-- What the source hands out at so many reads. -/
def delivered (source : Source) : Nat → Bytes
  | 0 => []
  | count + 1 =>
    source.delivered count ++ readData ((source.afterReads count).read readChunkSize).1

theorem read_reads (limit : Nat) (source : Source) :
    (source.read limit).2.reads = source.reads + 1 := by
  unfold read
  split
  · rfl
  · split
    · split <;> rfl
    · split <;> rfl

/-- The source itself counts how often it is read. -/
theorem reads_afterReads (source : Source) (count : Nat) :
    (source.afterReads count).reads = source.reads + count := by
  induction count with
  | zero => rfl
  | succ count ih => rw [afterReads, read_reads, ih, Nat.add_assoc]

theorem afterReads_add (source : Source) (first second : Nat) :
    source.afterReads (first + second) = (source.afterReads first).afterReads second := by
  induction second with
  | zero => rfl
  | succ second ih => rw [← Nat.add_assoc, afterReads, afterReads, ih]

theorem delivered_add (source : Source) (first second : Nat) :
    source.delivered (first + second) =
      source.delivered first ++ (source.afterReads first).delivered second := by
  induction second with
  | zero => simp [delivered]
  | succ second ih =>
    rw [← Nat.add_assoc, delivered, delivered, ih, afterReads_add, List.append_assoc]

theorem afterReads_succ (source : Source) (count : Nat) :
    source.afterReads (count + 1) = (source.read readChunkSize).2.afterReads count := by
  rw [Nat.add_comm, afterReads_add]
  rfl

private theorem delivered_succ (source : Source) (count : Nat) :
    source.delivered (count + 1) =
      readData (source.read readChunkSize).1 ++
        (source.read readChunkSize).2.delivered count := by
  rw [Nat.add_comm, delivered_add]
  rfl

/-- Repeating an interrupted read hands out nothing but what the last read does. -/
theorem draw_delivered {source after : Source} {result : Except IoError Bytes}
    (drawn : source.draw readChunkSize = (result, after)) :
    ∃ count, after = source.afterReads count ∧ source.delivered count = readData result := by
  fun_induction draw readChunkSize source with
  | case1 source error next read interrupted ih =>
    obtain ⟨count, same, data⟩ := ih drawn
    refine ⟨count + 1, ?_, ?_⟩
    · rw [afterReads_succ, read, same]
    · rw [delivered_succ, read, data]
      rfl
  | case2 source error next read other =>
    cases drawn
    exact ⟨1, by rw [afterReads_succ, read]; rfl, by rw [delivered_succ, read]; rfl⟩
  | case3 source data next read =>
    cases drawn
    exact ⟨1, by rw [afterReads_succ, read]; rfl, by rw [delivered_succ, read]; simp [delivered]⟩

end Source

/-! ## Lines -/

/-- What stands on the line behind the text of a line: a line feed, or a carriage return and a line
feed. A text that still ends in a carriage return had a second one. -/
inductive LineEnding (text : Bytes) : Bytes → Prop where
  | bare (plain : text.getLast? ≠ some carriageReturn) : LineEnding text [lineFeed]
  | returned : LineEnding text [carriageReturn, lineFeed]

private theorem stripReturn_ending (line : Bytes) :
    ∃ ending, LineEnding (stripReturn line) ending ∧
      line ++ [lineFeed] = stripReturn line ++ ending := by
  by_cases returned : line.getLast? = some carriageReturn
  · refine ⟨_, .returned, ?_⟩
    obtain ⟨nonempty, last⟩ := List.getLast?_eq_some_iff.mp returned
    simp [stripReturn, last]
  · refine ⟨[lineFeed], .bare ?_, ?_⟩ <;> simp [stripReturn, returned]

private theorem mem_of_mem_stripReturn {line : Bytes} {byte : UInt8}
    (member : byte ∈ stripReturn line) :
    byte ∈ line := by
  unfold stripReturn at member
  split at member
  · exact (List.dropLast_sublist line).subset member
  · exact member

/-- The bytes of a buffer up to its first line feed contain none. -/
theorem lineFeed_not_mem_takeWhile (buffer : Bytes) :
    lineFeed ∉ buffer.takeWhile (· != lineFeed) := by
  intro member
  have := List.all_eq_true.mp (List.all_takeWhile (p := (· != lineFeed)) (l := buffer)) _ member
  simp at this

/-- A byte string with a line feed is what stands before the first, the line feed, and the rest. -/
theorem eq_takeWhile_append_of_dropWhile {buffer rest : Bytes} {byte : UInt8}
    (found : buffer.dropWhile (· != lineFeed) = byte :: rest) :
    buffer = buffer.takeWhile (· != lineFeed) ++ lineFeed :: rest := by
  have head := List.head?_dropWhile_not (· != lineFeed) buffer
  rw [found] at head
  have same : byte = lineFeed := by simpa using head
  rw [same] at found
  rw [← found, List.takeWhile_append_dropWhile]

theorem cutLine?_whole {buffer text rest : Bytes}
    (cut : cutLine? buffer = some (.whole text, rest)) :
    lineFeed ∉ text ∧ ∃ ending, LineEnding text ending ∧ buffer = text ++ ending ++ rest := by
  unfold cutLine? at cut
  split at cut
  · rename_i byte behind found
    cases cut
    refine ⟨fun member => lineFeed_not_mem_takeWhile buffer (mem_of_mem_stripReturn member), ?_⟩
    obtain ⟨ending, shape, line⟩ := stripReturn_ending (buffer.takeWhile (· != lineFeed))
    refine ⟨ending, shape, ?_⟩
    rw [← line, List.append_assoc]
    exact eq_takeWhile_append_of_dropWhile found
  · split at cut <;> cases cut

theorem cutLine?_piece {buffer text rest : Bytes}
    (cut : cutLine? buffer = some (.piece text, rest)) :
    lineFeed ∉ text ∧ text.length = maxLineLength ∧ buffer = text ++ rest := by
  unfold cutLine? at cut
  split at cut
  · cases cut
  · rename_i none
    split at cut
    · rename_i large
      cases cut
      refine ⟨fun member => ?_, by rw [List.length_take]; omega, (List.take_append_drop ..).symm⟩
      have all := List.takeWhile_append_dropWhile (p := (· != lineFeed)) (l := buffer)
      rw [none, List.append_nil] at all
      exact lineFeed_not_mem_takeWhile buffer (all.symm ▸ List.mem_of_mem_take member)
    · cases cut

/-! ## Receivers -/

namespace Receiver

/-- On the way from one state of a receiver to another these bytes have been consumed: the bytes and
the buffer behind are the buffer before and what the source has handed out in between. -/
def Accounts (before : Receiver) (consumed : Bytes) (after : Receiver) : Prop :=
  after.maxPayload = before.maxPayload ∧
    ∃ count, after.source = before.source.afterReads count ∧
      before.buffer ++ before.source.delivered count = consumed ++ after.buffer

theorem Accounts.refl (receiver : Receiver) : Accounts receiver [] receiver :=
  ⟨rfl, 0, rfl, List.append_nil _⟩

theorem Accounts.trans {first middle last : Receiver} {here there : Bytes}
    (left : Accounts first here middle) (right : Accounts middle there last) :
    Accounts first (here ++ there) last := by
  obtain ⟨leftLimit, leftCount, leftSource, leftBytes⟩ := left
  obtain ⟨rightLimit, rightCount, rightSource, rightBytes⟩ := right
  refine ⟨rightLimit.trans leftLimit, leftCount + rightCount, ?_, ?_⟩
  · rw [rightSource, leftSource, Source.afterReads_add]
  · rw [leftSource] at rightBytes
    rw [Source.delivered_add, ← List.append_assoc, leftBytes, List.append_assoc, rightBytes,
      List.append_assoc]

/-- Taking bytes off the front of the buffer consumes them. -/
theorem Accounts.of_buffer {receiver : Receiver} {consumed rest : Bytes}
    (front : receiver.buffer = consumed ++ rest) :
    Accounts receiver consumed { receiver with buffer := rest } :=
  ⟨rfl, 0, rfl, (List.append_nil _).trans front⟩

theorem discard_accounts (receiver : Receiver) :
    Accounts receiver receiver.buffer receiver.discard.2 :=
  .of_buffer (List.append_nil _).symm

/-- A link error, or the end of the link. -/
def LinkError (error : FrameError) : Prop := error = .closed ∨ ∃ cause, error = .io cause

/-- Reading more consumes nothing, whether it succeeds or not. -/
theorem fill_accounts {receiver after : Receiver} {result : Except FrameError Unit}
    (filled : receiver.fill = (result, after)) :
    Accounts receiver [] after ∧ ∀ error, result = .error error → LinkError error := by
  unfold fill at filled
  split at filled
  · rename_i cause source drawn
    cases filled
    obtain ⟨count, same, data⟩ := Source.draw_delivered drawn
    refine ⟨⟨rfl, count, same, by rw [data]; exact List.append_nil _⟩, ?_⟩
    rintro _ ⟨⟩
    exact .inr ⟨cause, rfl⟩
  · rename_i source drawn
    cases filled
    obtain ⟨count, same, data⟩ := Source.draw_delivered drawn
    refine ⟨⟨rfl, count, same, by rw [data]; exact List.append_nil _⟩, ?_⟩
    rintro _ ⟨⟩
    exact .inl rfl
  · rename_i byte bytes source drawn
    cases filled
    obtain ⟨count, same, data⟩ := Source.draw_delivered drawn
    exact ⟨⟨rfl, count, same, by rw [data]; rfl⟩, nofun⟩

/-- What the outcome of an attempt to take a frame consumes. -/
inductive FrameConsumes (maxPayload : Nat) : Except FrameError (Option Frame) → Bytes → Prop where
  | incomplete : FrameConsumes maxPayload (.ok none) []
  | frame {frame : Frame} (accepted : frame.payload.length ≤ maxPayload)
      (declarable : frame.payload.length ≤ maxDeclaredLength) :
      FrameConsumes maxPayload (.ok (some frame)) frame.wire
  | oversized {size : Nat} (large : maxPayload < size) (declarable : size ≤ maxDeclaredLength) :
      FrameConsumes maxPayload (.error (.oversized size maxPayload))
        (Bytes.ofWord (UInt32.ofNat size))
  | failed {error : FrameError} (link : LinkError error) :
      FrameConsumes maxPayload (.error error) []

private theorem takeFrame_accounts {receiver after : Receiver}
    {result : Except FrameError (Option Frame)}
    (taken : receiver.takeFrame = (result, after)) :
    ∃ consumed, FrameConsumes receiver.maxPayload result consumed ∧
      Accounts receiver consumed after := by
  unfold takeFrame at taken
  split at taken
  · cases taken
    exact ⟨[], .incomplete, .refl receiver⟩
  · rename_i size rest decoded
    cases taken
    obtain ⟨large, declarable, bytes⟩ := Frame.decode_eq_oversized_iff.mp decoded
    exact ⟨_, .oversized large declarable, .of_buffer bytes⟩
  · rename_i frame rest decoded
    cases taken
    obtain ⟨accepted, declarable, bytes⟩ := Frame.decode_eq_frame_iff.mp decoded
    exact ⟨_, .frame accepted declarable, .of_buffer bytes⟩

theorem stepFrame_accounts {receiver after : Receiver} {result : Except FrameError (Option Frame)}
    (stepped : receiver.stepFrame = (result, after)) :
    ∃ consumed, FrameConsumes receiver.maxPayload result consumed ∧
      Accounts receiver consumed after := by
  unfold stepFrame at stepped
  split at stepped
  · rename_i same taken
    cases takeFrame_none taken
    split at stepped
    · rename_i filled fills
      have filling := (fill_accounts fills).1
      obtain ⟨consumed, shape, taking⟩ := takeFrame_accounts stepped
      rw [filling.1] at shape
      exact ⟨consumed, shape, filling.trans taking⟩
    · rename_i error filled fills
      cases stepped
      obtain ⟨filling, link⟩ := fill_accounts fills
      exact ⟨[], .failed (link error rfl), filling⟩
  · exact takeFrame_accounts stepped

/-- Awaiting a frame never ends with an incomplete one. -/
theorem awaitFrame_accounts {receiver after : Receiver} {result : Except FrameError Frame}
    (awaited : receiver.awaitFrame = (result, after)) :
    ∃ consumed, FrameConsumes receiver.maxPayload (result.map some) consumed ∧
      Accounts receiver consumed after := by
  fun_induction awaitFrame receiver with
  | case1 receiver frame next stepped =>
    cases awaited
    exact stepFrame_accounts stepped
  | case2 receiver next stepped ih =>
    obtain ⟨consumed, shape, accounts⟩ := stepFrame_accounts stepped
    cases shape
    obtain ⟨rest, shape, more⟩ := ih awaited
    rw [accounts.1] at shape
    exact ⟨rest, shape, accounts.trans more⟩
  | case3 receiver error next stepped =>
    cases awaited
    exact stepFrame_accounts stepped

/-- What the outcome of waiting for a line consumes. -/
inductive LineConsumes : Except FrameError Line → Bytes → Prop where
  | whole {text ending : Bytes} (oneLine : lineFeed ∉ text) (shape : LineEnding text ending) :
      LineConsumes (.ok (.whole text)) (text ++ ending)
  | piece {text : Bytes} (oneLine : lineFeed ∉ text) (full : text.length = maxLineLength) :
      LineConsumes (.ok (.piece text)) text
  | failed {error : FrameError} (link : LinkError error) : LineConsumes (.error error) []

theorem awaitLine_accounts {receiver after : Receiver} {result : Except FrameError Line}
    (awaited : receiver.awaitLine = (result, after)) :
    ∃ consumed, LineConsumes result consumed ∧ Accounts receiver consumed after := by
  fun_induction awaitLine receiver with
  | case1 receiver line rest cut =>
    cases awaited
    cases line with
    | whole text =>
      obtain ⟨oneLine, ending, shape, buffer⟩ := cutLine?_whole cut
      exact ⟨_, .whole oneLine shape, .of_buffer buffer⟩
    | piece text =>
      obtain ⟨oneLine, full, buffer⟩ := cutLine?_piece cut
      exact ⟨_, .piece oneLine full, .of_buffer buffer⟩
  | case2 receiver _ next fills ih =>
    obtain ⟨consumed, shape, accounts⟩ := ih awaited
    exact ⟨consumed, shape, (fill_accounts fills).1.trans accounts⟩
  | case3 receiver _ error next fills =>
    cases awaited
    obtain ⟨accounts, link⟩ := fill_accounts fills
    exact ⟨[], .failed (link error rfl), accounts⟩

/-! ## Sequences of calls -/

/-- A call on the receiving side. -/
inductive Call where
  | line
  | frame
  | step
  | discard
  deriving DecidableEq, Repr

/-- What a call returns. -/
inductive Reply where
  | line (result : Except FrameError Line)
  | frame (result : Except FrameError Frame)
  | step (result : Except FrameError (Option Frame))
  /-- So many bytes have been dropped. -/
  | dropped (count : Nat)

def perform (call : Call) (receiver : Receiver) : Reply × Receiver :=
  match call with
  | .line => receiver.awaitLine.map .line id
  | .frame => receiver.awaitFrame.map .frame id
  | .step => receiver.stepFrame.map .step id
  | .discard => receiver.discard.map .dropped id

/-- The replies to a sequence of calls, and where they leave the receiver. -/
def performAll (receiver : Receiver) : List Call → List Reply × Receiver
  | [] => ([], receiver)
  | call :: rest =>
    let (reply, next) := receiver.perform call
    let (replies, last) := next.performAll rest
    (reply :: replies, last)

/-- The bytes that a call has consumed, as its reply tells them. Of what was dropped only the number
is told. -/
inductive Reply.Consumes (maxPayload : Nat) : Reply → Bytes → Prop where
  | line {result : Except FrameError Line} {consumed : Bytes}
      (shape : LineConsumes result consumed) : Consumes maxPayload (.line result) consumed
  | frame {result : Except FrameError Frame} {consumed : Bytes}
      (shape : FrameConsumes maxPayload (result.map some) consumed) :
      Consumes maxPayload (.frame result) consumed
  | step {result : Except FrameError (Option Frame)} {consumed : Bytes}
      (shape : FrameConsumes maxPayload result consumed) :
      Consumes maxPayload (.step result) consumed
  | dropped (consumed : Bytes) : Consumes maxPayload (.dropped consumed.length) consumed

theorem perform_accounts (call : Call) (receiver : Receiver) :
    ∃ consumed, (receiver.perform call).1.Consumes receiver.maxPayload consumed ∧
      Accounts receiver consumed (receiver.perform call).2 := by
  cases call with
  | line =>
    obtain ⟨consumed, shape, accounts⟩ := @awaitLine_accounts receiver _ _ rfl
    exact ⟨consumed, .line shape, accounts⟩
  | frame =>
    obtain ⟨consumed, shape, accounts⟩ := @awaitFrame_accounts receiver _ _ rfl
    exact ⟨consumed, .frame shape, accounts⟩
  | step =>
    obtain ⟨consumed, shape, accounts⟩ := @stepFrame_accounts receiver _ _ rfl
    exact ⟨consumed, .step shape, accounts⟩
  | discard => exact ⟨receiver.buffer, .dropped _, discard_accounts receiver⟩

theorem performAll_accounts (calls : List Call) (receiver : Receiver) :
    ∃ pieces,
      List.Forall₂ (Reply.Consumes receiver.maxPayload) (receiver.performAll calls).1 pieces ∧
        Accounts receiver pieces.flatten (receiver.performAll calls).2 := by
  induction calls generalizing receiver with
  | nil => exact ⟨[], .nil, .refl receiver⟩
  | cons call rest ih =>
    obtain ⟨piece, shape, accounts⟩ := perform_accounts call receiver
    obtain ⟨pieces, shapes, more⟩ := ih (receiver.perform call).2
    rw [accounts.1] at shapes
    exact ⟨piece :: pieces, .cons shape shapes, accounts.trans more⟩

/-- The buffer neither loses, doubles nor reorders a byte. However a new receiver is called, the
bytes that its calls have consumed, in order, and the buffer behind them are together what the
source has handed out at the reads made meanwhile. -/
theorem consumed_append_buffer (source : Source) (maxPayload : Nat) (calls : List Call) :
    let (replies, after) := performAll { source, maxPayload } calls
    let count := after.source.reads - source.reads
    after.source = source.afterReads count ∧
      ∃ pieces, List.Forall₂ (Reply.Consumes maxPayload) replies pieces ∧
        pieces.flatten ++ after.buffer = source.delivered count := by
  obtain ⟨pieces, shapes, _, count, same, bytes⟩ := performAll_accounts calls { source, maxPayload }
  have counted :
      (performAll { source, maxPayload } calls).2.source.reads - source.reads = count := by
    rw [same, Source.reads_afterReads, Nat.add_sub_cancel_left]
  simp only [counted]
  exact ⟨same, pieces, shapes, bytes.symm⟩

end Receiver

end Provisioning
