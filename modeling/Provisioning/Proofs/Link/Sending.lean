import Provisioning.Proofs.Link.History
import Provisioning.Proofs.Link.Willing

/-! # What a call of the sending side writes

However the sink takes what it is offered, a call writes the bytes it was given from the front on
and none of them twice: all of them, followed by a flush, if it succeeds, and the beginning of them
if it fails. A payload that is refused for its length leaves the line alone.
-/

namespace Provisioning

namespace Sink

theorem flush_written (sink : Sink) : sink.flush.2.written = sink.written := by
  unfold flush
  split <;> rfl

/-- What a call has written that was given some bytes: it has succeeded and written all of them
before a last flush, or it has failed with a write or a flush and written the beginning of them. -/
inductive Sent (before : Sink) (bytes : Bytes) : Except FrameError Unit → Sink → Prop where
  | whole {after : Sink} (written : after.written = before.written ++ bytes)
      (flushed : before.Flushes (.ok ()) after) : Sent before bytes (.ok ()) after
  | cut {error : FrameError} {part : Bytes} {after : Sink} (beginning : part <+: bytes)
      (written : after.written = before.written ++ part) (fails : before.Fails error after) :
      Sent before bytes (.error error) after

private theorem writeAll_written {sink after : Sink} {bytes : Bytes}
    {result : Except FrameError Unit}
    (writing : sink.writeAll bytes = (result, after)) :
    ∃ part, part <+: bytes ∧ after.written = sink.written ++ part ∧
      (result = .ok () → part = bytes) := by
  fun_induction writeAll bytes sink with
  | case1 bytes sink none =>
    cases writing
    refine ⟨[], List.nil_prefix, (List.append_nil _).symm, ?_⟩
    intro _
    exact (List.isEmpty_iff.mp none).symm
  | case2 bytes sink some next offered =>
    cases writing
    refine ⟨[], List.nil_prefix, ?_, by simp⟩
    rw [(write_ok offered).2.2, List.take_zero]
  | case3 bytes sink some count next offered ih =>
    obtain ⟨rest, beginning, written, whole⟩ := ih writing
    refine ⟨bytes.take (count + 1) ++ rest, ?_, ?_, ?_⟩
    · obtain ⟨behind, all⟩ := beginning
      refine ⟨behind, ?_⟩
      rw [List.append_assoc, all, List.take_append_drop]
    · rw [written, (write_ok offered).2.2, List.append_assoc]
    · intro ok
      rw [whole ok, List.take_append_drop]
  | case4 bytes sink some error next offered transient ih =>
    obtain ⟨part, beginning, written, whole⟩ := ih writing
    exact ⟨part, beginning, by rw [written, (write_error offered).2], whole⟩
  | case5 bytes sink some error next offered lasting =>
    cases writing
    exact ⟨[], List.nil_prefix, by rw [(write_error offered).2, List.append_nil], by simp⟩

private theorem flushAll_written {sink after : Sink} {result : Except FrameError Unit}
    (flushing : sink.flushAll = (result, after)) :
    after.written = sink.written ∧ (result = .ok () → sink.Flushes (.ok ()) after) := by
  fun_induction flushAll sink with
  | case1 sink next flushed =>
    cases flushing
    have same := flush_written sink
    rw [flushed] at same
    exact ⟨same, fun _ => ⟨sink, .refl, flushed⟩⟩
  | case2 sink error next flushed transient ih =>
    obtain ⟨same, flushes⟩ := ih flushing
    refine ⟨same.trans (flush_error flushed).2, ?_⟩
    intro ok
    obtain ⟨last, reached, lastly⟩ := flushes ok
    exact ⟨last, (leads_of_flush flushed).trans reached, lastly⟩
  | case3 sink error next flushed lasting =>
    cases flushing
    exact ⟨(flush_error flushed).2, by simp⟩

end Sink

namespace Transmitter

theorem sendRaw_sent {transmitter after : Transmitter} {bytes : Bytes}
    {result : Except FrameError Unit} (sending : transmitter.sendRaw bytes = (result, after)) :
    transmitter.sink.Sent bytes result after.sink := by
  have history := sendRaw_history sending
  unfold sendRaw at sending
  split at sending
  · rename_i middle writing
    obtain ⟨part, _, written, whole⟩ := Sink.writeAll_written writing
    rw [whole rfl] at written
    rcases flushing : middle.flushAll with ⟨outcome, last⟩
    simp only [flush, flushing] at sending
    cases sending
    obtain ⟨same, flushes⟩ := Sink.flushAll_written flushing
    rw [← same] at written
    cases result with
    | ok done =>
      obtain ⟨late, reached, lastly⟩ := flushes rfl
      have begun : transmitter.sink.Leads middle := Sink.writeAll_history writing
      exact .whole written ⟨late, begun.trans reached, lastly⟩
    | error error => exact .cut List.prefix_rfl written history
  · rename_i error middle writing
    cases sending
    obtain ⟨part, beginning, written, _⟩ := Sink.writeAll_written writing
    exact .cut beginning written history

/-- A payload that fits is sent like the bytes that carry it. -/
theorem send_sent {transmitter after : Transmitter} {payload : Bytes}
    {result : Except FrameError Unit} (sending : transmitter.send payload = (result, after)) :
    transmitter.sink.Sent (Frame.ofPayload payload).wire result after.sink ∨
      (∃ size max, result = .error (.oversized size max)) ∧ after.sink = transmitter.sink := by
  cases encoded : Frame.encodeWithin transmitter.maxPayload payload with
  | ok wire =>
    rw [send_of_encoded encoded] at sending
    rw [← (Frame.encodeWithin_eq_ok_iff.mp encoded).2.2]
    exact .inl (@sendRaw_sent { transmitter with buffer := wire } after wire result sending)
  | error error =>
    obtain ⟨refused, sent, untouched, _⟩ := send_of_refused encoded
    obtain ⟨size, max, rfl⟩ := Frame.oversized_of_encodeWithin encoded
    rw [sent] at sending
    cases sending
    exact .inr ⟨⟨size, max, rfl⟩, untouched⟩

end Transmitter

end Provisioning
