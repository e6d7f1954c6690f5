import Mathlib.Data.List.TakeDrop
import Provisioning.Transcript

/-! # A transcript that is cut short

An event is written in pieces, and an output with a limit may cut any of them. What it has room for
does not depend on where one piece ends and the next begins, nor on where one event does: pieces up
to the first that is cut are as good as one piece (`Outlet.putAll_eq_put`), and a write behind a cut
one adds nothing (`Outlet.put_put`). So a transcript is written as if it were a single piece
(`emitAll_eq_put`), and what is left of it under a limit is its beginning (`emitAll_truncates`).
-/

namespace Provisioning

namespace Outlet

private theorem put_nil (outlet : Outlet) : outlet.put [] = (true, outlet) := by
  obtain ⟨room, accepted⟩ := outlet
  cases room with
  | none => simp [put]
  | some room => simp [put]

private theorem accepted_put_of_unlimited {outlet : Outlet} (unlimited : outlet.room = none)
    (bytes : Bytes) : (outlet.put bytes).2.accepted = outlet.accepted ++ bytes := by
  simp only [put, unlimited]

private theorem accepted_put_of_limited {outlet : Outlet} {room : Nat}
    (limited : outlet.room = some room)
    (bytes : Bytes) : (outlet.put bytes).2.accepted = outlet.accepted ++ bytes.take room := by
  simp only [put, limited]

private theorem room_put (bytes : Bytes) (outlet : Outlet) :
    (outlet.put bytes).2.room = outlet.room.map (· - bytes.length) := by
  rw [put]
  split <;> simp_all

private theorem complete_put_iff {outlet : Outlet} {room : Nat} (limited : outlet.room = some room)
    (bytes : Bytes) : (outlet.put bytes).1 = true ↔ bytes.length ≤ room := by
  simp only [put, limited, decide_eq_true_eq]

/-- Two writes leave what one write of both would. If the first is cut the second adds nothing. -/
theorem put_put (first second : Bytes) (outlet : Outlet) :
    ((outlet.put first).2.put second).2 = (outlet.put (first ++ second)).2 := by
  obtain ⟨room, accepted⟩ := outlet
  cases room with
  | none => simp [put]
  | some room => simp [put, List.take_append, Nat.sub_sub]

private theorem complete_put_append {first : Bytes} {outlet : Outlet}
    (whole : (outlet.put first).1 = true)
    (second : Bytes) : ((outlet.put first).2.put second).1 = (outlet.put (first ++ second)).1 := by
  obtain ⟨room, accepted⟩ := outlet
  cases room with
  | none => rfl
  | some room =>
    have fits : first.length ≤ room := of_decide_eq_true whole
    simp only [put, List.length_append, decide_eq_decide]
    omega

/-- Nothing is taken behind a piece that was cut. -/
theorem put_of_cut {first : Bytes} {outlet : Outlet} (cut : (outlet.put first).1 = false)
    (second : Bytes) : outlet.put (first ++ second) = outlet.put first := by
  obtain ⟨room, accepted⟩ := outlet
  cases room with
  | none => cases cut
  | some room =>
    have long : room < first.length := Nat.lt_of_not_le (of_decide_eq_false cut)
    have longer : ¬ (first ++ second).length ≤ room := by
      rw [List.length_append]
      omega
    have empty : room - (first ++ second).length = room - first.length := by
      rw [List.length_append]
      omega
    simp only [put, empty, longer, Nat.not_le_of_lt long,
      List.take_append_of_le_length (Nat.le_of_lt long)]

/-- It makes no difference how what is written is divided into pieces. -/
theorem putAll_eq_put (pieces : List Bytes) (outlet : Outlet) :
    outlet.putAll pieces = outlet.put pieces.flatten := by
  induction pieces generalizing outlet with
  | nil => exact (put_nil outlet).symm
  | cons piece rest ih =>
    rw [putAll, List.flatten_cons]
    split
    · rename_i next result
      have whole : (outlet.put piece).1 = true := by rw [result]
      have behind : (outlet.put piece).2 = next := by rw [result]
      rw [ih, ← behind]
      exact Prod.ext (complete_put_append whole _) (put_put _ _ _)
    · rename_i next result
      have cut : (outlet.put piece).1 = false := by rw [result]
      rw [put_of_cut cut, result]

end Outlet

namespace Transcript

variable (format : OutputFormat)

theorem emit_eq_put (event : Event) (outlet : Outlet) :
    event.emit format outlet = outlet.put (Bytes.ofText (event.text format)) := by
  rw [Event.emit, Outlet.putAll_eq_put, Event.text, Bytes.ofText_join]

theorem emitAll_append (before after : List Event) (outlet : Outlet) :
    emitAll format (before ++ after) outlet = emitAll format after (emitAll format before outlet) :=
  List.foldl_append

/-- Events are written as if their text were one piece. -/
theorem emitAll_eq_put (events : List Event) (outlet : Outlet) :
    emitAll format events outlet = (outlet.put (Bytes.ofText (text format events))).2 := by
  induction events generalizing outlet with
  | nil => exact (congrArg Prod.snd outlet.put_nil).symm
  | cons event rest ih =>
    calc
      emitAll format (event :: rest) outlet
        = emitAll format rest (event.emit format outlet).2 := rfl
      _ = ((outlet.put (Bytes.ofText (event.text format))).2.put
            (Bytes.ofText (text format rest))).2 := by rw [ih, emit_eq_put]
      _ = (outlet.put (Bytes.ofText (text format (event :: rest)))).2 := by
          rw [Outlet.put_put, ← Bytes.ofText_append]
          simp [text]

theorem accepted_emitAll (events : List Event) :
    (emitAll format events {}).accepted = Bytes.ofText (text format events) := by
  rw [emitAll_eq_put, Outlet.accepted_put_of_unlimited rfl]
  rfl

/-- It does not matter into which pieces the text of an event is divided. -/
theorem foldl_putAll_eq_emitAll {pieces : Event → List Bytes}
    (whole : ∀ event, (pieces event).flatten = Bytes.ofText (event.text format))
    (events : List Event) (outlet : Outlet) :
    events.foldl (fun outlet event => (outlet.putAll (pieces event)).2) outlet =
      emitAll format events outlet := by
  have same : (fun (outlet : Outlet) event => (outlet.putAll (pieces event)).2) =
      fun outlet event => (event.emit format outlet).2 := by
    funext outlet event
    rw [Outlet.putAll_eq_put, whole, emit_eq_put]
  rw [same, emitAll]

/-- An output that takes so many bytes and then fails is left with that much of the transcript. It
takes of each event what there is room for behind the events before it, and that is all of it if the
event was written whole. The events behind one that was not are still written, and add nothing. All
of this is so whatever the pieces are in which the text of an event is written. -/
theorem emitAll_truncates (events : List Event) (room : Nat) :
    let whole := emitAll format events {}
    let cut := emitAll format events { room := some room }
    whole.accepted = Bytes.ofText (text format events) ∧
      cut.accepted = whole.accepted.take room ∧
      (∀ before event after, events = before ++ event :: after →
        let reached := emitAll format before { room := some room }
        let written := event.emit format reached
        let share := (Bytes.ofText (event.text format)).take
          (room - (Bytes.ofText (text format before)).length)
        written.2.accepted = reached.accepted ++ share ∧
          (written.1 = true ↔ share = Bytes.ofText (event.text format)) ∧
          emitAll format after written.2 = cut ∧
          (written.1 = false → cut.accepted = written.2.accepted)) ∧
      ∀ pieces : Event → List Bytes,
        (∀ event, (pieces event).flatten = Bytes.ofText (event.text format)) →
        events.foldl (fun outlet event => (outlet.putAll (pieces event)).2)
          { room := some room } = cut := by
  refine ⟨accepted_emitAll format events, ?_, ?_, ?_⟩
  · rw [accepted_emitAll, emitAll_eq_put, Outlet.accepted_put_of_limited rfl]
    rfl
  · rintro before event after rfl
    intro reached written share
    have left : reached.room = some (room - (Bytes.ofText (text format before)).length) := by
      simp only [reached, emitAll_eq_put, Outlet.room_put, Option.map_some]
    have one : written = reached.put (Bytes.ofText (event.text format)) :=
      emit_eq_put format event reached
    have rest : emitAll format after written.2 =
        emitAll format (before ++ event :: after) { room := some room } :=
      (emitAll_append format before (event :: after) _).symm
    refine ⟨?_, ?_, rest, ?_⟩
    · rw [one, Outlet.accepted_put_of_limited left]
    · rw [one, Outlet.complete_put_iff left, List.take_eq_self_iff]
    · intro failed
      -- What follows is one more piece behind a piece that was cut.
      rw [one] at failed
      rw [← rest, emitAll_eq_put, one, Outlet.put_put, Outlet.put_of_cut failed]
  · intro pieces divided
    exact foldl_putAll_eq_emitAll format divided events _

/-- Room for four bytes behind which a character of two bytes is cut, and the same byte by byte. -/
theorem emitAll_truncates_insideCharacter :
    let events := [Event.echo "on", .echo "é", .echo "off"]
    let written := (Event.echo "é").emit .pretty (emitAll .pretty [.echo "on"] { room := some 4 })
    let pieces := fun event : Event => (Bytes.ofText (event.text .pretty)).map ([·])
    events = [.echo "on"] ++ .echo "é" :: [.echo "off"] ∧
      written.1 = false ∧
      written.2.accepted = [111, 110, 10, 195] ∧
      (emitAll .pretty events { room := some 4 }).accepted = [111, 110, 10, 195] ∧
      (∀ event, (pieces event).flatten = Bytes.ofText (event.text .pretty)) ∧
      events.foldl (fun outlet event => (outlet.putAll (pieces event)).2) { room := some 4 } =
        emitAll .pretty events { room := some 4 } := by
  intro events written pieces
  obtain ⟨_, _, account, divisions⟩ := emitAll_truncates .pretty events 4
  obtain ⟨share, _, _, behind⟩ := account [.echo "on"] (.echo "é") [.echo "off"] rfl
  have cut : written.1 = false := rfl
  have taken : written.2.accepted = [111, 110, 10, 195] := share
  have divided : ∀ event, (pieces event).flatten = Bytes.ofText (event.text .pretty) := by
    intro event
    rw [← List.flatMap_def, List.flatMap_singleton']
  exact ⟨rfl, cut, taken, (behind cut).trans taken, divided, divisions pieces divided⟩

end Transcript

end Provisioning
