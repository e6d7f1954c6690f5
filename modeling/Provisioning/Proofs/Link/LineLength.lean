import Provisioning.Proofs.Link.History
import Provisioning.Proofs.Link.Moments

/-! # How long a line is

Text is cut for its length only as long as its line feed has not come. What is looked for first is
the line feed, so the length at which a line is cut bounds what is held back for one, and not the
line: the read that goes beyond that length may bring the line feed along, and a frame that was
awaited before may have left a whole line in the buffer. `line_lengths` says that there is no other
way for a line to be longer than a piece, and how long it may be in each of the two.
-/

namespace Provisioning

theorem LineEnding.length_pos {text ending : Bytes} (shape : LineEnding text ending) :
    0 < ending.length := by
  cases shape <;> exact Nat.succ_pos _

/-- When a line was lacking and a read has brought the rest of it, what is left was read as well. -/
theorem length_rest_of_lack {held data rest : Bytes} {line : Line} (lack : cutLine? held = none)
    (cut : cutLine? (held ++ data) = some (line, rest)) : rest.length < data.length := by
  obtain ⟨plain, short⟩ := cutLine?_eq_none_iff.mp lack
  cases line with
  | whole text =>
    obtain ⟨_, ending, shape, front⟩ := cutLine?_whole cut
    have lengths := congrArg List.length front
    rw [List.length_append, List.length_append] at lengths
    by_contra more
    have early : text ++ ending <+: held :=
      List.prefix_of_prefix_length_le ⟨rest, front.symm⟩ (List.prefix_append _ _) (by omega)
    have inside : lineFeed ∈ text ++ ending := by cases shape <;> simp
    exact plain (early.subset inside)
  | piece text =>
    obtain ⟨_, full, front⟩ := cutLine?_piece cut
    have lengths := congrArg List.length front
    rw [List.length_append, List.length_append] at lengths
    omega

namespace Receiver

variable {receiver after : Receiver}

/-! ## While a call lacks something -/

/-- Whatever is read for has not arrived. -/
def Moment.Lacks (moment : Moment) : Prop :=
  match moment.activity with
  | .reading call | .answered call _ => moment.receiver.taken? call = none
  | .idle | .looking _ _ => True

private theorem taken?_with_source (call : Call) (receiver : Receiver) (source : Source)
    (lack : receiver.taken? call = none) :
    ({ receiver with source } : Receiver).taken? call = none := by
  cases call with
  | line => exact Option.map_eq_none_iff.mpr (Option.map_eq_none_iff.mp lack)
  | frame | step =>
    simp only [taken?] at lack ⊢
    split at lack
    · rfl
    · cases lack
    · cases lack
  | discard => cases lack

theorem Next.lacks {before last : Moment} (step : Next before last) (lacks : before.Lacks) :
    last.Lacks := by
  cases step with
  | begin | take | incomplete | fail | hangUp | arrive => trivial
  | lack lack again => exact lack
  | read call receiver => exact taken?_with_source call receiver _ lacks
  | retry call receiver interrupted => exact lacks

theorem Becomes.lacks {before last : Moment} (path : Becomes before last)
    (lacks : before.Lacks) : last.Lacks := by
  induction path with
  | refl => exact lacks
  | tail _ step ih => exact step.lacks ih

/-- Where more is read for a line, less than a piece is held, and no line feed. -/
theorem Becomes.lacks_line {before : Moment} (path : Becomes before ⟨.reading .line, receiver⟩)
    (lacks : before.Lacks) :
    lineFeed ∉ receiver.buffer ∧ receiver.buffer.length < maxLineLength := by
  have lack : receiver.taken? .line = none := path.lacks lacks
  exact cutLine?_eq_none_iff.mp (Option.map_eq_none_iff.mp lack)

/-! ## Where a line comes from -/

private theorem fill_brings (filled : receiver.fill = (.ok (), after)) :
    ∃ data, receiver.source.Returns (.ok data) after.source ∧ data.length ≤ readChunkSize ∧
      after.buffer = receiver.buffer ++ data := by
  unfold fill at filled
  split at filled
  · cases filled
  · cases filled
  · rename_i byte bytes source drawn
    cases filled
    have returned := Source.draw_returns drawn
    obtain ⟨last, _, reading⟩ := id returned
    exact ⟨_, returned, Source.length_of_read reading, rfl⟩

private theorem fill_failed {error : FrameError} (filled : receiver.fill = (.error error, after)) :
    after.buffer = receiver.buffer := by
  unfold fill at filled
  split at filled <;> cases filled <;> rfl

/-- How a line that was awaited has come to be taken off the buffer. -/
inductive Found (before : Receiver) (line : Line) (after : Receiver) : Prop where
  /-- It was there already. -/
  | held (unread : after.source = before.source)
      (cut : cutLine? before.buffer = some (line, after.buffer))
  /-- It was lacking, and the last read has brought the rest of it. -/
  | brought {held data : Bytes} (grown : before.buffer <+: held) (lack : cutLine? held = none)
      (returned : before.source.Returns (.ok data) after.source)
      (few : data.length ≤ readChunkSize)
      (cut : cutLine? (held ++ data) = some (line, after.buffer))

private theorem awaitLine_found {line : Line} (awaited : receiver.awaitLine = (.ok line, after)) :
    Found receiver line after := by
  fun_induction awaitLine receiver with
  | case1 receiver line rest cut =>
    cases awaited
    exact .held rfl cut
  | case2 receiver lack next fills ih =>
    obtain ⟨data, returned, few, buffer⟩ := fill_brings fills
    cases ih awaited with
    | held unread cut =>
      rw [buffer] at cut
      exact .brought List.prefix_rfl lack (unread ▸ returned) few cut
    | brought grown lack later few cut =>
      have begun : receiver.buffer <+: next.buffer := buffer ▸ List.prefix_append _ _
      exact .brought (begun.trans grown) lack (later.later returned.leads) few cut
  | case3 => cases awaited

private theorem awaitLine_lacks {error : FrameError}
    (awaited : receiver.awaitLine = (.error error, after)) :
    cutLine? after.buffer = none := by
  fun_induction awaitLine receiver with
  | case1 => cases awaited
  | case2 receiver lack next fills ih => exact ih awaited
  | case3 receiver lack error next fills =>
    cases awaited
    rwa [fill_failed fills]

/-! ## Without frames -/

/-- Little is held: text whose line feed has not come, or what a read has left. -/
def Terse (receiver : Receiver) : Prop :=
  cutLine? receiver.buffer = none ∨ receiver.buffer.length < readChunkSize

private theorem awaitLine_terse (terse : receiver.Terse) : receiver.awaitLine.2.Terse := by
  rcases awaited : receiver.awaitLine with ⟨error | line, after⟩
  · exact .inl (awaitLine_lacks awaited)
  · right
    cases awaitLine_found awaited with
    | held unread cut =>
      rcases terse with lack | short
      · rw [lack] at cut
        cases cut
      · exact (cutLine?_length_lt cut).trans short
    | brought grown lack returned few cut =>
      exact Nat.lt_of_lt_of_le (length_rest_of_lack lack cut) few

theorem perform_terse {call : Call} (unframed : call ≠ .frame ∧ call ≠ .step)
    (terse : receiver.Terse) : (receiver.perform call).2.Terse := by
  cases call with
  | line => exact awaitLine_terse terse
  | frame => exact absurd rfl unframed.1
  | step => exact absurd rfl unframed.2
  | discard => exact .inr (by decide : 0 < readChunkSize)

/-- More is held only where a frame was looked for before. -/
theorem performAll_terse {calls : List Call} (unframed : .frame ∉ calls ∧ .step ∉ calls)
    (terse : receiver.Terse) : (receiver.performAll calls).2.Terse := by
  induction calls generalizing receiver with
  | nil => exact terse
  | cons call rest ih =>
    rw [List.mem_cons, not_or, List.mem_cons, not_or] at unframed
    have here := perform_terse ⟨Ne.symm unframed.1.1, Ne.symm unframed.2.1⟩ terse
    exact ih ⟨unframed.1.2, unframed.2.2⟩ here

/-! ## The lines that are longer than a piece -/

/-- How a line comes to be longer than a piece, on a receiver with this limit that was called like
this before. -/
inductive Overlong (maxPayload : Nat) (calls : List Call) (before : Receiver) (text : Bytes)
    (after : Receiver) : Prop where
  /-- Its line feed has come with the last read, before which less than a piece was held. -/
  | late {held data ending : Bytes} (grown : before.buffer <+: held) (plain : lineFeed ∉ held)
      (short : held.length < maxLineLength)
      (returned : before.source.Returns (.ok data) after.source)
      (few : data.length ≤ readChunkSize) (shape : LineEnding text ending)
      (line : held ++ data = text ++ ending ++ after.buffer)
      (length : text.length + 2 ≤ maxLineLength + readChunkSize) :
      Overlong maxPayload calls before text after
  /-- It was held as a whole, since a frame was looked for before. -/
  | inherited {ending : Bytes} (unread : after.source = before.source)
      (framed : .frame ∈ calls ∨ .step ∈ calls) (shape : LineEnding text ending)
      (line : before.buffer = text ++ ending ++ after.buffer)
      (length : text.length < capacity maxPayload) :
      Overlong maxPayload calls before text after

theorem Found.overlong {calls : List Call} {text : Bytes}
    (found : Found receiver (.whole text) after)
    (bounded : receiver.Bounded) (terse : .frame ∉ calls ∧ .step ∉ calls → receiver.Terse)
    (long : maxLineLength < text.length) :
    Overlong receiver.maxPayload calls receiver text after := by
  cases found with
  | held unread cut =>
    obtain ⟨_, ending, shape, line⟩ := cutLine?_whole cut
    have some := shape.length_pos
    have lengths := congrArg List.length line
    rw [List.length_append, List.length_append] at lengths
    have framed : .frame ∈ calls ∨ .step ∈ calls := by
      by_contra unframed
      rw [not_or] at unframed
      rcases terse unframed with lack | short
      · rw [lack] at cut
        cases cut
      · have chunk : readChunkSize < maxLineLength := by decide
        omega
    have fits : receiver.buffer.length ≤ capacity receiver.maxPayload := bounded
    exact .inherited unread framed shape line (by omega)
  | @brought held data grown lack returned few cut =>
    obtain ⟨plain, short⟩ := cutLine?_eq_none_iff.mp lack
    obtain ⟨_, ending, shape, line⟩ := cutLine?_whole cut
    have some := shape.length_pos
    have lengths := congrArg List.length line
    rw [List.length_append, List.length_append, List.length_append] at lengths
    exact .late grown plain short returned few shape line (by omega)

/-- While a line is awaited, at every read that this call comes to, less than a piece is held, and
no line feed; what is enough for a piece is handed out at once. So a line is a piece, or it is no
longer than one, or its line feed has come with the last read, or it was held as a whole since a
frame was looked for before. -/
theorem line_lengths (source : Source) (maxPayload : Nat) :
    (∀ receiver, Becomes ⟨.idle, { source, maxPayload }⟩ ⟨.reading .line, receiver⟩ →
      lineFeed ∉ receiver.buffer ∧ receiver.buffer.length < maxLineLength) ∧
    (∀ receiver : Receiver, Ends .line ⟨.looking .line false, receiver⟩ receiver.awaitLine.2 ∧
      ∀ held, During .line ⟨.looking .line false, receiver⟩ ⟨.reading .line, held⟩ →
        Ends .line ⟨.reading .line, held⟩ receiver.awaitLine.2 ∧
          lineFeed ∉ held.buffer ∧ held.buffer.length < maxLineLength) ∧
    (∀ receiver : Receiver, lineFeed ∉ receiver.buffer →
      maxLineLength ≤ receiver.buffer.length →
        receiver.awaitLine = (.ok (.piece (receiver.buffer.take maxLineLength)),
          { receiver with buffer := receiver.buffer.drop maxLineLength })) ∧
    ∀ calls line after,
      let receiver := (performAll { source, maxPayload } calls).2
      receiver.awaitLine = (.ok line, after) →
        lineFeed ∉ line.text ∧
          match line with
          | .piece text => text.length = maxLineLength
          | .whole text =>
            text.length ≤ maxLineLength ∨ Overlong maxPayload calls receiver text after := by
  refine ⟨?reading, ?awaiting, fun receiver => awaitLine_of_full, ?handedOut⟩
  case reading =>
    intro receiver path
    exact path.lacks_line trivial
  case awaiting =>
    intro receiver
    have ends := awaitLine_ends false receiver
    refine ⟨ends, ?_⟩
    intro held during
    exact ⟨ends.of_during rfl during, during.becomes.lacks_line trivial⟩
  case handedOut =>
    intro calls line after receiver awaited
    have path := performAll_becomes calls { source, maxPayload }
    have limit : receiver.maxPayload = maxPayload := path.maxPayload
    have bounded : receiver.Bounded := path.bounded (Nat.zero_le _)
    have terse (unframed : .frame ∉ calls ∧ .step ∉ calls) : receiver.Terse :=
      performAll_terse unframed (.inr (by decide : 0 < readChunkSize))
    have found := awaitLine_found awaited
    obtain ⟨consumed, shape, _⟩ := awaitLine_accounts awaited
    cases shape with
    | @whole text _ oneLine _ =>
      refine ⟨oneLine, ?_⟩
      by_cases short : text.length ≤ maxLineLength
      · exact .inl short
      · have overlong := found.overlong bounded terse (Nat.lt_of_not_le short)
        rw [limit] at overlong
        exact .inr overlong
    | piece oneLine full => exact ⟨oneLine, full⟩

/-- A source from which the first two bytes of a line come by themselves. -/
def lateSource (text : Bytes) : Source where
  script := [{ outcome := .ok (text.take 2) }, { outcome := .ok (text.drop 2 ++ [lineFeed]) }]

private theorem awaitLine_lateSource {text : Bytes} (plain : lineFeed ∉ text)
    (length : text.length = maxLineLength + 1) :
    ∃ after,
      awaitLine { source := lateSource text } = (.ok (.whole (stripReturn text)), after) := by
  have most : maxLineLength = 65536 := rfl
  have chunk : readChunkSize = 8192 := rfl
  have two : (text.take 2).length = 2 := by
    rw [List.length_take]
    omega
  have begins : text.take 2 ≠ [] := by
    rw [← List.length_pos_iff]
    omega
  have few : (text.take 2).take readChunkSize = text.take 2 := List.take_of_length_le (by omega)
  have drained : (text.take 2).drop readChunkSize = [] := List.drop_of_length_le (by omega)
  have held : cutLine? ([] ++ (text.take 2).take readChunkSize) = none := by
    rw [List.nil_append, few, cutLine?_eq_none_iff]
    exact ⟨fun member => plain (List.mem_of_mem_take member), by omega⟩
  rw [awaitLine_of_script rfl rfl rfl rfl begins,
    awaitLine_of_script held drained rfl rfl (List.concat_ne_nil _ _)]
  -- Behind the two bytes, seven reads fill less than a piece, and the eighth one more than that.
  have front : ([] ++ (text.take 2).take readChunkSize ++
      (text.drop 2 ++ [lineFeed]).take readChunkSize) ++
        (text.drop 2 ++ [lineFeed]).drop readChunkSize = text ++ [lineFeed] := by
    rw [few, List.append_assoc, List.take_append_drop, List.nil_append, ← List.append_assoc,
      List.take_append_drop]
  have first : ([] ++ (text.take 2).take readChunkSize ++
      (text.drop 2 ++ [lineFeed]).take readChunkSize).length = 2 + readChunkSize := by
    rw [few, List.nil_append, List.length_append, two, List.length_take, List.length_append,
      List.length_drop, List.length_singleton]
    omega
  apply awaitLine_of_late plain 6 front
  all_goals
    simp only [first]
    omega

private theorem perform_lateSource {text : Bytes} (plain : lineFeed ∉ text)
    (length : text.length = maxLineLength + 1) (unreturned : text.getLast? ≠ some carriageReturn) :
    (performAll { source := lateSource text } [.line]).1 = [.line (.ok (.whole text))] := by
  obtain ⟨after, awaited⟩ := awaitLine_lateSource plain length
  have line : stripReturn text = text := if_neg unreturned
  simp only [performAll, perform, awaited, line]
  rfl

/-- A line with one byte more than a piece, of which two bytes come first, is handed out whole. -/
theorem awaitLine_longerThanPiece :
    let text : Bytes := List.replicate (maxLineLength + 1) 120
    (performAll { source := lateSource text } [.line]).1 = [.line (.ok (.whole text))] ∧
      maxLineLength < text.length := by
  intro text
  have length : text.length = maxLineLength + 1 := List.length_replicate
  have plain : lineFeed ∉ text := fun member => nomatch (List.mem_replicate.mp member).2
  have unreturned : text.getLast? ≠ some carriageReturn := by
    intro last
    exact nomatch (List.mem_replicate.mp (List.mem_of_getLast? last)).2
  exact ⟨perform_lateSource plain length unreturned, length ▸ Nat.lt_succ_self _⟩

end Receiver

end Provisioning
