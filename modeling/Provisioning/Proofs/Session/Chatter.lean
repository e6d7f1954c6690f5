import Provisioning.Proofs.Session.DeviceLine
import Provisioning.Proofs.Session.Runs

/-! # What a run shows of a line

A line that is text and no command is shown to the operator as it is, unless it is too long to be
held back for its end. Then it comes in pieces, and each of them is taken for a line: a piece that
is text is shown as text, and what is left behind the last one is shown unless it is a command. So
a text is shown in full, in so many parts, if no cut divides it inside a character and what is left
is no command (`chatter_shown`), and otherwise it may not be (`chatter_misread`).
-/

namespace Provisioning

/-! ## Text in parts -/

namespace Bytes

/-- A text that is divided between two characters comes to two texts. -/
theorem divided_of_isValid {text : String} {front rest : Bytes}
    (same : ofText text = front ++ rest)
    (boundary : (⟨front.length⟩ : String.Pos.Raw).IsValid text) :
    ∃ first second, ofText first = front ∧ ofText second = rest := by
  obtain ⟨first, second, rfl, ends⟩ := String.Pos.Raw.isValid_iff_exists_append.mp boundary
  have length : (ofText first).length = front.length := by
    rw [length_ofText]
    exact (congrArg String.Pos.Raw.byteIdx ends).symm
  rw [ofText_append] at same
  obtain ⟨before, behind⟩ := List.append_inj same length
  exact ⟨first, second, before, behind⟩

/-- What stands behind a text in a text is text. -/
theorem exists_text_behind {whole front : String} {rest : Bytes}
    (same : ofText whole = ofText front ++ rest) : ∃ text, ofText text = rest := by
  have bytes : whole.toByteArray = front.toByteArray ++ rest.toByteArray := by
    rw [← toByteArray_ofText whole, ← toByteArray_ofText front, same]
    exact List.toByteArray_append
  have boundary : (⟨(ofText front).length⟩ : String.Pos.Raw).IsValid whole := by
    rw [length_ofText, String.Pos.Raw.isValid_iff_isValidUTF8_extract_zero]
    constructor
    · have lengths := congrArg List.length same
      rw [List.length_append, length_ofText, length_ofText] at lengths
      rw [String.Pos.Raw.le_iff, String.byteIdx_rawEndPos]
      exact Nat.le.intro lengths.symm
    · have before : (front.toByteArray ++ rest.toByteArray).extract 0 front.utf8ByteSize =
          front.toByteArray := ByteArray.extract_append_eq_left rfl
      rw [bytes, before]
      exact front.isValidUTF8
  obtain ⟨_, text, _, behind⟩ := divided_of_isValid same boundary
  exact ⟨text, behind⟩

/-- If bytes are text from the beginning to the end of each part, then each part is text. -/
theorem exists_texts (parts : List Bytes)
    (begins : ∀ first more, parts = first ++ more → ∃ text, ofText text = first.flatten) :
    ∃ texts : List String, texts.map ofText = parts := by
  induction parts using List.reverseRecOn with
  | nil => exact ⟨[], rfl⟩
  | append_singleton parts part ih =>
    obtain ⟨texts, same⟩ := ih fun first more split =>
      begins first (more ++ [part]) (by rw [split, List.append_assoc])
    obtain ⟨whole, all⟩ := begins (parts ++ [part]) [] (List.append_nil _).symm
    have behind : ofText whole = ofText (String.join texts) ++ part := by
      rw [all, ofText_join, same, List.flatten_append, List.flatten_singleton]
    obtain ⟨text, last⟩ := exists_text_behind behind
    refine ⟨texts ++ [text], ?_⟩
    rw [List.map_append, same, List.map_singleton, last]

private theorem length_flatten {parts : List Bytes} {size : Nat}
    (full : ∀ part ∈ parts, part.length = size) : parts.flatten.length = parts.length * size := by
  induction parts with
  | nil => exact (Nat.zero_mul size).symm
  | cons part rest ih =>
    rw [List.flatten_cons, List.length_append, full part List.mem_cons_self,
      ih fun other member => full other (List.mem_cons_of_mem _ member), List.length_cons,
      Nat.add_one_mul, Nat.add_comm]

/-- A text that is cut into pieces of one length, and only between two characters, comes to a text
for each of them and one for what is left. -/
theorem exists_texts_of_isValid {text : String} {parts : List Bytes} {last : Bytes} {size : Nat}
    (same : ofText text = parts.flatten ++ last) (full : ∀ part ∈ parts, part.length = size)
    (boundaries : ∀ cut ≤ parts.length, (⟨cut * size⟩ : String.Pos.Raw).IsValid text) :
    ∃ (texts : List String) (rest : String), texts.map ofText = parts ∧ ofText rest = last ∧
      String.join texts ++ rest = text := by
  obtain ⟨texts, cut⟩ : ∃ texts : List String, texts.map ofText = parts := by
    apply exists_texts
    rintro first more rfl
    have length : first.flatten.length = first.length * size :=
      length_flatten fun part member => full part (List.mem_append_left _ member)
    have boundary := boundaries first.length (by simp)
    rw [List.flatten_append, List.append_assoc] at same
    rw [← length] at boundary
    obtain ⟨front, _, before, _⟩ := divided_of_isValid same boundary
    exact ⟨front, before⟩
  rw [← cut, ← ofText_join] at same
  obtain ⟨rest, left⟩ := exists_text_behind same
  refine ⟨texts, rest, cut, left, ?_⟩
  apply ofText_injective
  rw [ofText_append, left, same]

end Bytes

/-! ## Lines in pieces -/

/-- A line was received to its end: the acts until it began, those in the middle of it, in which
pieces of it may have come, what was left of it behind them, and the acts since. -/
structure EndsLine (acts started since : List Act) (text : Bytes) (later : List Act) : Prop where
  acts : acts = started ++ since ++ .received (.line (.ok (.whole text))) :: later
  begun : AtLineStart started
  middle : ∀ act ∈ since, act.startsLine = false

private theorem Line.chatter_of_text {line : Line} {text : String}
    (same : line.text = Bytes.ofText text) :
    line.chatter = if Command.ofLine? text = none then [.echo text] else [] := by
  rw [Line.chatter, Bytes.text?_eq_some_iff.mpr same]

/-- In the middle of a line there is nothing to show but its pieces. -/
theorem Receiver.Reply.chatter_of_middle {reply : Receiver.Reply}
    (middle : reply.startsLine = false) :
    reply.chatter = reply.piece?.toList.flatMap fun piece => (Line.piece piece).chatter := by
  cases reply with
  | line result => cases result with
    | ok line => cases line with
      | whole text => cases middle
      | piece text => exact (List.flatMap_singleton _ _).symm
    | error error => rfl
  | frame result | step result | dropped count => rfl

private theorem chatter_of_middle {since : List Act}
    (middle : ∀ act ∈ since, act.startsLine = false) :
    chatter since = (pieces since).flatMap fun piece => (Line.piece piece).chatter := by
  have unstarted : ∀ reply ∈ replies since, reply.startsLine = false := by
    intro reply member
    have quiet := middle _ (mem_replies.mp member)
    simpa [Act.startsLine, Act.reply?] using quiet
  rw [chatter, pieces]
  generalize replies since = told at unstarted
  induction told with
  | nil => rfl
  | cons reply rest ih =>
    have here := Receiver.Reply.chatter_of_middle (unstarted reply List.mem_cons_self)
    have later := ih fun other member => unstarted other (List.mem_cons_of_mem _ member)
    rw [List.flatMap_cons, here, later, List.filterMap_cons]
    cases reply.piece? with
    | none => rfl
    | some piece => simp

/-- Lines and pieces that are not text are the only ones of which only the length is shown. -/
theorem undecodable_mem_chatter {acts : List Act} {size : Nat} :
    .undecodable size ∈ chatter acts ↔
      ∃ line, .received (.line (.ok line)) ∈ acts ∧ Bytes.text? line.text = none ∧
        line.text.length = size := by
  have told (line : Line) :
      .undecodable size ∈ line.chatter ↔
        Bytes.text? line.text = none ∧ line.text.length = size := by
    rw [Line.chatter]
    cases Bytes.text? line.text with
    | none => simp [eq_comm]
    | some text =>
      simp only [reduceCtorEq, false_and, iff_false]
      split <;> simp
  rw [chatter, List.mem_flatMap]
  constructor
  · rintro ⟨reply, member, shown⟩
    cases reply with
    | line result => cases result with
      | ok line => exact ⟨line, mem_replies.mp member, (told line).mp shown⟩
      | error error => cases shown
    | frame result | step result | dropped count => cases shown
  · rintro ⟨line, member, garbled⟩
    exact ⟨_, mem_replies.mpr member, (told line).mpr garbled⟩

namespace EndsLine

variable {acts started since later : List Act} {text : Bytes}

/-- What there is to show of a line stands between what there is of the lines before and behind. -/
theorem chatter_eq (ends : EndsLine acts started since text later) :
    chatter acts = chatter started ++
      ((pieces since).flatMap (fun piece => (Line.piece piece).chatter) ++
        (Line.whole text).chatter) ++ chatter later := by
  have last : chatter (.received (.line (.ok (.whole text))) :: later) =
      (Line.whole text).chatter ++ chatter later := rfl
  rw [ends.acts, chatter_append, chatter_append, chatter_of_middle ends.middle, last]
  simp only [List.append_assoc]

/-- A text that is divided between characters only is shown in as many parts as it was received
in, but for what is left of it if that is a command. -/
theorem shown {line : String} (ends : EndsLine acts started since text later)
    (full : ∀ piece ∈ pieces since, piece.length = maxLineLength)
    (same : Bytes.ofText line = (pieces since).flatten ++ text)
    (boundaries :
      ∀ cut ≤ (pieces since).length, (⟨cut * maxLineLength⟩ : String.Pos.Raw).IsValid line) :
    ∃ (parts : List String) (rest : String),
      parts.map Bytes.ofText = pieces since ∧ Bytes.ofText rest = text ∧
        String.join parts ++ rest = line ∧
          chatter acts = chatter started ++
            (parts.map .echo ++ if Command.ofLine? rest = none then [.echo rest] else []) ++
              chatter later := by
  obtain ⟨parts, rest, cut, left, joined⟩ := Bytes.exists_texts_of_isValid same full boundaries
  refine ⟨parts, rest, cut, left, joined, ?_⟩
  have last : (Line.whole text).chatter =
      if Command.ofLine? rest = none then [.echo rest] else [] := Line.chatter_of_text left.symm
  have front : (pieces since).flatMap (fun piece => (Line.piece piece).chatter) =
      parts.map .echo := by
    rw [← cut] at full ⊢
    rw [List.flatMap_map, List.map_eq_flatMap]
    refine List.flatMap_congr fun part member => ?_
    have length := full _ (List.mem_map_of_mem member)
    have unknown := Session.ofLine?_of_length length
    exact (Line.chatter_of_text rfl).trans (if_pos unknown)
  rw [ends.chatter_eq, last, front]

end EndsLine

namespace Session

/-! ## Runs -/

/-- What a line was on its way: it stands on the line in one piece, with its ending. -/
theorem Spends.of_endsLine {before after : Session} {acts started since later : List Act}
    {text : Bytes} (spent : before.Spends acts after)
    (ends : EndsLine acts started since text later) :
    (∃ parts ending behind,
      List.Forall₂ (Receiver.Reply.Consumes before.receiver.maxPayload) (replies started) parts ∧
        LineEnding text ending ∧
          before.receiver.Spends
            (parts.flatten ++ ((pieces since).flatten ++ text ++ ending) ++ behind)
            after.receiver) ∧
      lineFeed ∉ (pieces since).flatten ++ text ∧
        ∀ piece ∈ pieces since, piece.length = maxLineLength := by
  obtain ⟨parts, consumed, spends⟩ := spent
  rw [ends.acts, List.append_assoc] at consumed
  obtain ⟨past, others, rfl, first, consumed⟩ := exists_parts consumed
  obtain ⟨cut, rest, rfl, between, consumed⟩ := exists_parts consumed
  have same := flatten_eq_pieces ends.middle between
  have lengths := length_of_mem_pieces between
  cases consumed with
  | @cons _ part _ behind here there =>
    cases here with
    | line shape => cases shape with
      | @whole _ ending oneLine shape =>
        refine ⟨⟨past, ending, behind.flatten, first, shape, ?_⟩, ?_, ?_⟩
        · simpa [same] using spends
        · rw [List.mem_append, List.mem_flatten]
          rintro (⟨piece, member, inside⟩ | inside)
          · exact (lengths piece member).2 inside
          · exact oneLine inside
        · exact fun piece member => (lengths piece member).1

/-- A run shows what it has received of chatter and nothing else of it, in this order, and tells of
no line by its length but of lines and pieces that are not text. A line that it has received stands
on the wire as its pieces and what is left of it, and if it is shorter than a piece it was not
divided. A text that was divided between characters only is shown in these parts, but for what is
left of it if that is a command. -/
theorem chatter_shown (session : Session) :
    (∀ acts point, Runs ⟨.idle, session⟩ acts point →
      point.session.shown = session.shown ++ chatter acts ∧
      (∀ size, .undecodable size ∈ chatter acts ↔
        ∃ line, .received (.line (.ok line)) ∈ acts ∧ Bytes.text? line.text = none ∧
          line.text.length = size) ∧
      ∀ earlier text later, acts = earlier ++ .received (.line (.ok (.whole text))) :: later →
        ∃ started since, EndsLine acts started since text later ∧
        let bytes := (pieces since).flatten ++ text
        (∃ parts ending behind,
          List.Forall₂ (Receiver.Reply.Consumes session.receiver.maxPayload) (replies started)
            parts ∧
          LineEnding text ending ∧
          session.receiver.buffer ++ session.receiver.source.delivered
              (point.session.receiver.source.reads - session.receiver.source.reads) =
            parts.flatten ++ (bytes ++ ending) ++ behind ++ point.session.receiver.buffer) ∧
        lineFeed ∉ bytes ∧ (∀ piece ∈ pieces since, piece.length = maxLineLength) ∧
        (bytes.length < maxLineLength → pieces since = []) ∧
        ∀ line : String, Bytes.ofText line = bytes →
          (∀ cut ≤ (pieces since).length, (⟨cut * maxLineLength⟩ : String.Pos.Raw).IsValid line) →
          ∃ (parts : List String) (rest : String),
            parts.map Bytes.ofText = pieces since ∧ Bytes.ofText rest = text ∧
              String.join parts ++ rest = line ∧
                chatter acts = chatter started ++
                  (parts.map .echo ++ if Command.ofLine? rest = none then [.echo rest] else []) ++
                    chatter later) ∧
    ∃ acts, Runs ⟨.idle, session⟩ acts ⟨session.run.1.standing, session.run.2⟩ := by
  refine ⟨?shown, run_runs session⟩
  case shown =>
    intro acts point runs
    refine ⟨runs.shown, fun size => undecodable_mem_chatter, ?_⟩
    intro earlier text later received
    obtain ⟨started, since, rfl, begun, middle⟩ := exists_lineStart earlier
    have ends : EndsLine acts started since text later := ⟨received, begun, middle⟩
    obtain ⟨⟨parts, ending, behind, past, shape, spends⟩, oneLine, full⟩ :=
      runs.course.spends.of_endsLine ends
    refine ⟨started, since, ends, ⟨parts, ending, behind, past, shape, spends.delivered⟩, oneLine,
      full, ?_, ?_⟩
    · intro short
      rw [List.eq_nil_iff_forall_not_mem]
      intro piece member
      have inside := (List.sublist_flatten_of_mem member).length_le
      rw [full piece member] at inside
      rw [List.length_append] at short
      omega
    · intro line same boundaries
      exact ends.shown full same boundaries

/-! ## Lines that are not shown in full -/

/-- In an attentive session a piece that is not text is skipped like a line. -/
theorem turn_of_garbled {session : Session} (attentive : session.Attentive) {line : Line}
    {receiver : Receiver} {rest : Bytes}
    (awaited : session.check.receiver.awaitLine = (.ok line, receiver))
    (received : session.check.receiver.Leaves rest receiver)
    (garbled : Bytes.text? line.text = none) :
    ∃ after, session.turn = (.onward, after) ∧
      session.Leaves rest (session.ledger.take session.profile (.garbled line.text.length))
        after := by
  have checked := attentive.leaves.check
  have read : ∃ middle, session.check.listen = (.ok (.undecodable line.text.length), middle) ∧
      session.Leaves rest session.ledger middle := by
    simp only [listen, awaited, garbled]
    refine ⟨_, rfl, ?_⟩
    cases line with
    | whole text => exact checked.receive received
    | piece text => exact (checked.receive received).note _ _ _
  obtain ⟨middle, listened, leaves⟩ := read
  refine ⟨middle.skip line.text.length, ?_, ?_⟩
  · simp only [turn, checked.attentive.running, if_true, listened]
    rfl
  · exact ((leaves.note _ _ _).count _).deliver _

/-- A device that sends one line. -/
def lineSource (line : String) : Source where
  pending := Bytes.ofText line ++ [lineFeed]

/-- Of a line that is text, and is cut inside a character, both parts are skipped. -/
theorem run_dividedLine {filler : String} (plain : lineFeed ∉ Bytes.ofText filler)
    (length : (Bytes.ofText filler).length + 1 = maxLineLength) :
    ∃ after, run (start {} (lineSource (filler ++ "é")) {} {}) = (.finished after.tally, after) ∧
      after.shown = [.undecodable maxLineLength, .undecodable 1] := by
  let piece := Bytes.ofText filler ++ [0xC3]
  have sent : (lineSource (filler ++ "é")).pending = piece ++ [0xA9, lineFeed] := by
    have letter : Bytes.ofText "é" = [0xC3, 0xA9] := by decide
    simp [lineSource, piece, Bytes.ofText_append, letter]
  have full : piece.length = maxLineLength := by
    rw [List.length_append]
    exact length
  have endless : lineFeed ∉ piece := by
    rw [List.mem_append]
    rintro (inside | last)
    · exact plain inside
    · exact absurd last (by decide)
  have garbled : Bytes.text? piece = none := by
    cases decoded : Bytes.text? piece with
    | none => rfl
    | some text =>
      obtain ⟨rest, same⟩ := Bytes.exists_text_behind (Bytes.text?_eq_some_iff.mp decoded).symm
      have broken : Bytes.text? [0xC3] = none := by decide
      rw [Bytes.text?_eq_some_iff.mpr same.symm] at broken
      cases broken
  have attentive : (start {} (lineSource (filler ++ "é")) {} {}).Attentive :=
    ⟨rfl, rfl, nofun, rfl, rfl, rfl, rfl, rfl⟩
  have begun := attentive.leaves.note .info "awaiting device commands" []
  have awaited := Receiver.awaitLine_of_plain endless full 8
    (start {} (lineSource (filler ++ "é")) {} {}).receiver sent
    (by simp [start, readChunkSize, maxLineLength])
  obtain ⟨middle, turned, skipped⟩ :=
    turn_of_garbled begun.attentive awaited ⟨rfl, rfl, rfl, rfl⟩ garbled
  have behind : middle.stream = [0xA9, lineFeed] := skipped.stream
  obtain ⟨after, ran, account⟩ := loop_of_attentive skipped.attentive
    (.of_length_lt _ (by rw [behind]; decide))
  refine ⟨after, ?_, ?_⟩
  · rw [run, loop_eq, turned]
    exact ran
  · have events : after.books.events = after.ledger.events := rfl
    have profile : middle.profile = {} := skipped.profile
    have found : firstMessage? (Profile.maxPayload {}) [0xA9, lineFeed] =
        some (.garbled 1, []) := by decide
    rw [shown, events, account, behind, profile, Ledger.meaning, messages_of_some found,
      messages_nil, skipped.ledger, ← full]
    rfl

/-- A device sends one line, which is text and no command, and not all of it is shown: what stands
behind the length at which a line is cut is taken for a command, or a character is divided there. -/
theorem chatter_misread :
    (∃ line after,
      lineFeed ∉ Bytes.ofText line ∧ (∀ command : Command, line ≠ command.literal) ∧
        run (start {} (lineSource line) {} {}) = (.finished after.tally, after) ∧
          ¬∃ parts : List String, String.join parts = line ∧ after.shown = parts.map .echo) ∧
    ∃ line after,
      lineFeed ∉ Bytes.ofText line ∧ (∀ command : Command, line ≠ command.literal) ∧
        run (start {} (lineSource line) {} {}) = (.finished after.tally, after) ∧
          after.shown = [.undecodable maxLineLength, .undecodable 1] := by
  have longer {line : String} (long : maxLineLength ≤ (Bytes.ofText line).length)
      (command : Command) : line ≠ command.literal := by
    rintro rfl
    exact absurd command.length_literal.2 (Nat.not_lt_of_le long)
  have plain (count : Nat) : lineFeed ∉ List.replicate count (120 : UInt8) :=
    fun member => nomatch (List.mem_replicate.mp member).2
  constructor
  · obtain ⟨text, same⟩ : ∃ text, Bytes.ofText text = List.replicate maxLineLength 120 :=
      exists_chatter maxLineLength
    have full : (Bytes.ofText text).length = maxLineLength := by
      rw [same, List.length_replicate]
    have endless : lineFeed ∉ Bytes.ofText text := same ▸ plain maxLineLength
    obtain ⟨after, ran, account⟩ := run_chatterSource endless full
    have source : lineSource (text ++ Command.hostCheck.literal) =
        chatterSource (Bytes.ofText text) := by
      simp [lineSource, chatterSource, Bytes.ofText_append]
    refine ⟨text ++ Command.hostCheck.literal, after, ?_, longer ?_, source ▸ ran, ?_⟩
    · rw [Bytes.ofText_append, List.mem_append]
      rintro (inside | inside)
      · exact endless inside
      · exact absurd inside (by decide)
    · rw [Bytes.ofText_append, List.length_append, full]
      exact Nat.le_add_right _ _
    · rintro ⟨parts, joined, shown⟩
      have events : after.shown = after.ledger.events.filter Event.isChatter := rfl
      have echoes : parts.map Event.echo = [.echo text] := by
        rw [← shown, events, account]
        rfl
      obtain ⟨part, rfl, told⟩ := List.map_eq_singleton_iff.mp echoes
      cases told
      have lengths := congrArg (fun line => (Bytes.ofText line).length) joined
      simp only [Bytes.ofText_join, Bytes.ofText_append, List.map_singleton, List.flatten_singleton,
        List.length_append] at lengths
      have := Command.hostCheck.length_literal.1
      omega
  · obtain ⟨filler, same⟩ : ∃ text, Bytes.ofText text = List.replicate (maxLineLength - 1) 120 :=
      exists_chatter (maxLineLength - 1)
    have length : (Bytes.ofText filler).length + 1 = maxLineLength := by
      rw [same, List.length_replicate]
      rfl
    have endless : lineFeed ∉ Bytes.ofText filler := same ▸ plain _
    obtain ⟨after, ran, shown⟩ := run_dividedLine endless length
    refine ⟨filler ++ "é", after, ?_, longer ?_, ran, shown⟩
    · rw [Bytes.ofText_append, List.mem_append]
      rintro (inside | inside)
      · exact endless inside
      · exact absurd inside (by decide)
    · rw [Bytes.ofText_append, List.length_append, ← length]
      exact Nat.add_le_add_left (by decide) _

end Session

end Provisioning
