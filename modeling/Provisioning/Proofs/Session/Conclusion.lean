import Provisioning.Proofs.Session.Intake

/-! # How an exchange ends

While the frame of an exchange is awaited, nothing is taken off the buffer, told or written
(`Lingers`). So all that an exchange does it does in its last step, and what it leaves behind is
told by that step and by its supply: what was held when it began and what has arrived since.

`EndsBy` lists the ways in which an exchange ends and what each of them takes off the supply, and
`dispatch_concludes` says that every exchange that ends does so in exactly one of them.
-/

namespace Provisioning

/-- The ways in which an exchange can end. -/
inductive Way where
  /-- Its frame has arrived. -/
  | frame
  /-- The frame is larger than is accepted. -/
  | oversized
  /-- The program is to stop, or the time for the exchange is up. -/
  | givenUp
  /-- The line has failed. -/
  | failed
  deriving DecidableEq, Repr

/-- The way in which an exchange has ended, as it can be seen from outside. Of what is abandoned
first, only a frame that is too large is called a payload. -/
def Way.of : Ending → List Event → Way
  | .failed _, _ => .failed
  | _, .abandoned _ reason :: _ => if reason.toList.head? = some 'p' then .oversized else .givenUp
  | _, _ => .frame

private theorem FrameError.head?_message_oversized (size max : Nat) :
    (oversized size max).message.toList.head? = some 'p' := by
  unfold message
  simp only [String.toList_append, List.head?_append]
  simp [toString]

namespace KeyPart

theorem announcedBy?_literal (part : KeyPart) : announcedBy? part.command.literal = some part := by
  cases part <;> decide

/-- The bytes of a frame that are recorded. -/
def excerpt (part : KeyPart) (profile : Profile) (frame : Frame) : Bytes :=
  part.select profile.certRange frame.payload

/-- What is told of a frame that has arrived, and what becomes of the host's files. -/
inductive Settles (part : KeyPart) (profile : Profile) (frame : Frame) (before after : FileTree) :
    List Event → Prop where
  | mismatched (wrong : frame.declared ≠ frame.computed) (kept : after = before) :
      Settles part profile frame before after
        [.checksumMismatch part frame.declared frame.computed]
  | recorded (right : frame.declared = frame.computed)
      (appended : before.append profile.keyLog
        (Bytes.ofText (Base64.mime (part.excerpt profile frame))) = .ok after) :
      Settles part profile frame before after
        [.keyMaterial part (part.excerpt profile frame).length
          (Base64.mime (part.excerpt profile frame))]
  | refused {error : IoError} (right : frame.declared = frame.computed)
      (refused : before.append profile.keyLog
        (Bytes.ofText (Base64.mime (part.excerpt profile frame))) = .error error)
      (kept : after = before.tried) :
      Settles part profile frame before after
        [.keyMaterial part (part.excerpt profile frame).length
          (Base64.mime (part.excerpt profile frame)),
          .abandoned part.command (SessionError.keyLog profile.keyLog error).message]

end KeyPart

namespace Session

/-- The bytes among which an exchange looks for its frame: those held when it began, and those that
have arrived since. -/
def supply (before after : Session) : Bytes :=
  before.receiver.buffer ++
    before.receiver.source.delivered (after.receiver.source.reads - before.receiver.source.reads)

private theorem supply_eq {before after : Session} {consumed : Bytes}
    (spent : before.receiver.Spends consumed after.receiver) :
    before.supply after = consumed ++ after.receiver.buffer :=
  spent.delivered

/-- An exchange that began in one session, and makes its last step in another, leaves a third: the
way in which it ends, how it comes out, and what the operator is told. -/
inductive EndsBy (exchange : Exchange) (before last after : Session) :
    Way → Ending → List Event → Prop where
  | frame {frame : Frame} {told : List Event}
      (first : Frame.decode before.receiver.maxPayload (before.supply after) =
        .frame frame after.receiver.buffer)
      (spent : before.receiver.Spends frame.wire after.receiver)
      (settles : exchange.part.Settles before.profile frame last.files after.files told) :
      EndsBy exchange before last after .frame .done told
  | oversized {size : Nat}
      (first : Frame.decode before.receiver.maxPayload (before.supply after) =
        .oversized size after.receiver.buffer)
      (spent : before.receiver.Spends (Bytes.ofWord (UInt32.ofNat size)) after.receiver) :
      EndsBy exchange before last after .oversized .done
        [.abandoned exchange.part.command
          (FrameError.oversized size before.receiver.maxPayload).message]
  | cancelled (stopped : last.check.running = false)
      (spent : before.receiver.Spends (before.supply after) after.receiver)
      (emptied : after.receiver.buffer = []) :
      EndsBy exchange before last after .givenUp .done
        [.abandoned exchange.part.command "cancelled"]
  | expired {limit : Duration} (running : last.check.running = true)
      (late : last.check.expired? exchange = some limit)
      (spent : before.receiver.Spends (before.supply after) after.receiver)
      (emptied : after.receiver.buffer = []) :
      EndsBy exchange before last after .givenUp .done
        [.abandoned exchange.part.command
          s!"no complete frame within {limit.text} ({(before.supply after).length} bytes dropped)"]
  | failed {error : FrameError}
      (fails : before.receiver.source.Fails error after.receiver.source)
      (lasting : error.isTimeout = false)
      (spent : before.receiver.Spends [] after.receiver) :
      EndsBy exchange before last after .failed (.failed (.frame error)) []

namespace EndsBy

variable {exchange : Exchange} {before last after : Session} {way : Way} {ending : Ending}
  {told : List Event}

/-- The way in which an exchange has ended can be seen from outside. -/
theorem way_eq (ends : EndsBy exchange before last after way ending told) :
    Way.of ending told = way := by
  cases ends with
  | frame _ _ settles => cases settles <;> rfl
  | oversized => exact if_pos (FrameError.head?_message_oversized _ _)
  | cancelled | failed => rfl
  | expired => exact if_neg (by simp [String.toList_append, toString])

theorem spends (ends : EndsBy exchange before last after way ending told) :
    ∃ consumed, before.receiver.Spends consumed after.receiver := by
  cases ends with
  | frame _ spent | oversized _ spent | cancelled _ spent | expired _ _ spent
  | failed _ _ spent => exact ⟨_, spent⟩

end EndsBy

/-! ## Waiting -/

/-- Nothing has been told, written or taken off the buffer, although more may have been read. -/
structure Lingers (before after : Session) : Prop where
  profile : after.profile = before.profile
  events : after.events = before.events
  transmitter : after.transmitter = before.transmitter
  spent : before.receiver.Spends [] after.receiver
  leads : before.receiver.source.Leads after.receiver.source

namespace Lingers

variable {exchange : Exchange} {before middle after : Session}

theorem trans (left : before.Lingers middle) (right : middle.Lingers after) :
    before.Lingers after :=
  ⟨right.profile.trans left.profile, right.events.trans left.events,
    right.transmitter.trans left.transmitter, left.spent.trans right.spent,
    left.leads.trans right.leads⟩

theorem check (session : Session) : session.Lingers session.check where
  profile := ((Works.refl session).check).profile
  events := by
    obtain ⟨_, _, kept⟩ := check_kept session
    rw [kept]
  transmitter := by
    obtain ⟨_, _, kept⟩ := check_kept session
    rw [kept]
  spent := .of_untimed (intake_check session)
  leads := ((Works.refl session).check).source

theorem disturbed (clock : Nat) (running : Bool) (files : FileTree) (session : Session) :
    session.Lingers (session.disturbed clock running files) :=
  ⟨rfl, rfl, rfl, .of_untimed rfl, .outside _ _ _⟩

theorem heed (command : Command) (session : Session) : session.Lingers (session.heed command) :=
  ⟨rfl, rfl, rfl, .of_untimed rfl, .refl⟩

/-- A read that brings no whole frame only adds to the buffer. -/
theorem looked {receiver : Receiver} {result : Except FrameError (Option Frame)}
    (looks : before.Looks exchange result receiver)
    (spent : before.check.receiver.Spends [] receiver) :
    before.Lingers { before.check with receiver } := by
  have leads := Receiver.stepFrame_leads looks.stepped
  exact (check before).trans ⟨rfl, rfl, rfl, spent, leads⟩

/-- What has been read in the meantime is part of the supply. -/
theorem supply (lingers : before.Lingers middle) {consumed : Bytes}
    (spent : middle.receiver.Spends consumed after.receiver) :
    before.supply after = middle.supply after := by
  have whole := lingers.spent.trans spent
  rw [supply_eq whole, supply_eq spent, List.nil_append]

end Lingers

/-- A step that does not end an exchange, or ends it only to wait for ever, tells nothing. -/
theorem advance_lingers {exchange : Exchange} {session after : Session} {progress : Progress}
    (advanced : session.advance exchange = (progress, after))
    (undecided : progress = .pending ∨ progress = .ended (.waiting exchange)) :
    session.Lingers after ∧ after.files = session.files := by
  have looked {result : Except FrameError (Option Frame)} {receiver : Receiver}
      (looks : session.Looks exchange result receiver)
      (unfinished : result = .ok none ∨ ∃ error, result = .error error ∧ error.isTimeout = true) :
      session.Lingers { session.check with receiver } ∧
        { session.check with receiver }.files = session.files := by
    obtain ⟨consumed, shape, accounts⟩ := Receiver.stepFrame_accounts looks.stepped
    refine ⟨.looked looks ?_, ((Works.refl session).check).files⟩
    rcases unfinished with rfl | ⟨error, rfl, timeout⟩
    · cases shape
      exact accounts.spends
    · cases shape with
      | oversized => cases timeout
      | failed => exact accounts.spends
  cases advance_cases advanced with
  | incomplete looks => exact looked looks (.inl rfl)
  | idle looks timeout _ => exact looked looks (.inr ⟨_, rfl, timeout⟩)
  | forsaken looks timeout _ => exact looked looks (.inr ⟨_, rfl, timeout⟩)
  | cancelled | expired | arrived | oversized | failed => simp at undecided

/-! ## The last step -/

@[simp] theorem events_deliver (event : Event) (session : Session) :
    (session.deliver event).events = session.events.push event := by
  simp only [deliver]
  split <;> rfl

@[simp] theorem transmitter_deliver (event : Event) (session : Session) :
    (session.deliver event).transmitter = session.transmitter := by
  simp only [deliver]
  split <;> rfl

@[simp] theorem transmitter_note (level : Level) (message : String)
    (fields : List (String × Journal.Value)) (session : Session) :
    (session.note level message fields).transmitter = session.transmitter := rfl

@[simp] theorem transmitter_count (change : Tally → Tally) (session : Session) :
    (session.count change).transmitter = session.transmitter := rfl

@[simp] theorem events_note (level : Level) (message : String)
    (fields : List (String × Journal.Value)) (session : Session) :
    (session.note level message fields).events = session.events := rfl

@[simp] theorem events_count (change : Tally → Tally) (session : Session) :
    (session.count change).events = session.events := rfl

/-- More has been told, and nothing written. -/
structure Speaks (before : Session) (told : List Event) (after : Session) : Prop where
  events : after.events.toList = before.events.toList ++ told
  transmitter : after.transmitter = before.transmitter

theorem Speaks.later {before middle after : Session} {told : List Event}
    (speaks : middle.Speaks told after) (events : middle.events = before.events)
    (transmitter : middle.transmitter = before.transmitter) : before.Speaks told after :=
  ⟨events ▸ speaks.events, speaks.transmitter.trans transmitter⟩

theorem abandon_speaks (command : Command) (reason : String) (session : Session) :
    session.Speaks [.abandoned command reason] (session.abandon command reason) := by
  constructor <;> simp [abandon]

theorem cancel_speaks (exchange : Exchange) (session : Session) :
    session.Speaks [.abandoned exchange.part.command "cancelled"] (session.cancel exchange) := by
  constructor <;> simp [cancel, abandon]

theorem expire_speaks (exchange : Exchange) (limit : Duration) (session : Session) :
    session.Speaks [.abandoned exchange.part.command
      s!"no complete frame within {limit.text} ({session.receiver.buffer.length} bytes dropped)"]
      (session.expire exchange limit) := by
  constructor <;> simp [expire, abandon, Receiver.discard]

theorem accept_settles (part : KeyPart) (frame : Frame) (session : Session) :
    ∃ told, session.Speaks told (session.accept part frame) ∧
      part.Settles session.profile frame session.files (session.accept part frame).files told := by
  have shown : session.Speaks [.keyMaterial part (part.excerpt session.profile frame).length
      (Base64.mime (part.excerpt session.profile frame))] (session.display part frame) := by
    constructor <;> simp [display, entry, KeyPart.excerpt]
  generalize accepted : session.accept part frame = after
  cases accept_cases accepted with
  | mismatched wrong =>
    have kept := ((Works.refl session).reportMismatch part frame).files
    refine ⟨_, ?_, .mismatched (by simpa [Frame.verified] using wrong) kept⟩
    constructor <;> simp [reportMismatch]
  | recorded right appended =>
    exact ⟨_, ⟨shown.events, shown.transmitter⟩,
      .recorded (by simpa [Frame.verified] using right) appended⟩
  | @refused error right refused =>
    generalize left : { session.display part frame with files := session.files.tried } = tried
    have events : tried.events = (session.display part frame).events := by rw [← left]
    have transmitter : tried.transmitter = (session.display part frame).transmitter := by
      rw [← left]
    have files : tried.files = session.files.tried := by rw [← left]
    have abandoned := abandon_speaks part.command
      (SessionError.keyLog session.profile.keyLog error).message tried
    have kept := ((Works.refl tried).abandon part.command
      (SessionError.keyLog session.profile.keyLog error).message).files.trans files
    refine ⟨_, ⟨?_, abandoned.transmitter.trans (transmitter.trans shown.transmitter)⟩,
      .refused (by simpa [Frame.verified] using right) refused kept⟩
    rw [abandoned.events, events, shown.events, List.append_assoc]
    rfl

/-- What the receiving side has come to is what is left of it when the exchange has ended. -/
theorem Lingers.spends {before middle after : Session} (lingers : before.Lingers middle)
    {receiver : Receiver} {consumed : Bytes}
    (accounts : middle.receiver.Accounts consumed receiver)
    (same : after.intake = receiver.untimed) : before.receiver.Spends consumed after.receiver := by
  have ended : middle.receiver.Spends (consumed ++ []) after.receiver :=
    accounts.spends.trans (.of_untimed same)
  rw [List.append_nil] at ended
  exact lingers.spent.trans ended

/-- An exchange that is given up empties the buffer. -/
theorem spends_of_discard {session after : Session}
    (same : after.intake = session.check.receiver.discard.2.untimed) :
    session.supply after = session.check.receiver.buffer ∧
      session.receiver.Spends (session.supply after) after.receiver ∧
        after.receiver.buffer = [] := by
  have emptied : after.receiver.buffer = [] := congrArg Receiver.buffer same
  have spent := (Lingers.check session).spends session.check.receiver.discard_accounts same
  have supply := supply_eq spent
  rw [emptied, List.append_nil] at supply
  exact ⟨supply, supply ▸ spent, emptied⟩

/-- What the last read of an exchange has come to is what the exchange takes off the buffer. -/
theorem Looks.consumes {exchange : Exchange} {session after : Session} {receiver : Receiver}
    {result : Except FrameError (Option Frame)} (looks : session.Looks exchange result receiver)
    (same : after.intake = receiver.untimed) :
    ∃ consumed, Receiver.FrameConsumes session.receiver.maxPayload result consumed ∧
      session.receiver.Spends consumed after.receiver := by
  have checked := Lingers.check session
  obtain ⟨consumed, shape, accounts⟩ := Receiver.stepFrame_accounts looks.stepped
  rw [checked.spent.1] at shape
  exact ⟨consumed, shape, checked.spends accounts same⟩

private theorem advance_endsBy {exchange : Exchange} {session after : Session} {ending : Ending}
    (advanced : session.advance exchange = (.ended ending, after))
    (ended : ending ≠ .waiting exchange) :
    ∃ told, session.Speaks told after ∧
      ∃ way, EndsBy exchange session session after way ending told := by
  have checked := Lingers.check session
  cases advance_cases advanced with
  | cancelled stopped =>
    have same : (session.check.cancel exchange).intake = session.check.receiver.discard.2.untimed :=
      intake_abandon _ _ _
    obtain ⟨_, spent, emptied⟩ := spends_of_discard same
    have speaks := (cancel_speaks exchange session.check).later checked.events checked.transmitter
    exact ⟨_, speaks, _, .cancelled stopped spent emptied⟩
  | @expired limit running late =>
    have same : (session.check.expire exchange limit).intake =
        session.check.receiver.discard.2.untimed := intake_abandon _ _ _
    obtain ⟨supply, spent, emptied⟩ := spends_of_discard same
    have speaks := (expire_speaks exchange limit session.check).later checked.events
      checked.transmitter
    have ends := EndsBy.expired running late spent emptied
    rw [supply] at ends
    exact ⟨_, speaks, _, ends⟩
  | @arrived frame receiver looks =>
    obtain ⟨told, speaks, settles⟩ := accept_settles exchange.part frame
      ({ session.check with receiver }.note .trace "frame received"
        [("size", .number frame.payload.length)])
    change exchange.part.Settles session.check.profile frame session.check.files _ told at settles
    rw [checked.profile, ((Works.refl session).check).files] at settles
    obtain ⟨consumed, shape, spent⟩ := looks.consumes (intake_accept exchange.part frame
      ({ session.check with receiver }.note .trace "frame received"
        [("size", .number frame.payload.length)]))
    cases shape with
    | frame accepted declarable =>
      have first := Frame.decode_eq_frame_iff.mpr ⟨accepted, declarable, supply_eq spent⟩
      exact ⟨told, speaks.later checked.events checked.transmitter, _, .frame first spent settles⟩
  | forsaken => exact absurd rfl ended
  | @oversized size max receiver looks =>
    have speaks := (abandon_speaks exchange.part.command (FrameError.oversized size max).message
      { session.check with receiver }).later checked.events checked.transmitter
    obtain ⟨consumed, shape, spent⟩ := looks.consumes (intake_abandon exchange.part.command
      (FrameError.oversized size max).message { session.check with receiver })
    cases shape with
    | oversized large declarable =>
      have first := Frame.decode_eq_oversized_iff.mpr ⟨large, declarable, supply_eq spent⟩
      exact ⟨_, speaks, _, .oversized first spent⟩
    | failed link =>
      rcases link with closed | ⟨cause, io⟩
      · cases closed
      · cases io
  | @failed error receiver looks lasting small =>
    have fails : session.receiver.source.Fails error receiver.source := by
      rcases Receiver.stepFrame_history looks.stepped with fails | ⟨⟨size, max, refused⟩, _⟩
      · exact Source.Fails.later fails checked.leads
      · cases refused
        exact absurd rfl (small size max)
    have speaks : session.Speaks [] { session.check with receiver } := by
      refine Speaks.later ?_ checked.events checked.transmitter
      exact ⟨(List.append_nil _).symm, rfl⟩
    have same : intake { session.check with receiver } = receiver.untimed := rfl
    obtain ⟨consumed, shape, spent⟩ := looks.consumes same
    cases shape with
    | oversized => exact absurd rfl (small _ _)
    | failed link => exact ⟨[], speaks, _, .failed fails lasting spent⟩

/-! ## Exchanges -/

theorem EndsBy.earlier {exchange : Exchange} {before last after : Session} {way : Way}
    {ending : Ending} {told : List Event} (lingers : before.Lingers last)
    (ends : EndsBy exchange last last after way ending told) :
    EndsBy exchange before last after way ending told := by
  obtain ⟨consumed, spent⟩ := ends.spends
  have supply := lingers.supply spent
  have limit : last.receiver.maxPayload = before.receiver.maxPayload := lingers.spent.1
  have earlier {consumed : Bytes} (spent : last.receiver.Spends consumed after.receiver) :
      before.receiver.Spends consumed after.receiver := lingers.spent.trans spent
  cases ends with
  | frame first spent settles =>
    rw [limit, ← supply] at first
    rw [lingers.profile] at settles
    exact .frame first (earlier spent) settles
  | oversized first spent =>
    rw [limit, ← supply] at first
    rw [limit]
    exact .oversized first (earlier spent)
  | cancelled stopped spent emptied =>
    rw [← supply] at spent
    exact .cancelled stopped (earlier spent) emptied
  | expired running late spent emptied =>
    rw [← supply] at spent ⊢
    exact .expired running late (earlier spent) emptied
  | failed fails lasting spent => exact .failed (fails.later lingers.leads) lasting (earlier spent)

/-- How an exchange that began in one session, and ends with a step in another, comes out. -/
structure Concludes (exchange : Exchange) (before last : Session) (ending : Ending)
    (after : Session) : Prop where
  lingers : before.Lingers last
  step : last.advance exchange = (.ended ending, after)
  /-- Nothing is written, and what is told is told in one of the ways. -/
  told : ∃ told, before.Speaks told after ∧
    ∃! way, EndsBy exchange before last after way ending told

private theorem advance_concludes {exchange : Exchange} {before last after : Session}
    {ending : Ending}
    (lingers : before.Lingers last) (advanced : last.advance exchange = (.ended ending, after))
    (ended : ending ≠ .waiting exchange) : before.Concludes exchange last ending after := by
  refine ⟨lingers, advanced, ?_⟩
  obtain ⟨told, speaks, way, ends⟩ := advance_endsBy advanced ended
  refine ⟨told, speaks.later lingers.events lingers.transmitter, way, ends.earlier lingers, ?_⟩
  intro other otherwise
  rw [← otherwise.way_eq, ends.way_eq]

/-- Whatever happens from outside while a frame is awaited, the exchange comes to its last step. -/
theorem Awaits.concludes {exchange : Exchange} {session after : Session} {acts : List Act}
    {ending : Ending} (awaits : Awaits exchange session acts ending after) :
    ending = .waiting exchange ∨ ∀ before : Session, before.Lingers session →
      ∃ last, before.Concludes exchange last ending after := by
  induction awaits with
  | @ended session after ending advanced =>
    by_cases waiting : ending = .waiting exchange
    · exact .inl waiting
    · exact .inr fun before lingers => ⟨session, advance_concludes lingers advanced waiting⟩
  | @onward session middle after progress acts ending advanced undecided rest ih =>
    have further := (advance_lingers advanced undecided).1
    exact ih.imp_right fun ends before lingers => ends before (lingers.trans further)
  | @disturbed session after acts ending clock running files rest ih =>
    have further := Lingers.disturbed clock running files session
    exact ih.imp_right fun ends before lingers => ends before (lingers.trans further)

theorem exchange_concludes (exchange : Exchange) (session : Session) :
    (session.exchange exchange).1 = .waiting exchange ∨
      ∀ before : Session, before.Lingers session → before.files = session.files →
        ∃ last : Session, last.files = before.files ∧ before.Concludes exchange last
          (session.exchange exchange).1 (session.exchange exchange).2 := by
  fun_induction Session.exchange exchange session with
  | case1 session ending after advanced =>
    by_cases waiting : ending = .waiting exchange
    · exact .inl waiting
    · refine .inr fun before lingers kept => ⟨session, kept.symm, ?_⟩
      exact advance_concludes lingers advanced waiting
  | case2 session after advanced ih =>
    obtain ⟨further, files⟩ := advance_lingers advanced (.inl rfl)
    refine ih.imp_right fun ends before lingers kept => ?_
    exact ends before (lingers.trans further) (kept.trans files.symm)

/-- However the source, the clock and the flag behave and whatever is held when it begins, an
exchange that ends does so in exactly one of four ways. If the host's files are left alone in the
meantime, those in which the record is looked for are the ones that it began with. -/
theorem dispatch_concludes (part : KeyPart) (session : Session) :
    let exchange : Exchange := ⟨part, session.clock⟩
    (∀ acts ending after, Dispatches part.command.literal session acts ending after →
        ending = .waiting exchange ∨ ∃ last, session.Concludes exchange last ending after) ∧
      ((session.dispatch part.command.literal).1 = .waiting exchange ∨
        ∃ last : Session, last.files = session.files ∧ session.Concludes exchange last
          (session.dispatch part.command.literal).1 (session.dispatch part.command.literal).2) := by
  intro exchange
  have announced := part.announcedBy?_literal
  have begun := Lingers.heed part.command session
  constructor
  · intro acts ending after taken
    cases taken with
    | ordinary ordinary =>
      rw [announced] at ordinary
      cases ordinary
    | announced same awaits =>
      rw [announced] at same
      cases same
      exact awaits.concludes.imp_right fun ends => ends session begun
  · rw [dispatch_of_announced announced]
    exact (exchange_concludes exchange _).imp_right fun ends => ends session begun rfl

end Session

end Provisioning
