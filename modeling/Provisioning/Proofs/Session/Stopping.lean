import Provisioning.Proofs.Session.Timeline

/-! # How a run winds down

Once the flag that keeps a session running is clear and stays so, not much more happens, wherever
the run stands then. A line that is awaited may still come in and be taken up, but no other one
behind it (`Path.dispatches_le`). A frame that is awaited may still come in and be recorded
(`Path.records_le`), but one whose line is only taken up now is not even waited for
(`Path.cancels`). And the run ends without a failure, unless its line fails from then on
(`Path.returns`). `run_winds_down` puts these together for every instant that a run comes through.
-/

namespace Provisioning

namespace Deed

def isCheck : Deed → Bool
  | checked _ => true
  | read _ | returned _ | dispatched _ | told _ | recorded _ => false

/-- What is done apart from checks. -/
def others (deeds : List Deed) : List Deed := deeds.filter (!·.isCheck)

private theorem others_append (deeds more : List Deed) :
    others (deeds ++ more) = others deeds ++ others more :=
  List.filter_append _ _

private theorem others_eq_nil {deeds : List Deed} (checks : ∀ deed ∈ deeds, deed.isCheck = true) :
    others deeds = [] := by
  rw [others, List.filter_eq_nil_iff]
  intro deed done
  simp [checks deed done]

end Deed

namespace Stage

/-- A line is looked for and has not been taken up. -/
def listens : Stage → Bool
  | looking purpose _ | reading purpose | answered purpose _ => purpose.exchange?.isNone
  | idle | checking _ | deciding _ | shown _ _ | ended _ => false

/-- A frame is looked for, or its record is about to be added to the key log. -/
def mayRecord : Stage → Bool
  | looking purpose _ | reading purpose | answered purpose _ => purpose.exchange?.isSome
  | shown _ _ => true
  | idle | checking _ | deciding _ | ended _ => false

/-- The run has checked whether to go on and is about to act on it. -/
def isDeciding : Stage → Bool
  | deciding _ => true
  | idle | checking _ | looking _ _ | reading _ | answered _ _ | shown _ _ | ended _ => false

/-- A line that has announced key material is being taken up. -/
def isExchanging : Stage → Bool
  | checking purpose | deciding purpose | looking purpose _ | reading purpose
  | answered purpose _ => purpose.exchange?.isSome
  | shown _ _ => true
  | idle | ended _ => false

/-- The run is between two lines, or over. -/
def isBetween : Stage → Bool
  | checking .line | deciding .line | ended _ => true
  | _ => false

private theorem listens_of_isExchanging {stage : Stage} (exchanging : stage.isExchanging = true) :
    stage.listens = false := by
  cases stage with
  | idle | checking _ | deciding _ | shown _ _ | ended _ => rfl
  | looking purpose _ | reading purpose | answered purpose _ =>
    cases purpose with
    | line => cases exchanging
    | frame => rfl

end Stage

namespace Instant

open Session

/-- The program is to stop: the flag is clear, or it is cleared before the run checks it next. -/
def IsStopped (instant : Instant) : Prop :=
  instant.session.running = false ∨
    instant.stage.isDeciding = false ∧ instant.session.check.running = false

/-- Once the run has checked, it acts on the flag as it is. -/
theorem IsStopped.decided {purpose : Purpose} {session : Session}
    (stopped : IsStopped ⟨.deciding purpose, session⟩) : session.running = false := by
  rcases stopped with clear | ⟨elsewhere, _⟩
  · exact clear
  · cases elsewhere

/-- A wait is given up only while the session is to go on. -/
theorem IsStopped.givesUp_eq_false {instant : Instant} (stopped : instant.IsStopped)
    (purpose : Purpose) : instant.session.givesUp purpose = false := by
  apply Bool.eq_false_iff.mpr
  intro hopeless
  have forsaken := isForsaken_of_givesUp hopeless
  simp only [isForsaken, Bool.and_eq_true, List.isEmpty_iff] at forsaken
  obtain ⟨⟨running, _⟩, none⟩ := forsaken
  have still : instant.session.check = instant.session := by rw [check, none]
  rcases stopped with clear | ⟨_, clear⟩
  · rw [running] at clear
    cases clear
  · rw [still, running] at clear
    cases clear

variable {before after first last : Instant} {deeds more : List Deed}

private theorem listens_ofTurn (outcome : Turn × Session) :
    (ofTurn outcome).stage.listens = false := by
  rcases outcome with ⟨turn, session⟩
  cases turn <;> rfl

private theorem mayRecord_ofTurn (outcome : Turn × Session) :
    (ofTurn outcome).stage.mayRecord = false := by
  rcases outcome with ⟨turn, session⟩
  cases turn <;> rfl

/-- A deed that takes up what allows it, and leaves nothing that would allow another one, is done
once at most. -/
theorem Path.countP_le {kind : Deed → Bool} {allows : Stage → Bool}
    (once : ∀ {before deeds after}, before.IsStopped → Does before deeds after →
      deeds.countP kind + (allows after.stage).toNat ≤ (allows before.stage).toNat)
    (path : Path Does IsStopped first deeds last) :
    deeds.countP kind + (allows last.stage).toNat ≤ (allows first.stage).toNat := by
  induction path with
  | nil => exact Nat.le_of_eq (Nat.zero_add _)
  | snoc past step _ ih =>
    have next := once past.here step
    rw [List.countP_append]
    omega

/-! ## Lines that are taken up -/

private theorem countP_isDispatch_told (line : String) (events : List Event) :
    (Deed.dispatched line :: events.map Deed.told).countP Deed.isDispatch = 1 := by
  rw [List.countP_cons, Deed.countP_told fun _ => rfl]
  rfl

/-- A line is taken up only where one is looked for, and then none is any more. -/
theorem Does.dispatches_le (stopped : before.IsStopped) (step : Does before deeds after) :
    deeds.countP Deed.isDispatch + after.stage.listens.toNat ≤ before.stage.listens.toNat := by
  cases step with
  | begin | check | stop | skip | cancel | expire | await | oversized | mismatch | display
  | record | refuse | incomplete | hangUp | quiet | forsaken | fail => exact Nat.zero_le _
  | announce | lackLine | lackFrame | read | retry | arrive =>
    exact Nat.le_of_eq (Nat.zero_add _)
  | listen running =>
    rw [stopped.decided] at running
    cases running
  | dispatch =>
    rw [listens_ofTurn, countP_isDispatch_told]
    exact Nat.le_refl 1

theorem Path.dispatches_le (path : Path Does IsStopped first deeds last) :
    deeds.countP Deed.isDispatch + last.stage.listens.toNat ≤ first.stage.listens.toNat :=
  path.countP_le Does.dispatches_le

/-! ## Frames that are recorded -/

private theorem countP_record?_told (line : String) (events : List Event) :
    (Deed.dispatched line :: events.map Deed.told).countP (·.record?.isSome) = 0 := by
  rw [List.countP_cons, Deed.countP_told fun _ => rfl]
  rfl

/-- A record is added only where a frame is looked for, and then none is any more. -/
theorem Does.records_le (stopped : before.IsStopped) (step : Does before deeds after) :
    deeds.countP (·.record?.isSome) + after.stage.mayRecord.toNat ≤
      before.stage.mayRecord.toNat := by
  cases step with
  | begin | check | stop | skip | cancel | expire | oversized | mismatch | announce | listen
  | refuse | incomplete | hangUp | quiet | forsaken | fail => exact Nat.zero_le _
  | display | record | lackLine | lackFrame | read | retry | arrive =>
    exact Nat.le_of_eq (Nat.zero_add _)
  | await running =>
    rw [stopped.decided] at running
    cases running
  | dispatch =>
    rw [mayRecord_ofTurn, countP_record?_told]
    exact Nat.zero_le _

theorem Path.records_le (path : Path Does IsStopped first deeds last) :
    (deeds.filterMap Deed.record?).length + last.stage.mayRecord.toNat ≤
      first.stage.mayRecord.toNat := by
  rw [List.length_filterMap_eq_countP]
  exact path.countP_le Does.records_le

/-! ## Exchanges that are cancelled -/

/-- Between two lines a run that is to stop only checks whether to go on. -/
theorem Does.between (step : Does before deeds after) (stopped : before.IsStopped)
    (between : before.stage.isBetween = true) :
    (∀ deed ∈ deeds, deed.isCheck = true) ∧ after.stage.isBetween = true ∧
      after.session.receiver.buffer = before.session.receiver.buffer := by
  cases step with
  | check purpose session =>
    cases purpose with
    | line =>
      have same := congrArg Receiver.buffer (intake_check session)
      exact ⟨by simp [Deed.isCheck], rfl, same⟩
    | frame => cases between
  | stop => exact ⟨by simp, rfl, rfl⟩
  | listen running =>
    rw [stopped.decided] at running
    cases running
  | begin | skip | dispatch | announce | cancel | expire | await | oversized | mismatch | display
  | record | refuse | lackLine | lackFrame | incomplete | read | retry | arrive | hangUp | quiet
  | forsaken | fail => cases between

theorem buffer_cancel (exchange : Exchange) (session : Session) :
    (session.cancel exchange).receiver.buffer = [] :=
  congrArg Receiver.buffer (intake_abandon exchange.part.command "cancelled" _)

/-- What is done, apart from checks, for key material that is announced when the program is already
to stop: nothing at first, and then the exchange is cancelled, and nothing is left in the buffer. -/
inductive Cancelled (part : KeyPart) : List Deed → Instant → Prop where
  | pending {last : Instant} (exchange : Exchange) (same : exchange.part = part)
      (waits : last.stage = .checking (.frame exchange) ∨
        last.stage = .deciding (.frame exchange)) : Cancelled part [] last
  | done {last : Instant} (between : last.stage.isBetween = true)
      (empty : last.session.receiver.buffer = []) :
      Cancelled part [.told (.abandoned part.command "cancelled")] last

/-- An exchange that has not looked for its frame yet does not look for it any more. -/
theorem Cancelled.later {part : KeyPart} {middle : Instant}
    (cancelled : Cancelled part (Deed.others deeds) middle) (stopped : middle.IsStopped)
    (step : Does middle more last) : Cancelled part (Deed.others (deeds ++ more)) last := by
  rw [Deed.others_append]
  generalize Deed.others deeds = done at cancelled
  cases cancelled with
  | pending exchange same waits =>
    subst same
    rcases middle with ⟨stage, session⟩
    rcases waits with checking | deciding
    · cases checking
      cases step with
      | check => exact .pending exchange rfl (.inr rfl)
    · cases deciding
      cases step with
      | cancel => exact .done rfl (buffer_cancel exchange session)
      | expire running | await running =>
        rw [stopped.decided] at running
        cases running
  | done between empty =>
    obtain ⟨checks, still, same⟩ := step.between stopped between
    rw [Deed.others_eq_nil checks, List.append_nil]
    exact .done still (same.trans empty)

/-- A line that announces key material begins an exchange. -/
theorem Does.announces {line : String} {part : KeyPart} {sooner rest : List Deed}
    (step : Does before (sooner ++ .dispatched line :: rest) after)
    (announced : KeyPart.announcedBy? line = some part) :
    rest = [] ∧ ∃ started, after.stage = .checking (.frame ⟨part, started⟩) := by
  generalize same : sooner ++ .dispatched line :: rest = deeds at step
  have taken : .dispatched line ∈ deeds := by simp [← same]
  cases step with
  | announce _ _ known =>
    cases List.mem_singleton.mp taken
    rw [announced] at known
    cases known
    have sizes := congrArg List.length same
    simp only [List.length_append, List.length_cons, List.length_nil] at sizes
    exact ⟨List.length_eq_zero_iff.mp (by omega), _, rfl⟩
  | @dispatch _ _ _ _ _ text _ _ _ _ ordinary =>
    have twin : line = text := by simpa using taken
    rw [twin, ordinary] at announced
    cases announced
  | begin | check | stop | listen | skip | cancel | expire | await | oversized | mismatch | display
  | record | refuse | lackLine | lackFrame | incomplete | read | retry | arrive | hangUp | quiet
  | forsaken | fail => simp at taken

/-- An exchange whose line is taken up when the program is already to stop is cancelled before
anything is read for it. -/
theorem Path.cancels {line : String} {part : KeyPart} {sooner rest : List Deed}
    (path : Path Does IsStopped first deeds last)
    (announced : KeyPart.announcedBy? line = some part)
    (taken : deeds = sooner ++ .dispatched line :: rest) :
    Cancelled part (Deed.others rest) last := by
  induction path generalizing rest with
  | nil => cases sooner <;> cases taken
  | @snoc middle last deeds more past step _ ih =>
    -- The line was taken up before the last step or with it.
    rcases List.append_eq_append_iff.mp taken with
      ⟨between, _, begun⟩ | ⟨between, begun, same⟩
    · subst begun
      obtain ⟨rfl, started, checking⟩ := step.announces announced
      exact .pending _ rfl (.inl checking)
    · cases between with
      | nil =>
        cases same
        obtain ⟨rfl, started, checking⟩ := @Does.announces _ _ line part [] rest step announced
        exact .pending _ rfl (.inl checking)
      | cons deed between =>
        cases same
        exact (ih begun).later past.here step

/-! ## How the run ends -/

/-- How a run comes out that has done these things from a session on: it returns its counters,
unless a read has come back with an error that ends it, or its sink has failed. -/
inductive Returns (before : Session) (deeds : List Deed) (after : Session) : RunEnd → Prop where
  | finished : Returns before deeds after (.finished after.tally)
  | unread {cause : IoError} (returned : .returned (.error cause) ∈ deeds)
      (uninterrupted : cause.kind ≠ .interrupted) (lasting : cause.kind.isTimeout = false) :
      Returns before deeds after (.failed (.frame (.io cause)))
  | unsent {cause : IoError}
      (fails : before.transmitter.sink.Fails (.io cause) after.transmitter.sink) :
      Returns before deeds after (.failed (.frame (.io cause)))

theorem Returns.later {before middle after : Session} {outcome : RunEnd}
    (returns : Returns middle more after outcome) (tells : before.Tells deeds middle) :
    Returns before (deeds ++ more) after outcome := by
  cases returns with
  | finished => exact .finished
  | unread returned uninterrupted lasting =>
    exact .unread (List.mem_append_right _ returned) uninterrupted lasting
  | unsent fails => exact .unsent (fails.later tells.sink)

/-- A line that announces no key material ends the run only if the sink fails. -/
theorem dispatch_returns {line : String} {session after : Session} {ending : Ending}
    {outcome : RunEnd} (ordinary : KeyPart.announcedBy? line = none)
    (dispatched : session.dispatch line = (ending, after))
    (ended : (ofTurn (after.settle ending)).stage = .ended outcome) :
    Returns session deeds (ofTurn (after.settle ending)).session outcome := by
  have obeyed := dispatch_obeyed ordinary session
  rw [dispatched] at obeyed
  cases obeyed with
  | done => cases ended
  | failed _ fails =>
    cases fails with
    | refused =>
      cases ended
      exact .finished
    | unwritten kind accepted =>
      cases ended
      exact .unsent (.unwritten kind accepted)
    | unflushed kind flushed =>
      cases ended
      exact .unsent (.unflushed kind flushed)

/-- How a run that is to stop comes to its end. -/
theorem Does.returns {outcome : RunEnd} (step : Does before deeds after)
    (stopped : before.IsStopped) (ended : after.stage = .ended outcome) :
    Returns before.session deeds after.session outcome := by
  cases step with
  | stop | hangUp =>
    cases ended
    exact .finished
  | fail _ uninterrupted lasting =>
    cases ended
    exact .unread List.mem_cons_self uninterrupted lasting
  | forsaken purpose _ hopeless =>
    rw [stopped.givesUp_eq_false purpose] at hopeless
    cases hopeless
  | @dispatch session _ _ line rest _ _ _ _ _ ordinary dispatched =>
    have heard := (Tells.nil session).hear line rest
    exact (dispatch_returns ordinary dispatched ended).later heard
  | begin | check | listen | skip | announce | cancel | expire | await | oversized | mismatch
  | display | record | refuse | lackLine | lackFrame | incomplete | read | retry | arrive
  | quiet => cases ended

theorem Path.returns {outcome : RunEnd} (path : Path Does IsStopped first deeds last)
    (going : ∀ other, first.stage ≠ .ended other) (ended : last.stage = .ended outcome) :
    Returns first.session deeds last.session outcome := by
  cases path with
  | nil => exact absurd ended (going outcome)
  | snoc past step _ => exact (step.returns past.here ended).later past.tells

/-! ## Runs -/

/-- Where a line has just been taken up or something told, no line is looked for. -/
theorem Does.listens_eq_false {deed : Deed} (step : Does before deeds after)
    (done : deed ∈ deeds) (shows : deed.isDispatch = true ∨ deed.event?.isSome = true) :
    after.stage.listens = false := by
  cases step with
  | dispatch => exact listens_ofTurn _
  | begin | stop | skip | announce | cancel | expire | oversized | mismatch | display | record
  | refuse | incomplete | hangUp | quiet | forsaken | fail => rfl
  | check | read | retry | arrive =>
    cases List.mem_singleton.mp done
    simp [Deed.isDispatch, Deed.event?] at shows
  | listen | await | lackLine | lackFrame => cases done

/-- What a run still does from an instant on, and how it ends. -/
structure WindsDown (point : Instant) (later : List Deed) (last : Instant) : Prop where
  /-- All that is told here is what the session itself accounts for. -/
  tells : point.session.Tells later last.session
  dispatches : later.countP Deed.isDispatch ≤ 1
  /-- No line is taken up if the instant is before the run, while a line is being taken up, or when
  one has just been taken up or an event been delivered. -/
  none : point.stage = .idle ∨ point.stage.isExchanging = true ∨
    (∃ earlier deeds, Does earlier deeds point ∧
      ∃ deed ∈ deeds, deed.isDispatch = true ∨ deed.event?.isSome = true) →
        later.countP Deed.isDispatch = 0
  /-- Key material that is announced from now on is not waited for. -/
  cancels : ∀ sooner line part rest, later = sooner ++ .dispatched line :: rest →
    KeyPart.announcedBy? line = some part → Cancelled part (Deed.others rest) last
  records : (later.filterMap Deed.record?).length ≤ 1
  returns : (∀ outcome, point.stage ≠ .ended outcome) → ∀ outcome, last.stage = .ended outcome →
    Returns point.session later last.session outcome

theorem Path.windsDown (path : Path Does IsStopped first deeds last) :
    WindsDown first deeds last := by
  have dispatches := path.dispatches_le
  have records := path.records_le
  constructor
  case tells => exact path.tells
  case dispatches =>
    have := first.stage.listens.toNat_le
    omega
  case none =>
    intro unheard
    have deaf : first.stage.listens = false := by
      rcases unheard with idle | exchanging | ⟨earlier, deeds, step, deed, done, shows⟩
      · rw [idle]
        rfl
      · exact Stage.listens_of_isExchanging exchanging
      · exact step.listens_eq_false done shows
    rw [deaf] at dispatches
    exact Nat.eq_zero_of_le_zero (Nat.le_of_add_right_le dispatches)
  case cancels =>
    intro sooner line part rest taken announced
    exact path.cancels announced taken
  case records =>
    have := first.stage.mayRecord.toNat_le
    omega
  case returns =>
    intro going outcome ended
    exact path.returns going ended

/-- When a run has ended nothing is done in it any more. -/
theorem Does.not_ended {outcome : RunEnd} {session : Session} :
    ¬ Does ⟨.ended outcome, session⟩ deeds after :=
  nofun

/-- A run comes through one instant after the other until it has ended, and through no others. What
it does changes the flag only as a check finds it, as a read during which the program is asked to
stop, or at an event at which the operator stops it (`Tells`). From any instant on which the flag is
clear and stays so, the run winds down. -/
theorem run_winds_down (session : Session) :
    ∃ deeds,
      Path Does (fun _ => True) ⟨.idle, session⟩ deeds ⟨.ended session.run.1, session.run.2⟩ ∧
        ∀ earlier point, Path Does (fun _ => True) ⟨.idle, session⟩ earlier point →
          session.Tells earlier point.session ∧
          (∃ rest, deeds = earlier ++ rest ∧
            Path Does (fun _ => True) point rest ⟨.ended session.run.1, session.run.2⟩) ∧
          ∀ later last, Path Does IsStopped point later last → WindsDown point later last := by
  obtain ⟨deeds, path⟩ := run_becomes session
  refine ⟨deeds, path, ?_⟩
  intro earlier point part
  refine ⟨part.tells, path.exists_rest (fun _ _ step => absurd step Does.not_ended) part, ?_⟩
  intro later last stopped
  exact stopped.windsDown

/-- The program is asked to stop while a line that announces a certificate comes in, and the
beginning of a frame behind it. -/
def brokenOff : Session where
  profile := {}
  receiver := {
    source := {
      script := [{ stops := true, outcome := .ok (Bytes.ofText "MFG:ekcert\r\n" ++ [16, 0, 0]) }]
      tail := .silent } }
  transmitter := { sink := {} }

theorem run_winds_down_brokenOff :
    ∃ earlier point later last,
      Path Does (fun _ => True) ⟨.idle, brokenOff⟩ earlier point ∧
      earlier.countP Deed.isRead = 1 ∧ Path Does IsStopped point later last ∧
      Deed.others later = [.returned (.ok (Bytes.ofText "MFG:ekcert\r\n" ++ [16, 0, 0])),
        .dispatched "MFG:ekcert", .told (.abandoned .ekCert "cancelled")] ∧
      last.stage = .ended (.finished { lines := 1, commands := 1, abandoned := 1 }) ∧
      WindsDown point later last := by
  obtain ⟨deeds, path, all⟩ := run_winds_down brokenOff
  have begun : Path Does (fun _ => True) ⟨.idle, brokenOff⟩ [] _ := .nil trivial
  have read := begun.snoc (.begin _) trivial
    |>.snoc (.check _ _) trivial
    |>.snoc (.listen rfl) trivial
    |>.snoc (.lackLine rfl) trivial
    |>.snoc (.read _ _) trivial
  let heard := (brokenOff.note .info "awaiting device commands" []).check
  have answered : Path Does IsStopped
      ⟨.answered .line (heard.receiver.source.read readChunkSize).1,
        heard.withSource (heard.receiver.source.read readChunkSize).2⟩ [] _ := .nil (.inl rfl)
  have stopped := answered.snoc (.arrive _ _ _ _) (.inl rfl)
    |>.snoc (@Does.announce _ true (.whole (Bytes.ofText "MFG:ekcert")) [16, 0, 0] "MFG:ekcert"
      .certificate rfl (Bytes.text?_ofText _) (by decide)) (.inl rfl)
    |>.snoc (.check _ _) (.inl rfl)
    |>.snoc (.cancel rfl) (.inl rfl)
    |>.snoc (.check _ _) (.inl rfl)
    |>.snoc (.stop rfl) (.inl rfl)
  exact ⟨_, _, _, _, read, rfl, stopped, rfl, rfl, (all _ _ read).2.2 _ _ stopped⟩

end Instant

end Provisioning
