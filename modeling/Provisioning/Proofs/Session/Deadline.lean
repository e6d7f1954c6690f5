import Provisioning.Proofs.Link.Moments
import Provisioning.Proofs.Session.Conclusion
import Provisioning.Proofs.Session.Stopping

/-! # The deadline of an exchange

Before every read for the frame of an exchange the session checks whether it is to go on and whether
the time is up, and the check that finds either ends the exchange (`Does.decides`). A read that was
under way when the time ran out is not called off, but no other one follows it: beyond the deadline
reads come back once at most, apart from those that were interrupted (`Path.answers_le`). And since
each of them is followed by a look at the buffer, what is dropped when an exchange is given up after
a read is never a whole frame (`Path.known`).

`exchange_keepsTime` says so of every instant that an exchange comes through while it waits for its
frame, whatever its source has in store and whatever happens before its checks.
-/

namespace Provisioning

namespace Deed

/-- A read comes back, and not because it was interrupted. -/
def isAnswer : Deed → Bool
  | returned (.ok _) => true
  | returned (.error error) => error.kind != .interrupted
  | checked _ | read _ | dispatched _ | told _ | recorded _ => false

/-- A read is made, or comes back because it was interrupted. -/
inductive IsAttempt : Deed → Prop where
  | read (begun : Option ReadStep) : IsAttempt (.read begun)
  | interrupted {error : IoError} (kind : error.kind = .interrupted) :
      IsAttempt (.returned (.error error))

end Deed

namespace Source

theorem clock_read_le (limit : Nat) (source : Source) :
    source.clock ≤ (source.read limit).2.clock := by
  unfold read
  split
  · exact Nat.le_refl _
  · split
    · split <;> exact Nat.le_add_right _ _
    · split
      · exact Nat.le_refl _
      · exact Nat.le_add_right _ _

end Source

theorem Session.clock_check_le (session : Session) : session.clock ≤ session.check.clock := by
  unfold check
  split
  · exact Nat.le_refl _
  · exact Nat.le_add_right _ _

/-- A frame is looked for that has not been read for yet, or a read for it has not been taken up. -/
def Stage.seeks : Stage → Bool
  | looking (.frame _) false | reading (.frame _) | answered (.frame _) _ => true
  | _ => false

namespace Instant

open Session

variable {exchange : Exchange} {before after first last : Instant} {deeds more : List Deed}

/-- The time for the exchange is up. -/
def IsLate (exchange : Exchange) (instant : Instant) : Prop :=
  (instant.session.expired? exchange).isSome = true

/-! ## Checks -/

/-- What a check comes to: the frame is looked for, or the exchange is given up, of which the
operator is told, and the buffer emptied. -/
inductive Decides (exchange : Exchange) (before : Session) : List Deed → Instant → Prop where
  | onward (running : before.running = true) (inTime : before.expired? exchange = none) :
      Decides exchange before [] ⟨.looking (.frame exchange) false, before⟩
  | cancelled {after : Session} (stopped : before.running = false)
      (emptied : after.receiver.buffer = []) :
      Decides exchange before [.told (.abandoned exchange.part.command "cancelled")]
        ⟨.checking .line, after⟩
  | expired {limit : Duration} {after : Session} (running : before.running = true)
      (late : before.expired? exchange = some limit) (emptied : after.receiver.buffer = []) :
      Decides exchange before [.told (.abandoned exchange.part.command
        s!"no complete frame within {limit.text} ({before.receiver.buffer.length} bytes dropped)")]
        ⟨.checking .line, after⟩

private theorem buffer_expire (exchange : Exchange) (limit : Duration) (session : Session) :
    (session.expire exchange limit).receiver.buffer = [] :=
  congrArg Receiver.buffer (intake_abandon exchange.part.command _ _)

/-- What follows a check is decided by the flag and the clock. -/
theorem Does.decides {session : Session}
    (step : Does ⟨.deciding (.frame exchange), session⟩ deeds after) :
    Decides exchange session deeds after := by
  cases step with
  | cancel stopped => exact .cancelled stopped (buffer_cancel exchange session)
  | @expire _ _ limit event running late told =>
    -- The event is the one that the session tells when it gives the exchange up.
    have speaks := (expire_speaks exchange limit session).events
    rw [told, Array.toList_push, List.append_cancel_left_eq] at speaks
    cases speaks
    exact .expired running late (buffer_expire exchange limit session)
  | await running inTime => exact .onward running inTime

/-! ## Waiting for the frame -/

/-- What can be done while the frame of an exchange is awaited, and leaves it awaited. -/
inductive Continues (exchange : Exchange) : Instant → List Deed → Instant → Prop where
  | check (session : Session) (came : Option Interlude) :
      Continues exchange ⟨.checking (.frame exchange), session⟩ [.checked came]
        ⟨.deciding (.frame exchange), session.check⟩
  | await {session : Session} (running : session.running = true)
      (inTime : session.expired? exchange = none) :
      Continues exchange ⟨.deciding (.frame exchange), session⟩ []
        ⟨.looking (.frame exchange) false, session⟩
  | lack {session : Session} (incomplete :
      Frame.decode session.receiver.maxPayload session.receiver.buffer = .incomplete) :
      Continues exchange ⟨.looking (.frame exchange) false, session⟩ []
        ⟨.reading (.frame exchange), session⟩
  | again {session : Session} (incomplete :
      Frame.decode session.receiver.maxPayload session.receiver.buffer = .incomplete) :
      Continues exchange ⟨.looking (.frame exchange) true, session⟩ []
        ⟨.checking (.frame exchange), session⟩
  | read {session : Session} (begun : Option ReadStep) (result : Except IoError Bytes)
      {source : Source} (forward : session.clock ≤ source.clock) :
      Continues exchange ⟨.reading (.frame exchange), session⟩ [.read begun]
        ⟨.answered (.frame exchange) result, session.withSource source⟩
  | retry {session : Session} {error : IoError} (interrupted : error.kind = .interrupted) :
      Continues exchange ⟨.answered (.frame exchange) (.error error), session⟩
        [.returned (.error error)] ⟨.reading (.frame exchange), session⟩
  | arrive {session : Session} (data buffer : Bytes) :
      Continues exchange ⟨.answered (.frame exchange) (.ok data), session⟩ [.returned (.ok data)]
        ⟨.looking (.frame exchange) true,
          { session with receiver := { session.receiver with buffer } }⟩
  | quiet {session : Session} (error : IoError) :
      Continues exchange ⟨.answered (.frame exchange) (.error error), session⟩
        [.returned (.error error)] ⟨.checking (.frame exchange), session⟩

theorem Does.continues (step : Does before deeds after) (wanted : before.Wants (.frame exchange))
    (still : after.Wants (.frame exchange)) : Continues exchange before deeds after := by
  cases step with
  | begin | stop | listen | skip | dispatch | announce | lackLine | record | refuse => cases wanted
  | cancel | expire | oversized | mismatch | display | hangUp | forsaken | fail => cases still
  | check purpose session =>
    cases wanted
    exact .check session _
  | await running inTime =>
    cases wanted
    exact .await running inTime
  | lackFrame untaken =>
    cases wanted
    exact .lack (Receiver.takeFrame_none_decode untaken)
  | incomplete untaken =>
    cases wanted
    exact .again (Receiver.takeFrame_none_decode untaken)
  | read =>
    cases wanted
    exact .read _ _ (Source.clock_read_le _ _)
  | retry _ interrupted =>
    cases wanted
    exact .retry interrupted
  | arrive =>
    cases wanted
    exact .arrive _ _
  | quiet =>
    cases wanted
    exact .quiet _

theorem Continues.clock_le (step : Continues exchange before deeds after) :
    before.session.clock ≤ after.session.clock := by
  cases step with
  | check session => exact session.clock_check_le
  | read _ _ forward => exact forward
  | await | lack | again | retry | arrive | quiet => exact Nat.le_refl _

/-! ## Reads -/

/-- A check has been passed, and since then nothing has been done but to make one read and to repeat
it as long as it was interrupted. -/
def Checked (exchange : Exchange) (first : Instant) (deeds : List Deed) (last : Instant) : Prop :=
  ∃ earlier since decided, deeds = earlier ++ since ∧
    Path Does (Wants (.frame exchange)) first earlier ⟨.deciding (.frame exchange), decided⟩ ∧
    decided.running = true ∧ decided.expired? exchange = none ∧
    Path Does (Wants (.frame exchange)) ⟨.looking (.frame exchange) false, decided⟩ since last ∧
    ∀ deed ∈ since, deed.IsAttempt

theorem Checked.snoc {middle : Instant} (checked : Checked exchange first deeds middle)
    (step : Does middle more last) (here : last.Wants (.frame exchange))
    (attempts : ∀ deed ∈ more, deed.IsAttempt) : Checked exchange first (deeds ++ more) last := by
  obtain ⟨earlier, since, decided, rfl, past, running, inTime, path, tried⟩ := checked
  refine ⟨earlier, since ++ more, decided, List.append_assoc _ _ _, past, running, inTime,
    path.snoc step here, ?_⟩
  intro deed done
  rcases List.mem_append.mp done with sooner | later
  · exact tried deed sooner
  · exact attempts deed later

/-- What brings a run to seek a frame: a check that is passed, or an attempt that goes on. -/
theorem Continues.seeks (step : Continues exchange before deeds after)
    (sought : after.stage.seeks = true) :
    (∃ session, before = ⟨.deciding (.frame exchange), session⟩ ∧ deeds = [] ∧
        session.running = true ∧ session.expired? exchange = none ∧
          after = ⟨.looking (.frame exchange) false, session⟩) ∨
      before.stage.seeks = true ∧ ∀ deed ∈ deeds, deed.IsAttempt := by
  cases step with
  | await running inTime => exact .inl ⟨_, rfl, rfl, running, inTime, rfl⟩
  | lack => exact .inr ⟨rfl, by simp⟩
  | read begun => exact .inr ⟨rfl, by simpa using .read begun⟩
  | retry interrupted => exact .inr ⟨rfl, by simpa using .interrupted interrupted⟩
  | check | again | arrive | quiet => cases sought

/-- A frame is sought, and read for, only once a check has been passed. -/
theorem Path.checked (path : Path Does (Wants (.frame exchange)) first deeds last)
    (unsought : first.stage.seeks = false) (sought : last.stage.seeks = true) :
    Checked exchange first deeds last := by
  induction path with
  | nil =>
    rw [unsought] at sought
    cases sought
  | @snoc middle last deeds more past step here ih =>
    rcases (step.continues past.here here).seeks sought with
      ⟨session, rfl, rfl, running, inTime, rfl⟩ | ⟨earlier, attempts⟩
    · exact ⟨deeds, [], session, rfl, past, running, inTime, .nil rfl, by simp⟩
    · exact (ih earlier).snoc step here attempts

/-! ## Reads beyond the deadline -/

/-- As long as the time is up, each answer is the last one. -/
theorem Continues.answers_le (step : Continues exchange before deeds after)
    (late : before.IsLate exchange) :
    deeds.countP Deed.isAnswer + after.stage.seeks.toNat ≤ before.stage.seeks.toNat := by
  cases step with
  | await _ inTime =>
    rw [IsLate, inTime] at late
    cases late
  | check | again => exact Nat.zero_le _
  | lack | read => exact Nat.le_of_eq (Nat.zero_add _)
  | retry interrupted => simp [Deed.isAnswer, interrupted, Stage.seeks]
  | arrive data => simp [Deed.isAnswer, Stage.seeks]
  | quiet error =>
    have := List.countP_le_length (p := Deed.isAnswer) (l := [.returned (.error error)])
    simpa [Stage.seeks] using this

/-- Once the time is up it stays up. -/
theorem IsLate.later {middle : Instant} (late : middle.IsLate exchange)
    (step : Does middle deeds last)
    (forward : middle.session.clock ≤ last.session.clock) : last.IsLate exchange := by
  have profile := step.tells.profile
  unfold IsLate expired? at late ⊢
  rw [profile]
  cases limited : middle.session.profile.exchangeLimit with
  | none => simp [limited] at late
  | some limit =>
    simp only [limited, Option.filter_some, Option.isSome_ite, decide_eq_true_eq] at late ⊢
    omega

/-- Beyond the deadline at most one read comes back: one that was under way, or that the check
before it had allowed. -/
theorem Path.answers_le (path : Path Does (Wants (.frame exchange)) first deeds last)
    (late : first.IsLate exchange) :
    last.IsLate exchange ∧
      deeds.countP Deed.isAnswer + last.stage.seeks.toNat ≤ first.stage.seeks.toNat := by
  induction path with
  | nil => exact ⟨late, Nat.le_of_eq (Nat.zero_add _)⟩
  | @snoc middle last deeds more past step here ih =>
    obtain ⟨still, sooner⟩ := ih
    have continues := step.continues past.here here
    have next := continues.answers_le still
    refine ⟨still.later step continues.clock_le, ?_⟩
    rw [List.countP_append]
    omega

/-! ## What is dropped -/

/-- The buffer begins with no whole frame. -/
def IsUnready (instant : Instant) : Prop :=
  Frame.decode instant.session.receiver.maxPayload instant.session.receiver.buffer = .incomplete

/-- What is known of the buffer at an instant on which the frame is awaited: it has been looked at
in vain, unless nothing has been read for it or something has just come in. -/
def Known (deeds : List Deed) (instant : Instant) : Prop :=
  match instant.stage with
  | .checking _ | .deciding _ => deeds.countP Deed.isRead = 0 ∨ instant.IsUnready
  | .reading _ | .answered _ _ => instant.IsUnready
  | _ => True

theorem Continues.known (step : Continues exchange before more after) (known : Known deeds before) :
    Known (deeds ++ more) after := by
  cases step with
  | check session came =>
    have same := intake_check session
    have limit := congrArg Receiver.maxPayload same
    have buffer := congrArg Receiver.buffer same
    change session.check.receiver.maxPayload = session.receiver.maxPayload at limit
    change session.check.receiver.buffer = session.receiver.buffer at buffer
    have unread : (deeds ++ [Deed.checked came]).countP Deed.isRead = deeds.countP Deed.isRead := by
      simp [Deed.isRead]
    simpa only [Known, IsUnready, limit, buffer, unread] using known
  | await => trivial
  | lack incomplete => exact incomplete
  | again incomplete => exact .inr incomplete
  | read => exact known
  | retry => exact known
  | arrive => trivial
  | quiet => exact .inr known

theorem Path.known (path : Path Does (Wants (.frame exchange)) first deeds last)
    (begun : first.stage = .checking (.frame exchange)) : Known deeds last := by
  induction path with
  | nil =>
    rw [Known, begun]
    exact .inl rfl
  | snoc past step here ih => exact (step.continues past.here here).known ih

/-! ## Exchanges -/

/-- What is true at an instant at which the frame of an exchange is awaited, once these things have
been done for it. -/
structure KeepsTime (exchange : Exchange) (first : Instant) (deeds : List Deed)
    (instant : Instant) : Prop where
  /-- A read is made only behind a check. -/
  checked : instant.stage = .reading (.frame exchange) → Checked exchange first deeds instant
  /-- A check that finds the flag clear or the time up ends the exchange, and nothing is read. -/
  decides : ∀ session, instant = ⟨.deciding (.frame exchange), session⟩ →
    ∀ more next, Does instant more next → Decides exchange session more next
  /-- Once the time is up, one read comes back or is still to come back, and no more. -/
  late : instant.IsLate exchange → ∀ later last,
    Path Does (Wants (.frame exchange)) instant later last →
      later.countP Deed.isAnswer + last.stage.seeks.toNat ≤ 1
  /-- What a check may drop after something has been read for the frame is no whole frame. -/
  dropped : instant.stage = .deciding (.frame exchange) → 0 < deeds.countP Deed.isRead →
    let receiver := instant.session.receiver
    Frame.decode receiver.maxPayload receiver.buffer = .incomplete ∧
      receiver.buffer.length < frameOverhead + receiver.maxPayload

theorem Path.keepsTime (path : Path Does (Wants (.frame exchange)) first deeds last)
    (begun : first.stage = .checking (.frame exchange)) : KeepsTime exchange first deeds last := by
  constructor
  case checked =>
    intro reading
    apply path.checked
    · rw [begun]
      rfl
    · rw [reading]
      rfl
  case decides =>
    rintro session rfl more next step
    exact step.decides
  case late =>
    intro late later final path
    have answers := (path.answers_le late).2
    have := last.stage.seeks.toNat_le
    omega
  case dropped =>
    intro deciding read
    have known := path.known begun
    rw [Known, deciding] at known
    rcases known with unread | unready
    · omega
    · have short := Frame.length_lt_of_incomplete unready
      exact ⟨unready, by omega⟩

/-- Where an exchange leaves its frame it does not wait any more. -/
theorem Leaves.final {next : Instant} (leaves : Leaves exchange before after)
    (step : Does before deeds next) : ¬ next.Wants (.frame exchange) := by
  obtain ⟨_, _, _, same, path, _⟩ := leaves
  obtain ⟨_, rfl⟩ := same.unique step
  exact path.start

/-- An exchange waits for its frame and then leaves it, reading nothing any more. While it waits it
comes through one instant after the other, and through no others. At each of them the flag is as its
reads and checks leave it (`Tells`), and the exchange keeps its time. -/
theorem exchange_keepsTime (exchange : Exchange) (session : Session) :
    ∃ waited middle,
      Path Does (Wants (.frame exchange)) ⟨.checking (.frame exchange), session⟩ waited middle ∧
      Leaves exchange middle
        (ofTurn ((session.exchange exchange).2.settle (session.exchange exchange).1)) ∧
      ∀ deeds instant,
        Path Does (Wants (.frame exchange)) ⟨.checking (.frame exchange), session⟩ deeds instant →
          session.Tells deeds instant.session ∧
          (∃ more, waited = deeds ++ more ∧
            Path Does (Wants (.frame exchange)) instant more middle) ∧
          KeepsTime exchange ⟨.checking (.frame exchange), session⟩ deeds instant := by
  obtain ⟨middle, ⟨waited, path⟩, leaves⟩ := exchange_waits exchange session
  refine ⟨waited, middle, path, leaves, ?_⟩
  intro deeds instant part
  exact ⟨part.tells, path.exists_rest (fun _ _ step => leaves.final step) part,
    part.keepsTime rfl⟩

end Instant

end Provisioning
