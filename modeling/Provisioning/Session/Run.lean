import Provisioning.Session.Answer
import Provisioning.Session.Exchange

/-! # Running a session

A running session takes up one line after the other until it is stopped or the device hangs up. A
line that is no command is shown to the operator, one that is not text is only counted. Neither a
device that misbehaves nor a file that cannot be read or written ends the session; only a failing
line does.

`turn` is one round of the loop, and `run` repeats it. Every turn that goes on makes the session
lighter, except that a device may fall silent for good: then the session waits for ever, which is
an outcome of its own and can be taken up again by `resume`.
-/

namespace Provisioning

/-- What came of waiting for a line. -/
inductive Heard where
  | line (text : String)
  /-- A line of so many bytes that is not text. -/
  | undecodable (size : Nat)
  /-- Nothing came in time. -/
  | quiet
  /-- The device hung up. -/
  | hungUp
  deriving DecidableEq, Repr

/-- How one turn of the loop comes out. -/
inductive Turn where
  | onward
  | stopped
  | failed (error : SessionError)
  /-- Nothing will come any more, neither a line nor the frame of the exchange. -/
  | waiting (pending : Option Exchange)
  deriving DecidableEq, Repr

/-- How a run comes out. -/
inductive RunEnd where
  | finished (tally : Tally)
  | failed (error : SessionError)
  | waiting (pending : Option Exchange)
  deriving DecidableEq, Repr

namespace Session

/-- Wait for the next line. -/
def listen (session : Session) : Except SessionError Heard × Session :=
  match session.receiver.awaitLine with
  | (.ok line, receiver) =>
    let session := { session with receiver }
    let session := match line with
      | .whole _ => session
      | .piece text =>
        session.note .debug "overlong line split"
          [("size", .number (text.length + receiver.buffer.length))]
    match Bytes.text? line.text with
    | some text => (.ok (.line text), session)
    | none => (.ok (.undecodable line.text.length), session)
  | (.error error, receiver) =>
    let session := { session with receiver }
    if error = .closed then (.ok .hungUp, session)
    else if error.isTimeout then (.ok .quiet, session)
    else (.error (.frame error), session)

/-- Do what a command asks for. -/
def obey (command : Command) (session : Session) : Ending × Session :=
  match command with
  | .ekCert => session.exchange ⟨.certificate, session.clock⟩
  | .ekPublic => session.exchange ⟨.publicKey, session.clock⟩
  | .success =>
    (.done, session
      |>.note .info "device reported provisioning success" []
      |>.count (fun tally => { tally with provisioned := true })
      |>.deliver (.provisioned successMessage))
  | .failure step =>
    (.done, session
      |>.note .warn step.message [("failure", .quoted step.literal)]
      |>.count (fun tally => { tally with deviceFailures := tally.deviceFailures + 1 })
      |>.deliver (.deviceFailure step))
  | .requestMac | .hostCheck | .deviceCert | .ekCertificate | .smbiosSerial =>
    match session.respond command (command.answer session.profile session.files) with
    | (.ok (), session) => (.done, session)
    | (.error error, session) => (.failed error, session)

/-- Take up one line. -/
def dispatch (line : String) (session : Session) : Ending × Session :=
  match Command.ofLine? line with
  | none =>
    (.done, session
      |>.count (fun tally => { tally with echoed := tally.echoed + 1 })
      |>.deliver (.echo line))
  | some command =>
    session
      |>.note .debug "dispatching device command" [("command", .quoted command.literal)]
      |>.count (fun tally => { tally with commands := tally.commands + 1 })
      |>.obey command

/-- What a turn makes of the ending of its line. -/
def settle (ending : Ending) (session : Session) : Turn × Session :=
  match ending with
  | .done => (.onward, session)
  | .waiting pending => (.waiting (some pending), session)
  | .failed error =>
    if error.isClosed then
      (.stopped, session.note .info "device closed the link mid-exchange" [])
    else (.failed error, session)

/-- Take up the next line, unless the session is to stop. -/
def turn (session : Session) : Turn × Session :=
  let session := session.check
  if session.running then
    match session.listen with
    | (.error error, session) => (.failed error, session)
    | (.ok .hungUp, session) => (.stopped, session.note .info "device closed the link" [])
    | (.ok .quiet, session) =>
      if session.isForsaken then (.waiting none, session) else (.onward, session)
    | (.ok (.undecodable size), session) =>
      (.onward, session
        |>.note .debug "skipping undecodable line" [("size", .number size)]
        |>.count (fun tally => { tally with undecodable := tally.undecodable + 1 })
        |>.deliver (.undecodable size))
    | (.ok (.line text), session) =>
      let (ending, session) := session
        |>.count (fun tally => { tally with lines := tally.lines + 1 })
        |>.dispatch text
      session.settle ending
  else (.stopped, session)

theorem weight_obey_le (command : Command) (session : Session) :
    (session.obey command).2.weight ≤ session.weight := by
  have answered (command : Command) :
      (match session.respond command (command.answer session.profile session.files) with
        | (.ok (), session) => (Ending.done, session)
        | (.error error, session) => (Ending.failed error, session)).2.weight ≤ session.weight := by
    have same := weight_respond command (command.answer session.profile session.files) session
    split
    all_goals
      rename_i responded
      rw [responded] at same
      exact Nat.le_of_eq same
  cases command with
  | ekCert => exact weight_exchange_le _ _
  | ekPublic => exact weight_exchange_le _ _
  | success => simp [obey]
  | failure step => simp [obey]
  | requestMac => exact answered .requestMac
  | hostCheck => exact answered .hostCheck
  | deviceCert => exact answered .deviceCert
  | ekCertificate => exact answered .ekCertificate
  | smbiosSerial => exact answered .smbiosSerial

theorem weight_dispatch_le (line : String) (session : Session) :
    (session.dispatch line).2.weight ≤ session.weight := by
  unfold dispatch
  split
  · simp
  · refine Nat.le_trans (weight_obey_le _ _) ?_
    simp

@[simp] theorem weight_settle (ending : Ending) (session : Session) :
    (session.settle ending).2.weight = session.weight := by
  unfold settle
  split
  · rfl
  · rfl
  · split <;> simp

theorem listen_line {session after : Session} {heard : Heard}
    (result : session.listen = (.ok heard, after)) :
    after.interludes = session.interludes ∧
      (after.receiver.weight < session.receiver.weight ∨
        heard = .hungUp ∨
        heard = .quiet ∧ after.receiver.weight = session.receiver.weight ∧
          after.receiver.isSilent = true ∧ after.running = session.running) := by
  simp only [listen] at result
  split at result
  · rename_i line receiver awaited
    have lighter := Receiver.awaitLine_ok awaited
    have same : ∀ s : Session, s = { session with receiver } →
        (match line with
          | .whole _ => s
          | .piece text => s.note .debug "overlong line split"
            [("size", .number (text.length + receiver.buffer.length))]).receiver = receiver ∧
        (match line with
          | .whole _ => s
          | .piece text => s.note .debug "overlong line split"
            [("size", .number (text.length + receiver.buffer.length))]).interludes =
              session.interludes := by
      rintro s rfl
      cases line <;> exact ⟨rfl, rfl⟩
    have same := same _ rfl
    split at result
    all_goals
      cases result
      exact ⟨same.2, .inl (same.1.symm ▸ lighter)⟩
  · rename_i error receiver awaited
    split at result
    · cases result
      exact ⟨rfl, .inr (.inl rfl)⟩
    · split at result
      · rename_i timeout
        cases result
        refine ⟨rfl, ?_⟩
        rcases Receiver.awaitLine_timeout awaited timeout with lighter | ⟨same, silent, running⟩
        · exact .inl lighter
        · exact .inr (.inr ⟨rfl, same, silent, running⟩)
      · cases result

theorem turn_onward {session after : Session} (result : session.turn = (.onward, after)) :
    after.weight < session.weight := by
  have checked := weight_check session
  have fewer : session.check.interludes.length = session.interludes.length - 1 := by
    unfold check
    split
    · rename_i none
      simp [none]
    · rename_i some
      simp [some]
  have lighter (next : Session) (heard : Heard) (heardIt : session.check.listen = (.ok heard, next))
      (more : next.receiver.weight < session.check.receiver.weight) :
      next.weight < session.weight := by
    have interludes := (listen_line heardIt).1
    rw [weight] at checked
    rw [weight, weight, interludes, fewer]
    omega
  simp only [turn] at result
  split at result
  · rename_i going
    split at result
    · cases result
    · cases result
    · rename_i next heard
      split at result
      · cases result
      · rename_i hopeful
        cases result
        rcases (listen_line heard).2 with more | other | ⟨_, same, silent, running⟩
        · exact lighter _ _ heard more
        · cases other
        · have interludes := (listen_line heard).1
          have some : after.interludes ≠ [] := by
            intro none
            simp [isForsaken, silent, none, running, going] at hopeful
          rw [interludes] at some
          have : session.check.interludes.length ≠ 0 :=
            fun empty => some (List.length_eq_zero_iff.mp empty)
          rw [weight] at checked
          rw [weight, weight, interludes, same]
          omega
    · rename_i size next heard
      cases result
      rw [weight_deliver, weight_count, weight_note]
      rcases (listen_line heard).2 with more | other | ⟨other, _⟩
      · exact lighter _ _ heard more
      · cases other
      · cases other
    · rename_i text next heard
      have after := congrArg (fun outcome : Turn × Session => outcome.2.weight) result
      simp only [weight_settle] at after
      rw [← after]
      refine Nat.lt_of_le_of_lt (weight_dispatch_le _ _) ?_
      rw [weight_count]
      rcases (listen_line heard).2 with more | other | ⟨other, _⟩
      · exact lighter _ _ heard more
      · cases other
      · cases other
  · cases result

/-- Repeat turns until one does not go on. -/
def loop (session : Session) : RunEnd × Session :=
  match result : session.turn with
  | (.onward, after) => after.loop
  | (.stopped, after) => (.finished after.tally, after)
  | (.failed error, after) => (.failed error, after)
  | (.waiting pending, after) => (.waiting pending, after)
termination_by session.weight
decreasing_by exact turn_onward result

/-- Serve the device until the session is stopped or the device hangs up. -/
def run (session : Session) : RunEnd × Session :=
  (session.note .info "awaiting device commands" []).loop

/-- Take up a run that was waiting, once something has changed outside. -/
def resume (pending : Option Exchange) (session : Session) : RunEnd × Session :=
  match pending with
  | none => session.loop
  | some exchange =>
    let (ending, session) := session.exchange exchange
    match session.settle ending with
    | (.onward, after) => after.loop
    | (.stopped, after) => (.finished after.tally, after)
    | (.failed error, after) => (.failed error, after)
    | (.waiting pending, after) => (.waiting pending, after)

end Session

end Provisioning
