import Provisioning.Proofs.Session.KeyLog
import Provisioning.Proofs.Session.Timeline
import Provisioning.Session.Live

/-! # What serving a device as it happens comes to

A session that is taken up again goes on by the same steps as a run (`takeUp_becomes`), so whatever
is true at the instants of these is true of it. The limit for an exchange is kept across such
moments: once it has been reached, the exchange is given up before anything that has arrived is read
(`takeUp_expires`). What is to be added to the file of the key log is what the session has recorded
(`added_takeUp`).
-/

namespace Provisioning

/-- What a session waits for that is to be taken up again. -/
def Purpose.ofPending : Option Exchange → Purpose
  | none => .line
  | some exchange => .frame exchange

namespace Instant

/-- A run that is taken up again goes by the steps of a run. -/
theorem resume_becomes (pending : Option Exchange) (session : Session) :
    Becomes ⟨.checking (.ofPending pending), session⟩
      ⟨.ended (session.resume pending).1, (session.resume pending).2⟩ := by
  cases pending with
  | none => exact loop_becomes session
  | some exchange =>
    have becomes := exchange_becomes exchange session
    rcases exchanged : session.exchange exchange with ⟨ending, middle⟩
    rcases settled : middle.settle ending with ⟨turn, after⟩
    rw [exchanged, settled] at becomes
    simp only [Session.resume, exchanged, settled]
    cases turn with
    | onward => exact becomes.trans (loop_becomes after)
    | stopped | failed | waiting => exact becomes

theorem takeUp_becomes (now : Nat) (arrived : Option Bytes) (pending : Option Exchange)
    (session : Session) :
    Becomes ⟨.checking (.ofPending pending), session.arrive now arrived⟩
      ⟨.ended (session.takeUp now arrived pending).1, (session.takeUp now arrived pending).2⟩ :=
  resume_becomes pending _

end Instant

namespace Session

/-- An exchange whose time is up when it is taken up again is given up, whatever has arrived. -/
theorem takeUp_expires {exchange : Exchange} {limit : Duration} {session : Session} (now : Nat)
    (arrived : Option Bytes) (running : session.running = true) (alone : session.interludes = [])
    (limited : session.profile.exchangeLimit = some limit)
    (late : limit.nanos ≤ now - exchange.started) :
    session.takeUp now arrived (some exchange) =
      ((session.arrive now arrived).expire exchange limit).loop := by
  generalize begun : session.arrive now arrived = taken
  have checked : taken.check = taken := by
    rw [check, ← begun]
    simp [arrive, alone]
  have goes : taken.running = true := by rw [← begun]; exact running
  have expired : taken.expired? exchange = some limit := by
    have bound : taken.profile.exchangeLimit = some limit := by rw [← begun]; exact limited
    have clock : taken.clock = now := by rw [← begun]; rfl
    simp [expired?, bound, clock, late]
  have advanced : taken.advance exchange = (.ended .done, taken.expire exchange limit) := by
    simp only [advance, checked, goes, if_true, expired]
  have exchanged : taken.exchange exchange = (.done, taken.expire exchange limit) := by
    rw [Session.exchange]
    split
    · rename_i ended
      rw [advanced] at ended
      cases ended
      rfl
    · rename_i pending
      rw [advanced] at pending
      cases pending
  rw [takeUp, begun, resume, exchanged]
  rfl

/-- What a session has added to its key log are the records of what it has received. -/
theorem added_takeUp (now : Nat) (arrived : Option Bytes) (pending : Option Exchange)
    (session : Session) :
    ∃ receptions : List Reception, session.added (session.takeUp now arrived pending).2 =
      (receptions.filterMap (·.record? session.profile)).flatten := by
  obtain ⟨receptions, trail⟩ := resume_reaches pending (session.arrive now arrived)
  have contents := trail.adds.contents
  refine ⟨receptions, ?_⟩
  change (session.takeUp now arrived pending).2.files.contents session.profile.keyLog =
    session.files.contents session.profile.keyLog ++ _ at contents
  rw [added, contents, List.drop_left]
  rfl

end Session

end Provisioning
