import Provisioning.Session.Run

/-! # Serving a device as it happens

What a device will send is not known beforehand. So a session over a real line is run until it
waits, with nothing in store and a tail that is not known yet, and is taken up again when bytes have
arrived or some time has passed. Between two such moments no time passes for the session. The limit
for exchanges is its own: an exchange that is taken up again begins with a check.

The key log is a file of the host's that others may guard. So a session first goes on as if the host
let it add its record, and if the host does not, it goes on from the same place with that error in
store (`refusing`).
-/

namespace Provisioning.Session

/-- What happens on the line while a session waits: bytes arrive, the stream ends, which is to say
that no bytes arrive, or nothing happens. -/
def arrive (now : Nat) (arrived : Option Bytes) (session : Session) : Session :=
  let script := (arrived.map fun bytes => { outcome := .ok bytes : ReadStep }).toList
  { session with
    receiver := { session.receiver with
      source := { session.receiver.source with clock := now, script } } }

/-- Take up a session that waits. -/
def takeUp (now : Nat) (arrived : Option Bytes) (pending : Option Exchange) (session : Session) :
    RunEnd × Session :=
  (session.arrive now arrived).resume pending

/-- The session with a host that refuses to add the next record to the key log. -/
def refusing (error : IoError) (session : Session) : Session :=
  { session with files := { session.files with appends := [some error] } }

/-- What a session has added to its key log since. -/
def added (before after : Session) : Bytes :=
  (after.files.contents before.profile.keyLog).drop
    (before.files.contents before.profile.keyLog).length

end Provisioning.Session
