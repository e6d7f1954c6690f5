import Provisioning.Main
import Provisioning.Proofs.Link.Accounting
import Provisioning.Proofs.Link.RoundTrip
import Provisioning.Proofs.Session.Interpretation
import Provisioning.Proofs.Session.Endings
import Provisioning.Proofs.Session.KeyLog
import Provisioning.Proofs.Session.Balance
import Provisioning.Proofs.Session.Transmission
import Provisioning.Proofs.Session.DeviceLine
import Provisioning.Proofs.Link.Reading
import Provisioning.Proofs.Capture
import Provisioning.Proofs.Link.Draining
import Provisioning.Proofs.Session.Instant
import Provisioning.Proofs.Session.Timeline
import Provisioning.Proofs.Session.Stopping
import Provisioning.Proofs.Link.Attempts
import Provisioning.Proofs.Session.Conclusion
import Provisioning.Proofs.Session.Deadline
import Provisioning.Proofs.Session.Pausing
import Provisioning.Proofs.Link.Framing
import Provisioning.Proofs.Corruption
import Provisioning.Proofs.Base64.Records
import Provisioning.Proofs.Session.Footprint
import Provisioning.Proofs.Session.Confinement
import Provisioning.Proofs.Session.Live
import Provisioning.Proofs.Link.Moments
import Provisioning.Proofs.Session.Capacity
import Provisioning.Proofs.Link.LineLength
import Provisioning.Proofs.Session.Runs
import Provisioning.Proofs.Session.Chatter
import Provisioning.Proofs.Link.Results
import Provisioning.Proofs.Session.Progress
import Provisioning.Proofs.Transcript.Limit
import Provisioning.Proofs.Json.Reading
import Provisioning.Proofs.Transcript.Recovery
import Provisioning.Proofs.Arguments.Word
import Provisioning.Proofs.Arguments.Duration
import Provisioning.Proofs.Arguments.Range
