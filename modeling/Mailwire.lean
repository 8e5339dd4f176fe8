import Mailwire.Proofs.Config.Building
import Mailwire.Proofs.Config.Timeouts
import Mailwire.Proofs.Connection.Closing
import Mailwire.Proofs.Connector.Anchors
import Mailwire.Proofs.Connector.Bound
import Mailwire.Proofs.Connector.Ledger
import Mailwire.Proofs.Connector.Notification
import Mailwire.Proofs.Connector.Sockets
import Mailwire.Proofs.Connector.Tries
import Mailwire.Proofs.LineStream.Bounded
import Mailwire.Proofs.LineStream.Cursor
import Mailwire.Proofs.LineStream.EndOfStream
import Mailwire.Proofs.LineStream.RoundTrip
import Mailwire.Proofs.LineStream.Secrecy
import Mailwire.Proofs.LineStream.Text
import Mailwire.Proofs.LineStream.Timeout
import Mailwire.Proofs.Tls.Rejection
import Mailwire.Proofs.Transport.Lifecycle
import Mailwire.Rehearsal.Encounter
import Mailwire.Rehearsal.Stage
