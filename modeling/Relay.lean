import Relay.Main
import Relay.Serve
import Relay.Shutdown
import Relay.Startup
import Relay.Wire
import Relay.Proofs.Base64
import Relay.Proofs.Punycode
import Relay.Proofs.Idna
import Relay.Proofs.Address
import Relay.Proofs.Authority
import Relay.Proofs.Origin
import Relay.Proofs.Target
import Relay.Proofs.Exchange
import Relay.Proofs.Dispatch
import Relay.Proofs.HeaderFlow
import Relay.Proofs.Fidelity
import Relay.Proofs.Upload
import Relay.Proofs.Reload
import Relay.Proofs.Answer
import Relay.Proofs.Handling
import Relay.Proofs.Reader
import Relay.Proofs.Record
import Relay.Proofs.Hosts
import Relay.Proofs.Credentials
import Relay.Proofs.Discretion
import Relay.Proofs.EventLog
import Relay.Proofs.Shutdown
import Relay.Proofs.Startup
import Relay.Proofs.Layers
import Relay.Proofs.Loading
import Relay.Proofs.Watching
import Relay.Proofs.Deadline
import Relay.Proofs.Correlation
import Relay.Proofs.Counters
import Relay.Proofs.Query
import Relay.Proofs.Merging
import Relay.Proofs.Body
import Relay.Proofs.Path
import Relay.Proofs.Lookup
import Relay.Proofs.Mount
import Relay.Proofs.Presence
import Relay.Proofs.Printed
