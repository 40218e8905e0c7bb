import VenueGateway.Assoc
import VenueGateway.Binary64.Basic
import VenueGateway.Binary64.Fixed
import VenueGateway.Binary64.Shortest
import VenueGateway.Binary64.Whole
import VenueGateway.Bus.Basic
import VenueGateway.Bus.Hub
import VenueGateway.Client.Basic
import VenueGateway.Client.Run
import VenueGateway.Client.Task
import VenueGateway.Decimal.Basic
import VenueGateway.Decimal.Float
import VenueGateway.Decimal.Text
import VenueGateway.Desk.Replies
import VenueGateway.Desk.Requests
import VenueGateway.Digest.Hmac
import VenueGateway.Digest.Sha256
import VenueGateway.Duration
import VenueGateway.Event
import VenueGateway.Gateway.Basic
import VenueGateway.Gateway.Commands
import VenueGateway.Gateway.Intake
import VenueGateway.Gateway.Polling
import VenueGateway.Gateway.Replies
import VenueGateway.Gateway.Run
import VenueGateway.Health
import VenueGateway.Json.Field
import VenueGateway.Json.Printer
import VenueGateway.Json.Reader
import VenueGateway.Json.Real
import VenueGateway.Json.Token
import VenueGateway.Json.Value
import VenueGateway.Metrics
import VenueGateway.Order.Command
import VenueGateway.Order.Identity
import VenueGateway.Order.Terms
import VenueGateway.Outbox
import VenueGateway.Power
import VenueGateway.Proofs.Assoc
import VenueGateway.Proofs.Binary64.Shortest
import VenueGateway.Proofs.Bus.Counting
import VenueGateway.Proofs.Bus.Delivery
import VenueGateway.Proofs.Bus.Draining
import VenueGateway.Proofs.Bus.Feedback
import VenueGateway.Proofs.Bus.Ledger
import VenueGateway.Proofs.Bus.OnceInOrder
import VenueGateway.Proofs.Bus.Posting
import VenueGateway.Proofs.Bus.Publishing
import VenueGateway.Proofs.Bus.Share
import VenueGateway.Proofs.Bus.Totals
import VenueGateway.Proofs.Client.CleanClose
import VenueGateway.Proofs.Client.Closing
import VenueGateway.Proofs.Client.FanOut
import VenueGateway.Proofs.Client.Moves
import VenueGateway.Proofs.Client.Numbering
import VenueGateway.Proofs.Client.Pursuit
import VenueGateway.Proofs.Client.Reconnect
import VenueGateway.Proofs.Client.WireOrder
import VenueGateway.Proofs.Client.Writer
import VenueGateway.Proofs.Decimal.Text
import VenueGateway.Proofs.Event
import VenueGateway.Proofs.Gateway.Assembly
import VenueGateway.Proofs.Gateway.Attribution
import VenueGateway.Proofs.Gateway.Entries
import VenueGateway.Proofs.Gateway.Hearing
import VenueGateway.Proofs.Gateway.Inertness
import VenueGateway.Proofs.Gateway.Namesakes
import VenueGateway.Proofs.Gateway.Polling
import VenueGateway.Proofs.Gateway.Provenance
import VenueGateway.Proofs.Gateway.Queries
import VenueGateway.Proofs.Gateway.Reconciliation
import VenueGateway.Proofs.Gateway.Redelivery
import VenueGateway.Proofs.Gateway.Relay
import VenueGateway.Proofs.Gateway.Settlement
import VenueGateway.Proofs.Gateway.Statuses
import VenueGateway.Proofs.Json.Canonical
import VenueGateway.Proofs.Json.Fields
import VenueGateway.Proofs.Json.Grammar
import VenueGateway.Proofs.Json.Numerals
import VenueGateway.Proofs.Json.RoundTrip
import VenueGateway.Proofs.Json.Tokens
import VenueGateway.Proofs.Json.Tolerance
import VenueGateway.Proofs.Json.Wire
import VenueGateway.Proofs.Metrics
import VenueGateway.Proofs.Order.Command
import VenueGateway.Proofs.Outbox.Conservation
import VenueGateway.Proofs.Text.Numerals
import VenueGateway.Proofs.Text.Utf8
import VenueGateway.Proofs.Tracker.Accounts
import VenueGateway.Proofs.Tracker.Cadence
import VenueGateway.Proofs.Tracker.Cancels
import VenueGateway.Proofs.Tracker.Change
import VenueGateway.Proofs.Tracker.Closing
import VenueGateway.Proofs.Tracker.Run
import VenueGateway.Proofs.Venue.Acceptance
import VenueGateway.Proofs.Venue.Directory
import VenueGateway.Proofs.Venue.Frame
import VenueGateway.Proofs.Venue.Loading
import VenueGateway.Proofs.Venue.Reply
import VenueGateway.Proofs.Venue.Request
import VenueGateway.Settings
import VenueGateway.Target
import VenueGateway.Text.Blank
import VenueGateway.Text.Hidden
import VenueGateway.Text.Numerals
import VenueGateway.Text.Quoted
import VenueGateway.Text.Utf8
import VenueGateway.Tracker.Basic
import VenueGateway.Tracker.Polling
import VenueGateway.Venue.Credentials
import VenueGateway.Venue.Directory
import VenueGateway.Venue.Frame
import VenueGateway.Venue.Link
import VenueGateway.Venue.Reply
import VenueGateway.Venue.Request
import VenueGateway.Venue.Retry
import VenueGateway.Venue.Session
import VenueGateway.Proofs.Gateway.Cancellation
import VenueGateway.Proofs.Bus.Roll
import VenueGateway.Proofs.Gateway.Routing
import VenueGateway.Proofs.Bus.Bookkeeping
import VenueGateway.Proofs.Digest.Bits
import VenueGateway.Proofs.Digest.Standard
import VenueGateway.Proofs.Digest.Roots
import VenueGateway.Proofs.Digest.Sha256
import VenueGateway.Proofs.Digest.Hmac
import VenueGateway.Proofs.Venue.Signing
import VenueGateway.Proofs.Settings.Credentials
import VenueGateway.Proofs.Settings.Defaults
import VenueGateway.Proofs.Settings.Redaction
