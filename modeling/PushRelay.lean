import PushRelay.Config.Load
import PushRelay.Node.Admin
import PushRelay.Node.Membership
import PushRelay.Session.Tcp
import PushRelay.Session.WebSocket
import PushRelay.Proofs.Channel.Handover
import PushRelay.Proofs.Node.Overtaking
import PushRelay.Proofs.Channel.Persistence
import PushRelay.Proofs.Registry
import PushRelay.Proofs.Channel.Calls
import PushRelay.Proofs.Hub.Changes
import PushRelay.Proofs.Hub.Lifecycle
import PushRelay.Proofs.Node.Migration
import PushRelay.Proofs.Node.Stranding
import PushRelay.Proofs.Tokens.Links
import PushRelay.Proofs.Tokens.Uses
import PushRelay.Proofs.Ring
import PushRelay.Proofs.Wire.Stream
import PushRelay.Proofs.Wire.Lines
import PushRelay.Proofs.Numeral
import PushRelay.Proofs.Wire.RoundTrip
import PushRelay.Proofs.Hub.Retention
import PushRelay.Proofs.Node.Batch
import PushRelay.Proofs.Store.Remote
import PushRelay.Proofs.Node.EmptyKey
import PushRelay.Proofs.Node.Occupancy
import PushRelay.Proofs.Channel.Isolation
import PushRelay.Proofs.Ids.Snowflake
import PushRelay.Proofs.Ids.Source
import PushRelay.Proofs.Store.Memory
import PushRelay.Proofs.Base64
import PushRelay.Proofs.Json.Text
import PushRelay.Proofs.Json.RoundTrip
import PushRelay.Proofs.Json.Record
import PushRelay.Proofs.Message
import PushRelay.Proofs.Store.Exchange
import PushRelay.Proofs.Wire.Pushes
import PushRelay.Proofs.Hub.Directory
import PushRelay.Proofs.Hub.Sharding
import PushRelay.Proofs.Ring.Nearest
import PushRelay.Proofs.Node.Reachable
import PushRelay.Proofs.Node.Backlog
import PushRelay.Proofs.Node.Push
import PushRelay.Proofs.Channel.Refusals
import PushRelay.Proofs.Ids.Sign
import PushRelay.Proofs.Node.Assignment
import PushRelay.Proofs.Node.Admission
import PushRelay.Proofs.Wire.Grammar
import PushRelay.Proofs.Log.Eviction
import PushRelay.Proofs.Node.Membership
import PushRelay.Proofs.Config.Written
import PushRelay.Proofs.Tokens.Structure
import PushRelay.Proofs.Node.Startup
import PushRelay.Proofs.Node.Idle
import PushRelay.Proofs.Session.Tcp
