import GoClaw.Pairing.Types
import GoClaw.Pairing.Store
import GoClaw.Pairing.Encoding
import GoClaw.Pairing.Identity
import GoClaw.Text.Decimal
import GoClaw.Pairing.Payload
import GoClaw.Pairing.Program
import GoClaw.Pairing.Persistence
import GoClaw.Json.Syntax
import GoClaw.Json.Value
import GoClaw.Json.Decode
import GoClaw.Json.Codec
import GoClaw.Json.Nil
import GoClaw.Pairing.Files
import GoClaw.Pairing.Service
import GoClaw.Gateway.Handshake
import GoClaw.Pairing.System
import GoClaw.Pairing.WellFormed
import GoClaw.Pairing.Pending
import GoClaw.Pairing.Tokens
import GoClaw.Pairing.Status
import GoClaw.Pairing.Approval
import GoClaw.Gateway.Admission
import GoClaw.Node.Registry
import GoClaw.Gateway.Runtime
import GoClaw.Gateway.Sessions
import GoClaw.Gateway.Invocations
import GoClaw.Gateway.Rendezvous
import GoClaw.Protocol.Frames
import GoClaw.Protocol.Connect
import GoClaw.Scripts.TestPairing
import GoClaw.Pairing.Ids
import GoClaw.Discord.Router
import GoClaw.Net.Addr
import GoClaw.Gateway.Loopback
