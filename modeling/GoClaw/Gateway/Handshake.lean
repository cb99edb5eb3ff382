import GoClaw.Pairing.Service

namespace GoClaw

/-!
# Gateway — the connect handshake (`conn.go`, `auth.go`, `connect.go`)

`processConnect` and `verifyDevice` as `Prog`s over the pairing calls, so that a handshake
interleaves with every other Service caller at store-call granularity.

* The input is the connect request once `ParseFrame` and `json.Unmarshal` have produced it
  (`ConnectRequest`); a frame that fails to parse ends the handshake before any pairing call.
* `validateConnect` and `authenticate` are the protocol-range and legacy shared-secret checks.
* `verifyDevice` rebuilds the signing payload, checks the signature, the nonce and the derived
  id, asks `checkPairingStatus`, and on `"paired"` or `"auto-approved"` returns the token of
  `ensureDeviceToken` — `""` when there is none, still admitting the connection.
* A handshake that returns `.ok token` is one after which the Conn enters
  `StateAuthenticated` and `OnAuthenticated` runs.
-/

open Prog (writeMessage)

/-- `ServerProtocol`. -/
def ServerProtocol : Int := 3

/-- `ClientInfo`. -/
structure ClientInfo where
  id : String
  displayName : String := ""
  version : String := ""
  platform : String := ""
  mode : String := ""

/-- `DeviceConnectPayload`. -/
structure DeviceConnectPayload where
  id : String
  publicKey : String
  signature : String
  signedAt : Int
  nonce : String

/-- `ConnectAuth`. -/
structure ConnectAuth where
  token : String

/-- `ConnectParams` (the `permissions` map, which nothing reads, is left out). -/
structure ConnectParams where
  minProtocol : Int
  maxProtocol : Int
  client : ClientInfo
  role : String := ""
  caps : List String := []
  commands : List String := []
  auth : Option ConnectAuth := none
  device : Option DeviceConnectPayload := none

/-- The connect request as `processConnect` has it after parsing: the frame's id and method and
its decoded params. -/
structure ConnectRequest where
  id : String
  method : String
  params : ConnectParams

/-- `AuthConfig`: mode `"none"` or `"token"`. -/
structure AuthConfig where
  mode : String
  token : String := ""

/-- `AuthResult`. -/
structure AuthResult where
  ok : Bool
  method : String := ""
  reason : String := ""

/-- `Authenticate`. -/
def authenticate (cfg : AuthConfig) (provided : Option ConnectAuth) : AuthResult :=
  if cfg.mode = "none" then { ok := true, method := "none" }
  else if cfg.mode = "token" then
    match provided with
    | none => { ok := false, method := "token", reason := "token_missing" }
    | some p =>
      if p.token = "" then { ok := false, method := "token", reason := "token_missing" }
      else if p.token ≠ cfg.token then { ok := false, method := "token", reason := "token_mismatch" }
      else { ok := true, method := "token" }
  else { ok := false, reason := "unknown_auth_mode" }

/-- `ValidateConnect`: whether `ServerProtocol` lies in the client's range. -/
def validateConnect (params : ConnectParams) : Bool :=
  !(ServerProtocol < params.minProtocol || params.maxProtocol < ServerProtocol)

/-- The error a failed handshake sends back, by its wire code. -/
inductive HandshakeError where
  /-- `INVALID_METHOD`. -/
  | invalidMethod
  /-- `PROTOCOL_MISMATCH`. -/
  | protocolMismatch
  /-- `UNAUTHORIZED`, with `Authenticate`'s reason. -/
  | unauthorized (reason : String)
  /-- `INVALID_SIGNATURE`. -/
  | invalidSignature
  /-- `INVALID_NONCE`. -/
  | invalidNonce
  /-- `INVALID_DEVICE_ID`. -/
  | invalidDeviceID
  /-- `NOT_PAIRED`, its message the JSON `{"requestId": …}`. -/
  | notPaired (requestID : String)
  /-- `PAIRING_ERROR`. -/
  | pairingError (status : String)
  /-- The success response could not be written. -/
  | writeFailed
  deriving DecidableEq, Repr

/-- What `processConnect` reads of its `Conn`. -/
structure ConnInfo where
  auth : AuthConfig
  /-- Whether a Pairing Service is attached (`pairingSvc != nil`). -/
  pairing : Bool
  isLocal : Bool
  challengeNonce : String

/-- The role the handshake signs and registers under: `"node"` when none is given. -/
def ConnectParams.resolvedRole (params : ConnectParams) : String :=
  if params.role = "" then "node" else params.role

/-- The payload `verifyDevice` checks the signature over. -/
def signingPayload (conn : ConnInfo) (params : ConnectParams) (dev : DeviceConnectPayload) :
    String :=
  buildAuthPayload
    { deviceID := dev.id, clientID := params.client.id, clientMode := params.client.mode,
      role := params.resolvedRole, scopes := params.caps, signedAtMs := dev.signedAt,
      token := if conn.auth.mode = "token" then conn.auth.token else "", nonce := dev.nonce }

/-- `verifyDevice`. -/
def verifyDevice (cr : Crypto) (conn : ConnInfo) (params : ConnectParams)
    (dev : DeviceConnectPayload) : Prog (Except HandshakeError String) :=
  if !verifySignature cr dev.publicKey (signingPayload conn params dev) dev.signature then
    pure (.error .invalidSignature)
  else if dev.nonce ≠ conn.challengeNonce then pure (.error .invalidNonce)
  else if deriveDeviceID cr dev.publicKey ≠ dev.id then pure (.error .invalidDeviceID)
  else do
    let derivedID := deriveDeviceID cr dev.publicKey
    let action ← checkPairingStatus
      { deviceID := derivedID, publicKey := dev.publicKey, role := params.resolvedRole,
        scopes := params.caps, isLocal := conn.isLocal }
    if action.status = "paired" ∨ action.status = "auto-approved" then do
      let tok ← ensureDeviceToken derivedID params.resolvedRole params.caps
      pure (.ok ((tok.map (·.token)).getD ""))
    else if action.status = "pairing-required" then pure (.error (.notPaired action.requestID))
    else pure (.error (.pairingError action.status))

/-- The device step of `processConnect`: `verifyDevice` when a Pairing Service is attached and
the params carry a device payload, the empty token otherwise. -/
def deviceStep (cr : Crypto) (conn : ConnInfo) (params : ConnectParams) :
    Prog (Except HandshakeError String) :=
  match params.device with
  | some dev => if conn.pairing then verifyDevice cr conn params dev else pure (.ok "")
  | none => pure (.ok "")

/-- `processConnect` from the parsed request: the device token on success (`""` for none). -/
def processConnect (cr : Crypto) (conn : ConnInfo) (req : ConnectRequest) :
    Prog (Except HandshakeError String) :=
  if req.method ≠ "connect" then pure (.error .invalidMethod)
  else if !validateConnect req.params then pure (.error .protocolMismatch)
  else if !(authenticate conn.auth req.params.auth).ok then
    pure (.error (.unauthorized (authenticate conn.auth req.params.auth).reason))
  else do
    match ← deviceStep cr conn req.params with
    | .error e => pure (.error e)
    | .ok deviceToken =>
      if ← writeMessage then pure (.ok deviceToken) else pure (.error .writeFailed)

end GoClaw
