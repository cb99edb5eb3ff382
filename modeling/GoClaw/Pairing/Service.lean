import GoClaw.Pairing.Program
import GoClaw.Pairing.Identity

namespace GoClaw

/-!
# Pairing — `Service` (`service.go`)

The Service operations as `Prog`s: each store call is a separate step, so every other caller
may run between two of them, exactly as between two acquisitions of the store's mutex.

* `requestPairing`, `approve`, `reject`, `verifyDeviceToken`, `ensureDeviceToken`,
  `revokeDeviceToken`, `checkPairingStatus`, and the helper `scopesContainAll`.
* `approvedDevice` is the record `Approve` stores: the request merged into the existing
  device, or a fresh device.
-/

open Prog (getPairedDevice listPending addPending removePending setPaired setDeviceToken reload
  now readRandom)

/-- `PairingRequestInput`. -/
structure PairingRequestInput where
  deviceID : String
  publicKey : String
  displayName : String := ""
  platform : String := ""
  clientID : String := ""
  clientMode : String := ""
  role : String
  scopes : List String
  remoteIP : String := ""
  isLocal : Bool

/-- `VerifyTokenParams`. -/
structure VerifyTokenParams where
  deviceID : String
  token : String
  role : String
  scopes : List String

/-- `VerifyTokenResult`. -/
structure VerifyTokenResult where
  ok : Bool
  reason : String
  deriving DecidableEq, Repr

/-- `CheckPairingParams`. -/
structure CheckPairingParams where
  deviceID : String
  publicKey : String
  role : String
  scopes : List String
  isLocal : Bool

/-- `PairingAction`: `status` is `"paired"`, `"pairing-required"` or `"auto-approved"`. -/
structure PairingAction where
  status : String
  requestID : String := ""
  device : Option PairedDevice := none

/-- `GenerateNonce()`: format 16 fresh random bytes. -/
def Prog.generateNonce : Prog String := GoClaw.generateNonce <$> readRandom 16

/-- `GeneratePairingToken()`: encode 32 fresh random bytes. -/
def Prog.generatePairingToken : Prog String := GoClaw.generatePairingToken <$> readRandom 32

/-- `scopesContainAll(have, need)`: build the set of `have`, then look every `need` up in it. -/
def scopesContainAll (haves need : List String) : Bool :=
  if need.isEmpty then true else
  let haveSet : GoMap Bool := haves.foldl (fun m s => m.insert s true) ∅
  need.all fun s => (haveSet.lookup s).getD false

/-- `RequestPairing`. -/
def requestPairing (req : PairingRequestInput) :
    Prog (Except PairingError (Option PendingRequest)) :=
  if req.deviceID = "" then pure (.error .deviceIDRequired) else do
  let existing ← getPairedDevice req.deviceID
  if existing.any (·.publicKey = req.publicKey) then pure (.ok none) else do
  let pendings ← listPending
  match pendings.find? (·.deviceID = req.deviceID) with
  | some pending => pure (.ok (some pending))
  | none => do
    let requestID ← Prog.generateNonce
    let timestamp ← now
    let pending : PendingRequest :=
      { requestID, deviceID := req.deviceID, publicKey := req.publicKey,
        displayName := req.displayName, platform := req.platform, clientID := req.clientID,
        clientMode := req.clientMode, role := req.role, scopes := req.scopes,
        remoteIP := req.remoteIP, silent := req.isLocal,
        isRepair := existing.any (·.publicKey ≠ req.publicKey), timestamp }
    match ← addPending pending with
    | some e => pure (.error (.addPending e))
    | none => pure (.ok (some pending))

/-- `Approve`'s metadata merge: a request field overwrites the device's only when non-empty. -/
def nonEmptyOr (new old : String) : String := if new ≠ "" then new else old

/-- The device `Approve` stores for the removed request: the existing record with the request's
key and non-empty metadata, or a fresh record created now; approved now either way. -/
def approvedDevice (existing : Option PairedDevice) (removed : PendingRequest) (now : Int) :
    PairedDevice :=
  let device : PairedDevice := match existing with
    | some e =>
      { e with
        publicKey := removed.publicKey
        displayName := nonEmptyOr removed.displayName e.displayName
        platform := nonEmptyOr removed.platform e.platform
        clientID := nonEmptyOr removed.clientID e.clientID
        clientMode := nonEmptyOr removed.clientMode e.clientMode
        remoteIP := nonEmptyOr removed.remoteIP e.remoteIP }
    | none =>
      { deviceID := removed.deviceID, publicKey := removed.publicKey,
        displayName := removed.displayName, platform := removed.platform,
        clientID := removed.clientID, clientMode := removed.clientMode, role := removed.role,
        scopes := removed.scopes, remoteIP := removed.remoteIP, tokens := ∅,
        createdAtMs := now, approvedAtMs := now }
  { device with approvedAtMs := now }

/-- `Approve`. -/
def approve (requestID : String) : Prog (Except PairingError (Option PairedDevice)) := do
  match ← removePending requestID with
  | none => pure (.ok none)
  | some removed =>
    let t ← now
    let existing ← getPairedDevice removed.deviceID
    match ← setPaired (approvedDevice existing removed t) with
    | some e => pure (.error (.setPaired e))
    | none =>
      let tokenErr ← if removed.role ≠ "" then do
          let token ← Prog.generatePairingToken
          setDeviceToken removed.deviceID removed.role
            { token, role := removed.role, scopes := removed.scopes, createdAtMs := t }
        else pure none
      match tokenErr with
      | some e => pure (.error (.setToken e))
      | none => .ok <$> getPairedDevice removed.deviceID

/-- `Reject`; its error result is always nil. -/
def reject (requestID : String) : Prog (Option PendingRequest) := removePending requestID

/-- `VerifyDeviceToken`. -/
def verifyDeviceToken (params : VerifyTokenParams) : Prog VerifyTokenResult := do
  match ← getPairedDevice params.deviceID with
  | none => pure ⟨false, "device-not-paired"⟩
  | some device =>
    match device.tokens.lookup params.role with
    | none => pure ⟨false, "token-missing"⟩
    | some tok =>
      if 0 < tok.revokedAtMs then pure ⟨false, "token-revoked"⟩
      else if !verifyPairingToken params.token tok.token then pure ⟨false, "token-mismatch"⟩
      else if !scopesContainAll tok.scopes params.scopes then pure ⟨false, "scope-mismatch"⟩
      else do
        let t ← now
        let _ ← setDeviceToken params.deviceID params.role { tok with lastUsedMs := t }
        pure ⟨true, ""⟩

/-- `EnsureDeviceToken`. -/
def ensureDeviceToken (deviceID role : String) (scopes : List String) :
    Prog (Option DeviceAuthToken) := do
  match ← getPairedDevice deviceID with
  | none => pure none
  | some device =>
    let t ← now
    let tok := device.tokens.lookup role
    if tok.any fun tok => tok.revokedAtMs = 0 && scopesContainAll tok.scopes scopes then pure tok
    else do
      let token ← Prog.generatePairingToken
      let newTok : DeviceAuthToken :=
        { token, role, scopes, createdAtMs := t, rotatedAtMs := if tok.isSome then t else 0 }
      let _ ← setDeviceToken deviceID role newTok
      pure (some newTok)

/-- `RevokeDeviceToken`. -/
def revokeDeviceToken (deviceID role : String) : Prog (Option DeviceAuthToken) := do
  match ← getPairedDevice deviceID with
  | none => pure none
  | some device =>
    match device.tokens.lookup role with
    | none => pure none
    | some tok =>
      let t ← now
      let _ ← setDeviceToken deviceID role { tok with revokedAtMs := t }
      pure (some { tok with revokedAtMs := t })

/-- `CheckPairingStatus`. -/
def checkPairingStatus (params : CheckPairingParams) : Prog PairingAction := do
  reload
  let device ← getPairedDevice params.deviceID
  if device.any (·.publicKey = params.publicKey) then pure { status := "paired", device } else
  if params.isLocal then do
    let r ← requestPairing
      { deviceID := params.deviceID, publicKey := params.publicKey, role := params.role,
        scopes := params.scopes, isLocal := true }
    match r with
    | .error _ | .ok none => pure { status := "paired", device }
    | .ok (some pending) =>
      match ← approve pending.requestID with
      | .error _ => pure { status := "pairing-required", requestID := pending.requestID }
      | .ok approved => pure { status := "auto-approved", device := approved }
  else do
    let r ← requestPairing
      { deviceID := params.deviceID, publicKey := params.publicKey, role := params.role,
        scopes := params.scopes, isLocal := false }
    let requestID := match r with
      | .ok (some pending) => pending.requestID
      | _ => ""
    pure { status := "pairing-required", requestID }

end GoClaw
