import GoClaw.Pairing.Types
import Mathlib.Data.List.Sort

namespace GoClaw

/-!
# Pairing — `Store`

`Store` is `store.go`'s `Store`: the in-memory `PairingState` together with what
`pending.json` and `paired.json` hold.  Every method is one atomic step under the store's
mutex; a method that persists takes the `Disk` outcome of its `saveJSON`.

* Reads: `getPendingRequest`, `getPairedDevice`, `listPending`, `listPaired`.
* Writes: `addPending`, `removePending`, `setPaired`, `updateDeviceMetadata`,
  `setDeviceToken` (the last two one `modifyPaired` applied to their own change),
  `pruneExpiredPending`, and the spec's `reload`.
* Every write changes the in-memory map first and then saves the whole map: the file takes
  the new map when the save succeeds and keeps its old contents when it fails, while the
  in-memory change stays either way.
-/

/-- The fields a `DeviceMetadataPatch` overwrites, each only when it is set. -/
def DeviceMetadataPatch.apply (patch : DeviceMetadataPatch) (dev : PairedDevice) : PairedDevice :=
  { dev with
    displayName := patch.displayName.getD dev.displayName
    platform := patch.platform.getD dev.platform
    clientID := patch.clientID.getD dev.clientID
    clientMode := patch.clientMode.getD dev.clientMode
    role := patch.role.getD dev.role
    scopes := patch.scopes.getD dev.scopes
    remoteIP := patch.remoteIP.getD dev.remoteIP }

/-- `Store`: the in-memory state and the contents of the two files. -/
structure Store where
  state : PairingState
  pendingFile : GoMap PendingRequest
  pairedFile : GoMap PairedDevice

namespace Store

/-- `NewStore` on a fresh directory: empty maps, no file yet (a missing file loads as empty). -/
def empty : Store := ⟨.empty, ∅, ∅⟩

/-! ### Persistence helpers -/

/-- `saveJSON filename data`, seen from the target file: `file` is what it held before, the
result what it holds after, with the error.  A failed write or rename leaves the target as it
was (the temporary file is not modelled). -/
def saveJSON {V : Type} (filename : String) (data file : GoMap V) :
    Disk → GoMap V × Option PairingError
  | .ok => (data, none)
  | .writeFails => (file, some (.write (filename ++ ".tmp")))
  | .renameFails => (file, some (.rename filename))

/-- `savePending`: `saveJSON("pending.json", PendingByID)`. -/
def savePending (s : Store) (d : Disk) : Store × Option PairingError :=
  let r := saveJSON "pending.json" s.state.pendingByID s.pendingFile d
  ({ s with pendingFile := r.1 }, r.2)

/-- `savePaired`: `saveJSON("paired.json", PairedByDevice)`. -/
def savePaired (s : Store) (d : Disk) : Store × Option PairingError :=
  let r := saveJSON "paired.json" s.state.pairedByDevice s.pairedFile d
  ({ s with pairedFile := r.1 }, r.2)

/-- A save leaves the target holding the new map or, when it fails, the old one. -/
theorem saveJSON_fst {V : Type} (filename : String) (data file : GoMap V) (d : Disk) :
    (saveJSON filename data file d).1 = data ∨ (saveJSON filename data file d).1 = file := by
  cases d <;> simp [saveJSON]

/-- A save reports no error exactly when the disk did its part. -/
@[simp] theorem saveJSON_snd_eq_none {V : Type} (filename : String) (data file : GoMap V)
    (d : Disk) : (saveJSON filename data file d).2 = none ↔ d = .ok := by
  cases d <;> simp [saveJSON]

@[simp] theorem savePending_state (s : Store) (d : Disk) : (s.savePending d).1.state = s.state := rfl
@[simp] theorem savePending_pairedFile (s : Store) (d : Disk) :
    (s.savePending d).1.pairedFile = s.pairedFile := rfl
@[simp] theorem savePaired_state (s : Store) (d : Disk) : (s.savePaired d).1.state = s.state := rfl
@[simp] theorem savePaired_pendingFile (s : Store) (d : Disk) :
    (s.savePaired d).1.pendingFile = s.pendingFile := rfl

/-- The store with its in-memory pending map replaced. -/
def withPending (s : Store) (m : GoMap PendingRequest) : Store :=
  { s with state := { s.state with pendingByID := m } }

/-- The store with its in-memory paired map replaced. -/
def withPaired (s : Store) (m : GoMap PairedDevice) : Store :=
  { s with state := { s.state with pairedByDevice := m } }

@[simp] theorem withPending_pendingByID (s : Store) (m : GoMap PendingRequest) :
    (s.withPending m).state.pendingByID = m := rfl
@[simp] theorem withPending_pairedByDevice (s : Store) (m : GoMap PendingRequest) :
    (s.withPending m).state.pairedByDevice = s.state.pairedByDevice := rfl
@[simp] theorem withPending_pendingFile (s : Store) (m : GoMap PendingRequest) :
    (s.withPending m).pendingFile = s.pendingFile := rfl
@[simp] theorem withPending_pairedFile (s : Store) (m : GoMap PendingRequest) :
    (s.withPending m).pairedFile = s.pairedFile := rfl
@[simp] theorem withPaired_pendingByID (s : Store) (m : GoMap PairedDevice) :
    (s.withPaired m).state.pendingByID = s.state.pendingByID := rfl
@[simp] theorem withPaired_pairedByDevice (s : Store) (m : GoMap PairedDevice) :
    (s.withPaired m).state.pairedByDevice = m := rfl
@[simp] theorem withPaired_pendingFile (s : Store) (m : GoMap PairedDevice) :
    (s.withPaired m).pendingFile = s.pendingFile := rfl
@[simp] theorem withPaired_pairedFile (s : Store) (m : GoMap PairedDevice) :
    (s.withPaired m).pairedFile = s.pairedFile := rfl

/-! ### Read operations -/

/-- `GetPendingRequest`. -/
def getPendingRequest (s : Store) (requestID : String) : Option PendingRequest :=
  s.state.pendingByID.lookup requestID

/-- `GetPairedDevice`. -/
def getPairedDevice (s : Store) (deviceID : String) : Option PairedDevice :=
  s.state.pairedByDevice.lookup deviceID

/-- `ListPending`: every pending request, latest `Timestamp` first. -/
def listPending (s : Store) : List PendingRequest :=
  (s.state.pendingByID.entries.map (·.2)).insertionSort (fun a b => b.timestamp ≤ a.timestamp)

/-- `ListPaired`: every paired device, latest `ApprovedAtMs` first. -/
def listPaired (s : Store) : List PairedDevice :=
  (s.state.pairedByDevice.entries.map (·.2)).insertionSort
    (fun a b => b.approvedAtMs ≤ a.approvedAtMs)

/-! ### Write operations -/

/-- `AddPending`: add or overwrite the request under its `RequestID`, then save. -/
def addPending (s : Store) (req : PendingRequest) (d : Disk) : Store × Option PairingError :=
  (s.withPending (s.state.pendingByID.insert req.requestID req)).savePending d

/-- `RemovePending`: remove and return the request; the save's error is dropped. -/
def removePending (s : Store) (requestID : String) (d : Disk) : Store × Option PendingRequest :=
  match s.state.pendingByID.lookup requestID with
  | none => (s, none)
  | some req => (((s.withPending (s.state.pendingByID.erase requestID)).savePending d).1, some req)

/-- `SetPaired`: add or replace the device under its `DeviceID`, then save.  (A nil token map
becoming an empty one is the identity here.) -/
def setPaired (s : Store) (device : PairedDevice) (d : Disk) : Store × Option PairingError :=
  (s.withPaired (s.state.pairedByDevice.insert device.deviceID device)).savePaired d

/-- What `UpdateDeviceMetadata` and `SetDeviceToken` share: fail with `device %q not found`
when the device is absent, otherwise store `f dev` under `deviceID` and save. -/
def modifyPaired (s : Store) (deviceID : String) (f : PairedDevice → PairedDevice) (d : Disk) :
    Store × Option PairingError :=
  match s.state.pairedByDevice.lookup deviceID with
  | none => (s, some (.deviceNotFound deviceID))
  | some dev => (s.withPaired (s.state.pairedByDevice.insert deviceID (f dev))).savePaired d

/-- `UpdateDeviceMetadata`. -/
def updateDeviceMetadata (s : Store) (deviceID : String) (patch : DeviceMetadataPatch) (d : Disk) :
    Store × Option PairingError :=
  s.modifyPaired deviceID patch.apply d

/-- `SetDeviceToken`: `dev.Tokens[role] = token`. -/
def setDeviceToken (s : Store) (deviceID role : String) (token : DeviceAuthToken) (d : Disk) :
    Store × Option PairingError :=
  s.modifyPaired deviceID (fun dev => { dev with tokens := dev.tokens.insert role token }) d

/-- After `SetDeviceToken`, the device holds the token under the role (when it is paired). -/
theorem setDeviceToken_lookup (s : Store) (deviceID role : String) (token : DeviceAuthToken)
    (d : Disk) :
    (s.setDeviceToken deviceID role token d).1.state.pairedByDevice.lookup deviceID =
      (s.state.pairedByDevice.lookup deviceID).map
        fun dev => { dev with tokens := dev.tokens.insert role token } := by
  unfold setDeviceToken modifyPaired
  split <;> simp [*, AList.lookup_insert]

/-- `now - req.Timestamp` as `int64` computes it: the difference wrapped into the signed 64-bit
range (modulo `2 ^ 64 = 18446744073709551616`). -/
def int64Sub (a b : Int) : Int := Int.bmod (a - b) 18446744073709551616

/-- `PruneExpiredPending`'s test on one entry: `age > PendingTTLMs`. -/
def isExpired (now : Int) (req : PendingRequest) : Bool :=
  decide (PendingTTLMs < int64Sub now req.timestamp)

/-- `PruneExpiredPending`: delete every expired entry met in the range loop, save only when one
was deleted (dropping the error), and return how many were deleted. -/
def pruneExpiredPending (s : Store) (now : Int) (d : Disk) : Store × Nat :=
  let expired := s.state.pendingByID.entries.filter (fun e => isExpired now e.2)
  let s' := s.withPending (expired.foldl (fun m e => m.erase e.1) s.state.pendingByID)
  (if 0 < expired.length then (s'.savePending d).1 else s', expired.length)

/-- Modelled from the spec: `Store.Reload` is called by `CheckPairingStatus` but is not in the
source.  The spec's `reload()` "re-reads from disk so that external editors can influence a
running gateway": the in-memory maps become what `pending.json` and `paired.json` hold. -/
def reload (s : Store) : Store :=
  { s with state := ⟨s.pendingFile, s.pairedFile⟩ }

end Store

end GoClaw
