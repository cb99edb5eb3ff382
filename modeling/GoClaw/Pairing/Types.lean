import Mathlib.Data.List.AList

namespace GoClaw

/-!
# Pairing — the records of `store.go`

The pairing store keeps two Go maps: pending requests by request id and paired devices by
device id, each device holding a map of per-role tokens.

* A Go `map[string]V` is a `GoMap V`, an `AList` keyed by `String`: its keys are distinct by
  construction and its entry order stands for one of the iteration orders Go may pick.  A nil
  map and a nil slice are the empty ones (`SetPaired` only ever turns a nil token map into an
  empty one).
* Timestamps are the code's `int64` milliseconds, as `Int`; the one subtraction that can wrap,
  in `PruneExpiredPending`, wraps explicitly.
-/

/-- A Go `map[string]V`. -/
abbrev GoMap (V : Type) := AList (fun _ : String => V)

/-- `PendingTTLMs`: five minutes. -/
def PendingTTLMs : Int := 5 * 60 * 1000

/-- `PendingRequest`: a device waiting for operator approval. -/
structure PendingRequest where
  requestID : String
  deviceID : String
  publicKey : String
  displayName : String
  platform : String
  clientID : String
  clientMode : String
  role : String
  scopes : List String
  remoteIP : String
  silent : Bool
  isRepair : Bool
  timestamp : Int
  deriving DecidableEq, Repr

/-- `DeviceAuthToken`: the token issued to a paired device for one role. -/
structure DeviceAuthToken where
  token : String
  role : String
  scopes : List String
  createdAtMs : Int
  rotatedAtMs : Int := 0
  revokedAtMs : Int := 0
  lastUsedMs : Int := 0
  deriving DecidableEq, Repr

/-- `PairedDevice`: a device an operator approved, with its tokens keyed by role. -/
structure PairedDevice where
  deviceID : String
  publicKey : String
  displayName : String
  platform : String
  clientID : String
  clientMode : String
  role : String
  scopes : List String
  remoteIP : String
  tokens : GoMap DeviceAuthToken
  createdAtMs : Int
  approvedAtMs : Int

/-- `PairingState`: the two maps the store keeps in memory and writes to disk. -/
structure PairingState where
  pendingByID : GoMap PendingRequest
  pairedByDevice : GoMap PairedDevice

/-- The state of a fresh store on an empty directory. -/
def PairingState.empty : PairingState := ⟨∅, ∅⟩

/-- `DeviceMetadataPatch`: the fields `UpdateDeviceMetadata` overwrites, `none` standing for a
nil pointer. -/
structure DeviceMetadataPatch where
  displayName : Option String := none
  platform : Option String := none
  clientID : Option String := none
  clientMode : Option String := none
  role : Option String := none
  scopes : Option (List String) := none
  remoteIP : Option String := none

/-- How a `saveJSON` went: `os.WriteFile` of the temporary file or the `os.Rename` over the
target can fail (`json.MarshalIndent` of these maps cannot). -/
inductive Disk where
  | ok
  | writeFails
  | renameFails
  deriving DecidableEq, Repr

/-- The errors of `store.go` and `service.go`, by the `fmt.Errorf` that builds them. -/
inductive PairingError where
  /-- `write %s: %w`, naming the temporary file. -/
  | write (tmp : String)
  /-- `rename %s: %w`. -/
  | rename (filename : String)
  /-- `device %q not found`. -/
  | deviceNotFound (deviceID : String)
  /-- `deviceID is required`. -/
  | deviceIDRequired
  /-- `add pending: %w`. -/
  | addPending (e : PairingError)
  /-- `set paired: %w`. -/
  | setPaired (e : PairingError)
  /-- `set token: %w`. -/
  | setToken (e : PairingError)
  deriving DecidableEq, Repr

end GoClaw
