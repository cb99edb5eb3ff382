import GoClaw.Json.Nil
import GoClaw.Pairing.Persistence

namespace GoClaw

open Json

/-!
# Pairing — `pending.json` and `paired.json`

`saveJSON` writes a map with `json.MarshalIndent(data, "", "  ")`, and `NewStore` reads each
file back with `json.Unmarshal` into a map it has just made.  The records' codecs follow their
struct tags: each field's JSON name, its `omitempty`, its type.

* `pendingRequestCodec`, `deviceAuthTokenCodec` and `pairedDeviceCodec` are the three records;
  `pendingFileCodec` and `pairedFileCodec` the two maps, `map[string]pairing.PendingRequest`
  and `map[string]pairing.PairedDevice`.
* `loadJSON` and `newStore` are `loadJSON` and `NewStore`, with what `os.ReadFile` finds.
* `newStore_reads_back_memory`: on the directory of a store whose last saves went through,
  `NewStore` loads the maps the store holds in memory, each record field for field and each
  device with the same tokens, for every state whose timestamps are `int64`s, and whichever of
  the records' empty slices were nil when they were written (a token's `scopes` has no
  `omitempty`, so a nil one is written `null`).  A field `omitempty` leaves out reads back as
  the zero value it had (`absorb_pendingRequest`, `absorb_deviceAuthToken`,
  `absorb_pairedDevice`).
-/

/-! ### The records' json tags -/

/-- `[]string`. -/
def stringsCodec : Codec (List String) := sliceCodec (stringCodec "string") "" "[]string"

@[simp] theorem stringsCodec_absorb (old xs : List String) : stringsCodec.absorb old xs = xs :=
  absorbItems_eq _ _ (fun _ _ => rfl) old xs

@[simp] theorem stringsCodec_fits (xs : List String) : stringsCodec.Fits xs := fun _ _ => trivial

@[simp] theorem stringsCodec_isEmpty (xs : List String) : stringsCodec.isEmpty xs = xs.isEmpty := rfl

namespace PendingRequest

/-- The zero `PendingRequest`. -/
def zero : PendingRequest := ⟨"", "", "", "", "", "", "", "", [], "", false, false, 0⟩

/-- `PendingRequest`'s fields with their tags. -/
def members : List (Member PendingRequest) :=
  [⟨"requestId", false, stringCodec "string", (·.requestID), fun r v => { r with requestID := v }, fun _ => rfl⟩,
   ⟨"deviceId", false, stringCodec "string", (·.deviceID), fun r v => { r with deviceID := v }, fun _ => rfl⟩,
   ⟨"publicKey", false, stringCodec "string", (·.publicKey), fun r v => { r with publicKey := v }, fun _ => rfl⟩,
   ⟨"displayName", true, stringCodec "string", (·.displayName), fun r v => { r with displayName := v },
     fun _ => rfl⟩,
   ⟨"platform", true, stringCodec "string", (·.platform), fun r v => { r with platform := v }, fun _ => rfl⟩,
   ⟨"clientId", true, stringCodec "string", (·.clientID), fun r v => { r with clientID := v }, fun _ => rfl⟩,
   ⟨"clientMode", true, stringCodec "string", (·.clientMode), fun r v => { r with clientMode := v },
     fun _ => rfl⟩,
   ⟨"role", true, stringCodec "string", (·.role), fun r v => { r with role := v }, fun _ => rfl⟩,
   ⟨"scopes", true, stringsCodec, (·.scopes), fun r v => { r with scopes := v }, fun _ => rfl⟩,
   ⟨"remoteIP", true, stringCodec "string", (·.remoteIP), fun r v => { r with remoteIP := v }, fun _ => rfl⟩,
   ⟨"silent", true, boolCodec, (·.silent), fun r v => { r with silent := v }, fun _ => rfl⟩,
   ⟨"isRepair", true, boolCodec, (·.isRepair), fun r v => { r with isRepair := v }, fun _ => rfl⟩,
   ⟨"ts", false, int64Codec, (·.timestamp), fun r v => { r with timestamp := v }, fun _ => rfl⟩]

end PendingRequest

/-- `pairing.PendingRequest`. -/
def pendingRequestCodec : Codec PendingRequest :=
  structCodec "PendingRequest" "pairing.PendingRequest" PendingRequest.members (by decide)

theorem absorb_pendingRequest (r : PendingRequest) : pendingRequestCodec.absorb PendingRequest.zero r = r := by
  cases r
  simp [pendingRequestCodec, PendingRequest.members, Member.absorb, Member.omits, PendingRequest.zero,
    @eq_comm String "", @eq_comm (List String) []]

namespace DeviceAuthToken

/-- The zero `DeviceAuthToken`. -/
def zero : DeviceAuthToken := ⟨"", "", [], 0, 0, 0, 0⟩

/-- `DeviceAuthToken`'s fields with their tags. -/
def members : List (Member DeviceAuthToken) :=
  [⟨"token", false, stringCodec "string", (·.token), fun t v => { t with token := v }, fun _ => rfl⟩,
   ⟨"role", false, stringCodec "string", (·.role), fun t v => { t with role := v }, fun _ => rfl⟩,
   ⟨"scopes", false, stringsCodec, (·.scopes), fun t v => { t with scopes := v }, fun _ => rfl⟩,
   ⟨"createdAtMs", false, int64Codec, (·.createdAtMs), fun t v => { t with createdAtMs := v }, fun _ => rfl⟩,
   ⟨"rotatedAtMs", true, int64Codec, (·.rotatedAtMs), fun t v => { t with rotatedAtMs := v }, fun _ => rfl⟩,
   ⟨"revokedAtMs", true, int64Codec, (·.revokedAtMs), fun t v => { t with revokedAtMs := v }, fun _ => rfl⟩,
   ⟨"lastUsedAtMs", true, int64Codec, (·.lastUsedMs), fun t v => { t with lastUsedMs := v }, fun _ => rfl⟩]

end DeviceAuthToken

/-- `pairing.DeviceAuthToken`. -/
def deviceAuthTokenCodec : Codec DeviceAuthToken :=
  structCodec "DeviceAuthToken" "pairing.DeviceAuthToken" DeviceAuthToken.members (by decide)

/-- `map[string]pairing.DeviceAuthToken`, a device's tokens by role. -/
def tokensCodec : Codec (GoMap DeviceAuthToken) :=
  mapCodec deviceAuthTokenCodec DeviceAuthToken.zero "map[string]pairing.DeviceAuthToken"

theorem absorb_deviceAuthToken (t : DeviceAuthToken) :
    deviceAuthTokenCodec.absorb DeviceAuthToken.zero t = t := by
  cases t
  simp [deviceAuthTokenCodec, DeviceAuthToken.members, Member.absorb, Member.omits, DeviceAuthToken.zero,
    @eq_comm Int 0]

/-- Decoded tokens are the tokens printed. -/
theorem lookup_tokens_absorb (m : GoMap DeviceAuthToken) (role : String) :
    (tokensCodec.absorb ∅ m).lookup role = m.lookup role := by
  rw [tokensCodec, lookup_mapCodec_absorb]
  cases m.lookup role <;> simp [absorb_deviceAuthToken]

namespace PairedDevice

/-- The zero `PairedDevice`. -/
def zero : PairedDevice := ⟨"", "", "", "", "", "", "", [], "", ∅, 0, 0⟩

/-- `PairedDevice`'s fields with their tags. -/
def members : List (Member PairedDevice) :=
  [⟨"deviceId", false, stringCodec "string", (·.deviceID), fun d v => { d with deviceID := v }, fun _ => rfl⟩,
   ⟨"publicKey", false, stringCodec "string", (·.publicKey), fun d v => { d with publicKey := v }, fun _ => rfl⟩,
   ⟨"displayName", true, stringCodec "string", (·.displayName), fun d v => { d with displayName := v },
     fun _ => rfl⟩,
   ⟨"platform", true, stringCodec "string", (·.platform), fun d v => { d with platform := v }, fun _ => rfl⟩,
   ⟨"clientId", true, stringCodec "string", (·.clientID), fun d v => { d with clientID := v }, fun _ => rfl⟩,
   ⟨"clientMode", true, stringCodec "string", (·.clientMode), fun d v => { d with clientMode := v },
     fun _ => rfl⟩,
   ⟨"role", true, stringCodec "string", (·.role), fun d v => { d with role := v }, fun _ => rfl⟩,
   ⟨"scopes", true, stringsCodec, (·.scopes), fun d v => { d with scopes := v }, fun _ => rfl⟩,
   ⟨"remoteIP", true, stringCodec "string", (·.remoteIP), fun d v => { d with remoteIP := v }, fun _ => rfl⟩,
   ⟨"tokens", true, tokensCodec, (·.tokens), fun d v => { d with tokens := v }, fun _ => rfl⟩,
   ⟨"createdAtMs", false, int64Codec, (·.createdAtMs), fun d v => { d with createdAtMs := v }, fun _ => rfl⟩,
   ⟨"approvedAtMs", false, int64Codec, (·.approvedAtMs), fun d v => { d with approvedAtMs := v },
     fun _ => rfl⟩]

/-- Two paired devices alike field for field, their token maps holding the same tokens: Go maps
with the same entries, whatever order they were filled in. -/
def Same (a b : PairedDevice) : Prop :=
  { a with tokens := ∅ } = { b with tokens := ∅ } ∧ ∀ role, a.tokens.lookup role = b.tokens.lookup role

end PairedDevice

/-- `pairing.PairedDevice`. -/
def pairedDeviceCodec : Codec PairedDevice :=
  structCodec "PairedDevice" "pairing.PairedDevice" PairedDevice.members (by decide)

theorem absorb_pairedDevice (d : PairedDevice) :
    (pairedDeviceCodec.absorb PairedDevice.zero d).Same d := by
  cases d with
  | mk deviceID publicKey displayName platform clientID clientMode role scopes remoteIP tokens c a =>
    constructor
    · simp [pairedDeviceCodec, PairedDevice.members, Member.absorb, Member.omits, PairedDevice.zero,
        @eq_comm String "", @eq_comm (List String) []]
    · intro r
      simp only [pairedDeviceCodec, structCodec_absorb, PairedDevice.members, List.foldl, Member.absorb,
        Member.omits, PairedDevice.zero, Bool.true_and, tokensCodec, mapCodec_isEmpty]
      split
      · rename_i h
        have ht : tokens = ∅ := AList.ext (List.isEmpty_iff.1 h)
        rw [ht]
      · exact lookup_tokens_absorb tokens r

/-! ### The files -/

/-- `map[string]pairing.PendingRequest`, what `pending.json` holds. -/
def pendingFileCodec : Codec (GoMap PendingRequest) :=
  mapCodec pendingRequestCodec PendingRequest.zero "map[string]pairing.PendingRequest"

/-- `map[string]pairing.PairedDevice`, what `paired.json` holds. -/
def pairedFileCodec : Codec (GoMap PairedDevice) :=
  mapCodec pairedDeviceCodec PairedDevice.zero "map[string]pairing.PairedDevice"

/-- What `os.ReadFile` finds: no file, a file it cannot read, or a file's text. -/
inductive FileRead where
  | notExist
  | fails
  | text (data : List Char)

/-- The errors of `NewStore`, by the `fmt.Errorf` that builds them. -/
inductive NewStoreError where
  /-- `create state dir: %w`. -/
  | createDir
  /-- `read %s: %w`. -/
  | read (filename : String)
  /-- `unmarshal %s: %w`. -/
  | unmarshal (filename : String) (err : JsonError)
  deriving DecidableEq, Repr

/-- `loadJSON(filename, target)`: a missing file leaves the target as it was. -/
def loadJSON {β : Type} (c : Codec β) (filename : String) (file : FileRead) (target : β) :
    Except NewStoreError β :=
  match file with
  | .notExist => .ok target
  | .fails => .error (.read filename)
  | .text data => (unmarshal c.decode target data).mapError (.unmarshal filename)

/-- `NewStore(stateDir)`: after `os.MkdirAll` (`mkdir` says whether it worked), both maps made
empty and each loaded from its file. -/
def newStore (mkdir : Bool) (pending paired : FileRead) : Except NewStoreError PairingState := do
  unless mkdir do throw .createDir
  let pendingByID ← loadJSON pendingFileCodec "pending.json" pending ∅
  let pairedByDevice ← loadJSON pairedFileCodec "paired.json" paired ∅
  pure ⟨pendingByID, pairedByDevice⟩

/-- What `savePending` writes once it succeeds, every empty slice `[]`. -/
def Store.pendingText (s : Store) : List Char := marshalIndent pendingFileCodec s.pendingFile

/-- What `savePaired` writes once it succeeds, every empty slice `[]`. -/
def Store.pairedText (s : Store) : List Char := marshalIndent pairedFileCodec s.pairedFile

/-- Every timestamp of the state is an `int64`, as its Go type has it. -/
def PairingState.Int64Stamps (st : PairingState) : Prop :=
  (∀ e ∈ st.pendingByID.entries, IsInt64 e.2.timestamp) ∧
  ∀ e ∈ st.pairedByDevice.entries, IsInt64 e.2.createdAtMs ∧ IsInt64 e.2.approvedAtMs ∧
    ∀ t ∈ e.2.tokens.entries, IsInt64 t.2.createdAtMs ∧ IsInt64 t.2.rotatedAtMs ∧
      IsInt64 t.2.revokedAtMs ∧ IsInt64 t.2.lastUsedMs

theorem pendingFileCodec_fits {m : GoMap PendingRequest} (h : ∀ e ∈ m.entries, IsInt64 e.2.timestamp) :
    pendingFileCodec.Fits m := by
  simp only [pendingFileCodec, mapCodec_fits, pendingRequestCodec, structCodec_fits]
  intro e he mem hmem _
  simp only [PendingRequest.members, List.mem_cons, List.not_mem_nil, or_false] at hmem
  rcases hmem with rfl | rfl | rfl | rfl | rfl | rfl | rfl | rfl | rfl | rfl | rfl | rfl | rfl <;>
    simp [h e he]

theorem pairedFileCodec_fits {m : GoMap PairedDevice}
    (h : ∀ e ∈ m.entries, IsInt64 e.2.createdAtMs ∧ IsInt64 e.2.approvedAtMs ∧
      ∀ t ∈ e.2.tokens.entries, IsInt64 t.2.createdAtMs ∧ IsInt64 t.2.rotatedAtMs ∧
        IsInt64 t.2.revokedAtMs ∧ IsInt64 t.2.lastUsedMs) :
    pairedFileCodec.Fits m := by
  simp only [pairedFileCodec, mapCodec_fits, pairedDeviceCodec, structCodec_fits]
  intro e he mem hmem _
  obtain ⟨hc, ha, ht⟩ := h e he
  simp only [PairedDevice.members, List.mem_cons, List.not_mem_nil, or_false] at hmem
  rcases hmem with rfl | rfl | rfl | rfl | rfl | rfl | rfl | rfl | rfl | rfl | rfl | rfl <;> simp [hc, ha]
  intro t htm tm htm' _
  obtain ⟨h1, h2, h3, h4⟩ := ht t htm
  simp only [DeviceAuthToken.members, List.mem_cons, List.not_mem_nil, or_false] at htm'
  rcases htm' with rfl | rfl | rfl | rfl | rfl | rfl | rfl <;> simp [h1, h2, h3, h4]

instance (st : PairingState) : Decidable st.Int64Stamps := inferInstanceAs (Decidable (_ ∧ _))

theorem pendingFileCodec_nilSafe : pendingFileCodec.NilSafe :=
  mapCodec_nilSafe (structCodec_nilSafe _ _ _ (by simp [PendingRequest.members, stringsCodec])) _ _

theorem tokensCodec_nilSafe : tokensCodec.NilSafe :=
  mapCodec_nilSafe (structCodec_nilSafe _ _ _ (by simp [DeviceAuthToken.members, stringsCodec])) _ _

theorem pairedFileCodec_nilSafe : pairedFileCodec.NilSafe :=
  mapCodec_nilSafe (structCodec_nilSafe _ _ _
    (by simp [PairedDevice.members, stringsCodec, tokensCodec_nilSafe])) _ _

theorem pendingFileCodec_depth (m : GoMap PendingRequest) :
    (pendingFileCodec.encode m).depth ≤ maxNestingDepth :=
  (pendingFileCodec.depth_encode m).trans (by decide)

theorem pairedFileCodec_depth (m : GoMap PairedDevice) :
    (pairedFileCodec.encode m).depth ≤ maxNestingDepth :=
  (pairedFileCodec.depth_encode m).trans (by decide)

/-- `NewStore` on the directory of a store whose last saves went through loads what the store
holds in memory: every pending request as it is, and every paired device field for field with
the same tokens.  The files hold any text `json.MarshalIndent` may have written for the maps,
whichever of their empty slices were nil. -/
theorem newStore_reads_back_memory (s : Store) (hs : s.Synced) (hfit : s.state.Int64Stamps)
    {pending paired : List Char} (hpending : pendingFileCodec.MarshalsIndent s.pendingFile pending)
    (hpaired : pairedFileCodec.MarshalsIndent s.pairedFile paired) :
    ∃ st, newStore true (.text pending) (.text paired) = .ok st ∧
      (∀ id, st.pendingByID.lookup id = s.state.pendingByID.lookup id) ∧
      ∀ id, Option.Rel PairedDevice.Same (st.pairedByDevice.lookup id) (s.state.pairedByDevice.lookup id) := by
  obtain ⟨hp, hd⟩ := hs
  have hpfit : pendingFileCodec.Fits s.pendingFile := pendingFileCodec_fits (hp ▸ hfit.1)
  have hdfit : pairedFileCodec.Fits s.pairedFile := pairedFileCodec_fits (hd ▸ hfit.2)
  refine ⟨⟨pendingFileCodec.absorb ∅ s.pendingFile, pairedFileCodec.absorb ∅ s.pairedFile⟩, ?_, ?_, ?_⟩
  · simp only [newStore, loadJSON,
      Codec.unmarshal_marshalsIndent pendingFileCodec_nilSafe _ _ hpfit (pendingFileCodec_depth _) hpending,
      Codec.unmarshal_marshalsIndent pairedFileCodec_nilSafe _ _ hdfit (pairedFileCodec_depth _) hpaired]
    rfl
  · intro id
    rw [← hp, pendingFileCodec, lookup_mapCodec_absorb]
    cases s.pendingFile.lookup id <;> simp [absorb_pendingRequest]
  · intro id
    rw [← hd, pairedFileCodec, lookup_mapCodec_absorb]
    cases s.pairedFile.lookup id with
    | none => exact .none
    | some d => exact .some (absorb_pairedDevice d)

/-- A store after a pairing: one request waiting with its scopes, one device paired with an
operator token, both files written. -/
def savedStore : Store :=
  let req : PendingRequest := ⟨"r1", "d2", "k2", "phone <2>", "", "", "", "operator", ["a", "b"], "",
    false, true, 1700000000000⟩
  let tok : DeviceAuthToken := ⟨"t", "operator", [], 1700000000000, 0, 0, 1700000000500⟩
  let dev : PairedDevice := ⟨"d1", "k1", "", "", "", "", "operator", [], "", (∅ : GoMap DeviceAuthToken).insert
    "operator" tok, 1700000000000, 1700000000000⟩
  let st : PairingState := ⟨(∅ : GoMap PendingRequest).insert "r1" req, (∅ : GoMap PairedDevice).insert "d1" dev⟩
  ⟨st, st.pendingByID, st.pairedByDevice⟩

/-- `paired.json` as Go writes it for `savedStore` when the operator token's scopes are a nil
slice: `"scopes": null`. -/
def savedPairedNilText : List Char :=
  (pairedFileCodec.encode savedStore.pairedFile).nilEmpty.print Layout.indented 0

theorem newStore_reads_back_memory_saved :
    ∃ st, newStore true (.text savedStore.pendingText) (.text savedPairedNilText) = .ok st ∧
      (∀ id, st.pendingByID.lookup id = savedStore.state.pendingByID.lookup id) ∧
      ∀ id, Option.Rel PairedDevice.Same (st.pairedByDevice.lookup id)
        (savedStore.state.pairedByDevice.lookup id) :=
  newStore_reads_back_memory savedStore ⟨rfl, rfl⟩ (by decide) (Codec.marshalsIndent_marshalIndent _ _)
    ⟨_, nilVariant_nilEmpty _, rfl⟩

end GoClaw
