import GoClaw.Pairing.WellFormed
import Mathlib.Data.String.Basic

namespace GoClaw

/-!
# Pairing — filed ids keep their length

`DeriveDeviceID` names a device by the 64 hex digits of a SHA-256, and `GenerateNonce` names a
request by a 36-character UUID.  Their readers cut them: the Discord router shows
`DeviceID[:12]` and `RequestID[:8]`, and a Go slice past the end of a string panics.  This module
proves that every record the store holds, and every record `Approve` and `Reject` return, carries
ids of these lengths, in every state a run of handshakes and operator operations reaches.

* `utf8ByteSize_hexEncode`, `utf8ByteSize_deriveDeviceID`, `utf8ByteSize_generateNonce`: the
  lengths, in bytes, as Go's `len` counts them.
* `idContract`: a request is filed with a 36-byte request id and a 64-byte device id, a device
  with a 64-byte id, and the reads return such records.  `StoreIds` is the store holding only
  such records; every call the contract allows keeps it (`StoreIds.exec`, `StoreIds.assures`).
* `Prog.Contract.Kept.reachable`: the run lemma for any contract a store invariant keeps.
* `storeIds_reachable`: every handshake and operator operation keeps to `idContract` (the
  `*_idSafe` lemmas), so the store holds only such records in every reachable state, and every
  `Approve` or `Reject` that has returned returned one.

The files are written by the store only; a file edited by hand and read back by `Reload` is
outside the model.
-/

/-! ### Lengths in bytes -/

theorem utf8ByteSize_append (s t : String) : (s ++ t).utf8ByteSize = s.utf8ByteSize + t.utf8ByteSize :=
  String.utf8Len_append s.data t.data

/-- Two ASCII digits a byte. -/
theorem utf8ByteSize_hexEncode (bs : List UInt8) : (hexEncode bs).utf8ByteSize = 2 * bs.length := by
  induction bs with
  | nil => rfl
  | cons b bs ih =>
    have h1 : b.toNat / 16 < 16 := by have := b.toNat_lt_size; simp only [UInt8.size] at this; omega
    have h2 : b.toNat % 16 < 16 := Nat.mod_lt _ (by decide)
    have hd : ∀ n < 16, (hexDigit n).utf8Size = 1 := by decide
    simp only [hexEncode, String.utf8ByteSize_mk, List.flatMap_cons, String.utf8Len_append] at ih ⊢
    simp only [ih, String.utf8Len_cons, String.utf8Len_nil, hd _ h1, hd _ h2, List.length_cons]
    omega

/-- A derived id that is not empty is the 64 hex digits of a SHA-256. -/
theorem utf8ByteSize_deriveDeviceID {cr : Crypto} {k : String} (h : deriveDeviceID cr k ≠ "") :
    (deriveDeviceID cr k).utf8ByteSize = 64 := by
  unfold deriveDeviceID at h ⊢
  cases hk : decodePublicKey k with
  | error e => simp only [hk] at h; exact absurd rfl h
  | ok raw => simp only [utf8ByteSize_hexEncode, List.length_ofFn]

/-- `GenerateNonce` of 16 bytes: `8-4-4-4-12` hex digits. -/
theorem utf8ByteSize_generateNonce {uuid : List UInt8} (h : uuid.length = 16) :
    (generateNonce uuid).utf8ByteSize = 36 := by
  simp only [generateNonce, utf8ByteSize_append, utf8ByteSize_hexEncode, List.length_take, List.length_drop,
    List.length_set, h]
  rfl

/-! ### The contract -/

/-- A request as its readers cut it: a 36-byte request id and a 64-byte device id. -/
def PendingIds (p : PendingRequest) : Prop := p.requestID.utf8ByteSize = 36 ∧ p.deviceID.utf8ByteSize = 64

/-- A device as its readers cut it: a 64-byte id. -/
def PairedIds (d : PairedDevice) : Prop := d.deviceID.utf8ByteSize = 64

/-- What each call needs and gives for the filed ids to keep their length: a write brings a
record with such ids, a read returns one, `crypto/rand` fills the bytes asked for. -/
def idContract : Prog.Contract where
  allows
    | .addPending req => PendingIds req
    | .setPaired dev => PairedIds dev
    | _ => True
  assures c r := match c, r with
    | .getPairedDevice _, r => ∀ d, r = some d → PairedIds d
    | .removePending _, r => ∀ p, r = some p → PendingIds p
    | .readRandom n, r => r.length = n
    | _, _ => True

/-- The store holds only records with such ids, in memory and in both files. -/
structure StoreIds (s : Store) : Prop where
  pending : MapWF (fun _ => PendingIds) s.state.pendingByID
  paired : MapWF (fun _ => PairedIds) s.state.pairedByDevice
  pendingFile : MapWF (fun _ => PendingIds) s.pendingFile
  pairedFile : MapWF (fun _ => PairedIds) s.pairedFile

namespace StoreIds

theorem empty : StoreIds Store.empty := ⟨.empty, .empty, .empty, .empty⟩

variable {s : Store} (hs : StoreIds s)
include hs

theorem savePending (d : Disk) : StoreIds (s.savePending d).1 :=
  ⟨hs.pending, hs.paired, hs.pending.saveJSON hs.pendingFile _ d, hs.pairedFile⟩

theorem savePaired (d : Disk) : StoreIds (s.savePaired d).1 :=
  ⟨hs.pending, hs.paired, hs.pendingFile, hs.paired.saveJSON hs.pairedFile _ d⟩

theorem withPending {m : GoMap PendingRequest} (hm : MapWF (fun _ => PendingIds) m) :
    StoreIds (s.withPending m) :=
  ⟨hm, hs.paired, hs.pendingFile, hs.pairedFile⟩

theorem withPaired {m : GoMap PairedDevice} (hm : MapWF (fun _ => PairedIds) m) :
    StoreIds (s.withPaired m) :=
  ⟨hs.pending, hm, hs.pendingFile, hs.pairedFile⟩

/-- A write that keeps the device's id keeps the store's ids. -/
theorem modifyPaired {deviceID : String} {f : PairedDevice → PairedDevice}
    (hf : ∀ dev, (f dev).deviceID = dev.deviceID) (d : Disk) : StoreIds (s.modifyPaired deviceID f d).1 := by
  unfold Store.modifyPaired
  split
  · exact hs
  · rename_i dev hdev
    have h : PairedIds (f dev) := by rw [PairedIds, hf]; exact hs.paired _ _ hdev
    exact (hs.withPaired (hs.paired.insert h)).savePaired d

/-- Every call the contract allows keeps the store's ids. -/
theorem exec {c : Call} (hc : idContract.allows c) (a : Answer) : StoreIds (c.exec s a).1 := by
  cases c with
  | addPending req => exact (hs.withPending (hs.pending.insert hc)).savePending a.disk
  | removePending id =>
    simp only [Call.exec, Store.removePending]
    split
    · exact hs
    · exact (hs.withPending (hs.pending.erase id)).savePending a.disk
  | setPaired dev => exact (hs.withPaired (hs.paired.insert hc)).savePaired a.disk
  | updateDeviceMetadata id patch =>
    exact hs.modifyPaired (fun dev => (rfl : (patch.apply dev).deviceID = dev.deviceID)) a.disk
  | setDeviceToken id role tok =>
    exact hs.modifyPaired (fun dev => (rfl : { dev with tokens := dev.tokens.insert role tok }.deviceID = _)) a.disk
  | pruneExpiredPending t =>
    simp only [Call.exec, Store.pruneExpiredPending]
    have h' := hs.withPending (hs.pending.foldl_erase
      (s.state.pendingByID.entries.filter fun e => Store.isExpired t e.2) (·.1))
    split
    · exact h'.savePending a.disk
    · exact h'
  | reload => exact ⟨hs.pendingFile, hs.pairedFile, hs.pendingFile, hs.pairedFile⟩
  | _ => exact hs

/-- Every answer a store with such ids gives is one the contract assures. -/
theorem assures (c : Call) (a : Answer) : idContract.assures c (c.exec s a).2 := by
  cases c with
  | getPairedDevice id => exact fun d hd => hs.paired id d hd
  | removePending id =>
    intro p hp
    simp only [Call.exec, Store.removePending] at hp
    split at hp
    · cases hp
    · cases hp; exact hs.pending id _ ‹_›
  | readRandom n => simp [idContract, Call.exec]
  | _ => trivial

end StoreIds

/-! ### Runs keep a contract its store invariant keeps -/

namespace Prog.Contract

/-- A contract kept by a store invariant `I`: every call it allows keeps `I`, and a store with
`I` answers every call as it assures. -/
structure Kept (C : Prog.Contract) (I : Store → Prop) : Prop where
  exec : ∀ {s c}, I s → C.allows c → ∀ a, I (c.exec s a).1
  assures : ∀ {s}, I s → ∀ c a, C.assures c (c.exec s a).2

/-- **Runs keep a kept contract.**  When every operation a run may start keeps to `C` with the
postcondition `post op`, every reachable state has `I`, and every thread in it still keeps to
`C`, so one that has returned returned what `post` allows. -/
theorem Kept.reachable {C : Prog.Contract} {I : Store → Prop} (hC : C.Kept I) (h0 : I Store.empty)
    {cr : Crypto} {ops : Op → Prop} {post : Op → Outcome → Prop}
    (hops : ∀ op, ops op → Prog.Safe C (post op) (op.prog cr)) {σ : Sys} (h : Reachable cr ops σ) :
    I σ.store ∧ ∀ th ∈ σ.threads, Prog.Safe C (post th.op) th.prog := by
  refine reachable_induction (fun σ => I σ.store ∧ ∀ th ∈ σ.threads, Prog.Safe C (post th.op) th.prog)
    ⟨h0, fun _ h => nomatch h⟩ (fun σ op hσ hop => ⟨hσ.1, fun th hth => ?_⟩) (fun σ tid ans σ' hσ hs => ?_) h
  · rcases List.mem_append.1 hth with h | h
    · exact hσ.2 th h
    · exact List.mem_singleton.1 h ▸ hops op hop
  · simp only [Sys.next] at hs
    split at hs
    · rename_i op c k _ hth
      cases hs
      obtain ⟨hc, hk⟩ := Prog.safe_call.1 (hσ.2 _ (List.getElem?_mem hth))
      refine ⟨hC.exec hσ.1 hc ans, fun th h' => ?_⟩
      rcases List.mem_or_eq_of_mem_set h' with h' | rfl
      · exact hσ.2 th h'
      · exact hk _ (hC.assures hσ.1 c ans)
    · cases hs

end Prog.Contract

theorem idContract_kept : idContract.Kept StoreIds := ⟨fun hs hc a => hs.exec hc a, fun hs c a => hs.assures c a⟩

/-! ### Every handshake and operator operation keeps to the contract -/

open Prog

/-- `Approve` files the device under the request's id, or under the id of the device it merges
into. -/
theorem pairedIds_approvedDevice {existing : Option PairedDevice} {removed : PendingRequest}
    (hr : PendingIds removed) (he : ∀ d, existing = some d → PairedIds d) (t : Int) :
    PairedIds (approvedDevice existing removed t) := by
  cases existing with
  | none => exact hr.2
  | some e => exact he e rfl

/-- `Approve` files a device under a 64-byte id, and returns the device it reads back. -/
theorem approve_idSafe (requestID : String) :
    Safe idContract (fun r => ∀ d, r = .ok (some d) → PairedIds d) (approve requestID) := by
  simp only [approve, removePending, now, getPairedDevice, setPaired, setDeviceToken,
    Prog.generatePairingToken, readRandom, call_bind, pure_bind', pure_eq, map_eq]
  have hread : ∀ id, Safe idContract (fun r => ∀ d, r = .ok (some d) → PairedIds d)
      (Prog.call (.getPairedDevice id) fun r => Prog.pure (Except.ok r : Except PairingError _)) :=
    fun _ => .call trivial fun r hr => .pure fun d hd => hr d (Except.ok.inj hd)
  refine .call trivial ?_
  rintro (_ | removed) hr
  · exact .pure fun _ h => Option.noConfusion (Except.ok.inj h)
  refine .call trivial fun t _ => .call trivial fun existing he => ?_
  refine .call (pairedIds_approvedDevice (hr _ rfl) he t) ?_
  rintro (_ | e) -
  · split_ifs
    · refine .call trivial fun _ _ => .call trivial ?_
      rintro (_ | _) -
      · exact hread _
      · exact .pure fun _ h => Except.noConfusion h
    · exact hread _
  · exact .pure fun _ h => Except.noConfusion h

theorem reject_idSafe (requestID : String) :
    Safe idContract (fun r => ∀ p, r = some p → PendingIds p) (reject requestID) :=
  .call trivial fun _ hr => .pure hr

/-- `RequestPairing` files a request under a fresh UUID, for the id its input derives. -/
theorem requestPairing_idSafe {cr : Crypto} {req : PairingRequestInput}
    (h : req.deviceID = deriveDeviceID cr req.publicKey) :
    Safe idContract (fun _ => True) (requestPairing req) := by
  unfold requestPairing
  split_ifs with hid
  · exact .pure trivial
  have hdev : req.deviceID.utf8ByteSize = 64 := h ▸ utf8ByteSize_deriveDeviceID (h ▸ hid)
  simp only [getPairedDevice, listPending, now, addPending, Prog.generateNonce, readRandom,
    call_bind, pure_bind', pure_eq, map_eq]
  refine .call trivial fun existing _ => ?_
  split_ifs
  · exact .pure trivial
  refine .call trivial fun pendings _ => ?_
  split
  · exact .pure trivial
  · refine .call trivial fun buf hb => .call trivial fun _ _ => .call ⟨utf8ByteSize_generateNonce hb, hdev⟩ ?_
    rintro (_ | _) - <;> exact .pure trivial

theorem ensureDeviceToken_idSafe (deviceID role : String) (scopes : List String) :
    Safe idContract (fun _ => True) (ensureDeviceToken deviceID role scopes) := by
  simp only [ensureDeviceToken, getPairedDevice, now, setDeviceToken, Prog.generatePairingToken,
    readRandom, call_bind, pure_bind', pure_eq, map_eq]
  refine .call trivial ?_
  rintro (_ | device) -
  · exact .pure trivial
  refine .call trivial fun t _ => ?_
  split_ifs
  · exact .pure trivial
  all_goals exact .call trivial fun _ _ => .call trivial fun _ _ => .pure trivial

theorem revokeDeviceToken_idSafe (deviceID role : String) :
    Safe idContract (fun _ => True) (revokeDeviceToken deviceID role) := by
  simp only [revokeDeviceToken, getPairedDevice, now, setDeviceToken, call_bind, pure_bind', pure_eq]
  refine .call trivial ?_
  rintro (_ | device) -
  · exact .pure trivial
  dsimp only
  split
  · exact .pure trivial
  · exact .call trivial fun _ _ => .call trivial fun _ _ => .pure trivial

theorem verifyDeviceToken_idSafe (params : VerifyTokenParams) :
    Safe idContract (fun _ => True) (verifyDeviceToken params) := by
  simp only [verifyDeviceToken, getPairedDevice, now, setDeviceToken, call_bind, pure_bind', pure_eq]
  refine .call trivial ?_
  rintro (_ | device) -
  · exact .pure trivial
  dsimp only
  split
  · exact .pure trivial
  · split_ifs
    all_goals first
      | exact .pure trivial
      | exact .call trivial fun _ _ => .call trivial fun _ _ => .pure trivial

theorem checkPairingStatus_idSafe {cr : Crypto} {params : CheckPairingParams}
    (h : params.deviceID = deriveDeviceID cr params.publicKey) :
    Safe idContract (fun _ => True) (checkPairingStatus params) := by
  simp only [checkPairingStatus, reload, getPairedDevice, call_bind, pure_bind', pure_eq]
  refine .call trivial fun _ _ => .call trivial fun device _ => ?_
  split_ifs
  · exact .pure trivial
  · refine (requestPairing_idSafe h).bind fun r _ => ?_
    split
    · exact .pure trivial
    · exact .pure trivial
    · exact (approve_idSafe _).bind fun r _ => by split <;> exact .pure trivial
  · exact (requestPairing_idSafe h).bind fun _ _ => .pure trivial

theorem processConnect_idSafe (cr : Crypto) (conn : ConnInfo) (req : ConnectRequest) :
    Safe idContract (fun _ => True) (processConnect cr conn req) := by
  have hverify : ∀ params dev, Safe idContract (fun _ => True) (verifyDevice cr conn params dev) := by
    intro params dev
    unfold verifyDevice
    split_ifs
    · exact .pure trivial
    · exact .pure trivial
    · exact .pure trivial
    · refine (checkPairingStatus_idSafe rfl).bind fun action _ => ?_
      split_ifs
      · exact (ensureDeviceToken_idSafe _ _ _).bind fun _ _ => .pure trivial
      · exact .pure trivial
      · exact .pure trivial
  unfold processConnect
  split_ifs
  · exact .pure trivial
  · exact .pure trivial
  · exact .pure trivial
  · refine (show Safe idContract (fun _ => True) (deviceStep cr conn req.params) from ?_).bind fun v _ => ?_
    · unfold deviceStep
      split
      · split_ifs
        · exact hverify _ _
        · exact .pure trivial
      · exact .pure trivial
    · split
      · exact .pure trivial
      · exact .call trivial fun sent _ => by cases sent <;> exact .pure trivial

/-- What the Discord router reads of an outcome: the device `Approve` returned and the request
`Reject` returned. -/
def Outcome.IdsOK : Outcome → Prop
  | .approved (.ok (some d)) => PairedIds d
  | .rejected (some p) => PendingIds p
  | _ => True

theorem Op.prog_idSafe {cr : Crypto} {op : Op} (h : op.isHandshakeOrOperator) :
    Safe idContract Outcome.IdsOK (op.prog cr) := by
  cases op with
  | handshake conn req => exact .map _ ((processConnect_idSafe cr conn req).mono fun _ _ => trivial)
  | requestPairing => cases h
  | checkPairingStatus => cases h
  | approve id =>
    refine .map _ ((approve_idSafe id).mono fun r hr => ?_)
    rcases r with _ | _ | d
    · trivial
    · trivial
    · exact hr d rfl
  | reject id =>
    refine .map _ ((reject_idSafe id).mono fun r hr => ?_)
    rcases r with _ | p
    · trivial
    · exact hr p rfl
  | verifyDeviceToken params => exact .map _ ((verifyDeviceToken_idSafe params).mono fun _ _ => trivial)
  | ensureDeviceToken d role scopes => exact .map _ ((ensureDeviceToken_idSafe d role scopes).mono fun _ _ => trivial)
  | revokeDeviceToken d role => exact .map _ ((revokeDeviceToken_idSafe d role).mono fun _ _ => trivial)
  | updateDeviceMetadata d patch => exact .map _ (.call trivial fun _ _ => .pure trivial)
  | pruneExpiredPending t => exact .map _ (.call trivial fun _ _ => .pure trivial)

/-- **Filed ids keep their length** through handshakes and operator operations: the store holds
only requests with a 36-byte request id and a 64-byte device id and devices with a 64-byte id,
and every `Approve` or `Reject` that has returned returned such a record. -/
theorem storeIds_reachable {cr : Crypto} {σ : Sys} (h : Reachable cr (fun op => op.isHandshakeOrOperator) σ) :
    StoreIds σ.store ∧ ∀ th ∈ σ.threads, ∀ o, th.prog = .pure o → o.IdsOK := by
  obtain ⟨hs, hth⟩ := idContract_kept.reachable StoreIds.empty (fun _ hop => Op.prog_idSafe hop) h
  exact ⟨hs, fun th hmem o ho => safe_pure.1 (ho ▸ hth th hmem)⟩

theorem storeIds_reachable_loopback :
    StoreIds (Sys.reach Crypto.zero loopbackPairing).store ∧
      ∀ th ∈ (Sys.reach Crypto.zero loopbackPairing).threads, ∀ o, th.prog = .pure o → o.IdsOK :=
  storeIds_reachable loopbackPairing_reachable

end GoClaw
