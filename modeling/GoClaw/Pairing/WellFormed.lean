import GoClaw.Pairing.System

namespace GoClaw

/-!
# Pairing — the pairing state stays well-formed

Every record the store holds is filed under its own id and names the device its key derives:

* `PendingWF k p`: `p.RequestID = k` and `p.DeviceID = DeriveDeviceID(p.PublicKey) ≠ ""`;
* `PairedWF k d`: `d.DeviceID = k = DeriveDeviceID(d.PublicKey)`, and every `d.Tokens[r]` has
  `Role = r` and a non-empty `Token`.

`wfContract` says once what each call needs and gives: a write must bring a well-formed record,
and a read returns one.  Each store method keeps the invariant (`exec_wf`, `exec_assures`), each
handshake and operator operation only makes allowed calls (`*_safe`), and so every state reached
from a fresh store through handshakes and operator operations is well-formed
(`pairing_state_wellFormed`).  The handshake's part rests on `verifyDevice` rejecting a key
that does not decode before it compares ids: `DeriveDeviceID` is `""` for such a key.
-/

variable (cr : Crypto)

/-- A pending request as filed under `k`. -/
def PendingWF (k : String) (p : PendingRequest) : Prop :=
  p.requestID = k ∧ p.deviceID = deriveDeviceID cr p.publicKey ∧ p.deviceID ≠ ""

/-- A token as filed under role `r`. -/
def TokenWF (r : String) (t : DeviceAuthToken) : Prop := t.role = r ∧ t.token ≠ ""

/-- A paired device as filed under `k`. -/
def PairedWF (k : String) (d : PairedDevice) : Prop :=
  d.deviceID = k ∧ k = deriveDeviceID cr d.publicKey ∧
    ∀ r t, d.tokens.lookup r = some t → TokenWF r t

/-- Every entry of a map satisfies `P` under its key. -/
def MapWF {V : Type} (P : String → V → Prop) (m : GoMap V) : Prop :=
  ∀ k v, m.lookup k = some v → P k v

/-- The in-memory state is well-formed. -/
structure StateWF (st : PairingState) : Prop where
  pending : MapWF (PendingWF cr) st.pendingByID
  paired : MapWF (PairedWF cr) st.pairedByDevice

/-- The store is well-formed: in memory and in both files. -/
structure StoreWF (s : Store) : Prop where
  state : StateWF cr s.state
  pendingFile : MapWF (PendingWF cr) s.pendingFile
  pairedFile : MapWF (PairedWF cr) s.pairedFile

variable {cr}

/-! ### Maps -/

section Maps

variable {V : Type} {P : String → V → Prop} {m : GoMap V}

theorem MapWF.empty : MapWF P (∅ : GoMap V) := fun _ _ h => by simp at h

theorem MapWF.insert (hm : MapWF P m) {k : String} {v : V} (hv : P k v) :
    MapWF P (m.insert k v) := by
  intro k' v' h
  by_cases hk : k' = k
  · subst hk
    rw [AList.lookup_insert, Option.some.injEq] at h
    exact h ▸ hv
  · exact hm k' v' (by rwa [AList.lookup_insert_ne hk] at h)

theorem MapWF.erase (hm : MapWF P m) (k : String) : MapWF P (m.erase k) := by
  intro k' v' h
  by_cases hk : k' = k
  · subst hk; simp [AList.lookup_erase] at h
  · exact hm k' v' (by rwa [AList.lookup_erase_ne hk] at h)

theorem MapWF.foldl_erase {α : Type} (hm : MapWF P m) (l : List α) (key : α → String) :
    MapWF P (l.foldl (fun m e => m.erase (key e)) m) := by
  induction l generalizing m with
  | nil => exact hm
  | cons e l ih => exact ih (hm.erase _)

/-- A value listed in a map is filed under some key. -/
theorem MapWF.of_mem_entries (hm : MapWF P m) {v : V} (h : v ∈ m.entries.map (·.2)) :
    ∃ k, P k v := by
  obtain ⟨⟨k, v'⟩, he, rfl⟩ := List.mem_map.1 h
  exact ⟨k, hm k _ (AList.mem_lookup_iff.2 he)⟩

theorem MapWF.saveJSON {file : GoMap V} (hm : MapWF P m) (hf : MapWF P file) (f : String)
    (d : Disk) : MapWF P (Store.saveJSON f m file d).1 := by
  rcases Store.saveJSON_fst f m file d with h | h <;> rw [h] <;> assumption

end Maps

/-! ### The contract, and the store keeping it -/

variable (cr) in
/-- What each call needs and gives for the store to stay well-formed: a write brings a
well-formed record, a read returns one, `crypto/rand` fills the bytes asked for. -/
def wfContract : Prog.Contract where
  allows
    | .addPending req => req.deviceID = deriveDeviceID cr req.publicKey ∧ req.deviceID ≠ ""
    | .setPaired dev => PairedWF cr dev.deviceID dev
    | .setDeviceToken _ role tok => TokenWF role tok
    | _ => True
  assures c r := match c, r with
    | .getPendingRequest id, r => ∀ p, r = some p → PendingWF cr id p
    | .getPairedDevice id, r => ∀ d, r = some d → PairedWF cr id d
    | .listPending, r => ∀ p ∈ r, ∃ k, PendingWF cr k p
    | .removePending id, r => ∀ p, r = some p → PendingWF cr id p
    | .readRandom n, r => r.length = n
    | _, _ => True

namespace StoreWF

variable {s : Store} (hs : StoreWF cr s)
include hs

theorem savePending (d : Disk) : StoreWF cr (s.savePending d).1 :=
  ⟨hs.state, hs.state.pending.saveJSON hs.pendingFile _ d, hs.pairedFile⟩

theorem savePaired (d : Disk) : StoreWF cr (s.savePaired d).1 :=
  ⟨hs.state, hs.pendingFile, hs.state.paired.saveJSON hs.pairedFile _ d⟩

theorem withPending {m : GoMap PendingRequest} (hm : MapWF (PendingWF cr) m) :
    StoreWF cr (s.withPending m) :=
  ⟨⟨hm, hs.state.paired⟩, hs.pendingFile, hs.pairedFile⟩

theorem withPaired {m : GoMap PairedDevice} (hm : MapWF (PairedWF cr) m) :
    StoreWF cr (s.withPaired m) :=
  ⟨⟨hs.state.pending, hm⟩, hs.pendingFile, hs.pairedFile⟩

theorem modifyPaired {deviceID : String} {f : PairedDevice → PairedDevice}
    (hf : ∀ dev, PairedWF cr deviceID dev → PairedWF cr deviceID (f dev)) (d : Disk) :
    StoreWF cr (s.modifyPaired deviceID f d).1 := by
  unfold Store.modifyPaired
  split
  · exact hs
  · exact (hs.withPaired (hs.state.paired.insert (hf _ (hs.state.paired _ _ ‹_›)))).savePaired d

theorem reload : StoreWF cr s.reload := ⟨⟨hs.pendingFile, hs.pairedFile⟩, hs.pendingFile, hs.pairedFile⟩

/-- Every call the contract allows keeps the store well-formed. -/
theorem exec {c : Call} (hc : (wfContract cr).allows c) (a : Answer) :
    StoreWF cr (c.exec s a).1 := by
  cases c with
  | addPending req =>
    exact (hs.withPending (hs.state.pending.insert ⟨rfl, hc⟩)).savePending a.disk
  | removePending id =>
    simp only [Call.exec, Store.removePending]
    split
    · exact hs
    · exact (hs.withPending (hs.state.pending.erase id)).savePending a.disk
  | setPaired dev => exact (hs.withPaired (hs.state.paired.insert hc)).savePaired a.disk
  | updateDeviceMetadata id patch =>
    exact hs.modifyPaired (fun dev ⟨h1, h2, h3⟩ => ⟨h1, h2, h3⟩) a.disk
  | setDeviceToken id role tok =>
    refine hs.modifyPaired (fun dev ⟨h1, h2, h3⟩ => ⟨h1, h2, fun r t ht => ?_⟩) a.disk
    by_cases hr : r = role
    · subst hr
      simp only [AList.lookup_insert, Option.some.injEq] at ht
      exact ht ▸ hc
    · exact h3 r t (by simpa [AList.lookup_insert_ne hr] using ht)
  | pruneExpiredPending t =>
    simp only [Call.exec, Store.pruneExpiredPending]
    have h' := hs.withPending (hs.state.pending.foldl_erase
      (s.state.pendingByID.entries.filter fun e => Store.isExpired t e.2) (·.1))
    split
    · exact h'.savePending a.disk
    · exact h'
  | reload => exact hs.reload
  | _ => exact hs

/-- Every answer a well-formed store gives is one the contract assures. -/
theorem assures (c : Call) (a : Answer) : (wfContract cr).assures c (c.exec s a).2 := by
  cases c with
  | getPendingRequest id => exact fun p hp => hs.state.pending id p hp
  | getPairedDevice id => exact fun d hd => hs.state.paired id d hd
  | listPending =>
    intro p hp
    exact hs.state.pending.of_mem_entries
      ((List.perm_insertionSort (fun a b : PendingRequest => b.timestamp ≤ a.timestamp) _).subset hp)
  | removePending id =>
    intro p hp
    simp only [Call.exec, Store.removePending] at hp
    split at hp
    · cases hp
    · cases hp; exact hs.state.pending id _ ‹_›
  | readRandom n => simp [wfContract, Call.exec]
  | _ => trivial

end StoreWF

/-! ### Every handshake and operator operation keeps to the contract -/

open Prog

/-- `Approve` files the device under the request's `DeviceID`, with the request's key. -/
theorem approvedDevice_wf {existing : Option PairedDevice} {removed : PendingRequest}
    {k : String} (hr : PendingWF cr k removed)
    (he : ∀ d, existing = some d → PairedWF cr removed.deviceID d) (t : Int) :
    PairedWF cr (approvedDevice existing removed t).deviceID (approvedDevice existing removed t) := by
  obtain ⟨-, h2, -⟩ := hr
  cases existing with
  | none => exact ⟨rfl, h2, by simp [approvedDevice]⟩
  | some e =>
    obtain ⟨h1, -, h3⟩ := he e rfl
    exact ⟨rfl, by simpa [approvedDevice, h1] using h2, h3⟩

/-- A token minted from 32 random bytes, filed under its own role. -/
theorem tokenWF_minted {buf : List UInt8} (hb : buf.length = 32) {t : DeviceAuthToken}
    {role : String} (ht : t.token = generatePairingToken buf) (hr : t.role = role) :
    TokenWF role t :=
  ⟨hr, ht ▸ generatePairingToken_ne_empty (by rintro rfl; simp at hb)⟩

/-- A stored token read back and stamped (revoked or used) stays well-formed. -/
theorem tokenWF_of_lookup {deviceID role : String} {device : PairedDevice}
    (hd : PairedWF cr deviceID device) {tok : DeviceAuthToken}
    (ht : device.tokens.lookup role = some tok) {t : DeviceAuthToken} (h1 : t.role = tok.role)
    (h2 : t.token = tok.token) : TokenWF role t := by
  obtain ⟨hr, hne⟩ := hd.2.2 role tok ht
  exact ⟨h1.trans hr, h2 ▸ hne⟩

theorem approve_safe (requestID : String) :
    Safe (wfContract cr) (fun _ => True) (approve requestID) := by
  simp only [approve, removePending, now, getPairedDevice, setPaired, setDeviceToken,
    Prog.generatePairingToken, readRandom, call_bind, pure_bind', pure_eq, map_eq]
  refine .call trivial ?_
  rintro (_ | removed) hr
  · exact .pure trivial
  refine .call trivial fun t _ => .call trivial fun existing he => ?_
  refine .call (approvedDevice_wf (hr _ rfl) he t) ?_
  rintro (_ | e) -
  · split_ifs
    · refine .call trivial fun buf hb => ?_
      refine .call (tokenWF_minted hb rfl rfl) ?_
      rintro (_ | _) -
      · exact .call trivial fun _ _ => .pure trivial
      · exact .pure trivial
    · exact .call trivial fun _ _ => .pure trivial
  · exact .pure trivial

/-- `RequestPairing` files requests for the id its input derives from its key. -/
theorem requestPairing_safe {req : PairingRequestInput}
    (h : req.deviceID = deriveDeviceID cr req.publicKey) :
    Safe (wfContract cr) (fun _ => True) (requestPairing req) := by
  unfold requestPairing
  split_ifs with hid
  · exact .pure trivial
  simp only [getPairedDevice, listPending, now, addPending, Prog.generateNonce, readRandom,
    call_bind, pure_bind', pure_eq, map_eq]
  refine .call trivial fun existing _ => ?_
  split_ifs
  · exact .pure trivial
  refine .call trivial fun pendings _ => ?_
  split
  · exact .pure trivial
  · refine .call trivial fun _ _ => .call trivial fun _ _ => .call ⟨h, hid⟩ ?_
    rintro (_ | _) - <;> exact .pure trivial

theorem ensureDeviceToken_safe (deviceID role : String) (scopes : List String) :
    Safe (wfContract cr) (fun _ => True) (ensureDeviceToken deviceID role scopes) := by
  simp only [ensureDeviceToken, getPairedDevice, now, setDeviceToken, Prog.generatePairingToken,
    readRandom, call_bind, pure_bind', pure_eq, map_eq]
  refine .call trivial ?_
  rintro (_ | device) -
  · exact .pure trivial
  refine .call trivial fun t _ => ?_
  split_ifs
  · exact .pure trivial
  all_goals
    exact .call trivial fun buf hb => .call (tokenWF_minted hb rfl rfl) fun _ _ => .pure trivial

theorem revokeDeviceToken_safe (deviceID role : String) :
    Safe (wfContract cr) (fun _ => True) (revokeDeviceToken deviceID role) := by
  simp only [revokeDeviceToken, getPairedDevice, now, setDeviceToken, call_bind, pure_bind',
    pure_eq]
  refine .call trivial ?_
  rintro (_ | device) hd
  · exact .pure trivial
  dsimp only
  split
  · exact .pure trivial
  · rename_i tok htok
    refine .call trivial fun t _ => ?_
    exact .call (tokenWF_of_lookup (hd _ rfl) htok rfl rfl) fun _ _ => .pure trivial

theorem verifyDeviceToken_safe (params : VerifyTokenParams) :
    Safe (wfContract cr) (fun _ => True) (verifyDeviceToken params) := by
  simp only [verifyDeviceToken, getPairedDevice, now, setDeviceToken, call_bind, pure_bind',
    pure_eq]
  refine .call trivial ?_
  rintro (_ | device) hd
  · exact .pure trivial
  dsimp only
  split
  · exact .pure trivial
  · rename_i tok htok
    split_ifs
    · exact .pure trivial
    · exact .pure trivial
    · exact .pure trivial
    · refine .call trivial fun t _ => ?_
      exact .call (tokenWF_of_lookup (hd _ rfl) htok rfl rfl) fun _ _ => .pure trivial

/-- `CheckPairingStatus` for an id derived from the key it is given. -/
theorem checkPairingStatus_safe {params : CheckPairingParams}
    (h : params.deviceID = deriveDeviceID cr params.publicKey) :
    Safe (wfContract cr) (fun _ => True) (checkPairingStatus params) := by
  simp only [checkPairingStatus, reload, getPairedDevice, call_bind, pure_bind', pure_eq]
  refine .call trivial fun _ _ => .call trivial fun device _ => ?_
  split_ifs
  · exact .pure trivial
  · refine (requestPairing_safe h).bind fun r _ => ?_
    split
    · exact .pure trivial
    · exact .pure trivial
    · exact (approve_safe _).bind fun r _ => by split <;> exact .pure trivial
  · exact (requestPairing_safe h).bind fun _ _ => .pure trivial

/-- `verifyDevice` asks `CheckPairingStatus` only about the id it derived itself. -/
theorem verifyDevice_safe (conn : ConnInfo) (params : ConnectParams)
    (dev : DeviceConnectPayload) : Safe (wfContract cr) (fun _ => True)
      (verifyDevice cr conn params dev) := by
  unfold verifyDevice
  split_ifs
  · exact .pure trivial
  · exact .pure trivial
  · exact .pure trivial
  · refine (checkPairingStatus_safe rfl).bind fun action _ => ?_
    split_ifs
    · exact (ensureDeviceToken_safe _ _ _).bind fun _ _ => .pure trivial
    · exact .pure trivial
    · exact .pure trivial

theorem deviceStep_safe (conn : ConnInfo) (params : ConnectParams) :
    Safe (wfContract cr) (fun _ => True) (deviceStep cr conn params) := by
  unfold deviceStep
  split
  · split_ifs
    · exact verifyDevice_safe _ _ _
    · exact .pure trivial
  · exact .pure trivial

theorem processConnect_safe (conn : ConnInfo) (req : ConnectRequest) :
    Safe (wfContract cr) (fun _ => True) (processConnect cr conn req) := by
  unfold processConnect
  split_ifs
  · exact .pure trivial
  · exact .pure trivial
  · exact .pure trivial
  · refine (deviceStep_safe conn req.params).bind fun v _ => ?_
    split
    · exact .pure trivial
    · refine .call trivial fun sent _ => ?_
      cases sent <;> exact .pure trivial

/-! ### Every reachable state -/

/-- The operations of a handshake or of the operator: every `Op` but a direct `RequestPairing`
or `CheckPairingStatus`, whose device id the caller picks. -/
def Op.isHandshakeOrOperator : Op → Bool
  | .requestPairing _ | .checkPairingStatus _ => false
  | _ => true

theorem Op.prog_safe {op : Op} (h : op.isHandshakeOrOperator) :
    Safe (wfContract cr) (fun _ => True) (op.prog cr) := by
  cases op with
  | handshake conn req => exact .map _ (processConnect_safe conn req)
  | requestPairing => cases h
  | checkPairingStatus => cases h
  | approve id => exact .map _ (approve_safe id)
  | reject id => exact .map _ (.call trivial fun _ _ => .pure trivial)
  | verifyDeviceToken params => exact .map _ (verifyDeviceToken_safe params)
  | ensureDeviceToken d role scopes => exact .map _ (ensureDeviceToken_safe d role scopes)
  | revokeDeviceToken d role => exact .map _ (revokeDeviceToken_safe d role)
  | updateDeviceMetadata d patch => exact .map _ (.call trivial fun _ _ => .pure trivial)
  | pruneExpiredPending t => exact .map _ (.call trivial fun _ _ => .pure trivial)

variable (cr) in
/-- The invariant of the pairing system: the store is well-formed and every thread in flight
keeps to the contract. -/
structure SysWF (σ : Sys) : Prop where
  store : StoreWF cr σ.store
  threads : ∀ th ∈ σ.threads, Safe (wfContract cr) (fun _ => True) th.prog

namespace SysWF

theorem init : SysWF cr .init :=
  ⟨⟨⟨.empty, .empty⟩, .empty, .empty⟩, fun _ h => nomatch h⟩

variable {σ : Sys} (hσ : SysWF cr σ)
include hσ

theorem start {op : Op} (hop : Safe (wfContract cr) (fun _ => True) (op.prog cr)) :
    SysWF cr (σ.start cr op) := by
  refine ⟨hσ.store, fun th hth => ?_⟩
  rcases List.mem_append.1 hth with h | h
  · exact hσ.threads th h
  · exact List.mem_singleton.1 h ▸ hop

/-- One step runs an allowed call, so the store stays well-formed, and the thread goes on
with an assured answer. -/
theorem next {tid : Nat} {ans : Answer} {σ' : Sys} (h : σ.next cr (.step tid ans) = some σ') :
    SysWF cr σ' := by
  simp only [Sys.next] at h
  split at h
  · rename_i op c k _ hth
    cases h
    obtain ⟨hc, hk⟩ := safe_call.1 (hσ.threads _ (List.getElem?_mem hth))
    refine ⟨hσ.store.exec hc ans, fun th h' => ?_⟩
    rcases List.mem_or_eq_of_mem_set h' with h' | rfl
    · exact hσ.threads th h'
    · exact hk _ (hσ.store.assures c ans)
  · cases h

end SysWF

/-- A run that starts only operations keeping to the contract reaches only well-formed states. -/
theorem SysWF.reachable {ops : Op → Prop}
    (hops : ∀ op, ops op → Safe (wfContract cr) (fun _ => True) (op.prog cr)) {σ : Sys}
    (h : Reachable cr ops σ) : SysWF cr σ :=
  reachable_induction _ init (fun _ op hσ hop => hσ.start (hops op hop))
    (fun _ _ _ _ hσ h => hσ.next h) h

/-- **The pairing state stays well-formed** through handshakes and operator operations. -/
theorem pairing_state_wellFormed {σ : Sys}
    (h : Reachable cr (fun op => op.isHandshakeOrOperator) σ) : StateWF cr σ.store.state :=
  (SysWF.reachable (fun _ => Op.prog_safe) h).store.state

/-- The loopback pairing run starts only a handshake. -/
theorem loopbackPairing_reachable :
    Reachable Crypto.zero (fun op => op.isHandshakeOrOperator) (Sys.reach Crypto.zero loopbackPairing) :=
  ⟨loopbackPairing, by simp [loopbackPairing, Op.isHandshakeOrOperator], rfl⟩

theorem pairing_state_wellFormed_loopback :
    StateWF Crypto.zero (Sys.reach Crypto.zero loopbackPairing).store.state :=
  pairing_state_wellFormed loopbackPairing_reachable

end GoClaw
