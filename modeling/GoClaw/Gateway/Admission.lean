import GoClaw.Pairing.System

namespace GoClaw

/-!
# Gateway — what a successful handshake shows about its device

`processConnect` admits a connection that carries a device payload only once `verifyDevice` has
checked the signature, the nonce and the derived id, and `CheckPairingStatus` has answered
`"paired"` or `"auto-approved"`.  Over every run of the pairing system, whatever else runs
and whatever the disk does:

* `DeviceAdmitted`: what a handshake thread that returned success shows — its signature verified
  over the payload with this connection's nonce, its id derived from its key, and, on a
  non-loopback connection, the device found paired with this key by `CheckPairingStatus`'s read,
  and `PairedByDevice` left alone but for `Reload` and the tokens of the device's own entry.
* `handshake_admits_paired`: every such thread of every reachable state shows it.

On a loopback connection the handshake pairs the device itself (auto-approval), and it is
admitted also when that pairing did not happen: `CheckPairingStatus` answers `"paired"` with no
device when `RequestPairing` failed, and `"auto-approved"` when a concurrent `Reject` took the
request first.  `loopback_handshake_admits_unpaired` runs the first case: the handshake succeeds
and no store it ran on holds the device (`AdmitsOnlyPaired` fails).
-/

open Prog

/-! ### What a handshake may do to `PairedByDevice` -/

/-- `after` is `before` but for the tokens of the device `id`: no entry is added or removed, and
no field but `Tokens` changes. -/
def SameButTokens (id : String) (before after : GoMap PairedDevice) : Prop :=
  ∀ k, (after.lookup k).map (fun d => { d with tokens := ∅ }) =
      (before.lookup k).map (fun d => { d with tokens := ∅ }) ∧
    (k ≠ id → after.lookup k = before.lookup k)

theorem SameButTokens.refl (id : String) (m : GoMap PairedDevice) : SameButTokens id m m :=
  fun _ => ⟨rfl, fun _ => rfl⟩

/-- `SetDeviceToken` changes only the tokens of its device. -/
theorem sameButTokens_setDeviceToken (s : Store) (id role : String) (tok : DeviceAuthToken)
    (d : Disk) :
    SameButTokens id s.state.pairedByDevice (s.setDeviceToken id role tok d).1.state.pairedByDevice := by
  unfold Store.setDeviceToken Store.modifyPaired
  split
  · exact .refl _ _
  · rename_i dev hdev
    intro k
    by_cases hk : k = id
    · subst hk
      simp [AList.lookup_insert, hdev]
    · simp [AList.lookup_insert_ne hk, hk]

/-- The calls a non-loopback handshake of the device `id` may make: any but `SetPaired`,
`UpdateDeviceMetadata` and `SetDeviceToken` of another device. -/
def framedAt (id : String) : Contract where
  allows
    | .setPaired _ | .updateDeviceMetadata _ _ => False
    | .setDeviceToken id' _ _ => id' = id
    | _ => True
  assures _ _ := True

/-- A call `framedAt id` allows is `Reload` or changes only the tokens of `id`. -/
theorem framedAt_exec {id : String} {c : Call} (hc : (framedAt id).allows c) (s : Store)
    (a : Answer) :
    c = .reload ∨ SameButTokens id s.state.pairedByDevice (c.exec s a).1.state.pairedByDevice := by
  cases c with
  | setPaired => cases hc
  | updateDeviceMetadata => cases hc
  | setDeviceToken id' role tok =>
    obtain rfl : id' = id := hc
    exact .inr (sameButTokens_setDeviceToken s _ role tok a.disk)
  | reload => exact .inl rfl
  | removePending =>
    simp only [Call.exec, Store.removePending]
    split <;> exact .inr (.refl _ _)
  | pruneExpiredPending =>
    simp only [Call.exec, Store.pruneExpiredPending]
    split <;> exact .inr (.refl _ _)
  | _ => exact .inr (.refl _ _)

theorem ensureDeviceToken_framed (deviceID role : String) (scopes : List String) :
    Safe (framedAt deviceID) (fun _ => True) (ensureDeviceToken deviceID role scopes) := by
  simp only [ensureDeviceToken, getPairedDevice, now, setDeviceToken, Prog.generatePairingToken,
    readRandom, call_bind, pure_bind', pure_eq, map_eq]
  refine .call trivial ?_
  rintro (_ | device) -
  · exact .pure trivial
  refine .call trivial fun t _ => ?_
  split_ifs
  · exact .pure trivial
  all_goals exact .call trivial fun _ _ => .call rfl fun _ _ => .pure trivial

/-! ### Following a successful handshake back -/

/-- On a non-loopback connection `CheckPairingStatus` answers `"paired"` or `"auto-approved"`
only after a `Reload` and a read that found the device paired with this key. -/
theorem checkPairingStatus_remote_paired {params : CheckPairingParams} {hist : List Step}
    {action : PairingAction} (h : Reduces (checkPairingStatus params) hist (.pure action))
    (hl : params.isLocal = false)
    (hs : action.status = "paired" ∨ action.status = "auto-approved") :
    ∃ s₀ a₀ s a d, hist = [⟨.reload, s₀, a₀⟩, ⟨.getPairedDevice params.deviceID, s, a⟩] ∧
      s.state.pairedByDevice.lookup params.deviceID = some d ∧ d.publicKey = params.publicKey := by
  simp only [checkPairingStatus, reload, getPairedDevice, call_bind, pure_bind', pure_eq, hl,
    Bool.false_eq_true, if_false] at h
  obtain ⟨s₀, a₀, hist₁, rfl, h₁⟩ := h.call_inv
  obtain ⟨s, a, hist₂, rfl, h₂⟩ := h₁.call_inv
  split_ifs at h₂ with hd
  · obtain ⟨rfl, -⟩ := reduces_pure_iff.1 h₂
    cases hdev : s.state.pairedByDevice.lookup params.deviceID with
    | none => simp [Call.exec, Store.getPairedDevice, hdev] at hd
    | some d =>
      simp only [Call.exec, Store.getPairedDevice, hdev, Option.any_some, decide_eq_true_eq] at hd
      exact ⟨s₀, a₀, s, a, d, rfl, hdev, hd⟩
  · obtain ⟨_, _, _, _, _, h₃⟩ := h₂.bind_inv
    obtain ⟨-, h₄⟩ := reduces_pure_iff.1 h₃
    cases h₄
    simp at hs

/-- A `verifyDevice` that returned a token had its signature, nonce and id accepted, and was
told `"paired"` or `"auto-approved"` before `EnsureDeviceToken` ran. -/
theorem verifyDevice_ok {cr : Crypto} {conn : ConnInfo} {params : ConnectParams}
    {dev : DeviceConnectPayload} {hist : List Step} {tok : String}
    (h : Reduces (verifyDevice cr conn params dev) hist (.pure (.ok tok))) :
    verifySignature cr dev.publicKey (signingPayload conn params dev) dev.signature = true ∧
    dev.nonce = conn.challengeNonce ∧ deriveDeviceID cr dev.publicKey = dev.id ∧
    ∃ h₁ h₂ action t, hist = h₁ ++ h₂ ∧
      Reduces (checkPairingStatus
        { deviceID := deriveDeviceID cr dev.publicKey, publicKey := dev.publicKey,
          role := params.resolvedRole, scopes := params.caps, isLocal := conn.isLocal })
        h₁ (.pure action) ∧
      (action.status = "paired" ∨ action.status = "auto-approved") ∧
      Reduces (ensureDeviceToken (deriveDeviceID cr dev.publicKey) params.resolvedRole params.caps)
        h₂ (.pure t) := by
  unfold verifyDevice at h
  split_ifs at h with hsig hnonce hid
  · cases (reduces_pure_iff.1 h).2
  · cases (reduces_pure_iff.1 h).2
  · cases (reduces_pure_iff.1 h).2
  · simp only [Bool.not_eq_true', Bool.not_eq_false] at hsig
    refine ⟨hsig, not_not.1 hnonce, not_not.1 hid, ?_⟩
    obtain ⟨h₁, h₂, action, rfl, hc, hk⟩ := h.bind_inv
    split_ifs at hk with hs hs'
    · obtain ⟨h₂, h₃, t, rfl, he, hp⟩ := hk.bind_inv
      obtain ⟨rfl, -⟩ := reduces_pure_iff.1 hp
      exact ⟨h₁, h₂, action, t, by simp, hc, hs, he⟩
    · cases (reduces_pure_iff.1 hk).2
    · cases (reduces_pure_iff.1 hk).2

/-- A `processConnect` with a device payload and a Pairing Service that returned a token went
through `verifyDevice` and then wrote its response. -/
theorem processConnect_ok {cr : Crypto} {conn : ConnInfo} {req : ConnectRequest}
    {dev : DeviceConnectPayload} {hist : List Step} {tok : String} (hpair : conn.pairing = true)
    (hdev : req.params.device = some dev)
    (h : Reduces (processConnect cr conn req) hist (.pure (.ok tok))) :
    ∃ h₁ s a, hist = h₁ ++ [⟨.writeMessage, s, a⟩] ∧
      Reduces (verifyDevice cr conn req.params dev) h₁ (.pure (.ok tok)) := by
  unfold processConnect at h
  split_ifs at h
  · cases (reduces_pure_iff.1 h).2
  · cases (reduces_pure_iff.1 h).2
  · cases (reduces_pure_iff.1 h).2
  · obtain ⟨h₁, h₂, v, rfl, hv, hk⟩ := h.bind_inv
    simp only [deviceStep, hdev, hpair, if_true] at hv
    cases v with
    | error e => cases (reduces_pure_iff.1 hk).2
    | ok t =>
      simp only [writeMessage, call_bind, pure_bind'] at hk
      obtain ⟨s, a, h₂, rfl, hw⟩ := hk.call_inv
      split_ifs at hw
      · obtain ⟨rfl, hr⟩ := reduces_pure_iff.1 hw
        cases hr
        exact ⟨h₁, s, a, rfl, hv⟩
      · cases (reduces_pure_iff.1 hw).2

/-! ### Every admitted device -/

/-- What a handshake of `params` on `conn` that returned success after the calls `hist` shows
about its device payload `dev`: (a) the signature verified over the payload with this
connection's nonce, (b) the id is derived from the key, and on a non-loopback connection
(c) `CheckPairingStatus`'s read found the device paired with this key, and every call left
`PairedByDevice` as it was but for `Reload` and the tokens of the device's own entry. -/
def DeviceAdmitted (cr : Crypto) (conn : ConnInfo) (params : ConnectParams)
    (dev : DeviceConnectPayload) (hist : List Step) : Prop :=
  verifySignature cr dev.publicKey (signingPayload conn params dev) dev.signature = true ∧
  dev.nonce = conn.challengeNonce ∧ dev.id = deriveDeviceID cr dev.publicKey ∧
  (conn.isLocal = false →
    (∃ s₀ a₀ s a rest d, hist = ⟨.reload, s₀, a₀⟩ :: ⟨.getPairedDevice dev.id, s, a⟩ :: rest ∧
      s.state.pairedByDevice.lookup dev.id = some d ∧ d.publicKey = dev.publicKey) ∧
    ∀ st ∈ hist, st.call = .reload ∨
      SameButTokens dev.id st.store.state.pairedByDevice st.after.state.pairedByDevice)

/-- A successful `processConnect` with a device payload, followed back through its history. -/
theorem processConnect_admits {cr : Crypto} {conn : ConnInfo} {req : ConnectRequest}
    {dev : DeviceConnectPayload} {hist : List Step} {tok : String} (hpair : conn.pairing = true)
    (hdev : req.params.device = some dev)
    (h : Reduces (processConnect cr conn req) hist (.pure (.ok tok))) :
    DeviceAdmitted cr conn req.params dev hist := by
  obtain ⟨h₀, s, a, rfl, hv⟩ := processConnect_ok hpair hdev h
  obtain ⟨hsig, hnonce, hid, h₁, h₂, action, t, rfl, hc, hs, he⟩ := verifyDevice_ok hv
  refine ⟨hsig, hnonce, hid.symm, fun hl => ?_⟩
  rw [hid] at hc he
  obtain ⟨s₀, a₀, s', a', d, rfl, hd, hk⟩ := checkPairingStatus_remote_paired hc hl hs
  have hframed := (ensureDeviceToken_framed _ _ _).allows_of_reduces he (fun _ _ => trivial)
  refine ⟨⟨s₀, a₀, s', a', _, d, rfl, hd, hk⟩, fun st hst => ?_⟩
  simp only [List.cons_append, List.nil_append, List.mem_cons, List.mem_append,
    List.not_mem_nil, or_false] at hst
  refine @framedAt_exec dev.id _ ?_ st.store st.ans
  rcases hst with rfl | rfl | hst | rfl
  · trivial
  · trivial
  · exact hframed st hst
  · trivial

/-- **A successful handshake admits only a verified, and remotely only a paired, device.**
In every reachable state, a handshake thread that returned success from a device payload on a
connection with a Pairing Service shows `DeviceAdmitted` of its history. -/
theorem handshake_admits_paired {cr : Crypto} {ops : Op → Prop} {σ : Sys}
    (hσ : Reachable cr ops σ) {th : Thread} (hth : th ∈ σ.threads) {conn : ConnInfo}
    {req : ConnectRequest} {dev : DeviceConnectPayload} {tok : String}
    (hop : th.op = .handshake conn req) (hpair : conn.pairing = true)
    (hdev : req.params.device = some dev) (hok : th.prog = .pure (.handshake (.ok tok))) :
    DeviceAdmitted cr conn req.params dev th.hist := by
  have h := reachable_reduces hσ th hth
  rw [hop, hok] at h
  obtain ⟨r, hr, h⟩ := Reduces.map_inv h
  cases hr
  exact processConnect_admits hpair hdev h

/-- A non-loopback handshake of `zeroKey` under role `"node"` (refused, a request filed), the
operator's `Approve` of that request (the device paired with a `"node"` token), and a second
non-loopback handshake under role `"admin"`, each run to its end. -/
def approvalThenNewRole : List Label :=
  .invoke (.handshake (testConn false) (zeroConnect "node")) :: List.replicate 7 (.step 0 {}) ++
  .invoke (.approve (generateNonce (List.replicate 16 0))) :: List.replicate 7 (.step 1 {}) ++
  .invoke (.handshake (testConn false) (zeroConnect "admin")) :: List.replicate 7 (.step 2 {})

theorem handshake_admits_paired_new_role :
    DeviceAdmitted Crypto.zero (testConn false) (zeroConnect "admin").params zeroDevice
      (Sys.reach Crypto.zero approvalThenNewRole).threads[2]!.hist := by
  have hσ : Reachable Crypto.zero (fun _ => True) (Sys.reach Crypto.zero approvalThenNewRole) :=
    ⟨approvalThenNewRole, fun _ _ => trivial, rfl⟩
  exact handshake_admits_paired hσ (@List.getElem?_mem _ _ 2 _ rfl) rfl rfl rfl rfl

/-- The operations of a gateway whose operator only reviews requests and revokes tokens:
handshakes, `Approve`, `Reject` and `RevokeDeviceToken`. -/
def Op.isHandshakeOrReview : Op → Bool
  | .handshake _ _ | .approve _ | .reject _ | .revokeDeviceToken _ _ => true
  | _ => false

/-- The pairing guarantee for the handshakes of `σ`: a handshake thread that carried a device
payload on a connection with a Pairing Service and returned success ran on some store that held
the device paired under its id with its key. -/
def AdmitsOnlyPaired (σ : Sys) : Prop :=
  ∀ th ∈ σ.threads, ∀ conn req dev tok, th.op = .handshake conn req → conn.pairing = true →
    req.params.device = some dev → th.prog = .pure (.handshake (.ok tok)) →
    ∃ st ∈ th.hist, ∃ d, st.store.state.pairedByDevice.lookup dev.id = some d ∧
      d.publicKey = dev.publicKey

/-- A loopback handshake of `zeroKey` under role `"node"` whose `AddPending` save fails (the
seventh call), run to its end. -/
def failedLoopbackPairing : List Label :=
  .invoke (.handshake (testConn true) (zeroConnect "node")) ::
    List.replicate 6 (.step 0 {}) ++ .step 0 { disk := .writeFails } :: List.replicate 2 (.step 0 {})

/-- **A loopback handshake admits a device that was never paired.**  In `failedLoopbackPairing`
`RequestPairing` fails, so `CheckPairingStatus` answers `"paired"` with no device;
`EnsureDeviceToken` finds no device and mints nothing, and the handshake returns success.  No
store the handshake ran on, nor the one it left, holds the device. -/
theorem loopback_handshake_admits_unpaired :
    Reachable Crypto.zero (fun op => op.isHandshakeOrReview)
        (Sys.reach Crypto.zero failedLoopbackPairing) ∧
      ¬ AdmitsOnlyPaired (Sys.reach Crypto.zero failedLoopbackPairing) ∧
      (Sys.reach Crypto.zero failedLoopbackPairing).store.state.pairedByDevice.lookup zeroDevice.id =
        none := by
  refine ⟨⟨failedLoopbackPairing, by simp [failedLoopbackPairing, Op.isHandshakeOrReview], rfl⟩,
    fun h => ?_, rfl⟩
  obtain ⟨st, hst, d, hd, -⟩ := h _ (@List.getElem?_mem _ _ 0 _ rfl) (testConn true)
    (zeroConnect "node") zeroDevice "" rfl rfl rfl rfl
  have hnone : (Sys.reach Crypto.zero failedLoopbackPairing).threads[0]!.hist.all
      (fun st => (st.store.state.pairedByDevice.lookup zeroDevice.id).isNone) = true := rfl
  rw [Option.isNone_iff_eq_none.1 (List.all_eq_true.1 hnone st hst)] at hd
  cases hd

end GoClaw
