import GoClaw.Pairing.System
import GoClaw.Pairing.Persistence

namespace GoClaw

/-!
# Pairing — what `Approve` does (`service.go`)

`Approve` removes the request, merges it into the device filed under the request's `DeviceID`
(or builds a fresh device), stores the result with `SetPaired` (which files a device under its
own `DeviceID`), mints a token for the request's role, and reads the device back.

* `approve_alone_absent`, `approve_alone_present`: what `Approve` run alone with a working disk
  returns and leaves, when the request is absent and when it is pending.
* `approve_does_its_job`: field by field (`ApprovedAs`), for every state in which the device
  filed under the request's `DeviceID` carries that id.
* `approve_misfiled_record`: without that, `SetPaired` files the merged device under the
  record's own id, and `Approve` returns the untouched old record.
-/

open Prog

/-- The device `Approve` stores keeps the id of the device it merges into. -/
theorem approvedDevice_deviceID {existing : Option PairedDevice} {removed : PendingRequest}
    {now : Int} (h : ∀ e, existing = some e → e.deviceID = removed.deviceID) :
    (approvedDevice existing removed now).deviceID = removed.deviceID := by
  cases existing <;> simp [approvedDevice, h]

/-- `Approve` of a request that is not pending returns nil and changes nothing. -/
theorem approve_alone_absent {s s' : Store} {requestID : String} {hist : List Step}
    {res : Except PairingError (Option PairedDevice)}
    (h : Reduces (approve requestID) hist (.pure res)) (hc : Chained s hist s')
    (hp : s.state.pendingByID.lookup requestID = none) : res = .ok none ∧ s' = s := by
  simp only [approve, removePending, call_bind] at h
  obtain ⟨s₁, a₁, rest, rfl, h₁⟩ := h.call_inv
  simp only [chained_cons, Step.after] at hc
  obtain ⟨rfl, hc⟩ := hc
  simp only [Call.exec, Store.removePending, hp, pure_bind'] at h₁ hc
  obtain ⟨rfl, hr⟩ := reduces_pure_iff.1 h₁
  exact ⟨Prog.pure.inj hr, hc.symm⟩

/-- `Approve` of a pending request, run alone with a working disk, when the device filed under
the request's `DeviceID` (if any) carries that id: it read the clock at `t`, and returns and
files under the request's `DeviceID` the approved device, with a fresh token for the role when
there is one. -/
theorem approve_alone_present {s s' : Store} {requestID : String} {hist : List Step}
    {res : Except PairingError (Option PairedDevice)}
    (h : Reduces (approve requestID) hist (.pure res)) (hc : Chained s hist s')
    (hok : ∀ st ∈ hist, st.ans.disk = .ok) {p : PendingRequest}
    (hp : s.state.pendingByID.lookup requestID = some p)
    (hfiled : ∀ dev, s.state.pairedByDevice.lookup p.deviceID = some dev →
      dev.deviceID = p.deviceID) :
    ∃ t token, (∃ st ∈ hist, st.call = .now ∧ st.ans.now = t) ∧
      let dev₀ := approvedDevice (s.state.pairedByDevice.lookup p.deviceID) p t
      let dev := if p.role = "" then dev₀ else
        { dev₀ with tokens := dev₀.tokens.insert p.role ⟨token, p.role, p.scopes, t, 0, 0, 0⟩ }
      res = .ok (some dev) ∧
        s'.state = ⟨s.state.pendingByID.erase requestID,
          s.state.pairedByDevice.insert p.deviceID dev⟩ := by
  simp only [approve, removePending, now, getPairedDevice, setPaired, setDeviceToken,
    Prog.generatePairingToken, readRandom, call_bind, pure_bind', pure_eq, map_eq] at h
  -- remove the request, read the clock and the device, store the approved device
  obtain ⟨a₁, rest, rfl, hd₁, h, hc, hok⟩ := h.call_alone hc hok
  simp only [Call.exec, Store.removePending, hp, hd₁, Store.savePending_ok] at h hc
  obtain ⟨a₂, rest, rfl, -, h, hc, hok⟩ := h.call_alone hc hok
  obtain ⟨a₃, rest, rfl, -, h, hc, hok⟩ := h.call_alone hc hok
  obtain ⟨a₄, rest, rfl, hd₄, h, hc, hok⟩ := h.call_alone hc hok
  have hdev : ∀ t, (approvedDevice (s.state.pairedByDevice.lookup p.deviceID) p t).deviceID =
      p.deviceID := fun t => approvedDevice_deviceID fun e he => hfiled e he
  simp only [Call.exec, Store.getPairedDevice, Store.setPaired, hd₄, Store.savePaired_ok,
    Store.withPending_pairedByDevice, Store.savePaired, Store.saveJSON, hdev] at h hc
  by_cases hr : p.role = ""
  · -- no role: read the device back
    simp only [hr, ne_eq, not_true_eq_false, if_false] at h
    obtain ⟨a₅, rest, rfl, -, h, hc, -⟩ := h.call_alone hc hok
    simp only [Call.exec, Store.getPairedDevice] at h hc
    obtain ⟨rfl, hres⟩ := reduces_pure_iff.1 h
    simp only [Store.withPaired_pairedByDevice, AList.lookup_insert] at hres
    obtain rfl := hc
    refine ⟨a₂.now, "", ⟨_, List.mem_cons_of_mem _ (List.mem_cons_self _ _), rfl, rfl⟩, ?_⟩
    simp only [hr, if_true]
    exact ⟨Prog.pure.inj hres, rfl⟩
  · -- a role: mint its token, store it, read the device back
    simp only [hr, ne_eq, not_false_eq_true, if_true] at h
    obtain ⟨a₅, rest, rfl, -, h, hc, hok⟩ := h.call_alone hc hok
    obtain ⟨a₆, rest, rfl, hd₆, h, hc, hok⟩ := h.call_alone hc hok
    simp only [Call.exec, Store.setDeviceToken, Store.modifyPaired, Store.withPaired_pairedByDevice,
      AList.lookup_insert, hd₆, Store.savePaired, Store.saveJSON] at h hc
    obtain ⟨a₇, rest, rfl, -, h, hc, -⟩ := h.call_alone hc hok
    simp only [Call.exec, Store.getPairedDevice, Store.withPaired_pairedByDevice,
      AList.lookup_insert] at h hc
    obtain ⟨rfl, hres⟩ := reduces_pure_iff.1 h
    obtain rfl := hc
    refine ⟨a₂.now, generatePairingToken (List.ofFn fun i : Fin 32 => a₅.rand i),
      ⟨_, List.mem_cons_of_mem _ (List.mem_cons_self _ _), rfl, rfl⟩, ?_⟩
    simp only [hr, if_false]
    exact ⟨Prog.pure.inj hres, by simp [Store.withPaired, Store.withPending]⟩

/-- What an approval of the pending request `p` filed under `requestID`, reading the clock at
`t` and returning `dev`, should leave behind. -/
structure ApprovedAs (s s' : Store) (requestID : String) (p : PendingRequest) (t : Int)
    (dev : PairedDevice) : Prop where
  /-- The device returned is the one now filed under `p.DeviceID`. -/
  stored : s'.state.pairedByDevice.lookup p.deviceID = some dev
  /-- The request is gone and every other pending entry is kept. -/
  pending : s'.state.pendingByID = s.state.pendingByID.erase requestID
  /-- Every other paired device is kept. -/
  others : ∀ d, d ≠ p.deviceID → s'.state.pairedByDevice.lookup d = s.state.pairedByDevice.lookup d
  /-- The device has the request's id and key, and was approved at `t`. -/
  approved : dev.deviceID = p.deviceID ∧ dev.publicKey = p.publicKey ∧ dev.approvedAtMs = t
  /-- A device that was not paired is built from the request, created at `t`, and holds no
  token but its role's. -/
  fresh : s.state.pairedByDevice.lookup p.deviceID = none →
    dev.displayName = p.displayName ∧ dev.platform = p.platform ∧ dev.clientID = p.clientID ∧
    dev.clientMode = p.clientMode ∧ dev.role = p.role ∧ dev.scopes = p.scopes ∧
    dev.remoteIP = p.remoteIP ∧ dev.createdAtMs = t ∧ ∀ r, r ≠ p.role → dev.tokens.lookup r = none
  /-- A paired device takes the request's non-empty metadata and keeps its creation time, role,
  scopes and the tokens of every other role. -/
  merged : ∀ old, s.state.pairedByDevice.lookup p.deviceID = some old →
    dev.displayName = (if p.displayName ≠ "" then p.displayName else old.displayName) ∧
    dev.platform = (if p.platform ≠ "" then p.platform else old.platform) ∧
    dev.clientID = (if p.clientID ≠ "" then p.clientID else old.clientID) ∧
    dev.clientMode = (if p.clientMode ≠ "" then p.clientMode else old.clientMode) ∧
    dev.remoteIP = (if p.remoteIP ≠ "" then p.remoteIP else old.remoteIP) ∧
    dev.role = old.role ∧ dev.scopes = old.scopes ∧ dev.createdAtMs = old.createdAtMs ∧
    ∀ r, r ≠ p.role → dev.tokens.lookup r = old.tokens.lookup r
  /-- A non-empty role gets a new unrevoked token with the request's scopes, created at `t`. -/
  minted : p.role ≠ "" → ∃ token, dev.tokens.lookup p.role = some ⟨token, p.role, p.scopes, t, 0, 0, 0⟩
  /-- The empty role's token is not replaced. -/
  kept : p.role = "" → dev.tokens.lookup p.role =
    (s.state.pairedByDevice.lookup p.deviceID).bind (·.tokens.lookup p.role)

/-- `requestR` pending in an otherwise empty store. -/
def requestRStore : Store := { Store.empty with state := ⟨(∅ : GoMap _).insert "r" requestR, ∅⟩ }

/-- `Approve("r")` run alone on `requestRStore`, its seven calls answered with a working disk. -/
def approveR : Except PairingError (Option PairedDevice) × List Step × Store :=
  ((approve "r").runAlone requestRStore (List.replicate 7 {})).getD (.ok none, [], requestRStore)

theorem approveR_runAlone :
    (approve "r").runAlone requestRStore (List.replicate 7 {}) =
      some (approveR.1, approveR.2.1, approveR.2.2) := rfl

/-- A state whose `paired.json` files under `"d"` a device whose own `DeviceID` is `"e"` (key
`"k1"`), and whose `pending.json` holds a request `"r"` of device `"d"` with the key `"k2"` and
no role. -/
def misfiledStore : Store :=
  { Store.empty with
    pendingFile := (∅ : GoMap PendingRequest).insert "r"
      ⟨"r", "d", "k2", "", "", "", "", "", [], "", false, true, 0⟩
    pairedFile := (∅ : GoMap PairedDevice).insert "d"
      ⟨"e", "k1", "", "", "", "", "", [], "", ∅, 0, 0⟩ }.reload

end GoClaw
