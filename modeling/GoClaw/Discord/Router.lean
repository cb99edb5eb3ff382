import GoClaw.Pairing.Ids

namespace GoClaw

namespace Discord

/-!
# Discord — the pairing commands of the command router (`router.go`)

`/devices`, `/approve`, `/reject` and `/revoke`, the handlers an operator pairs devices with from
Discord.  Each builds its reply from store records, and `/devices`, `/approve` and `/reject` cut
the records' ids (`DeviceID[:12]`, `RequestID[:8]`): a cut past the end of a string is a Go
runtime panic.

* `sliceTo s n` is `s[:n]`, `none` where Go panics; a reply is `none` where its handler panics.
* `handleDevices` lists the store's records; `handleApprove` and `handleReject` are one guard and
  one reply (`handleDecision`, `decisionReply`) around `Approve` and `Reject`; `handleRevoke` cuts
  with `min(12, len(deviceID))`.
* `handleDevices_total`: a store whose records carry ids of 64 and 36 bytes is listed without a
  panic; `approveReply_total`, `rejectReply_total`: so is a returned record with a 64-byte id.
* `router_never_panics`: in every state handshakes and operator operations reach, `/devices`
  replies, and `/approve` and `/reject` reply to every result `Approve` and `Reject` returned
  (`storeIds_reachable`); `/revoke` replies to every input (`revokeReply_total`).
-/

/-- `CommandResponse` (`ImageData`, which only `/snap` fills, is left out). -/
structure CommandResponse where
  ok : Bool
  message : String
  deriving DecidableEq, Repr

/-- Go's `s[:n]` on a string: `none` where it panics, `n` past the end of its bytes; otherwise the
characters that start in the first `n` bytes (Go keeps the leading bytes of a character the cut
splits, which a Lean string cannot hold). -/
def sliceTo (s : String) (n : Nat) : Option String :=
  if n ≤ s.utf8ByteSize then some (s.extract 0 ⟨n⟩) else none

theorem sliceTo_total {s : String} {n : Nat} (h : n ≤ s.utf8ByteSize) : ∃ t, sliceTo s n = some t :=
  ⟨_, if_pos h⟩

/-- The reply of a pairing command when pairing is not enabled. -/
def pairingDisabled : CommandResponse := ⟨false, "❌ Device pairing is not enabled"⟩

/-- The name a pairing reply shows: the display name, or the id's first 12 bytes and an
ellipsis. -/
def shownName (displayName deviceID : String) : Option String :=
  if displayName = "" then (· ++ "…") <$> sliceTo deviceID 12 else some displayName

/-! ### `/devices` -/

/-- The `/devices` line of a paired device. -/
def pairedLine (d : PairedDevice) : Option String := do
  let name ← shownName d.displayName d.deviceID
  let id ← sliceTo d.deviceID 12
  pure ("• `" ++ id ++ "` — " ++ name ++ " (" ++ d.platform ++ ")\n")

/-- The `/devices` line of a pending request. -/
def pendingLine (p : PendingRequest) : Option String := do
  let name ← shownName p.displayName p.deviceID
  let id ← sliceTo p.deviceID 12
  let req ← sliceTo p.requestID 8
  pure ("• `" ++ id ++ "` — " ++ name ++ " (request: `" ++ req ++ "`)\n")

/-- `HandleDevices` on the router's store (`none` when pairing is not enabled): the paired
devices, then the pending requests, each with a count. -/
def handleDevices : Option Store → Option CommandResponse
  | none => some pairingDisabled
  | some s => do
    let paired := s.listPaired
    let pending := s.listPending
    if paired.length = 0 ∧ pending.length = 0 then return ⟨true, "No devices found."⟩
    let pairedText ← if 0 < paired.length then do
        let lines ← paired.mapM pairedLine
        pure ("**Paired Devices** (" ++ toString paired.length ++ ")\n" ++ String.join lines)
      else pure ""
    let pendingText ← if 0 < pending.length then do
        let lines ← pending.mapM pendingLine
        pure ((if 0 < paired.length then "\n" else "") ++ "**Pending Requests** (" ++
          toString pending.length ++ ")\n" ++ String.join lines)
      else pure ""
    pure ⟨true, pairedText ++ pendingText⟩

/-! ### `/approve`, `/reject` and `/revoke` -/

/-- What `/approve` and `/reject` share once the Service answered: `failed` and the error's text
for an error, the not-found reply for no record, and `done` with the record's shown name and cut
id for its display name and device id. -/
def decisionReply (failed done requestID : String) :
    Except String (Option (String × String)) → Option CommandResponse
  | .error e => some ⟨false, failed ++ e⟩
  | .ok none => some ⟨false, "❌ No pending request found for `" ++ requestID ++ "`"⟩
  | .ok (some (displayName, deviceID)) => do
    let name ← shownName displayName deviceID
    let id ← sliceTo deviceID 12
    pure ⟨true, done ++ " **" ++ name ++ "** (`" ++ id ++ "`)"⟩

/-- `HandleApprove`'s reply to what `Approve` returned.  `errText` is the error's `%v`, which
wraps an OS error the model does not carry. -/
def approveReply (errText : PairingError → String) (requestID : String)
    (r : Except PairingError (Option PairedDevice)) : Option CommandResponse :=
  decisionReply "❌ Approve failed: " "✅ Approved device" requestID
    ((r.mapError errText).map (Option.map fun d => (d.displayName, d.deviceID)))

/-- `HandleReject`'s reply to what `Reject` returned (its error is always nil). -/
def rejectReply (requestID : String) (r : Option PendingRequest) : Option CommandResponse :=
  decisionReply "❌ Reject failed: " "🚫 Rejected device" requestID
    (.ok (r.map fun p => (p.displayName, p.deviceID)))

/-- The checks `/approve` and `/reject` make before they `call` the Service. -/
def handleDecision (pairing : Bool) (requestID : String) (call : Prog (Option CommandResponse)) :
    Prog (Option CommandResponse) :=
  if !pairing then pure (some pairingDisabled)
  else if requestID = "" then pure (some ⟨false, "❌ Request ID is required"⟩)
  else call

/-- `HandleApprove`; `pairing` is whether the router has a Pairing Service. -/
def handleApprove (errText : PairingError → String) (pairing : Bool) (requestID : String) :
    Prog (Option CommandResponse) :=
  handleDecision pairing requestID (approveReply errText requestID <$> approve requestID)

/-- `HandleReject`. -/
def handleReject (pairing : Bool) (requestID : String) : Prog (Option CommandResponse) :=
  handleDecision pairing requestID (rejectReply requestID <$> reject requestID)

/-- `HandleRevoke`'s reply to what `RevokeDeviceToken` returned: the id is cut to
`min(12, len(deviceID))` bytes. -/
def revokeReply (deviceID role : String) (tok : Option DeviceAuthToken) : Option CommandResponse :=
  (sliceTo deviceID (min 12 deviceID.utf8ByteSize)).map fun id =>
    match tok with
    | none => ⟨false, "❌ No token found for device `" ++ id ++ "` role `" ++ role ++ "`"⟩
    | some _ => ⟨true, "🔒 Revoked token for device `" ++ id ++ "` role `" ++ role ++ "`"⟩

/-- `HandleRevoke`: the role defaults to `"node"`. -/
def handleRevoke (pairing : Bool) (deviceID role : String) : Prog (Option CommandResponse) :=
  if !pairing then pure (some pairingDisabled)
  else if deviceID = "" then pure (some ⟨false, "❌ Device ID is required"⟩)
  else
    let role := if role = "" then "node" else role
    revokeReply deviceID role <$> revokeDeviceToken deviceID role

/-- `/revoke` replies whatever the id and the Service's answer. -/
theorem revokeReply_total (deviceID role : String) (tok : Option DeviceAuthToken) :
    ∃ resp, revokeReply deviceID role tok = some resp := by
  obtain ⟨id, hid⟩ := sliceTo_total (Nat.min_le_right 12 deviceID.utf8ByteSize)
  exact ⟨_, by rw [revokeReply, hid]; rfl⟩

/-! ### Replies for records with long ids -/

theorem shownName_total (displayName : String) {deviceID : String} (h : 12 ≤ deviceID.utf8ByteSize) :
    ∃ t, shownName displayName deviceID = some t := by
  obtain ⟨id, hid⟩ := sliceTo_total h
  unfold shownName
  split_ifs
  · exact ⟨_, by rw [hid]; rfl⟩
  · exact ⟨_, rfl⟩

theorem pairedLine_total {d : PairedDevice} (h : PairedIds d) : ∃ t, pairedLine d = some t := by
  have h12 : 12 ≤ d.deviceID.utf8ByteSize := by rw [h]; decide
  obtain ⟨name, hn⟩ := shownName_total d.displayName h12
  obtain ⟨id, hid⟩ := sliceTo_total h12
  exact ⟨_, by rw [pairedLine, hn, hid]; rfl⟩

theorem pendingLine_total {p : PendingRequest} (h : PendingIds p) : ∃ t, pendingLine p = some t := by
  have h12 : 12 ≤ p.deviceID.utf8ByteSize := by rw [h.2]; decide
  obtain ⟨name, hn⟩ := shownName_total p.displayName h12
  obtain ⟨id, hid⟩ := sliceTo_total h12
  obtain ⟨req, hreq⟩ := sliceTo_total (show 8 ≤ p.requestID.utf8ByteSize by rw [h.1]; decide)
  exact ⟨_, by rw [pendingLine, hn, hid, hreq]; rfl⟩

/-- `mapM` in `Option` succeeds when every element does. -/
theorem mapM_total {α β : Type} {f : α → Option β} :
    ∀ {l : List α}, (∀ x ∈ l, ∃ y, f x = some y) → ∃ ys, l.mapM f = some ys
  | [], _ => ⟨[], rfl⟩
  | x :: l, h => by
    obtain ⟨y, hy⟩ := h x (List.mem_cons_self _ _)
    obtain ⟨ys, hys⟩ := mapM_total fun z hz => h z (List.mem_cons_of_mem _ hz)
    exact ⟨y :: ys, by rw [List.mapM_cons, hy, hys]; rfl⟩

/-- A store whose records carry ids of 64 and 36 bytes is listed without a panic. -/
theorem handleDevices_total {s : Store} (hs : StoreIds s) : ∃ resp, handleDevices (some s) = some resp := by
  have hpaired : ∀ d ∈ s.listPaired, PairedIds d := fun d hd =>
    (hs.paired.of_mem_entries ((List.perm_insertionSort _ _).subset hd)).elim fun _ h => h
  have hpending : ∀ p ∈ s.listPending, PendingIds p := fun p hp =>
    (hs.pending.of_mem_entries ((List.perm_insertionSort _ _).subset hp)).elim fun _ h => h
  obtain ⟨ls, hls⟩ := mapM_total fun d hd => pairedLine_total (hpaired d hd)
  obtain ⟨lp, hlp⟩ := mapM_total fun p hp => pendingLine_total (hpending p hp)
  simp only [handleDevices, hls, hlp]
  split_ifs <;> simp

/-- A returned device with a 64-byte id gets its `/approve` reply. -/
theorem approveReply_total (errText : PairingError → String) (requestID : String)
    {r : Except PairingError (Option PairedDevice)} (h : ∀ d, r = .ok (some d) → PairedIds d) :
    ∃ resp, approveReply errText requestID r = some resp := by
  rcases r with e | _ | d
  · exact ⟨_, rfl⟩
  · exact ⟨_, rfl⟩
  · have h12 : 12 ≤ d.deviceID.utf8ByteSize := by rw [h d rfl]; decide
    obtain ⟨name, hn⟩ := shownName_total d.displayName h12
    obtain ⟨id, hid⟩ := sliceTo_total h12
    exact ⟨_, by simp only [approveReply, Except.mapError, Except.map, Option.map, decisionReply, hn, hid]; rfl⟩

/-- A returned request with a 64-byte device id gets its `/reject` reply. -/
theorem rejectReply_total (requestID : String) {r : Option PendingRequest}
    (h : ∀ p, r = some p → PendingIds p) : ∃ resp, rejectReply requestID r = some resp := by
  rcases r with _ | p
  · exact ⟨_, rfl⟩
  · have h12 : 12 ≤ p.deviceID.utf8ByteSize := by rw [(h p rfl).2]; decide
    obtain ⟨name, hn⟩ := shownName_total p.displayName h12
    obtain ⟨id, hid⟩ := sliceTo_total h12
    exact ⟨_, by simp only [rejectReply, Option.map, decisionReply, hn, hid]; rfl⟩

/-! ### The router on every reachable state -/

/-- **The pairing commands never panic.**  In every state that handshakes and operator
operations reach, `/devices` replies on the store, and every `Approve` and `Reject` that has
returned gets its `/approve` and `/reject` reply, whatever request id it was given: every id the
router cuts is at least as long as the cut. -/
theorem router_never_panics {cr : Crypto} {σ : Sys} (h : Reachable cr (fun op => op.isHandshakeOrOperator) σ)
    (errText : PairingError → String) :
    (∃ resp, handleDevices (some σ.store) = some resp) ∧
      (∀ th ∈ σ.threads, ∀ requestID,
        (∀ r, th.prog = .pure (.approved r) → ∃ resp, approveReply errText requestID r = some resp) ∧
        (∀ r, th.prog = .pure (.rejected r) → ∃ resp, rejectReply requestID r = some resp)) ∧
      ∀ deviceID role tok, ∃ resp, revokeReply deviceID role tok = some resp := by
  obtain ⟨hs, hth⟩ := idContract_kept.reachable StoreIds.empty (fun _ hop => Op.prog_idSafe hop) h
  refine ⟨handleDevices_total hs, fun th hmem requestID => ⟨fun r hr => ?_, fun r hr => ?_⟩,
    revokeReply_total⟩
  · have hok : (Outcome.approved r).IdsOK := Prog.safe_pure.1 (hr ▸ hth th hmem)
    exact approveReply_total errText requestID fun d hd => by subst hd; exact hok
  · have hok : (Outcome.rejected r).IdsOK := Prog.safe_pure.1 (hr ▸ hth th hmem)
    exact rejectReply_total requestID fun p hp => by subst hp; exact hok

theorem router_never_panics_loopback :
    (∃ resp, handleDevices (some (Sys.reach Crypto.zero loopbackPairing).store) = some resp) ∧
      (∀ th ∈ (Sys.reach Crypto.zero loopbackPairing).threads, ∀ requestID,
        (∀ r, th.prog = .pure (.approved r) → ∃ resp, approveReply (fun _ => "") requestID r = some resp) ∧
        (∀ r, th.prog = .pure (.rejected r) → ∃ resp, rejectReply requestID r = some resp)) ∧
      ∀ deviceID role tok, ∃ resp, revokeReply deviceID role tok = some resp :=
  router_never_panics loopbackPairing_reachable _

end Discord

end GoClaw
