import GoClaw.Pairing.System

namespace GoClaw

/-!
# Pairing — pending requests (`service.go`, `store.go`)

`RequestPairing` looks for a request of the device with `ListPending` and files a new one with
`AddPending`, two separate acquisitions of the store's mutex.  Pending requests expire only
through `PruneExpiredPending`.

* `requestPairing_writes`: RequestPairing writes nothing, or one request for its device after a
  `ListPending` that showed none.
* `requestPairing_alone_keeps_one_pending`: run with nothing in between, RequestPairing keeps at
  most one pending request per device.
* `requestPairing_race_two_pending`: two interleaved RequestPairings of one device both file one.
* `pruneExpiredPending_spec`: a prune at `now` removes exactly the requests expired at `now`.
* `expired_request_approved`: nothing else looks at a request's age, and nothing calls the
  prune: a request older than the TTL is still listed, returned and approved.
* `rejected_request_approved_after_reload`: `RemovePending` drops its save error, so a `Reject`
  whose save failed reports success, the next `Reload` files the request again, and it is
  approved.
* `prune_keeps_ancient_request`: the age `now - Timestamp` wraps in `int64`, and an ancient
  request survives a prune.
-/

open Prog

/-! ### At most one pending request per device -/

/-- No two pending requests are for one device. -/
def OnePendingPerDevice (st : PairingState) : Prop :=
  (st.pendingByID.entries.map (·.2.deviceID)).Nodup

instance : DecidablePred OnePendingPerDevice :=
  fun _ => inferInstanceAs (Decidable (List.Nodup _))

/-- `ListPending` lists exactly the requests the map holds. -/
theorem mem_listPending {s : Store} {p : PendingRequest} :
    p ∈ s.listPending ↔ p ∈ s.state.pendingByID.entries.map (·.2) :=
  (List.perm_insertionSort (fun a b : PendingRequest => b.timestamp ≤ a.timestamp) _).mem_iff

/-- Filing a request for a device no pending request is for keeps one request per device. -/
theorem OnePendingPerDevice.insert {st : PairingState} (hs : OnePendingPerDevice st)
    {p : PendingRequest}
    (hp : ∀ q ∈ st.pendingByID.entries.map (·.2), q.deviceID ≠ p.deviceID) :
    OnePendingPerDevice { st with pendingByID := st.pendingByID.insert p.requestID p } := by
  have hsub := (List.kerase_sublist p.requestID st.pendingByID.entries).map (·.2.deviceID)
  simp only [OnePendingPerDevice, AList.insert_entries, List.map_cons, List.nodup_cons]
  refine ⟨fun hmem => ?_, (hs.sublist hsub)⟩
  obtain ⟨e, he, hid⟩ := List.mem_map.1 (hsub.subset hmem)
  exact hp e.2 (List.mem_map_of_mem _ he) hid

/-- Steps that only read leave a back-to-back run where it started. -/
theorem Chained.of_reads {s s' : Store} {hist : List Step}
    (hr : ∀ st ∈ hist, st.after = st.store) (hc : Chained s hist s') : s' = s := by
  induction hist generalizing s with
  | nil => exact hc.symm
  | cons st hist ih =>
    obtain ⟨rfl, hc⟩ := hc
    simp only [List.mem_cons, forall_eq_or_imp] at hr
    exact hr.1 ▸ ih hr.2 hc

/-- What `RequestPairing` writes: nothing, or — after reading the device, a pending list with no
request for the device, 16 random bytes and the clock — one request for its device. -/
theorem requestPairing_writes {req : PairingRequestInput} {hist : List Step}
    {r : Except PairingError (Option PendingRequest)}
    (h : Reduces (requestPairing req) hist (.pure r)) :
    (∀ st ∈ hist, st.after = st.store) ∨
    ∃ s₀ a₀ s₁ a₁ s₂ a₂ s₃ a₃ p s₄ a₄,
      hist = [⟨.getPairedDevice req.deviceID, s₀, a₀⟩, ⟨.listPending, s₁, a₁⟩,
        ⟨.readRandom 16, s₂, a₂⟩, ⟨.now, s₃, a₃⟩, ⟨.addPending p, s₄, a₄⟩] ∧
      p.deviceID = req.deviceID ∧ ∀ q ∈ s₁.listPending, q.deviceID ≠ req.deviceID := by
  unfold requestPairing at h
  split_ifs at h
  · exact .inl (by simp [(reduces_pure_iff.1 h).1])
  simp only [getPairedDevice, listPending, now, addPending, Prog.generateNonce, readRandom,
    call_bind, pure_bind', pure_eq, map_eq] at h
  obtain ⟨s₀, a₀, h₀, rfl, k₀⟩ := h.call_inv
  split_ifs at k₀
  · exact .inl (by simp [(reduces_pure_iff.1 k₀).1, Step.after, Call.exec])
  obtain ⟨s₁, a₁, h₁, rfl, k₁⟩ := k₀.call_inv
  split at k₁
  · exact .inl (by simp [(reduces_pure_iff.1 k₁).1, Step.after, Call.exec])
  · rename_i hnone
    obtain ⟨s₂, a₂, h₂, rfl, k₂⟩ := k₁.call_inv
    obtain ⟨s₃, a₃, h₃, rfl, k₃⟩ := k₂.call_inv
    obtain ⟨s₄, a₄, h₄, rfl, k₄⟩ := k₃.call_inv
    have h₄ : h₄ = [] := by split at k₄ <;> exact (reduces_pure_iff.1 k₄).1
    subst h₄
    refine .inr ⟨s₀, a₀, s₁, a₁, s₂, a₂, s₃, a₃, _, s₄, a₄, rfl, rfl, fun q hq => ?_⟩
    simpa using List.find?_eq_none.1 hnone q hq

/-- **RequestPairing alone keeps one pending request per device**: with nothing running between
its `ListPending` and its `AddPending`, whatever the disk does. -/
theorem requestPairing_alone_keeps_one_pending {s s' : Store} {req : PairingRequestInput}
    {hist : List Step} {r : Except PairingError (Option PendingRequest)}
    (hs : OnePendingPerDevice s.state) (h : Reduces (requestPairing req) hist (.pure r))
    (hc : Chained s hist s') : OnePendingPerDevice s'.state := by
  rcases requestPairing_writes h with hr | ⟨s₀, a₀, s₁, a₁, s₂, a₂, s₃, a₃, p, s₄, a₄, rfl, hp, hl⟩
  · exact hc.of_reads hr ▸ hs
  · simp only [chained_cons, chained_nil, Step.after, Call.exec] at hc
    obtain ⟨rfl, rfl, rfl, rfl, rfl, rfl⟩ := hc
    exact hs.insert fun q hq => hp ▸ hl q (mem_listPending.2 hq)

/-- A non-loopback request of device `"d"` with key `"k"`. -/
def requestD : PairingRequestInput :=
  { deviceID := "d", publicKey := "k", role := "node", scopes := [], isLocal := false }

/-- The result, calls and store of `RequestPairing(requestD)` run alone on the empty store. -/
def requestDAlone : Except PairingError (Option PendingRequest) × List Step × Store :=
  ((requestPairing requestD).runAlone Store.empty (List.replicate 5 {})).getD
    (.ok none, [], Store.empty)

theorem requestDAlone_runAlone :
    (requestPairing requestD).runAlone Store.empty (List.replicate 5 {}) =
      some (requestDAlone.1, requestDAlone.2.1, requestDAlone.2.2) := rfl

theorem requestPairing_alone_keeps_one_pending_requestD :
    OnePendingPerDevice Store.empty.state ∧ OnePendingPerDevice requestDAlone.2.2.state :=
  ⟨by decide, requestPairing_alone_keeps_one_pending (by decide)
    (runAlone_sound requestDAlone_runAlone).1 (runAlone_sound requestDAlone_runAlone).2⟩

/-- The operations of the pairing flow: `RequestPairing`, `CheckPairingStatus`, `Approve` and
`Reject`. -/
def Op.isPairingFlow : Op → Bool
  | .requestPairing _ | .checkPairingStatus _ | .approve _ | .reject _ => true
  | _ => false

/-- Two RequestPairings of `requestD`: both read the device and list the pending requests before
either files one; the first files one under the nonce of zero bytes, the second under the nonce
of bytes 1. -/
def requestPairingRace : List Label :=
  [.invoke (.requestPairing requestD), .invoke (.requestPairing requestD),
   .step 0 {}, .step 0 {}, .step 1 {}, .step 1 {},
   .step 0 {}, .step 0 {}, .step 0 {}, .step 1 { rand := fun _ => 1 }, .step 1 {}, .step 1 {}]

/-- Interleaved, two RequestPairings of one device file two pending requests for it. -/
theorem requestPairing_race_two_pending :
    Reachable Crypto.zero (fun op => op.isPairingFlow) (Sys.reach Crypto.zero requestPairingRace) ∧
      ¬ OnePendingPerDevice (Sys.reach Crypto.zero requestPairingRace).store.state :=
  ⟨⟨requestPairingRace, by simp [requestPairingRace, Op.isPairingFlow], rfl⟩, by decide⟩

/-! ### Expiry -/

/-- The map `PruneExpiredPending` leaves: the keys of `l` erased. -/
theorem lookup_foldl_erase {V : Type} (l : List (Σ _ : String, V)) (m : GoMap V) (k : String) :
    (l.foldl (fun m e => m.erase e.1) m).lookup k = if k ∈ l.map (·.1) then none else m.lookup k := by
  induction l generalizing m with
  | nil => simp
  | cons e l ih =>
    rw [List.foldl_cons, ih]
    by_cases hk : k = e.1
    · subst hk
      simp [AList.lookup_erase]
    · simp only [List.map_cons, List.mem_cons, hk, false_or, AList.lookup_erase_ne hk]

/-- **A prune at `now` removes exactly the expired requests.**  Whatever the disk does, afterwards
`GetPendingRequest` returns what it returned before unless it is expired at `now`, so
`ListPending` lists nothing expired, and the paired devices are untouched. -/
theorem pruneExpiredPending_spec (s : Store) (now : Int) (d : Disk) :
    let s' := (s.pruneExpiredPending now d).1
    (∀ k p, s'.getPendingRequest k = some p ↔
      s.getPendingRequest k = some p ∧ Store.isExpired now p = false) ∧
    (∀ p ∈ s'.listPending, Store.isExpired now p = false) ∧
    s'.state.pairedByDevice = s.state.pairedByDevice := by
  have hstate : (s.pruneExpiredPending now d).1.state.pendingByID =
      (s.state.pendingByID.entries.filter fun e => Store.isExpired now e.2).foldl
        (fun m e => m.erase e.1) s.state.pendingByID := by
    simp only [Store.pruneExpiredPending]
    split <;> rfl
  have hlookup : ∀ k p, (s.pruneExpiredPending now d).1.getPendingRequest k = some p ↔
      s.getPendingRequest k = some p ∧ Store.isExpired now p = false := by
    intro k p
    simp only [Store.getPendingRequest, hstate, lookup_foldl_erase]
    split_ifs with hk
    · obtain ⟨e, he, rfl⟩ := List.mem_map.1 hk
      obtain ⟨he, hx⟩ := List.mem_filter.1 he
      have hv : s.state.pendingByID.lookup e.1 = some e.2 := AList.mem_lookup_iff.2 he
      simp only [hv, Option.some.injEq, false_iff, not_and]
      rintro rfl
      simpa using hx
    · refine ⟨fun h => ⟨h, ?_⟩, fun h => h.1⟩
      rw [Bool.eq_false_iff]
      exact fun hx => hk (List.mem_map.2 ⟨⟨k, p⟩, List.mem_filter.2
        ⟨AList.mem_lookup_iff.1 h, hx⟩, rfl⟩)
  refine ⟨hlookup, fun p hp => ?_, by simp only [Store.pruneExpiredPending]; split <;> rfl⟩
  obtain ⟨⟨k, p⟩, he, rfl⟩ := List.mem_map.1 (mem_listPending.1 hp)
  exact ((hlookup k p).1 (AList.mem_lookup_iff.2 he)).2

/-- A request filed at time 0 by `RequestPairing` of `requestD`. -/
def requestAtZero : List Label := .invoke (.requestPairing requestD) :: List.replicate 5 (.step 0 {})

/-- The id `requestAtZero` files its request under: the nonce of 16 zero bytes. -/
def requestAtZeroID : String := generateNonce (List.replicate 16 0)

/-- `requestAtZero`, then `Approve` of its request with the clock at `1000000` ms, run to its end. -/
def approveExpired : List Label :=
  requestAtZero ++ .invoke (.approve requestAtZeroID) :: List.replicate 7 (.step 1 { now := 1000000 })

/-- **Nothing but a prune looks at a request's age.**  At time `1000000` ms the request
`requestAtZero` filed at time 0 is older than the TTL; `ListPending` still lists it,
`GetPendingRequest` still returns it, and an `Approve` of its id that reads the clock at
`1000000` pairs its device. -/
theorem expired_request_approved :
    Reachable Crypto.zero (fun op => op.isPairingFlow) (Sys.reach Crypto.zero approveExpired) ∧
      ∃ p ∈ (Sys.reach Crypto.zero requestAtZero).store.listPending,
        PendingTTLMs < 1000000 - p.timestamp ∧
        (Sys.reach Crypto.zero requestAtZero).store.getPendingRequest p.requestID = some p ∧
        (Sys.reach Crypto.zero approveExpired).threads[1]!.op = .approve p.requestID ∧
        (∃ st ∈ (Sys.reach Crypto.zero approveExpired).threads[1]!.hist,
          st.call = .now ∧ st.ans.now = 1000000) ∧
        ∃ dev, (Sys.reach Crypto.zero approveExpired).threads[1]!.prog =
            .pure (.approved (.ok (some dev))) ∧ dev.deviceID = p.deviceID ∧
          (Sys.reach Crypto.zero approveExpired).store.state.pairedByDevice.lookup p.deviceID =
            some dev := by
  refine ⟨⟨approveExpired, by simp [approveExpired, requestAtZero, Op.isPairingFlow], rfl⟩,
    _, @List.getElem?_mem _ _ 0 _ rfl, by decide, rfl, rfl,
    ⟨_, @List.getElem?_mem _ _ 1 _ rfl, rfl, rfl⟩, _, rfl, rfl, rfl⟩

/-! ### A rejected request comes back -/

/-- `requestAtZero`; a `Reject` of its request whose save of `pending.json` fails; the `Reload`
a remote `CheckPairingStatus` of another device makes first; then `Approve` of the rejected
request, run to its end. -/
def rejectThenReload : List Label :=
  requestAtZero ++
    [.invoke (.reject requestAtZeroID), .step 1 { disk := .writeFails },
     .invoke (.checkPairingStatus ⟨"x", "kx", "node", [], false⟩), .step 2 {},
     .invoke (.approve requestAtZeroID)] ++ List.replicate 7 (.step 3 {})

/-- **A `Reject` whose save fails reports success, and its request is approved later.**
`RemovePending` drops `savePending`'s error, so `Reject` returns the request while
`pending.json` still holds it; the next `Reload` files it again, and an `Approve` of it pairs the
device. -/
theorem rejected_request_approved_after_reload :
    Reachable Crypto.zero (fun op => op.isPairingFlow) (Sys.reach Crypto.zero rejectThenReload) ∧
      ∃ p, (Sys.reach Crypto.zero rejectThenReload).threads[1]!.prog = .pure (.rejected (some p)) ∧
        (Sys.reach Crypto.zero rejectThenReload).threads[1]!.op = .reject p.requestID ∧
        (∃ st ∈ (Sys.reach Crypto.zero rejectThenReload).threads[1]!.hist,
          st.after.state.pendingByID.lookup p.requestID = none ∧
            st.after.pendingFile.lookup p.requestID = some p) ∧
        (Sys.reach Crypto.zero rejectThenReload).threads[3]!.op = .approve p.requestID ∧
        ∃ dev, (Sys.reach Crypto.zero rejectThenReload).threads[3]!.prog =
            .pure (.approved (.ok (some dev))) ∧ dev.deviceID = p.deviceID := by
  refine ⟨⟨rejectThenReload, by simp [rejectThenReload, requestAtZero, Op.isPairingFlow], rfl⟩,
    _, rfl, rfl, ⟨_, @List.getElem?_mem _ _ 0 _ rfl, rfl, rfl⟩, rfl, _, rfl, rfl⟩

/-! ### Ages in `int64` -/

/-- A request stamped at the least `int64` time. -/
def ancientRequest : PendingRequest :=
  ⟨"r", "d", "k", "", "", "", "", "node", [], "", false, false, -9223372036854775808⟩

/-- The store after `NewStore` or `Reload` read `ancientRequest` from `pending.json`. -/
def ancientStore : Store :=
  { Store.empty with pendingFile := (∅ : GoMap PendingRequest).insert "r" ancientRequest }.reload

/-- The age wraps: at `now = 0`, `ancientRequest` is `2 ^ 63` ms old, far past the TTL, but
`now - Timestamp` wraps to `-2 ^ 63` in `int64`, so `PruneExpiredPending` keeps it and returns 0. -/
theorem prune_keeps_ancient_request :
    PendingTTLMs < 0 - ancientRequest.timestamp ∧
      (ancientStore.pruneExpiredPending 0 .ok).2 = 0 ∧
      (ancientStore.pruneExpiredPending 0 .ok).1.getPendingRequest "r" = some ancientRequest := by
  decide

end GoClaw
