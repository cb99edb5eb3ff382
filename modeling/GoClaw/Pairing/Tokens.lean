import GoClaw.Pairing.System

namespace GoClaw

/-!
# Pairing — device tokens, alone and interleaved (`service.go`)

`VerifyDeviceToken`, `EnsureDeviceToken` and `RevokeDeviceToken` each read the device with one
store call and write a token back with a later one; other callers run in between.

* `scopesContainAll_iff_subset`: the scope test both Verify and Ensure make is list inclusion.
* `verifyDeviceToken_ok_iff`: Verify answers OK exactly when the device it read holds, under the
  role, an unrevoked token equal to the one presented whose scopes contain the ones asked for.
* `ensureDeviceToken_returns`, `revokeDeviceToken_returns`: the calls each makes, and where the
  token it returns comes from.
* Run back to back with nothing in between, a revoked token fails verification
  (`verify_fails_after_revoke`) and an ensured one passes (`verify_accepts_after_ensure`).
* Interleaved, neither holds: a Verify that read the token before a Revoke writes its stale copy
  back over the revoked one (`verify_write_back_undoes_revoke`), and of two Ensures that both
  found no usable token the second overwrites the token the first returned
  (`concurrent_ensure_invalidates_token`).
-/

open Prog

/-! ### Scopes -/

/-- The set `scopesContainAll` builds holds exactly the scopes it was built from. -/
theorem lookup_foldl_insert_true (l : List String) (m : GoMap Bool) (x : String) :
    (l.foldl (fun m s => m.insert s true) m).lookup x = if x ∈ l then some true else m.lookup x := by
  induction l generalizing m with
  | nil => simp
  | cons y l ih =>
    rw [List.foldl_cons, ih]
    by_cases hx : x ∈ l
    · simp [hx]
    · by_cases hy : x = y
      · subst hy
        simp [hx, AList.lookup_insert]
      · simp [hx, hy, AList.lookup_insert_ne hy]

/-- Every scope list contains itself. -/
@[simp] theorem scopesContainAll_self (scopes : List String) :
    scopesContainAll scopes scopes = true := by
  unfold scopesContainAll
  split_ifs
  · rfl
  · simp only [lookup_foldl_insert_true, List.all_eq_true]
    intro x hx
    simp [hx]

/-- **`scopesContainAll` is list inclusion**: it holds exactly when every needed scope occurs
among the ones held, whatever their order, repetitions or empty strings, and whether either
list is empty. -/
theorem scopesContainAll_iff_subset (haves need : List String) :
    scopesContainAll haves need = true ↔ ∀ x ∈ need, x ∈ haves := by
  unfold scopesContainAll
  split_ifs with h
  · simp [List.isEmpty_iff.1 h]
  · simp only [lookup_foldl_insert_true, List.all_eq_true]
    refine forall₂_congr fun x _ => ?_
    by_cases hx : x ∈ haves <;> simp [hx]

/-! ### What each operation does -/

/-- **`VerifyDeviceToken`'s verdict.**  Verify reads the device once, first; it answers OK
exactly when that read found, under the role, an unrevoked token equal to the one presented
whose scopes contain the ones asked for. -/
theorem verifyDeviceToken_ok_iff {params : VerifyTokenParams} {hist : List Step}
    {res : VerifyTokenResult} (h : Reduces (verifyDeviceToken params) hist (.pure res)) :
    ∃ s a rest, hist = ⟨.getPairedDevice params.deviceID, s, a⟩ :: rest ∧
      (res.ok = true ↔ ∃ dev, s.state.pairedByDevice.lookup params.deviceID = some dev ∧
        ∃ tok, dev.tokens.lookup params.role = some tok ∧ tok.revokedAtMs ≤ 0 ∧
          tok.token = params.token ∧ scopesContainAll tok.scopes params.scopes = true) := by
  simp only [verifyDeviceToken, getPairedDevice, now, setDeviceToken, call_bind, pure_bind',
    pure_eq] at h
  obtain ⟨s, a, rest, rfl, h₁⟩ := h.call_inv
  refine ⟨s, a, rest, rfl, ?_⟩
  cases hd : s.state.pairedByDevice.lookup params.deviceID with
  | none =>
    simp only [Call.exec, Store.getPairedDevice, hd] at h₁
    cases (reduces_pure_iff.1 h₁).2
    simp
  | some dev =>
    simp only [Call.exec, Store.getPairedDevice, hd] at h₁
    cases ht : dev.tokens.lookup params.role with
    | none =>
      simp only [ht] at h₁
      cases (reduces_pure_iff.1 h₁).2
      simp [ht]
    | some tok =>
      simp only [ht] at h₁
      simp only [Option.some.injEq, exists_eq_left', ht]
      split_ifs at h₁ with h1 h2 h3
      · cases (reduces_pure_iff.1 h₁).2
        exact iff_of_false (by decide) fun ⟨h, _⟩ => by omega
      · cases (reduces_pure_iff.1 h₁).2
        simp only [verifyPairingToken, Bool.not_eq_true', beq_eq_false_iff_ne] at h2
        exact iff_of_false (by decide) fun ⟨_, h, _⟩ => h2 h.symm
      · cases (reduces_pure_iff.1 h₁).2
        simp only [Bool.not_eq_true', Bool.not_eq_false] at h3
        exact iff_of_false (by decide) fun ⟨_, _, h⟩ => by simp [h] at h3
      · obtain ⟨_, _, _, _, h₂⟩ := h₁.call_inv
        obtain ⟨_, _, _, _, h₃⟩ := h₂.call_inv
        cases (reduces_pure_iff.1 h₃).2
        simp only [verifyPairingToken, Bool.not_eq_true', Bool.not_eq_false, beq_iff_eq] at h2 h3
        exact iff_of_true rfl ⟨not_lt.1 h1, h2.symm, h3⟩

/-- Where `EnsureDeviceToken`'s token comes from: it read the device first, then the clock, and
returned the device's token for the role when that was unrevoked and covered the scopes;
otherwise it read 32 random bytes and wrote a fresh unrevoked token with exactly the scopes asked
for, its last call. -/
theorem ensureDeviceToken_returns {d r : String} {S : List String} {hist : List Step}
    {t : DeviceAuthToken} (h : Reduces (ensureDeviceToken d r S) hist (.pure (some t))) :
    ∃ s a dev s₁ a₁, s.state.pairedByDevice.lookup d = some dev ∧
      ((hist = [⟨.getPairedDevice d, s, a⟩, ⟨.now, s₁, a₁⟩] ∧ dev.tokens.lookup r = some t ∧
          t.revokedAtMs = 0 ∧ scopesContainAll t.scopes S = true) ∨
        (t.revokedAtMs = 0 ∧ t.scopes = S ∧ ∃ s₂ a₂ s₃ a₃,
          hist = [⟨.getPairedDevice d, s, a⟩, ⟨.now, s₁, a₁⟩, ⟨.readRandom 32, s₂, a₂⟩,
            ⟨.setDeviceToken d r t, s₃, a₃⟩])) := by
  simp only [ensureDeviceToken, getPairedDevice, now, setDeviceToken, Prog.generatePairingToken,
    readRandom, call_bind, pure_bind', pure_eq, map_eq] at h
  obtain ⟨s, a, rest, rfl, h₁⟩ := h.call_inv
  cases hd : s.state.pairedByDevice.lookup d with
  | none =>
    simp only [Call.exec, Store.getPairedDevice, hd] at h₁
    cases (reduces_pure_iff.1 h₁).2
  | some dev =>
    simp only [Call.exec, Store.getPairedDevice, hd] at h₁
    obtain ⟨s₁, a₁, rest, rfl, h₂⟩ := h₁.call_inv
    refine ⟨s, a, dev, s₁, a₁, hd, ?_⟩
    split at h₂
    rename_i hv
    · obtain ⟨rfl, ht⟩ := reduces_pure_iff.1 h₂
      have hl := Prog.pure.inj ht
      rw [← hl] at hv
      simp only [Option.any_some, Bool.and_eq_true, decide_eq_true_eq] at hv
      exact .inl ⟨rfl, hl.symm, hv⟩
    · obtain ⟨s₂, a₂, rest, rfl, h₃⟩ := h₂.call_inv
      obtain ⟨s₃, a₃, rest, rfl, h₄⟩ := h₃.call_inv
      obtain ⟨rfl, ht⟩ := reduces_pure_iff.1 h₄
      cases ht
      exact .inr ⟨rfl, rfl, s₂, a₂, s₃, a₃, rfl⟩

/-- What `RevokeDeviceToken` returns: the device's token for the role, read by its first call,
stamped with the clock it read second, and written back by its last. -/
theorem revokeDeviceToken_returns {d r : String} {hist : List Step} {t : DeviceAuthToken}
    (h : Reduces (revokeDeviceToken d r) hist (.pure (some t))) :
    ∃ s a dev tok s₁ a₁ s₂ a₂, s.state.pairedByDevice.lookup d = some dev ∧
      dev.tokens.lookup r = some tok ∧ t = { tok with revokedAtMs := a₁.now } ∧
      hist = [⟨.getPairedDevice d, s, a⟩, ⟨.now, s₁, a₁⟩, ⟨.setDeviceToken d r t, s₂, a₂⟩] := by
  simp only [revokeDeviceToken, getPairedDevice, now, setDeviceToken, call_bind, pure_bind',
    pure_eq] at h
  obtain ⟨s, a, rest, rfl, h₁⟩ := h.call_inv
  cases hd : s.state.pairedByDevice.lookup d with
  | none =>
    simp only [Call.exec, Store.getPairedDevice, hd] at h₁
    cases (reduces_pure_iff.1 h₁).2
  | some dev =>
    simp only [Call.exec, Store.getPairedDevice, hd] at h₁
    cases ht : dev.tokens.lookup r with
    | none =>
      simp only [ht] at h₁
      cases (reduces_pure_iff.1 h₁).2
    | some tok =>
      simp only [ht] at h₁
      obtain ⟨s₁, a₁, rest, rfl, h₂⟩ := h₁.call_inv
      obtain ⟨s₂, a₂, rest, rfl, h₃⟩ := h₂.call_inv
      obtain ⟨rfl, hr⟩ := reduces_pure_iff.1 h₃
      cases hr
      exact ⟨s, a, dev, tok, s₁, a₁, s₂, a₂, hd, ht, rfl, rfl⟩

/-! ### Back to back -/

/-- The loopback `CheckPairingStatus` of device `"d"` with key `"k"` under role `"node"`, run
through all its 14 calls: it files a request, approves it, and mints the device's `"node"`
token `nodeToken`. -/
def autoPairing : List Label :=
  .invoke (.checkPairingStatus ⟨"d", "k", "node", [], true⟩) :: List.replicate 14 (.step 0 {})

/-- The token `autoPairing` mints, from 32 zero bytes. -/
def nodeToken : String := generatePairingToken (List.replicate 32 0)

/-- The store `autoPairing` leaves: device `"d"` paired with its `"node"` token. -/
def autoStore : Store := (Sys.reach Crypto.zero autoPairing).store


/-- **A revoked token fails verification**, when nothing runs between the Revoke and the Verify
and the Revoke's clock read was positive — whatever the disk did, since the in-memory map is
written first. -/
theorem verify_fails_after_revoke {s s₁ s₂ : Store} {h₁ h₂ : List Step} {d r : String}
    {t : DeviceAuthToken} {S : List String} {res : VerifyTokenResult}
    (hr : Reduces (revokeDeviceToken d r) h₁ (.pure (some t))) (hc₁ : Chained s h₁ s₁)
    (ht : 0 < t.revokedAtMs) (hv : Reduces (verifyDeviceToken ⟨d, t.token, r, S⟩) h₂ (.pure res))
    (hc₂ : Chained s₁ h₂ s₂) : res.ok = false := by
  obtain ⟨s₀, a₀, dev, tok, s₁', a₁, s₂', a₂, hdev, -, -, rfl⟩ := revokeDeviceToken_returns hr
  obtain ⟨s', a', rest, rfl, hok⟩ := verifyDeviceToken_ok_iff hv
  simp only [chained_cons, chained_nil, Step.after, Call.exec] at hc₁ hc₂
  obtain ⟨rfl, rfl, rfl, rfl⟩ := hc₁
  obtain ⟨rfl, -⟩ := hc₂
  rw [Bool.eq_false_iff]
  intro hres
  obtain ⟨dev', hdev', tok', htok', hrev, -⟩ := hok.1 hres
  simp only [Store.setDeviceToken_lookup, hdev, Option.map_some', Option.some.injEq] at hdev'
  subst hdev'
  simp only [AList.lookup_insert, Option.some.injEq] at htok'
  subst htok'
  omega

/-- `nodeToken` revoked at time 1. -/
def revokedNodeToken : DeviceAuthToken :=
  { token := nodeToken, role := "node", scopes := [], createdAtMs := 0, revokedAtMs := 1 }

/-- The calls and the store of `RevokeDeviceToken("d", "node")` run alone on `autoStore`, the
clock at 1. -/
def revokeNode : List Step × Store :=
  (((revokeDeviceToken "d" "node").runAlone autoStore [{}, { now := 1 }, {}]).map (·.2)).getD
    ([], autoStore)

theorem revokeNode_runAlone :
    (revokeDeviceToken "d" "node").runAlone autoStore [{}, { now := 1 }, {}] =
      some (some revokedNodeToken, revokeNode.1, revokeNode.2) := rfl

/-- `VerifyDeviceToken` of `nodeToken` run alone after `revokeNode`. -/
def verifyRevoked : VerifyTokenResult × List Step × Store :=
  ((verifyDeviceToken ⟨"d", nodeToken, "node", []⟩).runAlone revokeNode.2 [{}]).getD
    (⟨true, ""⟩, [], revokeNode.2)

theorem verifyRevoked_runAlone :
    (verifyDeviceToken ⟨"d", nodeToken, "node", []⟩).runAlone revokeNode.2 [{}] =
      some (verifyRevoked.1, verifyRevoked.2.1, verifyRevoked.2.2) := rfl

theorem verify_fails_after_revoke_autoStore :
    0 < revokedNodeToken.revokedAtMs ∧ verifyRevoked.1.ok = false :=
  ⟨by decide, verify_fails_after_revoke (runAlone_sound revokeNode_runAlone).1
    (runAlone_sound revokeNode_runAlone).2 (by decide) (runAlone_sound verifyRevoked_runAlone).1
    (runAlone_sound verifyRevoked_runAlone).2⟩

/-- **An ensured token passes verification**, when nothing runs between the Ensure and the
Verify. -/
theorem verify_accepts_after_ensure {s s₁ s₂ : Store} {h₁ h₂ : List Step} {d r : String}
    {S : List String} {t : DeviceAuthToken} {res : VerifyTokenResult}
    (he : Reduces (ensureDeviceToken d r S) h₁ (.pure (some t))) (hc₁ : Chained s h₁ s₁)
    (hv : Reduces (verifyDeviceToken ⟨d, t.token, r, S⟩) h₂ (.pure res))
    (hc₂ : Chained s₁ h₂ s₂) : res.ok = true := by
  obtain ⟨s', a', rest, rfl, hok⟩ := verifyDeviceToken_ok_iff hv
  obtain ⟨s₀, a₀, dev, s₁', a₁, hdev, ⟨rfl, htok, hrev, hsc⟩ | ⟨hrev, hsc, s₂', a₂, s₃', a₃, rfl⟩⟩ :=
    ensureDeviceToken_returns he
  · simp only [chained_cons, chained_nil, Step.after, Call.exec] at hc₁ hc₂
    obtain ⟨rfl, rfl, rfl⟩ := hc₁
    obtain ⟨rfl, -⟩ := hc₂
    exact hok.2 ⟨dev, hdev, t, htok, hrev.le, rfl, hsc⟩
  · simp only [chained_cons, chained_nil, Step.after, Call.exec] at hc₁ hc₂
    obtain ⟨rfl, rfl, rfl, rfl, rfl⟩ := hc₁
    obtain ⟨rfl, -⟩ := hc₂
    refine hok.2 ⟨{ dev with tokens := dev.tokens.insert r t },
      by simp [Store.setDeviceToken_lookup, hdev], t, ?_, hrev.le, rfl, ?_⟩
    · simp [AList.lookup_insert]
    · simp [hsc]

/-- The `"admin"` token `EnsureDeviceToken` mints for `"d"` on `autoStore`. -/
def adminToken : DeviceAuthToken := { token := nodeToken, role := "admin", scopes := [], createdAtMs := 0 }

/-- The calls and the store of `EnsureDeviceToken("d", "admin", [])` run alone on `autoStore`. -/
def ensureAdmin : List Step × Store :=
  (((ensureDeviceToken "d" "admin" []).runAlone autoStore (List.replicate 4 {})).map (·.2)).getD
    ([], autoStore)

theorem ensureAdmin_runAlone :
    (ensureDeviceToken "d" "admin" []).runAlone autoStore (List.replicate 4 {}) =
      some (some adminToken, ensureAdmin.1, ensureAdmin.2) := rfl

/-- `VerifyDeviceToken` of `adminToken` run alone after `ensureAdmin`. -/
def verifyAdmin : VerifyTokenResult × List Step × Store :=
  ((verifyDeviceToken ⟨"d", adminToken.token, "admin", []⟩).runAlone ensureAdmin.2
    (List.replicate 3 {})).getD (⟨false, ""⟩, [], ensureAdmin.2)

theorem verifyAdmin_runAlone :
    (verifyDeviceToken ⟨"d", adminToken.token, "admin", []⟩).runAlone ensureAdmin.2
      (List.replicate 3 {}) = some (verifyAdmin.1, verifyAdmin.2.1, verifyAdmin.2.2) := rfl

theorem verify_accepts_after_ensure_autoStore : verifyAdmin.1.ok = true :=
  verify_accepts_after_ensure (runAlone_sound ensureAdmin_runAlone).1
    (runAlone_sound ensureAdmin_runAlone).2 (runAlone_sound verifyAdmin_runAlone).1
    (runAlone_sound verifyAdmin_runAlone).2

/-! ### Interleaved -/

/-- The operations on tokens and the pairing flow that mints them: `VerifyDeviceToken`,
`EnsureDeviceToken`, `RevokeDeviceToken`, `Approve` and `CheckPairingStatus`. -/
def Op.isTokenFlow : Op → Bool
  | .verifyDeviceToken _ | .ensureDeviceToken _ _ _ | .revokeDeviceToken _ _ | .approve _
  | .checkPairingStatus _ => true
  | _ => false

/-- Revocation is permanent along a log: once `RevokeDeviceToken(d, r)` has returned a token
`t`, no `VerifyDeviceToken` of `t.Token` for `(d, r)` started afterwards returns OK. -/
def RevocationPermanent (log : List Event) : Prop :=
  ∀ (i j tid tid' : Nat) (d r : String) (t : DeviceAuthToken) (S : List String)
    (res : VerifyTokenResult), i < j →
    log[i]? = some (.ret tid (.revokeDeviceToken d r) (.token (some t))) →
    log[j]? = some (.invoke tid' (.verifyDeviceToken ⟨d, t.token, r, S⟩)) →
    .ret tid' (.verifyDeviceToken ⟨d, t.token, r, S⟩) (.verified res) ∈ log → res.ok = false

/-- After `autoPairing`, a Verify of `nodeToken` reads the device; a Revoke of the token runs to
its end at time 1; the Verify then writes its copy of the token back; a second Verify of
`nodeToken`, started after the Revoke returned, runs to its end. -/
def verifyRevokeRace : List Label := autoPairing ++
  [.invoke (.verifyDeviceToken ⟨"d", nodeToken, "node", []⟩), .step 1 {},
   .invoke (.revokeDeviceToken "d" "node"), .step 2 {}, .step 2 { now := 1 }, .step 2 {},
   .step 1 {}, .step 1 {},
   .invoke (.verifyDeviceToken ⟨"d", nodeToken, "node", []⟩), .step 3 {}, .step 3 {}, .step 3 {}]

/-- A Verify's write-back undoes a concurrent Revoke: in `verifyRevokeRace` the Revoke returns
the token revoked at time 1 (fifth event), and the Verify started after it (seventh event)
returns OK. -/
theorem verify_write_back_undoes_revoke :
    Reachable Crypto.zero (fun op => op.isTokenFlow) (Sys.reach Crypto.zero verifyRevokeRace) ∧
      ¬ RevocationPermanent (Sys.reach Crypto.zero verifyRevokeRace).log := by
  refine ⟨⟨verifyRevokeRace, by simp [verifyRevokeRace, autoPairing, Op.isTokenFlow], rfl⟩,
    fun h => ?_⟩
  unfold RevocationPermanent at h
  exact absurd (h 4 6 2 3 "d" "node"
    { token := nodeToken, role := "node", scopes := [], createdAtMs := 0, revokedAtMs := 1 } []
    ⟨true, ""⟩ (by decide) rfl rfl (@List.getElem?_mem _ _ 7 _ rfl)) (by decide)

/-- A start of an operation that may replace the token of `(d, r)`: `RevokeDeviceToken(d, r)`,
`EnsureDeviceToken(d, r, ·)`, or any `Approve`. -/
def Event.replacesToken (d r : String) : Event → Bool
  | .invoke _ (.revokeDeviceToken d' r') | .invoke _ (.ensureDeviceToken d' r' _) =>
    d' == d && r' == r
  | .invoke _ (.approve _) => true
  | _ => false

/-- A token `EnsureDeviceToken` hands out stays valid along a log: once
`EnsureDeviceToken(d, r, S)` has returned `t`, and no operation that may replace the token is
started afterwards, every `VerifyDeviceToken` of `t.Token` for `(d, r, S)` started afterwards
returns OK. -/
def EnsuredTokensStayValid (log : List Event) : Prop :=
  ∀ (i j tid tid' : Nat) (d r : String) (S : List String) (t : DeviceAuthToken)
    (res : VerifyTokenResult), i < j →
    log[i]? = some (.ret tid (.ensureDeviceToken d r S) (.token (some t))) →
    (log.drop (i + 1)).all (fun e => !e.replacesToken d r) = true →
    log[j]? = some (.invoke tid' (.verifyDeviceToken ⟨d, t.token, r, S⟩)) →
    .ret tid' (.verifyDeviceToken ⟨d, t.token, r, S⟩) (.verified res) ∈ log → res.ok = true

/-- After `autoPairing`, two Ensures of `("d", "node", ["x"])` both read the device, whose
token lacks scope `"x"`; each mints a token, the first from bytes 1 and returning it, the second
from bytes 2; then a Verify of the first token is started. -/
def ensureRace : List Label := autoPairing ++
  [.invoke (.ensureDeviceToken "d" "node" ["x"]), .invoke (.ensureDeviceToken "d" "node" ["x"]),
   .step 1 {}, .step 2 {}, .step 1 {}, .step 1 { rand := fun _ => 1 }, .step 1 {},
   .step 2 {}, .step 2 { rand := fun _ => 2 }, .step 2 {},
   .invoke (.verifyDeviceToken ⟨"d", generatePairingToken (List.replicate 32 1), "node", ["x"]⟩),
   .step 3 {}]

/-- Two concurrent Ensures both rotate: in `ensureRace` the first Ensure returns its token (fifth
event), nothing that may replace a token is started after that, and the Verify of that token
(seventh event) answers `"token-mismatch"`. -/
theorem concurrent_ensure_invalidates_token :
    Reachable Crypto.zero (fun op => op.isTokenFlow) (Sys.reach Crypto.zero ensureRace) ∧
      ¬ EnsuredTokensStayValid (Sys.reach Crypto.zero ensureRace).log := by
  refine ⟨⟨ensureRace, by simp [ensureRace, autoPairing, Op.isTokenFlow], rfl⟩, fun h => ?_⟩
  unfold EnsuredTokensStayValid at h
  exact absurd (h 4 6 1 3 "d" "node" ["x"]
    { token := generatePairingToken (List.replicate 32 1), role := "node", scopes := ["x"],
      createdAtMs := 0 }
    ⟨false, "token-mismatch"⟩ (by decide) rfl (by decide) rfl
    (@List.getElem?_mem _ _ 7 _ rfl)) (by decide)

end GoClaw
