import GoClaw.Net.Addr
import GoClaw.Gateway.Admission

namespace GoClaw

/-!
# Gateway — which connections are local

`handleWS` attaches the Pairing Service to every accepted connection with
`isLocal := isLoopback(r.RemoteAddr)`, and `CheckPairingStatus` pairs the device of a local
connection without asking the operator.  `RemoteAddr` is the text `TCPAddr.String` writes for the
peer, so `isLoopback` reads back, through Go's address text (`GoClaw.Net`), what the peer's IP
is.

* `isLoopback_tcpAddr`: on every address Go's HTTP server writes, `isLoopback` holds exactly when
  the address has no zone and its IP is in `127.0.0.0/8` or is `::1`.  The `TrimPrefix` of
  `::ffff:` never changes the answer: `IP.String` writes IPv4-mapped addresses in dotted decimal,
  and what it strips from the others is no address (`Net.appendTo6_ffff`).
* `handleWS_isLocal`: a connection is local exactly when pairing is on and its peer is such an
  address.
* `remote_peer_found_paired`: in every run, a handshake with a device payload that succeeded on a
  connection from a peer whose IP is not a loopback address read the device as paired with its
  key, and changed no record but the device's tokens.
-/

open Net Prog

/-- `isLoopback` (the gateway server). -/
def isLoopback (addr : String) : Bool :=
  let host : String :=
    match splitHostPort addr with
    | .ok (h, _) => h
    | .error _ => addr
  let host : String := ⟨trimPrefix host.data "::ffff:".data⟩
  match parseIP host with
  | some ip => IP.isLoopback ip
  | none => host == "localhost"

example : isLoopback "127.0.0.1:54321" = true := by decide
example : isLoopback "[::1]:54321" = true := by decide
example : isLoopback "::ffff:127.0.0.1" = true := by decide
example : isLoopback "192.168.1.100:54321" = false := by decide
example : isLoopback "localhost" = true := by decide

/-- The `ConnInfo` of a connection `handleWS` accepted from `remoteAddr`: `NewConn` with the
server's auth, then `WithPairing(svc, remoteAddr, isLoopback(remoteAddr))` when a Pairing Service
is configured; `challengeNonce` is the nonce its `sendChallenge` drew. -/
def handleWS (auth : AuthConfig) (pairing : Bool) (remoteAddr challengeNonce : String) : ConnInfo :=
  { auth, pairing, isLocal := if pairing then isLoopback remoteAddr else false, challengeNonce }

/-! ### What `isLoopback` reads back -/

/-- A `%` in the host part makes an address not local: `ParseIP` refuses it, and it is not
`localhost`. -/
theorem isLoopback_of_percent {addr : String}
    (hsplit : ∀ h p, splitHostPort addr = .ok (h, p) → '%' ∈ h.data) (ha : '%' ∈ addr.data) :
    isLoopback addr = false := by
  unfold isLoopback
  have hhost : '%' ∈ (match splitHostPort addr with
      | .ok (h, _) => h
      | .error _ => addr : String).data := by
    split
    · exact hsplit _ _ (by assumption)
    · exact ha
  generalize (match splitHostPort addr with
      | .ok (h, _) => h
      | .error _ => addr : String) = host at hhost ⊢
  have ht := mem_trimPrefix hhost (show '%' ∉ "::ffff:".data by decide)
  dsimp only
  cases hp : parseIP ⟨trimPrefix host.data "::ffff:".data⟩ with
  | some ip => exact absurd ht (parseIP_no_percent hp)
  | none =>
    refine beq_eq_false_iff_ne.2 fun heq => ?_
    rw [show trimPrefix host.data "::ffff:".data = "localhost".data from congrArg String.data heq] at ht
    exact absurd ht (by decide)

/-- **`isLoopback` of a peer's address**: on every address Go's HTTP server writes, it holds
exactly when the address has no zone and its IP is a loopback address. -/
theorem isLoopback_tcpAddr (a : TCPAddr) :
    isLoopback a.string = (a.zone == "" && IP.isLoopback a.ip) := by
  have hne : a.ip ≠ [] := fun h => by have := a.ip_length; rw [h] at this; simp at this
  have hport : ∀ c ∈ (toString a.port).data, c.isDigit := fun c hc => isDigit_of_mem_toDigits hc
  have hp : ':' ∉ (toString a.port).data ∧ '[' ∉ (toString a.port).data ∧
      ']' ∉ (toString a.port).data :=
    ⟨fun h => absurd (hport _ h) (by decide), fun h => absurd (hport _ h) (by decide),
      fun h => absurd (hport _ h) (by decide)⟩
  have ht : ∀ c ∈ (IP.string a.ip).data, c ≠ '[' ∧ c ≠ ']' ∧ c ≠ '%' := fun _ =>
    not_bracket_of_mem_string a.ip_length
  rw [TCPAddr.string, ipEmptyString, if_neg hne]
  by_cases hz : a.zone = ""
  · rw [if_neg (not_not.2 hz), hz, beq_self_eq_true, Bool.true_and]
    unfold isLoopback
    rw [splitHostPort_joinHostPort ⟨fun h => (ht _ h).1 rfl, fun h => (ht _ h).2.1 rfl⟩ hp]
    dsimp only
    rw [IP.string_data a.ip_length]
    cases h4 : IP.to4 a.ip with
    | some p4 =>
      obtain ⟨b0, b1, b2, b3, rfl⟩ := eq_four_of_length (IP.length_of_to4 h4)
      have hpre : "::ffff:".data.isPrefixOf (appendTo4 [b0, b1, b2, b3]) = false := by
        cases hq : "::ffff:".data.isPrefixOf (appendTo4 [b0, b1, b2, b3]) with
        | false => rfl
        | true =>
          obtain ⟨t, ht'⟩ := List.isPrefixOf_iff_prefix.1 hq
          have hc : ':' ∈ appendTo4 [b0, b1, b2, b3] :=
            ht' ▸ List.mem_append_left t (show ':' ∈ "::ffff:".data by decide)
          rcases mem_appendTo4 hc with h | ⟨k, hk, h⟩
          · exact absurd h (by decide)
          · exact absurd h.symm (digitChar_ne k hk).2.2.2
      dsimp only
      rw [trimPrefix_of_not hpre, parseIP_appendTo4, IP.isLoopback_of_to4 h4]
      exact IP.isLoopback_of_to4 (@IP.to4_v4InV6Prefix [b0, b1, b2, b3] rfl)
    | none =>
      have h16 := IP.length_of_to4_none h4 a.ip_length
      dsimp only
      rw [IP.isLoopback_of_to4_none h4 h16]
      cases hpre : "::ffff:".data.isPrefixOf (appendTo6 a.ip) with
      | false =>
        rw [trimPrefix_of_not hpre, parseIP_appendTo6 h16]
        exact IP.isLoopback_of_to4_none h4 h16
      | true =>
        obtain ⟨gs, hdrop, hgs, hlen, hb, hnl⟩ := appendTo6_ffff h16 hpre
        obtain ⟨x, xs, rfl⟩ := List.exists_cons_of_ne_nil hgs
        obtain ⟨k, hk, cs, hx⟩ := appendHex_eq_cons (hb x (List.mem_cons_self _ _))
        have hl : ∀ n < 16, hexDigit n ≠ 'l' := by decide
        rw [trimPrefix, if_pos hpre, show "::ffff:".data.length = 7 from rfl, hdrop,
          parseIP_hexJoin_short hb hgs hlen, beq_eq_false_iff_ne.2 hnl]
        refine beq_eq_false_iff_ne.2 fun heq => hl k hk ?_
        have := congrArg (fun s => s.data.head?) heq
        simpa [hexJoin, hx] using this
  · rw [if_pos hz, beq_eq_false_iff_ne.2 hz, Bool.false_and]
    have hpct : '%' ∈ (IP.string a.ip ++ "%" ++ a.zone).data := by simp [String.data_append]
    apply isLoopback_of_percent
    · intro h p hs
      rw [splitHostPort_joinHostPort_host ?_ hp.1 hs]
      · exact hpct
      · cases hd : (IP.string a.ip).data with
        | nil => simp [String.data_append, hd]
        | cons c cs =>
          simp only [String.data_append, hd, List.cons_append, List.head?_cons, ne_eq,
            Option.some.injEq]
          exact (ht c (by simp [hd])).1
    · rw [joinHostPort_data]
      split_ifs <;> simp [hpct]

/-! ### Local connections -/

/-- **Which connections are local**: a connection `handleWS` accepted from a peer is local
exactly when a Pairing Service is attached and the peer's address has no zone and a loopback
IP. -/
theorem handleWS_isLocal (auth : AuthConfig) (pairing : Bool) (peer : TCPAddr) (nonce : String) :
    (handleWS auth pairing peer.string nonce).isLocal =
      (pairing && peer.zone == "" && IP.isLoopback peer.ip) := by
  cases pairing <;> simp [handleWS, isLoopback_tcpAddr]

/-- **A remote peer's device was paired before**: in every run, a handshake with a device payload
on a connection `handleWS` accepted from a peer whose IP is not a loopback address, that returned
success, began with `CheckPairingStatus`'s `Reload` and a read that found the device paired
with its key, and changed no record of `PairedByDevice` but the device's tokens. -/
theorem remote_peer_found_paired {cr : Crypto} {ops : Op → Prop} {σ : Sys}
    (hσ : Reachable cr ops σ) {th : Thread} (hth : th ∈ σ.threads) {auth : AuthConfig}
    {peer : TCPAddr} {nonce : String} {req : ConnectRequest} {dev : DeviceConnectPayload}
    {tok : String} (hop : th.op = .handshake (handleWS auth true peer.string nonce) req)
    (hremote : IP.isLoopback peer.ip = false) (hdev : req.params.device = some dev)
    (hok : th.prog = .pure (.handshake (.ok tok))) :
    (∃ s₀ a₀ s a rest d, th.hist = ⟨.reload, s₀, a₀⟩ :: ⟨.getPairedDevice dev.id, s, a⟩ :: rest ∧
      s.state.pairedByDevice.lookup dev.id = some d ∧ d.publicKey = dev.publicKey) ∧
    ∀ st ∈ th.hist, st.call = .reload ∨
      SameButTokens dev.id st.store.state.pairedByDevice st.after.state.pairedByDevice := by
  have h := reachable_reduces hσ th hth
  rw [hop, hok] at h
  obtain ⟨r, hr, h⟩ := Reduces.map_inv h
  cases hr
  exact (processConnect_admits rfl hdev h).2.2.2 (by simp [handleWS, isLoopback_tcpAddr, hremote])

/-- A peer on the LAN, `192.168.1.100:54321`. -/
def lanPeer : TCPAddr := ⟨[192, 168, 1, 100], 54321, "", .inl rfl⟩

theorem handleWS_lanPeer : handleWS ⟨"none", ""⟩ true lanPeer.string "n" = testConn false := by
  simp only [handleWS, testConn, if_true, show isLoopback lanPeer.string = false by decide]

theorem remote_peer_found_paired_lan :
    (∃ s₀ a₀ s a rest d, (Sys.reach Crypto.zero approvalThenNewRole).threads[2]!.hist =
        ⟨.reload, s₀, a₀⟩ :: ⟨.getPairedDevice zeroDevice.id, s, a⟩ :: rest ∧
      s.state.pairedByDevice.lookup zeroDevice.id = some d ∧ d.publicKey = zeroDevice.publicKey) ∧
    ∀ st ∈ (Sys.reach Crypto.zero approvalThenNewRole).threads[2]!.hist, st.call = .reload ∨
      SameButTokens zeroDevice.id st.store.state.pairedByDevice st.after.state.pairedByDevice := by
  have hσ : Reachable Crypto.zero (fun _ => True) (Sys.reach Crypto.zero approvalThenNewRole) :=
    ⟨approvalThenNewRole, fun _ _ => trivial, rfl⟩
  exact remote_peer_found_paired hσ (@List.getElem?_mem _ _ 2 _ rfl)
    (by rw [handleWS_lanPeer]; rfl) (by decide) rfl rfl

end GoClaw
