import GoClaw.Gateway.Handshake

namespace GoClaw

/-!
# Pairing — every caller of the store at once

The pairing system is the store together with every Service operation in flight.  A caller
starts an `Op` (a handshake, an operator's `Approve`, …), which becomes a `Thread` running the
operation's `Prog`; a step runs the next store call of one thread, atomically, with any answer
from the world.  So `Sys.run` over a list of `Label`s is one interleaving at the granularity of
single store calls, with any pattern of disk failures, clock readings and random bytes.

* `Sys.log` records when each operation was started and what it returned, in order.
* `Reachable cr ops σ`: `σ` is reached from a fresh store by starting only operations in `ops`.
* `reachable_induction`: an invariant that holds of the fresh store and survives every start and
  every step holds of every reachable state.
* `reachable_reduces`: every thread is what is left of its operation's program after the calls
  of its history, so what a thread returned is what its program returns on those answers.
-/

/-- The operations callers of the pairing package start. -/
inductive Op where
  /-- `Conn.processConnect` on a connection with this request. -/
  | handshake (conn : ConnInfo) (req : ConnectRequest)
  | requestPairing (req : PairingRequestInput)
  | checkPairingStatus (params : CheckPairingParams)
  | approve (requestID : String)
  | reject (requestID : String)
  | verifyDeviceToken (params : VerifyTokenParams)
  | ensureDeviceToken (deviceID role : String) (scopes : List String)
  | revokeDeviceToken (deviceID role : String)
  | updateDeviceMetadata (deviceID : String) (patch : DeviceMetadataPatch)
  | pruneExpiredPending (now : Int)

/-- What an operation returned. -/
inductive Outcome where
  | handshake (r : Except HandshakeError String)
  | requested (r : Except PairingError (Option PendingRequest))
  | action (a : PairingAction)
  | approved (r : Except PairingError (Option PairedDevice))
  | rejected (r : Option PendingRequest)
  | verified (r : VerifyTokenResult)
  | token (t : Option DeviceAuthToken)
  | updated (e : Option PairingError)
  | pruned (n : Nat)

/-- The program an operation runs. -/
def Op.prog (cr : Crypto) : Op → Prog Outcome
  | .handshake conn req => .handshake <$> processConnect cr conn req
  | .requestPairing req => .requested <$> GoClaw.requestPairing req
  | .checkPairingStatus params => .action <$> GoClaw.checkPairingStatus params
  | .approve requestID => .approved <$> GoClaw.approve requestID
  | .reject requestID => .rejected <$> GoClaw.reject requestID
  | .verifyDeviceToken params => .verified <$> GoClaw.verifyDeviceToken params
  | .ensureDeviceToken deviceID role scopes => .token <$> GoClaw.ensureDeviceToken deviceID role scopes
  | .revokeDeviceToken deviceID role => .token <$> GoClaw.revokeDeviceToken deviceID role
  | .updateDeviceMetadata deviceID patch => .updated <$> Prog.updateDeviceMetadata deviceID patch
  | .pruneExpiredPending t => .pruned <$> Prog.pruneExpiredPending t

/-- An operation in flight: what was started, what is left of its program, and the calls it
made so far, each with the store it ran on. -/
structure Thread where
  op : Op
  prog : Prog Outcome
  hist : List Step

/-- A thread that pruned nothing, for `threads[i]!`. -/
instance : Inhabited Thread := ⟨⟨.pruneExpiredPending 0, .pure (.pruned 0), []⟩⟩

/-- What the log records. -/
inductive Event where
  | invoke (tid : Nat) (op : Op)
  | ret (tid : Nat) (op : Op) (o : Outcome)

/-- The pairing system: the store, every operation started so far (by thread id), and the log. -/
structure Sys where
  store : Store
  threads : List Thread
  log : List Event

/-- A fresh store and no caller yet. -/
def Sys.init : Sys := ⟨Store.empty, [], []⟩

/-- The return a thread logs once its program has reached a result. -/
def Thread.retEvent (tid : Nat) (th : Thread) : List Event :=
  match th.prog with
  | .pure o => [.ret tid th.op o]
  | .call _ _ => []

/-- What happens next: a caller starts an operation, or thread `tid` makes its next call. -/
inductive Label where
  | invoke (op : Op)
  | step (tid : Nat) (ans : Answer)

/-- A caller starts `op`: a new thread, its start logged (and its return, if it makes no call). -/
def Sys.start (cr : Crypto) (σ : Sys) (op : Op) : Sys :=
  let th : Thread := ⟨op, op.prog cr, []⟩
  { σ with threads := σ.threads ++ [th],
           log := σ.log ++ .invoke σ.threads.length op :: th.retEvent σ.threads.length }

/-- One transition; `none` when thread `tid` has no call left to make. -/
def Sys.next (cr : Crypto) (σ : Sys) : Label → Option Sys
  | .invoke op => some (σ.start cr op)
  | .step tid ans =>
    match σ.threads[tid]? with
    | some ⟨op, .call c k, hist⟩ =>
      let th : Thread := ⟨op, k (c.exec σ.store ans).2, hist ++ [⟨c, σ.store, ans⟩]⟩
      some { store := (c.exec σ.store ans).1, threads := σ.threads.set tid th,
             log := σ.log ++ th.retEvent tid }
    | _ => none

/-- A run: the transitions of `ls` in turn. -/
def Sys.run (cr : Crypto) : Sys → List Label → Option Sys
  | σ, [] => some σ
  | σ, l :: ls =>
    match σ.next cr l with
    | some σ' => run cr σ' ls
    | none => none

/-- The state a run from the fresh store reaches (the fresh store itself when one of its steps
cannot be taken). -/
def Sys.reach (cr : Crypto) (ls : List Label) : Sys := (Sys.run cr .init ls).getD .init

/-- Reached from a fresh store by starting only operations in `ops`. -/
def Reachable (cr : Crypto) (ops : Op → Prop) (σ : Sys) : Prop :=
  ∃ ls : List Label, (∀ op, .invoke op ∈ ls → ops op) ∧ Sys.run cr .init ls = some σ

/-- **Induction over runs.**  An invariant of the fresh store that every start of an operation
in `ops` and every step keeps holds in every reachable state. -/
theorem reachable_induction {cr : Crypto} {ops : Op → Prop} (I : Sys → Prop) (h0 : I .init)
    (hinvoke : ∀ σ op, I σ → ops op → I (σ.start cr op))
    (hstep : ∀ σ tid ans σ', I σ → σ.next cr (.step tid ans) = some σ' → I σ')
    {σ : Sys} (h : Reachable cr ops σ) : I σ := by
  obtain ⟨ls, hops, hrun⟩ := h
  suffices ∀ ls σ₀, I σ₀ → (∀ op, .invoke op ∈ ls → ops op) → Sys.run cr σ₀ ls = some σ → I σ from
    this ls _ h0 hops hrun
  intro ls
  induction ls with
  | nil => intro σ₀ h _ hr; cases hr; exact h
  | cons l ls ih =>
    intro σ₀ hI hops hr
    simp only [Sys.run] at hr
    split at hr
    · rename_i σ' hn
      refine ih σ' ?_ (fun op hop => hops op (List.mem_cons_of_mem _ hop)) hr
      cases l with
      | invoke op =>
        simp only [Sys.next, Option.some.injEq] at hn
        subst hn
        exact hinvoke σ₀ op hI (hops op (List.mem_cons_self _ _))
      | step tid ans => exact hstep σ₀ tid ans σ' hI hn
    · cases hr

/-- **Every thread follows its program.**  In a reachable state each thread is its operation's
program after the calls of its history. -/
theorem reachable_reduces {cr : Crypto} {ops : Op → Prop} {σ : Sys} (h : Reachable cr ops σ) :
    ∀ th ∈ σ.threads, Prog.Reduces (th.op.prog cr) th.hist th.prog := by
  refine reachable_induction (fun σ => ∀ th ∈ σ.threads, Prog.Reduces (th.op.prog cr) th.hist th.prog)
    (fun _ h => nomatch h) ?_ ?_ h
  · intro σ op hσ _ th hth
    rcases List.mem_append.1 hth with h | h
    · exact hσ th h
    · exact List.mem_singleton.1 h ▸ .refl _
  · intro σ tid ans σ' hσ h th hth
    simp only [Sys.next] at h
    split at h
    · rename_i op c k hist hget
      cases h
      rcases List.mem_or_eq_of_mem_set hth with h | rfl
      · exact hσ th h
      · exact (hσ _ (List.getElem?_mem hget)).snoc σ.store ans
    · cases h

/-! ### A concrete device -/

/-- The key of 32 zero bytes, in unpadded base64url. -/
def zeroKey : String := ⟨List.replicate 43 'A'⟩

/-- Its id under `Crypto.zero`: 64 hex zeros. -/
def zeroID : String := ⟨List.replicate 64 '0'⟩

/-- A signature of 64 zero bytes, in unpadded base64url. -/
def zeroSig : String := ⟨List.replicate 86 'A'⟩

/-- The device payload of `zeroKey`, signed with `zeroSig`, answering the nonce `"n"`. -/
def zeroDevice : DeviceConnectPayload := ⟨zeroID, zeroKey, zeroSig, 0, "n"⟩

/-- A connection with no shared secret and a Pairing Service, on loopback or not, whose
challenge nonce is `"n"`. -/
def testConn (isLocal : Bool) : ConnInfo := ⟨⟨"none", ""⟩, true, isLocal, "n"⟩

/-- The connect request of the device `zeroKey` with role `role`, answering `testConn`'s
challenge. -/
def zeroConnect (role : String) : ConnectRequest :=
  ⟨"1", "connect",
    { minProtocol := 3, maxProtocol := 3, client := ⟨"cli", "", "", "", ""⟩, role := role,
      device := some zeroDevice }⟩

/-- A loopback handshake of `zeroKey` under role `"node"`, run through all its 17 calls: the
device is auto-approved and gets a token. -/
def loopbackPairing : List Label :=
  .invoke (.handshake (testConn true) (zeroConnect "node")) :: List.replicate 17 (.step 0 {})

end GoClaw
