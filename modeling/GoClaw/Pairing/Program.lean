import GoClaw.Pairing.Store
import Mathlib.Data.List.OfFn

namespace GoClaw

/-!
# Pairing — Service operations as programs over store calls

Each `Store` method runs atomically under the store's mutex, but a `Service` operation is a
sequence of such calls, and other callers run between them.  So a Service operation is a
`Prog`: a tree whose nodes are the `Call`s it makes, each branching on the call's answer.

* `Call` lists the store methods, the spec's `reload`, the clock, `crypto/rand` and the
  connection's response write; `Call.exec` runs one on a `Store`, given the world's `Answer`
  (how the disk behaves, the time, the random bytes, whether the write went through).
* `Prog` is the free monad over `Call`; `do` blocks in `Service.lean` read like `service.go`.
* `Prog.Safe C post p`: every call `p` can make is one the contract `C` allows, provided every
  answer it got is one `C` assures, and every value it returns satisfies `post`.  An invariant of
  the store is then a contract each call keeps (`Safe.bind` composes them).
-/

/-- The world's answer to a call. -/
structure Answer where
  /-- How a `saveJSON` goes. -/
  disk : Disk := .ok
  /-- `time.Now().UnixMilli()`. -/
  now : Int := 0
  /-- The bytes `crypto/rand.Read` fills in. -/
  rand : Nat → UInt8 := fun _ => 0
  /-- Whether `Conn.writeMessage` returned a nil error. -/
  sent : Bool := true

/-- The atomic calls a Service operation makes. -/
inductive Call where
  | getPendingRequest (requestID : String)
  | getPairedDevice (deviceID : String)
  | listPending
  | addPending (req : PendingRequest)
  | removePending (requestID : String)
  | setPaired (device : PairedDevice)
  | updateDeviceMetadata (deviceID : String) (patch : DeviceMetadataPatch)
  | setDeviceToken (deviceID role : String) (token : DeviceAuthToken)
  | pruneExpiredPending (now : Int)
  | reload
  | now
  | readRandom (n : Nat)
  | writeMessage

/-- What a call returns. -/
abbrev Call.Ret : Call → Type
  | .getPendingRequest _ => Option PendingRequest
  | .getPairedDevice _ => Option PairedDevice
  | .listPending => List PendingRequest
  | .addPending _ => Option PairingError
  | .removePending _ => Option PendingRequest
  | .setPaired _ => Option PairingError
  | .updateDeviceMetadata _ _ => Option PairingError
  | .setDeviceToken _ _ _ => Option PairingError
  | .pruneExpiredPending _ => Nat
  | .reload => Unit
  | .now => Int
  | .readRandom _ => List UInt8
  | .writeMessage => Bool

/-- One call, run atomically on the store. -/
def Call.exec : (c : Call) → Store → Answer → Store × c.Ret
  | .getPendingRequest id, s, _ => (s, s.getPendingRequest id)
  | .getPairedDevice id, s, _ => (s, s.getPairedDevice id)
  | .listPending, s, _ => (s, s.listPending)
  | .addPending req, s, a => s.addPending req a.disk
  | .removePending id, s, a => s.removePending id a.disk
  | .setPaired dev, s, a => s.setPaired dev a.disk
  | .updateDeviceMetadata id patch, s, a => s.updateDeviceMetadata id patch a.disk
  | .setDeviceToken id role tok, s, a => s.setDeviceToken id role tok a.disk
  | .pruneExpiredPending t, s, a => s.pruneExpiredPending t a.disk
  | .reload, s, _ => (s.reload, ())
  | .now, s, a => (s, a.now)
  | .readRandom n, s, a => (s, List.ofFn fun i : Fin n => a.rand i)
  | .writeMessage, s, a => (s, a.sent)

/-- A program over store calls. -/
inductive Prog (α : Type) where
  | pure (a : α)
  | call (c : Call) (k : c.Ret → Prog α)

namespace Prog

variable {α β : Type}

/-- Sequencing: graft `f` onto every leaf. -/
def bind : Prog α → (α → Prog β) → Prog β
  | pure a, f => f a
  | call c k, f => call c fun r => bind (k r) f

instance : Monad Prog where
  pure := Prog.pure
  bind := Prog.bind

@[simp] theorem pure_bind' (a : α) (f : α → Prog β) : (Prog.pure a >>= f) = f a := rfl

@[simp] theorem call_bind (c : Call) (k : c.Ret → Prog α) (f : α → Prog β) :
    (Prog.call c k >>= f) = Prog.call c fun r => k r >>= f := rfl

@[simp] theorem pure_eq (a : α) : (Pure.pure a : Prog α) = Prog.pure a := rfl

@[simp] theorem map_eq (f : α → β) (p : Prog α) : f <$> p = p >>= fun a => .pure (f a) := rfl

/-! ### The calls, one program each -/

/-- `store.GetPendingRequest`. -/
def getPendingRequest (requestID : String) : Prog (Option PendingRequest) :=
  call (.getPendingRequest requestID) pure

/-- `store.GetPairedDevice`. -/
def getPairedDevice (deviceID : String) : Prog (Option PairedDevice) :=
  call (.getPairedDevice deviceID) pure

/-- `store.ListPending`. -/
def listPending : Prog (List PendingRequest) := call .listPending pure

/-- `store.AddPending`. -/
def addPending (req : PendingRequest) : Prog (Option PairingError) := call (.addPending req) pure

/-- `store.RemovePending`. -/
def removePending (requestID : String) : Prog (Option PendingRequest) :=
  call (.removePending requestID) pure

/-- `store.SetPaired`. -/
def setPaired (device : PairedDevice) : Prog (Option PairingError) := call (.setPaired device) pure

/-- `store.UpdateDeviceMetadata`. -/
def updateDeviceMetadata (deviceID : String) (patch : DeviceMetadataPatch) :
    Prog (Option PairingError) :=
  call (.updateDeviceMetadata deviceID patch) pure

/-- `store.SetDeviceToken`. -/
def setDeviceToken (deviceID role : String) (token : DeviceAuthToken) : Prog (Option PairingError) :=
  call (.setDeviceToken deviceID role token) pure

/-- `store.PruneExpiredPending`. -/
def pruneExpiredPending (t : Int) : Prog Nat := call (.pruneExpiredPending t) pure

/-- `store.Reload`, its error dropped. -/
def reload : Prog Unit := call .reload pure

/-- `time.Now().UnixMilli()`. -/
def now : Prog Int := call .now pure

/-- `crypto/rand.Read` of `n` bytes. -/
def readRandom (n : Nat) : Prog (List UInt8) := call (.readRandom n) pure

/-- `Conn.writeMessage` of the connect response; `true` for a nil error. -/
def writeMessage : Prog Bool := call .writeMessage pure

/-! ### Histories -/

end Prog

/-- One call as a thread made it: the call, the store it ran on, and the world's answer. -/
structure Step where
  call : Call
  store : Store
  ans : Answer

/-- The store the call left. -/
def Step.after (st : Step) : Store := (st.call.exec st.store st.ans).1

/-- `Chained s hist s'`: the calls of `hist` ran back to back from `s`, nothing else running
between them, and left `s'`. -/
def Chained : Store → List Step → Store → Prop
  | s, [], s' => s = s'
  | s, st :: hist, s' => st.store = s ∧ Chained st.after hist s'

@[simp] theorem chained_nil {s s' : Store} : Chained s [] s' ↔ s = s' := Iff.rfl

@[simp] theorem chained_cons {s s' : Store} {st : Step} {hist : List Step} :
    Chained s (st :: hist) s' ↔ st.store = s ∧ Chained st.after hist s' := Iff.rfl

namespace Prog

variable {α β : Type}

/-- `Reduces p hist q`: `p`, having made the calls of `hist` in order, is left as `q`. -/
inductive Reduces : Prog α → List Step → Prog α → Prop
  | refl (p : Prog α) : Reduces p [] p
  | call {c : Call} {k : c.Ret → Prog α} (s : Store) (a : Answer) {hist : List Step}
      {q : Prog α} : Reduces (k (c.exec s a).2) hist q → Reduces (.call c k) (⟨c, s, a⟩ :: hist) q

/-- Histories compose. -/
theorem Reduces.trans {p q r : Prog α} {h₁ h₂ : List Step} (h : Reduces p h₁ q)
    (h' : Reduces q h₂ r) : Reduces p (h₁ ++ h₂) r := by
  induction h with
  | refl => exact h'
  | call s a _ ih => exact .call s a (ih h')

/-- One more call at the end of a history. -/
theorem Reduces.snoc {p : Prog α} {hist : List Step} {c : Call} {k : c.Ret → Prog α}
    (h : Reduces p hist (.call c k)) (s : Store) (a : Answer) :
    Reduces p (hist ++ [⟨c, s, a⟩]) (k (c.exec s a).2) :=
  h.trans (.call s a (.refl _))

theorem reduces_pure_iff {a : α} {hist : List Step} {q : Prog α} :
    Reduces (.pure a) hist q ↔ hist = [] ∧ q = .pure a :=
  ⟨fun | .refl _ => ⟨rfl, rfl⟩, fun ⟨h1, h2⟩ => h1 ▸ h2 ▸ .refl _⟩

/-- A program that has returned made its first call, and went on with the answer it got. -/
theorem Reduces.call_inv {c : Call} {k : c.Ret → Prog α} {hist : List Step} {b : α}
    (h : Reduces (.call c k) hist (.pure b)) :
    ∃ s a hist', hist = ⟨c, s, a⟩ :: hist' ∧ Reduces (k (c.exec s a).2) hist' (.pure b) := by
  cases h with
  | call s a h => exact ⟨s, a, _, rfl, h⟩

/-- A sequence that has returned: its first part returned, then its second. -/
theorem Reduces.bind_inv {p : Prog α} {f : α → Prog β} {hist : List Step} {b : β}
    (h : Reduces (p >>= f) hist (.pure b)) :
    ∃ h₁ h₂ a, hist = h₁ ++ h₂ ∧ Reduces p h₁ (.pure a) ∧ Reduces (f a) h₂ (.pure b) := by
  induction p generalizing hist with
  | pure a => exact ⟨[], hist, a, rfl, .refl _, h⟩
  | call c k ih =>
    rw [call_bind] at h
    obtain ⟨s, a, hist', rfl, hk⟩ := Reduces.call_inv h
    obtain ⟨h₁, h₂, x, rfl, h₁', h₂'⟩ := ih _ hk
    exact ⟨⟨c, s, a⟩ :: h₁, h₂, x, rfl, .call s a h₁', h₂'⟩

/-- A mapped program that has returned: the program returned a value that maps to it. -/
theorem Reduces.map_inv {p : Prog α} {f : α → β} {hist : List Step} {b : β}
    (h : Reduces (f <$> p) hist (.pure b)) : ∃ a, f a = b ∧ Reduces p hist (.pure a) := by
  rw [map_eq] at h
  obtain ⟨h₁, h₂, a, rfl, h₁', h₂'⟩ := h.bind_inv
  obtain ⟨rfl, hb⟩ := reduces_pure_iff.1 h₂'
  exact ⟨a, (Prog.pure.inj hb).symm, by simpa using h₁'⟩

/-- The first call of a program run alone with a working disk: it ran on the store the run
started from, and the rest of the run goes on from the store it left. -/
theorem Reduces.call_alone {c : Call} {k : c.Ret → Prog α} {hist : List Step} {b : α}
    {s s' : Store} (h : Reduces (.call c k) hist (.pure b)) (hc : Chained s hist s')
    (hok : ∀ st ∈ hist, st.ans.disk = .ok) :
    ∃ a rest, hist = ⟨c, s, a⟩ :: rest ∧ a.disk = .ok ∧ Reduces (k (c.exec s a).2) rest (.pure b) ∧
      Chained (c.exec s a).1 rest s' ∧ ∀ st ∈ rest, st.ans.disk = .ok := by
  obtain ⟨s₁, a, rest, rfl, h₁⟩ := h.call_inv
  obtain ⟨rfl, hc⟩ := hc
  exact ⟨a, rest, rfl, hok _ (List.mem_cons_self _ _), h₁, hc,
    fun st h => hok st (List.mem_cons_of_mem _ h)⟩

/-- A program run alone from `s`, the world answering its calls from `answers` in turn: the
value it returned, the calls it made, and the store it left; `none` when the answers run out. -/
def runAlone : Prog α → Store → List Answer → Option (α × List Step × Store)
  | .pure b, s, _ => some (b, [], s)
  | .call _ _, _, [] => none
  | .call c k, s, a :: answers =>
    ((k (c.exec s a).2).runAlone (c.exec s a).1 answers).map
      fun r => (r.1, ⟨c, s, a⟩ :: r.2.1, r.2.2)

/-- A run alone is a history of the program, its calls chained from the store it started on. -/
theorem runAlone_sound {p : Prog α} {s s' : Store} {answers : List Answer} {b : α}
    {hist : List Step} (h : p.runAlone s answers = some (b, hist, s')) :
    Reduces p hist (.pure b) ∧ Chained s hist s' := by
  induction p generalizing s answers hist with
  | pure a =>
    simp only [runAlone, Option.some.injEq, Prod.mk.injEq] at h
    obtain ⟨rfl, rfl, rfl⟩ := h
    exact ⟨.refl _, rfl⟩
  | call c k ih =>
    cases answers with
    | nil => cases h
    | cons a answers =>
      simp only [runAlone, Option.map_eq_some', Prod.exists] at h
      obtain ⟨b', hist', s'', hr, he⟩ := h
      simp only [Prod.mk.injEq] at he
      obtain ⟨rfl, rfl, rfl⟩ := he
      obtain ⟨h₁, h₂⟩ := ih _ hr
      exact ⟨.call s a h₁, rfl, h₂⟩

/-! ### Contracts -/

/-- A contract between the store and its callers: the calls a caller may make, and what it may
assume of their answers. -/
structure Contract where
  allows : Call → Prop
  assures : (c : Call) → c.Ret → Prop

/-- `Safe C post p`: `p` makes only calls `C` allows, as long as it gets answers `C` assures,
and returns only values satisfying `post`. -/
inductive Safe (C : Contract) (post : α → Prop) : Prog α → Prop
  | pure {a : α} : post a → Safe C post (.pure a)
  | call {c : Call} {k : c.Ret → Prog α} :
      C.allows c → (∀ r, C.assures c r → Safe C post (k r)) → Safe C post (.call c k)

variable {C : Contract}

@[simp] theorem safe_pure {post : α → Prop} {a : α} : Safe C post (.pure a) ↔ post a :=
  ⟨fun | .pure h => h, .pure⟩

@[simp] theorem safe_call {post : α → Prop} {c : Call} {k : c.Ret → Prog α} :
    Safe C post (.call c k) ↔ C.allows c ∧ ∀ r, C.assures c r → Safe C post (k r) :=
  ⟨fun | .call h hk => ⟨h, hk⟩, fun ⟨h, hk⟩ => .call h hk⟩

/-- Safety composes along `>>=`. -/
theorem Safe.bind {post : α → Prop} {post' : β → Prop} {p : Prog α} {f : α → Prog β}
    (hp : Safe C post p) (hf : ∀ a, post a → Safe C post' (f a)) : Safe C post' (p >>= f) := by
  induction hp with
  | pure h => exact hf _ h
  | call h _ ih => exact .call h ih

/-- Safety survives mapping the result. -/
theorem Safe.map {post : β → Prop} {p : Prog α} (f : α → β) (hp : Safe C (fun a => post (f a)) p) :
    Safe C post (f <$> p) :=
  hp.bind fun _ h => .pure h

/-- Every call a safe program made along a history is one the contract allows, when each
answer it got was assured. -/
theorem Safe.allows_of_reduces {C : Contract} {post : α → Prop} {p q : Prog α} {hist : List Step}
    (hp : Safe C post p) (h : Reduces p hist q)
    (ha : ∀ st ∈ hist, C.assures st.call (st.call.exec st.store st.ans).2) :
    ∀ st ∈ hist, C.allows st.call := by
  induction h with
  | refl => simp
  | call s a _ ih =>
    obtain ⟨hc, hk⟩ := safe_call.1 hp
    simp only [List.mem_cons, forall_eq_or_imp] at ha ⊢
    exact ⟨hc, ih (hk _ ha.1) ha.2⟩

/-- A weaker postcondition. -/
theorem Safe.mono {post post' : α → Prop} {p : Prog α} (hp : Safe C post p)
    (h : ∀ a, post a → post' a) : Safe C post' p := by
  induction hp with
  | pure ha => exact .pure (h _ ha)
  | call hc _ ih => exact .call hc ih

end Prog

end GoClaw
