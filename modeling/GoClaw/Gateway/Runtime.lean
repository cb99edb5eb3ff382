import GoClaw.Node.Registry
import GoClaw.Gateway.Handshake

namespace GoClaw

/-!
# Gateway — connections, registry and invoker at run time (`gateway.go`, `conn.go`, `invoker.go`)

The running gateway is one goroutine per accepted connection (`Conn.Run`, with `shutdown`
deferred) and one per `Invoker.Invoke` call, sharing the node `Registry`, the invoker's
`pending` map and the channels of each `pendingInvoke`.  A `Runtime` is all of it; `next` runs
one atomic step of one goroutine with whatever the world supplies (`Input`), so `run` over a
list of `Action`s is one interleaving.

The atomic steps are the critical sections of the source: each registry call, each access to
`pending` under `inv.mu`, each channel operation and each socket write.  A goroutine's local work
is merged into the step next to it.  The handshake is one step: whether `processConnect`
succeeds is modelled over the pairing store in `Gateway.Handshake`, and here the world decides
it; setting `StateAuthenticated` and `OnAuthenticated` are one step, since only the connection's
own goroutine reads `State`.

* Connection ids and invocation ids are `crypto/rand` bytes in hex.  An accepted connection's id
  is new, and `Invoke` draws an id that is not pending (a repeat has probability `2⁻¹²⁸`).
* The `pendingInvoke` an invocation makes lives in its own record: `pending` maps an id to the
  index of its invocation, whose `result` is the one-slot buffer of `pi.result` and whose
  `cancelClosed` says whether `pi.cancel` is closed.
* A send on a full buffer blocks (the step is not enabled); closing a closed channel panics,
  which ends the process (`panicked`, after which nothing runs).
* `reachable_induction`: an invariant of the initial state that every step keeps holds of every
  reachable state.
-/

/-- `protocol.ErrorShape`. -/
structure ErrorShape where
  code : String
  message : String
  retryable : Option Bool := none
  deriving DecidableEq, Repr

/-- `protocol.NodeInvokeResult`: the params of a `node.invoke.result` request. -/
structure NodeInvokeResult where
  id : String
  nodeID : String := ""
  ok : Bool := false
  payloadJSON : Option String := none
  error : Option ErrorShape := none
  deriving DecidableEq, Repr

/-- `InvokeRequest`. -/
structure InvokeRequest where
  nodeID : String
  command : String := ""
  timeoutMs : Int := 0
  deriving DecidableEq, Repr

/-- `InvokeResult`. -/
structure InvokeResult where
  ok : Bool
  payloadJSON : Option String
  error : Option ErrorShape
  deriving DecidableEq, Repr

/-- What `Invoke` returns: the node's result, or `InvokeResult{OK: false}` with an error. -/
inductive InvokeOutcome where
  /-- The node's result, with a nil error. -/
  | ok (result : InvokeResult)
  /-- `node %q not connected`. -/
  | notConnected
  /-- `send failed: %w`. -/
  | sendFailed
  /-- `node disconnected`. -/
  | disconnected
  /-- `invoke timeout after %dms`. -/
  | timeout
  /-- `ctx.Err()`. -/
  | ctxDone
  deriving DecidableEq, Repr

/-- `generateID` (package `gateway`): 16 bytes of `crypto/rand`, in hex. -/
def generateID (rand : Nat → UInt8) : String := hexEncode (List.ofFn fun i : Fin 16 => rand i)

/-- `generateInvokeID` (package `node`): the same. -/
def generateInvokeID (rand : Nat → UInt8) : String := generateID rand

/-- An id is 32 hex digits, so never empty. -/
theorem generateID_ne_empty (rand : Nat → UInt8) : generateID rand ≠ "" := by
  intro h
  have := congrArg String.length h
  simp [generateID, List.length_ofFn] at this

/-! ### Goroutines -/

/-- Where a connection's goroutine — `Run`, then the deferred `shutdown` — is. -/
inductive ConnPhase where
  /-- Before `processConnect` has returned. -/
  | connecting
  /-- The authenticated read loop. -/
  | reading
  /-- `HandleResult` found the `pendingInvoke` of invocation `owner`; `pi.result <- result` is
  next. -/
  | delivering (owner : Nat) (result : NodeInvokeResult)
  /-- `shutdown` has set `StateClosed`; `ws.Close()` is next. -/
  | closingWs (wasAuthenticated : Bool)
  /-- `OnDisconnected`: `Unregister(conn.ConnID)` is next. -/
  | unregistering
  /-- `CancelPendingForNode(nodeID)`: collecting under `inv.mu` is next. -/
  | collecting (nodeID : String)
  /-- `CancelPendingForNode`: closing the collected cancel channels. -/
  | cancelling (toCancel : List Nat)
  /-- `Run` has returned. -/
  | closed
  deriving DecidableEq, Repr

/-- Whether the connection's socket is still open: `shutdown` closes it. -/
def ConnPhase.wsOpen : ConnPhase → Bool
  | .connecting | .reading | .delivering _ _ | .closingWs _ => true
  | _ => false

/-- A connection: `Conn` with what the gateway reads of it, and its goroutine's phase. -/
structure Conn where
  connID : String
  /-- Set when `processConnect` succeeds. -/
  connectParams : Option ConnectParams := none
  phase : ConnPhase := .connecting
  /-- Ghost: what `Unregister` returned in its `OnDisconnected` (`none` before, or when it
  found no session). -/
  unregistered : Option String := none

/-- A connection with no id, for `conns[k]!`. -/
instance : Inhabited Conn := ⟨{ connID := "" }⟩

/-- The node a connection registered as: its client id, when its handshake succeeded with role
`"node"`. -/
def Conn.nodeID? (c : Conn) : Option String :=
  c.connectParams.bind fun p => if p.resolvedRole = "node" then some p.client.id else none

/-- Where an `Invoke` call is. -/
inductive InvokePhase where
  /-- `inv.reg.Get(req.NodeID)` is next. -/
  | start
  /-- Drawing the id and filing `pending[id] = pi` under `inv.mu` is next. -/
  | registering (session : NodeSession)
  /-- `session.Send("node.invoke.request", …)` is next. -/
  | sending (session : NodeSession) (id : String)
  /-- The four-way `select`. -/
  | waiting (id : String)
  /-- The deferred `delete(inv.pending, id)`, then return `outcome`. -/
  | deferring (id : String) (outcome : InvokeOutcome)
  /-- Returned `outcome`. -/
  | returned (outcome : InvokeOutcome)
  deriving DecidableEq, Repr

/-- The invocation id an `Invoke` call has filed under, until its deferred delete. -/
def InvokePhase.id? : InvokePhase → Option String
  | .sending _ id | .waiting id | .deferring id _ => some id
  | _ => none

/-- The session an `Invoke` call got from the registry, until it sends. -/
def InvokePhase.session? : InvokePhase → Option NodeSession
  | .registering s | .sending s _ => some s
  | _ => none

/-- Whether the call has returned. -/
def InvokePhase.isReturned : InvokePhase → Bool
  | .returned _ => true
  | _ => false

/-- An `Invoke` call, with the two channels of the `pendingInvoke` it makes. -/
structure Invocation where
  req : InvokeRequest
  phase : InvokePhase := .start
  /-- The one-slot buffer of `pi.result`. -/
  result : Option NodeInvokeResult := none
  /-- Whether `pi.cancel` is closed. -/
  cancelClosed : Bool := false
  /-- Ghost: the connection its `node.invoke.request` went out through. -/
  sentVia : Option String := none

/-- A call for no node, for `invocations[i]!`. -/
instance : Inhabited Invocation := ⟨{ req := { nodeID := "" } }⟩

/-- A `pendingInvoke` as `Invoker.pending` holds it: the invocation that made it (whose record
holds its channels) and its `nodeID`. -/
structure PendingInvoke where
  owner : Nat
  nodeID : String
  deriving DecidableEq, Repr

/-- The running gateway. -/
structure Runtime where
  registry : Registry := .empty
  /-- `Invoker.pending`. -/
  pending : GoMap PendingInvoke := ∅
  /-- Every connection accepted so far, in order. -/
  conns : List Conn := []
  /-- Every `Invoke` call made so far, in order. -/
  invocations : List Invocation := []
  /-- A goroutine closed a closed channel: the process has panicked. -/
  panicked : Bool := false

/-- The case a `select` takes. -/
inductive SelectCase where
  | result
  | cancel
  | timeout
  | ctxDone
  deriving DecidableEq, Repr

namespace Runtime

/-- What the world supplies to a step. -/
structure Input where
  /-- The handshake: `processConnect` succeeded with these params, or (`none`) the challenge,
  the read of the connect frame or `processConnect` failed. -/
  params : Option ConnectParams := none
  /-- What the read loop's `ReadMessage` returned: a `node.invoke.result` request, or (`none`)
  an error. -/
  frame : Option NodeInvokeResult := none
  /-- Which collected cancel channel is closed next (Go's map order is unspecified). -/
  index : Nat := 0
  /-- The bytes `crypto/rand.Read` fills in. -/
  rand : Nat → UInt8 := fun _ => 0
  /-- Whether `ws.WriteMessage` succeeds, on a socket that is still open. -/
  writeOK : Bool := true
  /-- The case the `select` takes, among the ready ones. -/
  select : SelectCase := .timeout

/-- What happens next. -/
inductive Action where
  /-- The server accepts a connection: `NewConn`, with `generateID` of these bytes. -/
  | accept (rand : Nat → UInt8)
  /-- A caller starts `Invoke(ctx, req)`. -/
  | invoke (req : InvokeRequest)
  /-- Connection `k`'s goroutine takes a step. -/
  | conn (k : Nat) (inp : Input)
  /-- Invocation `i`'s goroutine takes a step. -/
  | call (i : Nat) (inp : Input)

/-- No connection, no call. -/
def init : Runtime := {}

variable (g : Runtime)

/-- `conns[k] := c`. -/
def setConn (k : Nat) (c : Conn) : Runtime := { g with conns := g.conns.set k c }

/-- `invocations[i] := v`. -/
def setInvocation (i : Nat) (v : Invocation) : Runtime :=
  { g with invocations := g.invocations.set i v }

/-- Whether the socket of connection `connID` is open. -/
def wsOpen (connID : String) : Bool := g.conns.any fun c => c.connID = connID && c.phase.wsOpen

/-- `processConnect`'s success: `StateAuthenticated`, then `OnAuthenticated`, which registers
a session for the client id when the role is `"node"` (`""` counts as `"node"`). -/
def onAuthenticated (k : Nat) (c : Conn) (params : ConnectParams) : Runtime :=
  let g' := g.setConn k { c with connectParams := some params, phase := .reading }
  if params.resolvedRole = "node" then
    { g' with registry := g.registry.register ⟨params.client.id, c.connID⟩ }
  else g'

/-- `OnRequest` on a `node.invoke.result`: `HandleResult` looks the id up under `inv.mu`, and
returns `false` when it is not pending. -/
def handleResult (k : Nat) (c : Conn) (result : NodeInvokeResult) : Runtime :=
  match g.pending.lookup result.id with
  | some pi => g.setConn k { c with phase := .delivering pi.owner result }
  | none => g

/-- `pi.result <- result`: into the empty buffer; on a full one the send blocks. -/
def deliver (k : Nat) (c : Conn) (owner : Nat) (result : NodeInvokeResult) : Option Runtime :=
  match g.invocations[owner]? with
  | some v =>
    if v.result = none then
      some { g.setConn k { c with phase := .reading } with
        invocations := g.invocations.set owner { v with result := some result } }
    else none
  | none => none

/-- `OnDisconnected` (with a non-empty `ConnID`): `Unregister`, then `CancelPendingForNode` of the
node it found. -/
def onDisconnected (k : Nat) (c : Conn) : Runtime :=
  if c.connID = "" then g.setConn k { c with phase := .closed, unregistered := none }
  else
    match g.registry.unregister c.connID with
    | (registry, some nodeID) =>
      { g.setConn k { c with phase := .collecting nodeID, unregistered := some nodeID } with
        registry }
    | (registry, none) =>
      { g.setConn k { c with phase := .closed, unregistered := none } with registry }

/-- The invocations `CancelPendingForNode` collects: those pending for `nodeID`. -/
def collectFor (pending : GoMap PendingInvoke) (nodeID : String) : List Nat :=
  pending.entries.filterMap fun e => if e.2.nodeID = nodeID then some e.2.owner else none

/-- `close(pi.cancel)` for the `i`-th collected invocation; closing a closed channel panics. -/
def closeCancel (k : Nat) (c : Conn) (toCancel : List Nat) (i : Nat) : Option Runtime :=
  match toCancel[i]? with
  | some owner =>
    match g.invocations[owner]? with
    | some v =>
      if v.cancelClosed then some { g with panicked := true }
      else
        some { g.setConn k { c with phase := .cancelling (toCancel.eraseIdx i) } with
          invocations := g.invocations.set owner { v with cancelClosed := true } }
    | none => none
  | none => none

/-- The next step of connection `k`, which is `c`. -/
def connStep (k : Nat) (c : Conn) (inp : Input) : Option Runtime :=
  match c.phase with
  | .connecting =>
    match inp.params with
    | some params => some (g.onAuthenticated k c params)
    | none => some (g.setConn k { c with phase := .closingWs false })
  | .reading =>
    match inp.frame with
    | some result => some (g.handleResult k c result)
    | none => some (g.setConn k { c with phase := .closingWs true })
  | .delivering owner result => g.deliver k c owner result
  | .closingWs wasAuthenticated =>
    some (g.setConn k { c with phase := if wasAuthenticated then .unregistering else .closed })
  | .unregistering => some (g.onDisconnected k c)
  | .collecting nodeID =>
    some (g.setConn k { c with phase := .cancelling (collectFor g.pending nodeID) })
  | .cancelling [] => some (g.setConn k { c with phase := .closed })
  | .cancelling (owner :: rest) => g.closeCancel k c (owner :: rest) inp.index
  | .closed => none

/-- The next step of invocation `i`, which is `v`. -/
def callStep (i : Nat) (v : Invocation) (inp : Input) : Option Runtime :=
  match v.phase with
  | .start =>
    match g.registry.get v.req.nodeID with
    | some session => some (g.setInvocation i { v with phase := .registering session })
    | none => some (g.setInvocation i { v with phase := .returned .notConnected })
  | .registering session =>
    let id := generateInvokeID inp.rand
    if g.pending.lookup id = none then
      some { g.setInvocation i { v with phase := .sending session id } with
        pending := g.pending.insert id ⟨i, v.req.nodeID⟩ }
    else none
  | .sending session id =>
    if inp.writeOK && g.wsOpen session.connID then
      some (g.setInvocation i { v with phase := .waiting id, sentVia := some session.connID })
    else some (g.setInvocation i { v with phase := .deferring id .sendFailed })
  | .waiting id =>
    match inp.select, v.result with
    | .result, some r =>
      some (g.setInvocation i
        { v with phase := .deferring id (.ok ⟨r.ok, r.payloadJSON, r.error⟩), result := none })
    | .result, none => none
    | .cancel, _ =>
      if v.cancelClosed then
        some (g.setInvocation i { v with phase := .deferring id .disconnected })
      else none
    | .timeout, _ => some (g.setInvocation i { v with phase := .deferring id .timeout })
    | .ctxDone, _ => some (g.setInvocation i { v with phase := .deferring id .ctxDone })
  | .deferring id outcome =>
    some { g.setInvocation i { v with phase := .returned outcome } with
      pending := g.pending.erase id }
  | .returned _ => none

/-- One step; `none` when it cannot be taken (after a panic, nothing can). -/
def next : Action → Option Runtime
  | .accept rand =>
    if g.panicked || g.conns.any (·.connID = generateID rand) then none
    else some { g with conns := g.conns ++ [{ connID := generateID rand }] }
  | .invoke req =>
    if g.panicked then none else some { g with invocations := g.invocations ++ [{ req }] }
  | .conn k inp =>
    if g.panicked then none else
    match g.conns[k]? with
    | some c => g.connStep k c inp
    | none => none
  | .call i inp =>
    if g.panicked then none else
    match g.invocations[i]? with
    | some v => g.callStep i v inp
    | none => none

/-- A run: the steps of `as` in turn. -/
def run : Runtime → List Action → Option Runtime
  | g, [] => some g
  | g, a :: as =>
    match g.next a with
    | some g' => run g' as
    | none => none

/-- The state a run from `init` reaches (`init` itself when one of its steps cannot be taken). -/
def reach (as : List Action) : Runtime := (run init as).getD init

/-- Reached from `init` by some run. -/
def Reachable (g : Runtime) : Prop := ∃ as, run init as = some g

@[simp] theorem setConn_registry (k : Nat) (c : Conn) : (g.setConn k c).registry = g.registry := rfl
@[simp] theorem setConn_pending (k : Nat) (c : Conn) : (g.setConn k c).pending = g.pending := rfl
@[simp] theorem setConn_conns (k : Nat) (c : Conn) : (g.setConn k c).conns = g.conns.set k c := rfl
@[simp] theorem setConn_invocations (k : Nat) (c : Conn) :
    (g.setConn k c).invocations = g.invocations := rfl
@[simp] theorem setConn_panicked (k : Nat) (c : Conn) : (g.setConn k c).panicked = g.panicked :=
  rfl
@[simp] theorem setInvocation_registry (i : Nat) (v : Invocation) :
    (g.setInvocation i v).registry = g.registry := rfl
@[simp] theorem setInvocation_pending (i : Nat) (v : Invocation) :
    (g.setInvocation i v).pending = g.pending := rfl
@[simp] theorem setInvocation_conns (i : Nat) (v : Invocation) :
    (g.setInvocation i v).conns = g.conns := rfl
@[simp] theorem setInvocation_invocations (i : Nat) (v : Invocation) :
    (g.setInvocation i v).invocations = g.invocations.set i v := rfl

@[simp] theorem onAuthenticated_registry (k : Nat) (c : Conn) (params : ConnectParams) :
    (g.onAuthenticated k c params).registry = if params.resolvedRole = "node" then
      g.registry.register ⟨params.client.id, c.connID⟩ else g.registry := by
  unfold onAuthenticated; split_ifs <;> rfl
@[simp] theorem onAuthenticated_conns (k : Nat) (c : Conn) (params : ConnectParams) :
    (g.onAuthenticated k c params).conns =
      g.conns.set k { c with connectParams := some params, phase := .reading } := by
  unfold onAuthenticated; split_ifs <;> rfl
@[simp] theorem onAuthenticated_pending (k : Nat) (c : Conn) (params : ConnectParams) :
    (g.onAuthenticated k c params).pending = g.pending := by
  unfold onAuthenticated; split_ifs <;> rfl
@[simp] theorem onAuthenticated_invocations (k : Nat) (c : Conn) (params : ConnectParams) :
    (g.onAuthenticated k c params).invocations = g.invocations := by
  unfold onAuthenticated; split_ifs <;> rfl

/-- **Induction over runs.**  An invariant of `init` that every step keeps holds of every
reachable state. -/
theorem reachable_induction (I : Runtime → Prop) (h0 : I init)
    (hstep : ∀ g a g', I g → g.next a = some g' → I g') {g : Runtime} (h : Reachable g) :
    I g := by
  obtain ⟨as, hrun⟩ := h
  suffices ∀ as g₀, I g₀ → run g₀ as = some g → I g from this as _ h0 hrun
  intro as
  induction as with
  | nil => intro g₀ h hr; cases hr; exact h
  | cons a as ih =>
    intro g₀ hI hr
    simp only [run] at hr
    split at hr
    · exact ih _ (hstep _ _ _ hI ‹_›) hr
    · cases hr

/-! ### A concrete run -/

/-- The connect params of a client `n` that names no role, so registers as node `n`. -/
def nodeHello (n : String) : ConnectParams :=
  { minProtocol := 3, maxProtocol := 3, client := { id := n } }

/-- Node `"n"` connects on connection 0 and is invoked; the request goes out through connection
0.  The node reconnects on connection 1, whose session replaces the first; then connection 0
reads an error and tears down. -/
def replacedConn : List Action :=
  [.accept fun _ => 0, .conn 0 { params := some (nodeHello "n") }, .invoke { nodeID := "n" },
   .call 0 {}, .call 0 {}, .call 0 {},
   .accept fun _ => 1, .conn 1 { params := some (nodeHello "n") },
   .conn 0 {}, .conn 0 {}, .conn 0 {}]

end Runtime

end GoClaw
