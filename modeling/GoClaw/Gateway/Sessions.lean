import GoClaw.Gateway.Runtime
import Mathlib.Data.List.Nodup

namespace GoClaw

/-!
# Gateway — node sessions live within their connection (`gateway.go`, `registry.go`)

`OnAuthenticated` registers a session for a connection whose handshake succeeded with role
`"node"`; `OnDisconnected` unregisters by the connection's id, which finds the session only while
no later connection of the node has replaced it.

* `ConnsWF`: connection ids are distinct and non-empty, and a connection whose handshake has not
  succeeded has no params.
* `SessionsLive`: the registry's two indexes agree, and every session is that of a connection
  which registered as its node and has not yet reached its `Unregister`.
* `SessionsLive.next`: every step keeps it, whatever the interleaving.
* `node_sessions_live`: so in every reachable state each session belongs to a connection that
  completed the handshake as that node and has not finished its teardown, there is at most one
  session per node, and once every connection has finished there is none.
-/

section Lists

variable {α : Type} {l : List α} {k : Nat} {a b c : α}

/-- Setting a position to the value it holds changes nothing. -/
theorem set_of_getElem? (h : l[k]? = some a) : l.set k a = l := by
  refine List.ext_getElem? fun j => ?_
  rw [List.getElem?_set]
  split_ifs with hkj hk
  · rw [← hkj, h]
  · exact (List.getElem?_eq_none (Nat.le_of_not_lt (hkj ▸ hk))).symm
  · rfl

/-- The value set is in the list. -/
theorem mem_set_of_getElem? (h : l[k]? = some b) : c ∈ l.set k c :=
  List.mem_set _ _ (List.getElem?_eq_some_iff.1 h).1 c

/-- An element held at another position survives `set`. -/
theorem mem_set_of_ne (ha : a ∈ l) (hk : l[k]? = some b) (hab : a ≠ b) : a ∈ l.set k c := by
  obtain ⟨j, hj⟩ := List.mem_iff_getElem?.1 ha
  have hkj : k ≠ j := by
    rintro rfl
    exact hab (Option.some.inj (hj.symm.trans hk))
  exact List.mem_iff_getElem?.2 ⟨j, by rw [List.getElem?_set_ne hkj, hj]⟩

end Lists

/-- The phases in which a connection may hold a session: from its handshake's registration until
its `Unregister`. -/
def ConnPhase.holdsSession : ConnPhase → Bool
  | .reading | .delivering _ _ | .closingWs true | .unregistering => true
  | _ => false

/-- The phases of a connection whose handshake has not succeeded: in it, or shutting down after it
failed. -/
def ConnPhase.preAuth : ConnPhase → Bool
  | .connecting | .closingWs false => true
  | _ => false

/-- Connection ids are distinct and non-empty, and a connection whose handshake has not succeeded
has no params. -/
structure ConnsWF (conns : List Conn) : Prop where
  nodup : (conns.map (·.connID)).Nodup
  connID_ne : ∀ c ∈ conns, c.connID ≠ ""
  preAuth : ∀ c ∈ conns, c.phase.preAuth → c.connectParams = none

/-- The registry and the connections agree. -/
structure SessionsLive (reg : Registry) (conns : List Conn) : Prop where
  wf : ConnsWF conns
  consistent : reg.Consistent
  /-- Every session is that of a connection which registered as its node and still holds it. -/
  session : ∀ n s, reg.byNodeID.lookup n = some s →
    ∃ c ∈ conns, c.connID = s.connID ∧ c.phase.holdsSession ∧ c.nodeID? = some n

variable {conns : List Conn} {reg : Registry} {k : Nat} {c c' : Conn}

theorem ConnsWF.eq_of_connID (h : ConnsWF conns) {d : Conn} (hc : c ∈ conns) (hd : d ∈ conns)
    (he : c.connID = d.connID) : c = d :=
  List.inj_on_of_nodup_map h.nodup hc hd he

/-- A step of one connection that keeps its id keeps the connections well formed. -/
theorem ConnsWF.set (h : ConnsWF conns) (hk : conns[k]? = some c) (hid : c'.connID = c.connID)
    (hconn : c'.phase.preAuth → c'.connectParams = none) : ConnsWF (conns.set k c') where
  nodup := by
    rw [List.map_set, hid, set_of_getElem? (by simp [List.getElem?_map, hk])]
    exact h.nodup
  connID_ne d hd :=
    (List.mem_or_eq_of_mem_set hd).elim (h.connID_ne d) fun e => e ▸ hid ▸
      h.connID_ne c (List.getElem?_mem hk)
  preAuth d hd := (List.mem_or_eq_of_mem_set hd).elim (h.preAuth d) fun e => e ▸ hconn

/-- An accepted connection with a new, non-empty id keeps the connections well formed. -/
theorem ConnsWF.accept (h : ConnsWF conns) {id : String} (hfresh : ∀ c ∈ conns, c.connID ≠ id)
    (hne : id ≠ "") : ConnsWF (conns ++ [{ connID := id }]) where
  nodup := by
    rw [List.map_append, List.nodup_append]
    refine ⟨h.nodup, List.nodup_singleton _, ?_⟩
    simpa [List.disjoint_singleton] using hfresh
  connID_ne d hd := by
    rcases List.mem_append.1 hd with hd | hd
    · exact h.connID_ne d hd
    · rw [List.mem_singleton.1 hd]; exact hne
  preAuth d hd hph := by
    rcases List.mem_append.1 hd with hd | hd
    · exact h.preAuth d hd hph
    · rw [List.mem_singleton.1 hd]

theorem SessionsLive.init : SessionsLive Registry.empty [] :=
  ⟨⟨List.nodup_nil, fun _ h => absurd h (List.not_mem_nil _),
    fun _ h => absurd h (List.not_mem_nil _)⟩, .empty,
    fun _ _ h => by simp [Registry.empty] at h⟩

/-- A step of one connection that keeps its id, and keeps its session if it holds one, keeps the
sessions live. -/
theorem SessionsLive.set (h : SessionsLive reg conns) (hk : conns[k]? = some c)
    (hid : c'.connID = c.connID) (hconn : c'.phase.preAuth → c'.connectParams = none)
    (hhold : c.phase.holdsSession → c'.phase.holdsSession ∧ c'.nodeID? = c.nodeID?) :
    SessionsLive reg (conns.set k c') := by
  refine ⟨h.wf.set hk hid hconn, h.consistent, fun n s hs => ?_⟩
  obtain ⟨d, hd, hdid, hdh, hdn⟩ := h.session n s hs
  by_cases hdc : d = c
  · subst hdc
    obtain ⟨h₁, h₂⟩ := hhold hdh
    exact ⟨c', mem_set_of_getElem? hk, hid.trans hdid, h₁, h₂.trans hdn⟩
  · exact ⟨d, mem_set_of_ne hd hk hdc, hdid, hdh, hdn⟩

/-- The same, for a step that only moves the connection to phase `ph`, out of its handshake only
if it failed. -/
theorem SessionsLive.setPhase (h : SessionsLive reg conns) (hk : conns[k]? = some c)
    {ph : ConnPhase} (hph : ph.preAuth → c.phase.preAuth)
    (hhold : c.phase.holdsSession → ph.holdsSession) :
    SessionsLive reg (conns.set k { c with phase := ph }) :=
  h.set hk rfl (fun h' => h.wf.preAuth c (List.getElem?_mem hk) (hph h'))
    fun hc => ⟨hhold hc, rfl⟩

/-- A handshake's success keeps the sessions live: the connection was holding no session, so its
id had no mapping, and its own session is filed under its client id. -/
theorem SessionsLive.authenticate (h : SessionsLive reg conns) (hk : conns[k]? = some c)
    (hc : c.phase = .connecting) (params : ConnectParams) :
    SessionsLive
      (if params.resolvedRole = "node" then reg.register ⟨params.client.id, c.connID⟩ else reg)
      (conns.set k { c with connectParams := some params, phase := .reading }) := by
  have h' :
      SessionsLive reg (conns.set k { c with connectParams := some params, phase := .reading }) :=
    h.set hk rfl (by simp [ConnPhase.preAuth]) (by simp [hc, ConnPhase.holdsSession])
  split_ifs with hrole
  · have hfresh : reg.byConnID.lookup c.connID = none := by
      rw [Option.eq_none_iff_forall_not_mem]
      intro n hn
      obtain ⟨s, hs, hsc⟩ := h.consistent.byConn _ _ hn
      obtain ⟨d, hd, hdid, hdh, -⟩ := h.session n s hs
      rw [h.wf.eq_of_connID hd (List.getElem?_mem hk) (hdid.trans hsc), hc] at hdh
      cases hdh
    refine ⟨h'.wf, h.consistent.register hfresh, fun n s hs => ?_⟩
    rw [Registry.register_lookup] at hs
    split_ifs at hs with hn
    · cases hs
      exact ⟨_, mem_set_of_getElem? hk, rfl, rfl, by simp [Conn.nodeID?, hrole, hn]⟩
    · exact h'.session n s hs
  · exact h'

/-- `Unregister(c.ConnID)` with the connection leaving the session phases keeps the sessions
live: no session left is the connection's. -/
theorem SessionsLive.unregister (h : SessionsLive reg conns) (hk : conns[k]? = some c)
    (hid : c'.connID = c.connID) (hconn : c'.phase.preAuth = false) :
    SessionsLive (reg.unregister c.connID).1 (conns.set k c') := by
  refine ⟨h.wf.set hk hid (fun h' => absurd h' (by simp [hconn])),
    h.consistent.unregister c.connID, fun n s hs => ?_⟩
  obtain ⟨hs, hne⟩ := h.consistent.lookup_unregister hs
  obtain ⟨d, hd, hdid, hdh, hdn⟩ := h.session n s hs
  exact ⟨d, mem_set_of_ne hd hk (by rintro rfl; exact hne hdid.symm), hdid, hdh, hdn⟩

theorem SessionsLive.accept (h : SessionsLive reg conns) {id : String}
    (hfresh : ∀ c ∈ conns, c.connID ≠ id) (hne : id ≠ "") :
    SessionsLive reg (conns ++ [{ connID := id }]) := by
  refine ⟨h.wf.accept hfresh hne, h.consistent, fun n s hs => ?_⟩
  obtain ⟨d, hd, hdid⟩ := h.session n s hs
  exact ⟨d, List.mem_append_left _ hd, hdid⟩

namespace Runtime

variable {g g' : Runtime} {inp : Input}

/-- An invocation's step touches neither the registry nor a connection. -/
theorem callStep_frame {i : Nat} {v : Invocation} (h : g.callStep i v inp = some g') :
    g'.registry = g.registry ∧ g'.conns = g.conns := by
  cases hph : v.phase <;> simp only [callStep, hph] at h
  all_goals repeat' (first | split_ifs at h | split at h)
  all_goals (cases h; try exact ⟨rfl, rfl⟩)

end Runtime

open Runtime

/-- A connection's step keeps the sessions live. -/
theorem SessionsLive.connStep {g g' : Runtime} {inp : Input} (h : SessionsLive g.registry g.conns)
    (hk : g.conns[k]? = some c) (hs : g.connStep k c inp = some g') :
    SessionsLive g'.registry g'.conns := by
  cases hph : c.phase with
  | connecting =>
    simp only [Runtime.connStep, hph] at hs
    cases hp : inp.params with
    | some params =>
      simp only [hp, Option.some.injEq] at hs
      subst hs
      rw [onAuthenticated_registry, onAuthenticated_conns]
      exact h.authenticate hk hph params
    | none =>
      simp only [hp, Option.some.injEq] at hs
      subst hs
      exact h.setPhase hk (by simp [hph, ConnPhase.preAuth]) (by simp [hph, ConnPhase.holdsSession])
  | reading =>
    simp only [Runtime.connStep, hph] at hs
    cases hf : inp.frame with
    | some r =>
      simp only [hf, Option.some.injEq, handleResult] at hs
      subst hs
      split
      · exact h.setPhase hk (by simp [hph, ConnPhase.preAuth]) fun _ => rfl
      · exact h
    | none =>
      simp only [hf, Option.some.injEq] at hs
      subst hs
      exact h.setPhase hk (by simp [hph, ConnPhase.preAuth]) fun _ => rfl
  | delivering owner r =>
    simp only [Runtime.connStep, hph, deliver] at hs
    split at hs
    · split_ifs at hs
      cases hs
      exact h.setPhase hk (by simp [hph, ConnPhase.preAuth]) fun _ => rfl
    · cases hs
  | closingWs w =>
    simp only [Runtime.connStep, hph, Option.some.injEq] at hs
    subst hs
    cases w
    · exact h.setPhase hk (by simp [hph, ConnPhase.preAuth])
        (by simp [hph, ConnPhase.holdsSession])
    · exact h.setPhase hk (by simp [hph, ConnPhase.preAuth]) fun _ => rfl
  | unregistering =>
    simp only [Runtime.connStep, hph, Option.some.injEq, onDisconnected] at hs
    subst hs
    rw [if_neg (h.wf.connID_ne c (List.getElem?_mem hk))]
    rcases hu : g.registry.unregister c.connID with ⟨reg', _ | n⟩
    · simpa [hu] using (h.unregister hk rfl rfl :
        SessionsLive _ (g.conns.set k { c with phase := .closed, unregistered := none }))
    · simpa [hu] using (h.unregister hk rfl rfl :
        SessionsLive _ (g.conns.set k { c with phase := .collecting n, unregistered := some n }))
  | collecting n =>
    simp only [Runtime.connStep, hph, Option.some.injEq] at hs
    subst hs
    exact h.setPhase hk (by simp [hph, ConnPhase.preAuth]) (by simp [hph, ConnPhase.holdsSession])
  | cancelling toCancel =>
    cases toCancel with
    | nil =>
      simp only [Runtime.connStep, hph, Option.some.injEq] at hs
      subst hs
      exact h.setPhase hk (by simp [hph, ConnPhase.preAuth]) (by simp [hph, ConnPhase.holdsSession])
    | cons owner rest =>
      simp only [Runtime.connStep, hph, closeCancel] at hs
      repeat' split at hs
      all_goals cases hs
      · exact h
      · exact h.setPhase hk (by simp [hph, ConnPhase.preAuth])
          (by simp [hph, ConnPhase.holdsSession])
  | closed => simp [Runtime.connStep, hph] at hs

/-- **Every step keeps the sessions live.** -/
theorem SessionsLive.next {g g' : Runtime} (h : SessionsLive g.registry g.conns) {a : Action}
    (hn : g.next a = some g') : SessionsLive g'.registry g'.conns := by
  cases a with
  | accept rand =>
    simp only [Runtime.next] at hn
    split_ifs at hn with hfresh
    cases hn
    simp only [Bool.or_eq_true, not_or, List.any_eq_true, decide_eq_true_eq, not_exists,
      not_and] at hfresh
    exact h.accept hfresh.2 (generateID_ne_empty rand)
  | invoke req =>
    simp only [Runtime.next] at hn
    split_ifs at hn
    cases hn
    exact h
  | conn k inp =>
    simp only [Runtime.next] at hn
    split_ifs at hn
    split at hn
    · exact SessionsLive.connStep h ‹_› hn
    · cases hn
  | call i inp =>
    simp only [Runtime.next] at hn
    split_ifs at hn
    split at hn
    · obtain ⟨h₁, h₂⟩ := callStep_frame hn
      rw [h₁, h₂]
      exact h
    · cases hn

theorem sessionsLive_of_reachable {g : Runtime} (h : g.Reachable) :
    SessionsLive g.registry g.conns :=
  reachable_induction (fun g => SessionsLive g.registry g.conns) SessionsLive.init
    (fun _ _ _ h hn => h.next hn) h

/-- **Node sessions live only within their connection's authenticated lifetime.**  In every
reachable state, every session in the registry is that of a connection which completed the
handshake as that node (role `"node"`, client id the session's node) and has not finished its
teardown; the registry lists at most one session per node; and once every connection has
finished, it lists none. -/
theorem node_sessions_live {g : Runtime} (h : g.Reachable) :
    (∀ s ∈ g.registry.list, ∃ c ∈ g.conns,
      c.connID = s.connID ∧ c.nodeID? = some s.nodeID ∧ c.phase ≠ .closed) ∧
    (g.registry.list.map (·.nodeID)).Nodup ∧
    ((∀ c ∈ g.conns, c.phase = .closed) → g.registry.list = []) := by
  have hl := sessionsLive_of_reachable h
  have hsess : ∀ s ∈ g.registry.list, ∃ c ∈ g.conns,
      c.connID = s.connID ∧ c.phase.holdsSession ∧ c.nodeID? = some s.nodeID := by
    intro s hs
    obtain ⟨n, hn⟩ := Registry.mem_list.1 hs
    rw [(hl.consistent.byNode n s hn).1]
    exact hl.session n s hn
  refine ⟨fun s hs => ?_, hl.consistent.list_nodup, fun hall => ?_⟩
  · obtain ⟨c, hc, hid, hh, hn⟩ := hsess s hs
    exact ⟨c, hc, hid, hn, fun hcl => by simp [hcl, ConnPhase.holdsSession] at hh⟩
  · refine List.eq_nil_iff_forall_not_mem.2 fun s hs => ?_
    obtain ⟨c, hc, -, hh, -⟩ := hsess s hs
    simp [hall c hc, ConnPhase.holdsSession] at hh

theorem node_sessions_live_after_replacement :
    (∀ s ∈ (Runtime.reach replacedConn).registry.list, ∃ c ∈ (Runtime.reach replacedConn).conns,
      c.connID = s.connID ∧ c.nodeID? = some s.nodeID ∧ c.phase ≠ .closed) ∧
    ((Runtime.reach replacedConn).registry.list.map (·.nodeID)).Nodup ∧
    ((∀ c ∈ (Runtime.reach replacedConn).conns, c.phase = .closed) →
      (Runtime.reach replacedConn).registry.list = []) :=
  node_sessions_live ⟨replacedConn, rfl⟩

end GoClaw
