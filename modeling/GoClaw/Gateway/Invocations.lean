import GoClaw.Gateway.Sessions

namespace GoClaw

/-!
# Gateway — invocations and connection teardown (`invoker.go`, `gateway.go`)

An `Invoke` call writes its request through the session it got from the registry and then waits,
in a `select`, for a result, a cancel, its timeout or its context.  The cancel comes from
`CancelPendingForNode`, which a connection's `OnDisconnected` runs for the node its `Unregister`
found; a connection whose session was replaced by a later one finds nothing and cancels nothing.

* `InvocationsCovered`: every invocation that went out through a connection is still pending
  under its own id for its node, and is covered by that connection's teardown: collected by it,
  or already cancelled, once it runs `CancelPendingForNode`.
* `InvocationsCovered.next`: every step keeps it.
* `teardown_cancels_sent_invocations`: so once a connection's `OnDisconnected` has finished after
  its `Unregister` found its session, every invocation that went out through it has returned or
  has its cancel channel closed.
* `replaced_teardown_leaves_invocation_waiting`: when the session had been replaced, the teardown
  finishes with such an invocation still waiting and not cancelled.
-/

section Lists

variable {α : Type} {l : List α} {i j : Nat} {x v : α}

theorem getElem?_set_eq_some (h : (l.set j x)[i]? = some v) :
    (i = j ∧ v = x) ∨ (i ≠ j ∧ l[i]? = some v) := by
  rw [List.getElem?_set] at h
  split_ifs at h with hji
  · exact .inl ⟨hji.symm, (Option.some.inj h).symm⟩
  · exact .inr ⟨Ne.symm hji, h⟩

theorem getElem?_concat_eq_some (h : (l ++ [x])[i]? = some v) : l[i]? = some v ∨ v = x := by
  by_cases hi : i < l.length
  · rw [List.getElem?_append_left hi] at h
    exact .inl h
  · rw [List.getElem?_append_right (Nat.le_of_not_lt hi)] at h
    exact .inr (List.mem_singleton.1 (List.getElem?_mem h))

/-- An element held at another position survives `eraseIdx`. -/
theorem mem_eraseIdx_of_ne (hx : x ∈ l) (hj : l[j]? = some v) (hne : x ≠ v) :
    x ∈ l.eraseIdx j := by
  obtain ⟨i, hi⟩ := List.mem_iff_getElem?.1 hx
  refine List.mem_eraseIdx_iff_getElem?.2 ⟨i, ?_, hi⟩
  rintro rfl
  exact hne (Option.some.inj (hi.symm.trans hj))

end Lists

/-- Before the request goes out. -/
def InvokePhase.beforeSend : InvokePhase → Bool
  | .start | .registering _ | .sending _ _ => true
  | _ => false

/-- What connection `c`'s teardown owes invocation `i`, sent through it: nothing before
`CancelPendingForNode` collects; then `i` is among the cancel channels still to close; and a
teardown that finished has closed them all, unless its `Unregister` found no session. -/
def Conn.covers (c : Conn) (i : Nat) : Prop :=
  match c.phase with
  | .cancelling toCancel => i ∈ toCancel
  | .closed => c.unregistered = none
  | _ => True

/-- Before its socket closes, a connection's teardown owes nothing. -/
theorem Conn.covers_of_wsOpen {c : Conn} (h : c.phase.wsOpen) (i : Nat) : c.covers i := by
  rcases c with ⟨_, _, _ | _ | _ | _ | _ | _ | _ | _, _⟩ <;> trivial

/-- `CancelPendingForNode` collects every invocation pending for its node. -/
theorem mem_collectFor {pending : GoMap PendingInvoke} {id nodeID : String} {i : Nat}
    (h : pending.lookup id = some ⟨i, nodeID⟩) : i ∈ Runtime.collectFor pending nodeID :=
  List.mem_filterMap.2 ⟨⟨id, ⟨i, nodeID⟩⟩, AList.mem_lookup_iff.1 h, by simp⟩

/-- Invocations and the teardowns of the connections they went out through agree. -/
structure InvocationsCovered (g : Runtime) : Prop where
  live : SessionsLive g.registry g.conns
  /-- A connection collecting for a node registered as that node. -/
  collecting : ∀ c ∈ g.conns, ∀ n, c.phase = .collecting n → c.nodeID? = some n
  /-- An invocation that has filed an id is pending under it, as its own, for its node. -/
  pending : ∀ i v, g.invocations[i]? = some v → ∀ id, v.phase.id? = some id →
    g.pending.lookup id = some ⟨i, v.req.nodeID⟩
  /-- The session an invocation holds is that of a connection registered as its node. -/
  session : ∀ v ∈ g.invocations, ∀ s, v.phase.session? = some s →
    ∃ c ∈ g.conns, c.connID = s.connID ∧ c.nodeID? = some v.req.nodeID
  /-- An invocation that went out through a connection (registered as its node) has returned, is
  cancelled, or is still pending and covered by the connection's teardown. -/
  sent : ∀ i v, g.invocations[i]? = some v → ∀ cid, v.sentVia = some cid →
    v.phase.beforeSend = false ∧
      ∃ c ∈ g.conns, c.connID = cid ∧ c.nodeID? = some v.req.nodeID ∧
        (v.phase.isReturned ∨ v.cancelClosed ∨ (v.phase.id?.isSome ∧ c.covers i))

namespace InvocationsCovered

open Runtime

variable {g g' : Runtime} {k i : Nat} {c c' : Conn} {v v' : Invocation}

theorem init : InvocationsCovered Runtime.init where
  live := SessionsLive.init
  collecting _ h := absurd h (List.not_mem_nil _)
  pending _ _ h := by simp [Runtime.init] at h
  session _ h := absurd h (List.not_mem_nil _)
  sent _ _ h := by simp [Runtime.init] at h

/-- An invocation before its send went out through no connection. -/
theorem sentVia_none (h : InvocationsCovered g) (hi : g.invocations[i]? = some v)
    (hb : v.phase.beforeSend) : v.sentVia = none := by
  cases hs : v.sentVia with
  | none => rfl
  | some cid =>
    have := (h.sent i v hi cid hs).1
    simp [hb] at this

/-- A step of connection `k` that keeps its id and node, leaves the invocations and `pending` as
they are, collects only for its own node and keeps what its teardown owes. -/
theorem conn (h : InvocationsCovered g) (hlive : SessionsLive g'.registry g'.conns)
    (hk : g.conns[k]? = some c) (hconns : g'.conns = g.conns.set k c')
    (hpend : g'.pending = g.pending) (hinv : g'.invocations = g.invocations)
    (hid : c'.connID = c.connID) (hnode : ∀ n, c.nodeID? = some n → c'.nodeID? = some n)
    (hcoll : ∀ n, c'.phase = .collecting n → c'.nodeID? = some n)
    (hcov : ∀ i v, g.invocations[i]? = some v → v.sentVia = some c.connID →
      c.nodeID? = some v.req.nodeID → v.phase.id?.isSome → v.cancelClosed = false →
      c.covers i → c'.covers i) :
    InvocationsCovered g' := by
  -- a connection registered as a node is still there, as the same node
  have hconn : ∀ cid n, (∃ d ∈ g.conns, d.connID = cid ∧ d.nodeID? = some n) →
      ∃ d ∈ g'.conns, d.connID = cid ∧ d.nodeID? = some n := by
    rintro cid n ⟨d, hd, hdid, hdn⟩
    rw [hconns]
    by_cases hdc : d = c
    · subst hdc
      exact ⟨c', mem_set_of_getElem? hk, hid.trans hdid, hnode n hdn⟩
    · exact ⟨d, mem_set_of_ne hd hk hdc, hdid, hdn⟩
  refine ⟨hlive, fun d hd n hn => ?_, hpend ▸ hinv ▸ h.pending, fun v hv s hs => ?_,
    fun i v hv cid hsv => ?_⟩
  · rw [hconns] at hd
    rcases List.mem_or_eq_of_mem_set hd with hd | rfl
    · exact h.collecting d hd n hn
    · exact hcoll n hn
  · exact hconn _ _ (h.session v (hinv ▸ hv) s hs)
  · rw [hinv] at hv
    obtain ⟨hb, d, hd, hdid, hdn, hcv⟩ := h.sent i v hv cid hsv
    refine ⟨hb, ?_⟩
    rw [hconns]
    by_cases hdc : d = c
    · subst hdc
      refine ⟨c', mem_set_of_getElem? hk, hid.trans hdid, hnode _ hdn, ?_⟩
      rcases hcv with hr | hcl | ⟨hsome, hcv⟩
      · exact .inl hr
      · exact .inr (.inl hcl)
      · cases hcl : v.cancelClosed
        · exact .inr (.inr ⟨hsome, hcov i v hv (hdid ▸ hsv) hdn hsome hcl hcv⟩)
        · exact .inr (.inl rfl)
    · exact ⟨d, mem_set_of_ne hd hk hdc, hdid, hdn, hcv⟩

/-- A step that fills or closes a channel of invocation `j` keeps the invariant: the invocation's
phase, request and route stay, and a closed cancel channel stays closed. -/
theorem channels (h : InvocationsCovered g) {j : Nat} {w w' : Invocation}
    (hj : g.invocations[j]? = some w) (hph : w'.phase = w.phase) (hreq : w'.req = w.req)
    (hsv : w'.sentVia = w.sentVia) (hcl : w.cancelClosed → w'.cancelClosed) :
    InvocationsCovered { g with invocations := g.invocations.set j w' } := by
  have hw := List.getElem?_mem hj
  refine ⟨h.live, h.collecting, fun i v hv => ?_, fun v hv => ?_, fun i v hv cid hs => ?_⟩
  · rcases getElem?_set_eq_some hv with ⟨rfl, rfl⟩ | ⟨-, hv⟩
    · rw [hph, hreq]
      exact h.pending i w hj
    · exact h.pending i v hv
  · rcases List.mem_or_eq_of_mem_set hv with hv | rfl
    · exact h.session v hv
    · rw [hph, hreq]
      exact h.session w hw
  · rcases getElem?_set_eq_some hv with ⟨rfl, rfl⟩ | ⟨-, hv⟩
    · rw [hsv] at hs
      obtain ⟨hb, d, hd, hdid, hdn, hcv⟩ := h.sent i w hj cid hs
      rw [hph, hreq]
      refine ⟨hb, d, hd, hdid, hdn, ?_⟩
      rcases hcv with hr | hc | hc
      · exact .inl hr
      · exact .inr (.inl (hcl hc))
      · exact .inr (.inr hc)
    · exact h.sent i v hv cid hs

/-- A step of invocation `i` from `v` to `v'`, with `pending'` for `pending`, keeps the invariant
when it keeps the others' entries, files `v'` under its own id, holds only a session of a
connection registered as its node, and sends only through one whose teardown covers it. -/
theorem call (h : InvocationsCovered g) (hi : g.invocations[i]? = some v)
    {pending' : GoMap PendingInvoke} (hreq : v'.req = v.req)
    (hpend : ∀ j u, j ≠ i → g.invocations[j]? = some u → ∀ id, u.phase.id? = some id →
      pending'.lookup id = some ⟨j, u.req.nodeID⟩)
    (hown : ∀ id, v'.phase.id? = some id → pending'.lookup id = some ⟨i, v.req.nodeID⟩)
    (hsess : ∀ s, v'.phase.session? = some s →
      ∃ c ∈ g.conns, c.connID = s.connID ∧ c.nodeID? = some v.req.nodeID)
    (hsent : ∀ cid, v'.sentVia = some cid → v'.phase.beforeSend = false ∧
      ∃ c ∈ g.conns, c.connID = cid ∧ c.nodeID? = some v.req.nodeID ∧
        (v'.phase.isReturned ∨ v'.cancelClosed ∨ (v'.phase.id?.isSome ∧ c.covers i))) :
    InvocationsCovered { g with invocations := g.invocations.set i v', pending := pending' } := by
  refine ⟨h.live, h.collecting, fun j u hu => ?_, fun u hu => ?_, fun j u hu => ?_⟩
  · rcases getElem?_set_eq_some hu with ⟨rfl, rfl⟩ | ⟨hji, hu⟩
    · rw [hreq]
      exact hown
    · exact hpend j u hji hu
  · rcases List.mem_or_eq_of_mem_set hu with hu | rfl
    · exact h.session u hu
    · rw [hreq]
      exact hsess
  · rcases getElem?_set_eq_some hu with ⟨rfl, rfl⟩ | ⟨-, hu⟩
    · rw [hreq]
      exact hsent
    · exact h.sent j u hu

/-- **A connection's step keeps the invariant.** -/
theorem connStep (h : InvocationsCovered g) (hk : g.conns[k]? = some c) {inp : Input}
    (hs : g.connStep k c inp = some g') : InvocationsCovered g' := by
  have hlive := SessionsLive.connStep h.live hk hs
  have hmem := List.getElem?_mem hk
  cases hph : c.phase with
  | connecting =>
    have hnone : c.nodeID? = none := by
      simp [Conn.nodeID?, h.live.wf.preAuth c hmem (by simp [hph, ConnPhase.preAuth])]
    simp only [Runtime.connStep, hph] at hs
    cases hp : inp.params with
    | some params =>
      simp only [hp, Option.some.injEq] at hs
      subst hs
      exact h.conn hlive hk (onAuthenticated_conns _ _ _ _) (onAuthenticated_pending _ _ _ _)
        (onAuthenticated_invocations _ _ _ _) rfl (by simp [hnone]) (by simp)
        fun _ _ _ _ _ _ _ _ => trivial
    | none =>
      simp only [hp, Option.some.injEq] at hs
      subst hs
      exact h.conn hlive hk rfl rfl rfl rfl (fun _ h => h) (by simp)
        fun _ _ _ _ _ _ _ _ => trivial
  | reading =>
    simp only [Runtime.connStep, hph] at hs
    cases hf : inp.frame with
    | some r =>
      simp only [hf, Option.some.injEq, handleResult] at hs
      subst hs
      cases hl : g.pending.lookup r.id with
      | some pi =>
        simp only [hl] at hlive ⊢
        exact h.conn hlive hk rfl rfl rfl rfl (fun _ h => h) (by simp)
          fun _ _ _ _ _ _ _ _ => trivial
      | none =>
        simp only [hl]
        exact h
    | none =>
      simp only [hf, Option.some.injEq] at hs
      subst hs
      exact h.conn hlive hk rfl rfl rfl rfl (fun _ h => h) (by simp)
        fun _ _ _ _ _ _ _ _ => trivial
  | delivering owner r =>
    simp only [Runtime.connStep, hph, deliver] at hs
    split at hs
    · rename_i w hw
      split_ifs at hs
      cases hs
      have h₁ : InvocationsCovered (g.setConn k { c with phase := .reading }) :=
        h.conn (h.live.setPhase hk (by simp [ConnPhase.preAuth]) fun _ => rfl) hk rfl rfl rfl rfl
          (fun _ h => h) (by simp) fun _ _ _ _ _ _ _ _ => trivial
      exact h₁.channels hw rfl rfl rfl id
    · cases hs
  | closingWs w =>
    simp only [Runtime.connStep, hph, Option.some.injEq] at hs
    subst hs
    cases w
    · -- a failed handshake: the connection is no node's, so nothing went out through it
      have hnone : c.nodeID? = none := by
        simp [Conn.nodeID?, h.live.wf.preAuth c hmem (by simp [hph, ConnPhase.preAuth])]
      exact h.conn hlive hk rfl rfl rfl rfl (fun _ h => h) (by simp)
        fun _ _ _ _ hn => by simp [hnone] at hn
    · exact h.conn hlive hk rfl rfl rfl rfl (fun _ h => h) (by simp)
        fun _ _ _ _ _ _ _ _ => trivial
  | unregistering =>
    simp only [Runtime.connStep, hph, Option.some.injEq, onDisconnected] at hs
    subst hs
    rw [if_neg (h.live.wf.connID_ne c hmem)] at hlive ⊢
    rcases hu : g.registry.unregister c.connID with ⟨reg', _ | n⟩
    · rw [hu] at hlive
      exact h.conn hlive hk rfl rfl rfl rfl (fun _ h => h) (by simp)
        fun _ _ _ _ _ _ _ _ => rfl
    · -- `Unregister` found the node through the connection's mapping: the connection's own
      have hn : c.nodeID? = some n := by
        have hc : g.registry.byConnID.lookup c.connID = some n := by
          rw [← Registry.unregister_snd, hu]
        obtain ⟨s, hs, hsc⟩ := h.live.consistent.byConn _ _ hc
        obtain ⟨d, hd, hdid, -, hdn⟩ := h.live.session n s hs
        rwa [h.live.wf.eq_of_connID hd hmem (hdid.trans hsc)] at hdn
      rw [hu] at hlive
      exact h.conn hlive hk rfl rfl rfl rfl (fun _ h => h) (fun _ he => by cases he; exact hn)
        fun _ _ _ _ _ _ _ _ => trivial
  | collecting n =>
    simp only [Runtime.connStep, hph, Option.some.injEq] at hs
    subst hs
    refine h.conn hlive hk rfl rfl rfl rfl (fun _ h => h) (by simp)
      fun i v hv _ hn hsome _ _ => ?_
    obtain ⟨id, hid⟩ := Option.isSome_iff_exists.1 hsome
    have hnv : n = v.req.nodeID :=
      Option.some.inj ((h.collecting c hmem n hph).symm.trans hn)
    show i ∈ collectFor g.pending n
    exact mem_collectFor (hnv ▸ h.pending i v hv id hid)
  | cancelling toCancel =>
    cases toCancel with
    | nil =>
      simp only [Runtime.connStep, hph, Option.some.injEq] at hs
      subst hs
      exact h.conn hlive hk rfl rfl rfl rfl (fun _ h => h) (by simp)
        fun _ _ _ _ _ _ _ hcv => by simp [Conn.covers, hph] at hcv
    | cons o rest =>
      simp only [Runtime.connStep, hph, closeCancel] at hs
      split at hs
      · rename_i owner howner
        split at hs
        · rename_i w hw
          split_ifs at hs with hcl
          · cases hs
            exact ⟨h.live, h.collecting, h.pending, h.session, h.sent⟩
          · cases hs
            -- first the channel closes, then the connection moves on to the rest
            have h₁ : InvocationsCovered
                { g with invocations := g.invocations.set owner { w with cancelClosed := true } } :=
              h.channels hw rfl rfl rfl fun _ => rfl
            refine h₁.conn hlive hk rfl rfl rfl rfl (fun _ h => h) (by simp)
              fun i v hv _ _ _ hvc hcv => ?_
            have hio : i ≠ owner := by
              rintro rfl
              rw [List.getElem?_set_self (List.getElem?_eq_some_iff.1 hw).1] at hv
              cases hv
              cases hvc
            rw [Conn.covers, hph] at hcv
            exact mem_eraseIdx_of_ne hcv howner hio
        · cases hs
      · cases hs
  | closed => simp [Runtime.connStep, hph] at hs

/-- **An invocation's step keeps the invariant.** -/
theorem callStep (h : InvocationsCovered g) (hi : g.invocations[i]? = some v) {inp : Input}
    (hs : g.callStep i v inp = some g') : InvocationsCovered g' := by
  have hv := List.getElem?_mem hi
  -- the entries of the other invocations stay
  have hkeep : ∀ j u, j ≠ i → g.invocations[j]? = some u → ∀ id, u.phase.id? = some id →
      g.pending.lookup id = some ⟨j, u.req.nodeID⟩ := fun j u _ => h.pending j u
  -- a step between two phases with the same id, route and cancel state
  have hsame : ∀ ph : InvokePhase, ph.id? = v.phase.id? → ph.session? = none →
      ph.beforeSend = v.phase.beforeSend → ph.isReturned = v.phase.isReturned →
      ∀ r, InvocationsCovered (g.setInvocation i { v with phase := ph, result := r }) := by
    intro ph hid hsess hb hr r
    refine h.call hi rfl hkeep (fun id hid' => h.pending i v hi id (hid ▸ hid'))
      (by simp [hsess]) fun cid hsv => ?_
    obtain ⟨hb', d, hd, hdid, hdn, hcv⟩ := h.sent i v hi cid hsv
    exact ⟨hb.trans hb', d, hd, hdid, hdn, by simpa only [hid, hr] using hcv⟩
  cases hph : v.phase with
  | start =>
    have hnone := h.sentVia_none hi (by simp [hph, InvokePhase.beforeSend])
    simp only [Runtime.callStep, hph] at hs
    split at hs
    · rename_i s hget
      cases hs
      refine h.call hi rfl hkeep (by simp [InvokePhase.id?]) (fun s' hs' => ?_) (by simp [hnone])
      cases hs'
      obtain ⟨d, hd, hdid, -, hdn⟩ := h.live.session _ s hget
      exact ⟨d, hd, hdid, hdn⟩
    · cases hs
      exact h.call hi rfl hkeep (by simp [InvokePhase.id?]) (by simp [InvokePhase.session?])
        (by simp [hnone])
  | registering s =>
    have hnone := h.sentVia_none hi (by simp [hph, InvokePhase.beforeSend])
    simp only [Runtime.callStep, hph] at hs
    split_ifs at hs with hfresh
    cases hs
    -- the new id is fresh, so the others' entries stay
    refine h.call hi rfl (fun j u hji hu id hid => ?_) (fun id hid => ?_)
      (fun s' hs' => ?_) (by simp [hnone])
    · have hne : id ≠ generateInvokeID inp.rand := by
        rintro rfl
        rw [h.pending j u hu _ hid] at hfresh
        cases hfresh
      rw [AList.lookup_insert_ne hne]
      exact h.pending j u hu id hid
    · cases hid
      exact AList.lookup_insert _
    · cases hs'
      exact h.session v hv s (by simp [hph, InvokePhase.session?])
  | sending s id =>
    have hnone := h.sentVia_none hi (by simp [hph, InvokePhase.beforeSend])
    have hown : ∀ id', InvokePhase.id? (.waiting id) = some id' →
        g.pending.lookup id' = some ⟨i, v.req.nodeID⟩ :=
      fun id' hid => h.pending i v hi id' (by rw [hph]; exact hid)
    simp only [Runtime.callStep, hph] at hs
    split_ifs at hs with hsend
    · cases hs
      -- the socket was open, so the connection's teardown has not yet collected
      obtain ⟨-, hopen⟩ := Bool.and_eq_true_iff.1 hsend
      obtain ⟨d, hd, hdo⟩ := List.any_eq_true.1 hopen
      simp only [Bool.and_eq_true, decide_eq_true_eq] at hdo
      obtain ⟨c, hc, hcid, hcn⟩ := h.session v hv s (by simp [hph, InvokePhase.session?])
      have hdc : d = c := h.live.wf.eq_of_connID hd hc (hdo.1.trans hcid.symm)
      subst hdc
      refine h.call hi rfl hkeep hown (by simp [InvokePhase.session?]) fun cid hsv => ?_
      cases hsv
      exact ⟨rfl, d, hd, hcid, hcn, .inr (.inr ⟨rfl, Conn.covers_of_wsOpen hdo.2 i⟩)⟩
    · cases hs
      exact h.call hi rfl hkeep (fun id' hid => h.pending i v hi id' (by rw [hph]; exact hid))
        (by simp [InvokePhase.session?]) (by simp [hnone])
  | waiting id =>
    simp only [Runtime.callStep, hph] at hs
    split at hs <;> (try split_ifs at hs) <;> cases hs <;>
      exact hsame _ (by simp [hph, InvokePhase.id?]) (by rfl)
        (by simp [hph, InvokePhase.beforeSend]) (by simp [hph, InvokePhase.isReturned]) _
  | deferring id o =>
    simp only [Runtime.callStep, hph, Option.some.injEq] at hs
    subst hs
    -- the id is this invocation's own, so no other is pending under it
    refine h.call hi rfl (fun j u hji hu id' hid => ?_) (by simp [InvokePhase.id?])
      (by simp [InvokePhase.session?]) fun cid hsv => ?_
    · have hne : id' ≠ id := by
        rintro rfl
        have := (h.pending i v hi id' (by simp [hph, InvokePhase.id?])).symm.trans
          (h.pending j u hu id' hid)
        exact hji (congrArg PendingInvoke.owner (Option.some.inj this)).symm
      rw [AList.lookup_erase_ne hne]
      exact h.pending j u hu id' hid
    · obtain ⟨-, d, hd, hdid, hdn, -⟩ := h.sent i v hi cid hsv
      exact ⟨rfl, d, hd, hdid, hdn, .inl rfl⟩
  | returned o => simp [Runtime.callStep, hph] at hs

/-- **Every step keeps the invariant.** -/
theorem next (h : InvocationsCovered g) {a : Action} (hn : g.next a = some g') :
    InvocationsCovered g' := by
  have hlive := h.live.next hn
  cases a with
  | accept rand =>
    simp only [Runtime.next] at hn
    split_ifs at hn
    cases hn
    refine ⟨hlive, fun d hd n hn => ?_, h.pending, fun v hv s hs => ?_,
      fun i v hv cid hsv => ?_⟩
    · rcases List.mem_append.1 hd with hd | hd
      · exact h.collecting d hd n hn
      · rw [List.mem_singleton.1 hd] at hn
        cases hn
    · obtain ⟨d, hd, hdd⟩ := h.session v hv s hs
      exact ⟨d, List.mem_append_left _ hd, hdd⟩
    · obtain ⟨hb, d, hd, hdd⟩ := h.sent i v hv cid hsv
      exact ⟨hb, d, List.mem_append_left _ hd, hdd⟩
  | invoke req =>
    simp only [Runtime.next] at hn
    split_ifs at hn
    cases hn
    refine ⟨hlive, h.collecting, fun i v hv => ?_, fun v hv => ?_, fun i v hv => ?_⟩
    · rcases getElem?_concat_eq_some hv with hv | rfl
      · exact h.pending i v hv
      · simp [InvokePhase.id?]
    · rcases List.mem_append.1 hv with hv | hv
      · exact h.session v hv
      · rw [List.mem_singleton.1 hv]
        simp [InvokePhase.session?]
    · rcases getElem?_concat_eq_some hv with hv | rfl
      · exact h.sent i v hv
      · simp
  | conn k inp =>
    simp only [Runtime.next] at hn
    split_ifs at hn
    split at hn
    · exact h.connStep ‹_› hn
    · cases hn
  | call i inp =>
    simp only [Runtime.next] at hn
    split_ifs at hn
    split at hn
    · exact h.callStep ‹_› hn
    · cases hn

end InvocationsCovered

open Runtime

theorem invocationsCovered_of_reachable {g : Runtime} (h : g.Reachable) : InvocationsCovered g :=
  reachable_induction InvocationsCovered InvocationsCovered.init (fun _ _ _ h hn => h.next hn) h

/-- **A teardown that found its session cancels what went out through it.**  Once a connection's
`OnDisconnected` has finished after its `Unregister` found its session, every invocation whose
request went out through the connection has returned or has its cancel channel closed. -/
theorem teardown_cancels_sent_invocations {g : Runtime} (h : g.Reachable) {c : Conn}
    (hc : c ∈ g.conns) (hcl : c.phase = .closed) (hun : c.unregistered ≠ none)
    {v : Invocation} (hv : v ∈ g.invocations) (hsent : v.sentVia = some c.connID) :
    v.phase.isReturned ∨ v.cancelClosed := by
  have hI := invocationsCovered_of_reachable h
  obtain ⟨i, hi⟩ := List.mem_iff_getElem?.1 hv
  obtain ⟨-, d, hd, hdid, -, hcv⟩ := hI.sent i v hi _ hsent
  rw [hI.live.wf.eq_of_connID hd hc hdid] at hcv
  rcases hcv with hr | hcl' | ⟨-, hcov⟩
  · exact .inl hr
  · exact .inr hcl'
  · rw [Conn.covers, hcl] at hcov
    exact absurd hcov hun

/-- Node `"n"` connects on connection 0 and is invoked; the request goes out through connection
0, which then reads an error and tears down: its `Unregister` finds the node and its
`CancelPendingForNode` closes the call's cancel channel — before the call has run. -/
def cancelledTeardown : List Action :=
  [.accept fun _ => 0, .conn 0 { params := some (nodeHello "n") }, .invoke { nodeID := "n" },
   .call 0 {}, .call 0 {}, .call 0 {},
   .conn 0 {}, .conn 0 {}, .conn 0 {}, .conn 0 {}, .conn 0 {}, .conn 0 {}]

theorem teardown_cancels_sent_invocations_after_drop :
    (reach cancelledTeardown).invocations[0]!.phase.isReturned ∨
      (reach cancelledTeardown).invocations[0]!.cancelClosed :=
  teardown_cancels_sent_invocations ⟨cancelledTeardown, rfl⟩ (@List.getElem?_mem _ _ 0 _ rfl)
    rfl (by decide) (@List.getElem?_mem _ _ 0 _ rfl) rfl

/-- A teardown that found no session cancels nothing: after `replacedConn`, connection 0 — which
registered as node `"n"` — has finished its teardown, while the call whose request went out
through it still waits with its cancel channel open. -/
theorem replaced_teardown_leaves_invocation_waiting :
    (reach replacedConn).Reachable ∧
    (reach replacedConn).conns[0]!.phase = .closed ∧
    (reach replacedConn).conns[0]!.nodeID? = some "n" ∧
    (reach replacedConn).invocations[0]!.sentVia = some (reach replacedConn).conns[0]!.connID ∧
    (reach replacedConn).invocations[0]!.phase = .waiting (generateInvokeID fun _ => 0) ∧
    (reach replacedConn).invocations[0]!.cancelClosed = false :=
  ⟨⟨replacedConn, rfl⟩, by decide⟩

end GoClaw
