import GoClaw.Pairing.Types

namespace GoClaw

/-!
# Node — the session registry (`registry.go`)

`Registry` indexes the connected node sessions twice: by `NodeID`, and from each `ConnID` to the
`NodeID` it serves.  `Register` replaces the session of a node that reconnects and drops the old
connection's mapping; `Unregister` removes a session by the connection it came from, and only
when that connection still has a mapping.

* `Registry.Consistent`: the two indexes agree — every session is filed under its own node and
  its connection maps back to that node, and every mapped connection is the connection of its
  node's session.
* `Consistent.register_of_conn`, `Consistent.unregister`: both operations keep the indexes
  consistent, `register` for a session whose connection maps, if at all, to the session's own
  node (in the gateway connection ids are fresh: `Consistent.register`).
* `Consistent.list_nodup`: `List` returns at most one session per node.
* `run_indexes_agree`: over every sequence of `Register`, `Unregister`, `Get` and `List` calls
  that registers no connection under two nodes, the indexes agree after every call, and
  `Unregister` removes exactly the session of its connection.  Once `(n, c)` is followed by a
  `Register` of `(n, c')`, `Unregister(c)` finds nothing (`run_unregister_superseded`) and `Get(n)`
  is `(n, c')` until `n` registers again or `c'` unregisters (`run_get_latest`).
-/

/-- `NodeSession`, with what the gateway reads of it: its node and the connection whose
`SendEvent` its `sendFunc` calls. -/
structure NodeSession where
  nodeID : String
  connID : String
  deriving DecidableEq, Repr

/-- `Registry`: `byNodeID` and `byConnID` (connection → node). -/
structure Registry where
  byNodeID : GoMap NodeSession
  byConnID : GoMap String

namespace Registry

/-- `NewRegistry`. -/
def empty : Registry := ⟨∅, ∅⟩

/-- `Register`: drop the connection mapping of the node's old session, then file the session
under its node and map its connection to the node. -/
def register (r : Registry) (session : NodeSession) : Registry :=
  let byConnID := match r.byNodeID.lookup session.nodeID with
    | some old => r.byConnID.erase old.connID
    | none => r.byConnID
  ⟨r.byNodeID.insert session.nodeID session, byConnID.insert session.connID session.nodeID⟩

/-- `Get`. -/
def get (r : Registry) (nodeID : String) : Option NodeSession := r.byNodeID.lookup nodeID

/-- `Unregister`: the node the connection maps to, removed from both indexes; `none` (Go's
`"", false`) when the connection has no mapping. -/
def unregister (r : Registry) (connID : String) : Registry × Option String :=
  match r.byConnID.lookup connID with
  | none => (r, none)
  | some nodeID => (⟨r.byNodeID.erase nodeID, r.byConnID.erase connID⟩, some nodeID)

/-- `List`: every session. -/
def list (r : Registry) : List NodeSession := r.byNodeID.entries.map (·.2)

@[simp] theorem unregister_snd (r : Registry) (connID : String) :
    (r.unregister connID).2 = r.byConnID.lookup connID := by
  unfold unregister
  split <;> simp [*]

theorem register_lookup (r : Registry) (session : NodeSession) (n : String) :
    (r.register session).byNodeID.lookup n =
      if n = session.nodeID then some session else r.byNodeID.lookup n := by
  by_cases h : n = session.nodeID
  · subst h
    simp [register, AList.lookup_insert]
  · simp [register, AList.lookup_insert_ne h, h]

theorem unregister_lookup (r : Registry) (connID n : String) :
    (r.unregister connID).1.byNodeID.lookup n =
      if r.byConnID.lookup connID = some n then none else r.byNodeID.lookup n := by
  unfold unregister
  split
  · simp [*]
  · rename_i m hm
    by_cases h : n = m
    · subst h
      simp [hm, AList.lookup_erase]
    · simp [hm, AList.lookup_erase_ne h, Ne.symm h]

theorem mem_list {r : Registry} {s : NodeSession} :
    s ∈ r.list ↔ ∃ n, r.byNodeID.lookup n = some s := by
  simp only [list, List.mem_map]
  constructor
  · rintro ⟨⟨n, s⟩, he, rfl⟩
    exact ⟨n, AList.mem_lookup_iff.2 he⟩
  · rintro ⟨n, h⟩
    exact ⟨⟨n, s⟩, AList.mem_lookup_iff.1 h, rfl⟩

/-! ### The two indexes agree -/

/-- The dual-index invariant. -/
structure Consistent (r : Registry) : Prop where
  /-- Every session is filed under its own node, and its connection maps back to that node. -/
  byNode : ∀ n s, r.byNodeID.lookup n = some s →
    s.nodeID = n ∧ r.byConnID.lookup s.connID = some n
  /-- Every mapped connection is the connection of its node's session. -/
  byConn : ∀ c n, r.byConnID.lookup c = some n →
    ∃ s, r.byNodeID.lookup n = some s ∧ s.connID = c

theorem Consistent.empty : Consistent .empty :=
  ⟨fun _ _ h => by simp [Registry.empty] at h, fun _ _ h => by simp [Registry.empty] at h⟩

variable {r : Registry}

/-- Registering a session whose connection maps, if at all, to the session's own node keeps the
indexes consistent. -/
theorem Consistent.register_of_conn (hr : r.Consistent) {session : NodeSession}
    (hconn : ∀ n, r.byConnID.lookup session.connID = some n → n = session.nodeID) :
    (r.register session).Consistent := by
  -- the connection index once the old session's mapping is dropped
  set m : GoMap String := match r.byNodeID.lookup session.nodeID with
    | some old => r.byConnID.erase old.connID
    | none => r.byConnID with hm
  have hmc : ∀ c n, m.lookup c = some n ↔ r.byConnID.lookup c = some n ∧
      ∀ old, r.byNodeID.lookup session.nodeID = some old → c ≠ old.connID := by
    intro c n
    rw [hm]
    split
    · rename_i old hold
      by_cases hc : c = old.connID
      · subst hc
        simp [AList.lookup_erase, hold]
      · simp [AList.lookup_erase_ne hc, hold, hc]
    · simp_all
  have hbc : (r.register session).byConnID = m.insert session.connID session.nodeID := rfl
  constructor
  · intro n s h
    rw [register_lookup] at h
    split_ifs at h with hn
    · cases h
      exact ⟨hn.symm, by simp [hbc, AList.lookup_insert, hn]⟩
    · obtain ⟨hsn, hsc⟩ := hr.byNode n s h
      have hne : s.connID ≠ session.connID := fun he => hn (hconn n (he ▸ hsc))
      refine ⟨hsn, ?_⟩
      rw [hbc, AList.lookup_insert_ne hne, hmc]
      refine ⟨hsc, fun old hold he => hn ?_⟩
      have := (hr.byNode _ _ hold).2
      rw [← he, hsc] at this
      exact (Option.some.inj this)
  · intro c n h
    rw [hbc] at h
    by_cases hc : c = session.connID
    · subst hc
      simp only [AList.lookup_insert, Option.some.injEq] at h
      subst h
      exact ⟨session, by simp [register_lookup], rfl⟩
    · rw [AList.lookup_insert_ne hc, hmc] at h
      obtain ⟨s, hs, rfl⟩ := hr.byConn c n h.1
      refine ⟨s, ?_, rfl⟩
      rw [register_lookup, if_neg]
      · exact hs
      · rintro rfl
        exact h.2 s hs rfl

/-- Registering a session whose connection has no mapping keeps the indexes consistent. -/
theorem Consistent.register (hr : r.Consistent) {session : NodeSession}
    (hfresh : r.byConnID.lookup session.connID = none) : (r.register session).Consistent :=
  hr.register_of_conn fun n h => by rw [hfresh] at h; cases h

/-- Unregistering keeps the indexes consistent. -/
theorem Consistent.unregister (hr : r.Consistent) (connID : String) :
    (r.unregister connID).1.Consistent := by
  unfold Registry.unregister
  split
  · exact hr
  · rename_i m hm
    obtain ⟨sm, hsm, hsmc⟩ := hr.byConn connID m hm
    constructor
    · intro n s h
      by_cases hn : n = m
      · subst hn
        simp [AList.lookup_erase] at h
      · simp only [AList.lookup_erase_ne hn] at h ⊢
        obtain ⟨hsn, hsc⟩ := hr.byNode n s h
        have hne : s.connID ≠ connID := fun he =>
          hn (by rw [← he, hsc] at hm; exact Option.some.inj hm)
        exact ⟨hsn, by rw [AList.lookup_erase_ne hne]; exact hsc⟩
    · intro c n h
      by_cases hc : c = connID
      · subst hc
        simp [AList.lookup_erase] at h
      · simp only [AList.lookup_erase_ne hc] at h ⊢
        obtain ⟨s, hs, rfl⟩ := hr.byConn c n h
        have hn : n ≠ m := by
          rintro rfl
          exact hc (by rw [hsm] at hs; cases hs; exact hsmc)
        exact ⟨s, by rw [AList.lookup_erase_ne hn]; exact hs, rfl⟩

/-- Under consistent indexes, a session left by `Unregister(connID)` was there before and is not
the connection's. -/
theorem Consistent.lookup_unregister (hr : r.Consistent) {connID n : String} {s : NodeSession}
    (h : (r.unregister connID).1.byNodeID.lookup n = some s) :
    r.byNodeID.lookup n = some s ∧ s.connID ≠ connID := by
  rw [unregister_lookup] at h
  split_ifs at h with hc
  refine ⟨h, fun he => hc ?_⟩
  rw [← he]
  exact (hr.byNode n s h).2

/-- **At most one session per node**: `List` never returns two sessions of one node. -/
theorem Consistent.list_nodup (hr : r.Consistent) : (r.list.map (·.nodeID)).Nodup := by
  have hkeys : r.list.map (·.nodeID) = r.byNodeID.keys := by
    simp only [list, List.map_map, AList.keys, List.keys]
    refine List.map_congr_left fun e he => ?_
    exact (hr.byNode e.1 e.2 (AList.mem_lookup_iff.2 he)).1
  rw [hkeys]
  exact r.byNodeID.nodupKeys


/-- Consistency read as one equivalence: a connection maps to a node exactly when that node's
session is filed under it and has that connection. -/
theorem Consistent.byConnID_lookup_iff (hr : r.Consistent) (c n : String) :
    r.byConnID.lookup c = some n ↔
      ∃ s, r.byNodeID.lookup n = some s ∧ s.connID = c ∧ s.nodeID = n := by
  constructor
  · intro h
    obtain ⟨s, hs, hc⟩ := hr.byConn c n h
    exact ⟨s, hs, hc, (hr.byNode n s hs).1⟩
  · rintro ⟨s, hs, rfl, -⟩
    exact (hr.byNode n s hs).2

/-- `Unregister(c)` returns the node whose session has connection `c`. -/
theorem Consistent.unregister_snd_eq_some (hr : r.Consistent) (c n : String) :
    (r.unregister c).2 = some n ↔ ∃ s, r.get n = some s ∧ s.connID = c := by
  rw [unregister_snd, hr.byConnID_lookup_iff]
  exact exists_congr fun s =>
    and_congr_right fun hs => and_iff_left_of_imp fun _ => (hr.byNode n s hs).1

/-- `Unregister(c)` removes exactly the session with connection `c`. -/
theorem Consistent.get_unregister (hr : r.Consistent) (c n : String) (s : NodeSession) :
    (r.unregister c).1.get n = some s ↔ r.get n = some s ∧ s.connID ≠ c := by
  refine ⟨hr.lookup_unregister, fun ⟨hs, hc⟩ => ?_⟩
  rw [get, unregister_lookup, if_neg]
  · exact hs
  · intro h
    obtain ⟨s', hs', rfl⟩ := hr.byConn c n h
    exact hc (by rw [show s = s' from Option.some.inj (hs.symm.trans hs')])

/-! ### Runs of calls -/

/-- A call on the registry. -/
inductive Op where
  | register (session : NodeSession)
  | unregister (connID : String)
  | get (nodeID : String)
  | list
  deriving DecidableEq, Repr

/-- The registry a call leaves; `Get` and `List` only read. -/
def step (r : Registry) : Op → Registry
  | .register session => r.register session
  | .unregister connID => (r.unregister connID).1
  | .get _ | .list => r

/-- The registry `NewRegistry` is left as by the calls of `ops`, in order. -/
def run (ops : List Op) : Registry := ops.foldl step .empty

/-- The sessions `ops` registers. -/
def registered (ops : List Op) : List NodeSession :=
  ops.filterMap fun | .register session => some session | _ => none

theorem mem_registered {ops : List Op} {s : NodeSession} :
    s ∈ registered ops ↔ .register s ∈ ops := by
  simp only [registered, List.mem_filterMap]
  refine ⟨fun ⟨op, hop, h⟩ => ?_, fun h => ⟨_, h, rfl⟩⟩
  cases op <;> cases h
  exact hop

/-- No connection id is registered under two different nodes (the gateway registers each
connection once, under a fresh random id). -/
def ConnsOwnedOnce (ops : List Op) : Prop :=
  ∀ s ∈ registered ops, ∀ s' ∈ registered ops, s.connID = s'.connID → s.nodeID = s'.nodeID

instance (ops : List Op) : Decidable (ConnsOwnedOnce ops) :=
  inferInstanceAs (Decidable (∀ s ∈ registered ops, ∀ s' ∈ registered ops,
    s.connID = s'.connID → s.nodeID = s'.nodeID))

theorem ConnsOwnedOnce.of_append {ops ops' : List Op} (h : ConnsOwnedOnce (ops ++ ops')) :
    ConnsOwnedOnce ops := fun s hs s' hs' =>
  h s (by simp [registered] at hs ⊢; exact .inl hs) s' (by simp [registered] at hs' ⊢; exact .inl hs')

/-- What a run keeps: consistent indexes that file only sessions the run registered. -/
structure RunInv (ops : List Op) (r : Registry) : Prop where
  consistent : r.Consistent
  filed : ∀ n s, r.byNodeID.lookup n = some s → s ∈ registered ops

/-- Each call keeps `RunInv`, as long as the calls so far own each connection once. -/
theorem RunInv.step {ops : List Op} {op : Op} (h : RunInv ops r)
    (hops : ConnsOwnedOnce (ops ++ [op])) : RunInv (ops ++ [op]) (r.step op) := by
  have hsub : ∀ s ∈ registered ops, s ∈ registered (ops ++ [op]) := fun s hs =>
    mem_registered.2 (List.mem_append_left _ (mem_registered.1 hs))
  cases op with
  | register session =>
    have hs : session ∈ registered (ops ++ [.register session]) := by simp [mem_registered]
    refine ⟨h.consistent.register_of_conn fun n hn => ?_, fun n s hl => ?_⟩
    · -- the connection's node is the one the session was registered under before
      obtain ⟨s, hs', hc, hsn⟩ := (h.consistent.byConnID_lookup_iff _ n).1 hn
      exact hsn ▸ hops s (hsub _ (h.filed n s hs')) session hs hc
    · rw [Registry.step, register_lookup] at hl
      split_ifs at hl
      · cases hl
        exact hs
      · exact hsub _ (h.filed n s hl)
  | unregister c =>
    exact ⟨h.consistent.unregister c,
      fun n s hl => hsub _ (h.filed n s (h.consistent.lookup_unregister hl).1)⟩
  | get _ | list => exact ⟨h.consistent, fun n s hl => hsub _ (h.filed n s hl)⟩

/-- Every run that owns each connection once keeps `RunInv`. -/
theorem runInv {ops : List Op} (hops : ConnsOwnedOnce ops) : RunInv ops (run ops) := by
  induction ops using List.reverseRecOn with
  | nil => exact ⟨.empty, fun n s h => by simp [run, Registry.empty] at h⟩
  | append_singleton ops op ih =>
    rw [run, List.foldl_append]
    exact (ih hops.of_append).step hops

/-- A connection a run registered under `n` maps, if at all, to `n`, through `n`'s session. -/
theorem RunInv.conn_node {ops : List Op} (h : RunInv ops r) (hops : ConnsOwnedOnce ops)
    {n c m : String} (hreg : Op.register ⟨n, c⟩ ∈ ops) (hm : r.byConnID.lookup c = some m) :
    m = n ∧ ∃ s, r.get n = some s ∧ s.connID = c := by
  obtain ⟨s, hs, hsc, hsn⟩ := (h.consistent.byConnID_lookup_iff c m).1 hm
  have hmn : m = n := hsn ▸ hops s (h.filed m s hs) ⟨n, c⟩ (mem_registered.2 hreg) hsc
  subst hmn
  exact ⟨rfl, s, hs, hsc⟩

/-- Registering `(n, c')` after a run that registered `(n, c)` unmaps `c`: the session of `n`
it replaces is the only one `c` can belong to. -/
theorem RunInv.register_unmaps {ops : List Op} (h : RunInv ops r) (hops : ConnsOwnedOnce ops)
    {n c c' : String} (hreg : Op.register ⟨n, c⟩ ∈ ops) (hc : c' ≠ c) :
    (r.register ⟨n, c'⟩).byConnID.lookup c = none := by
  refine Option.eq_none_iff_forall_not_mem.2 fun m hm => ?_
  change ((match r.byNodeID.lookup n with
    | some old => r.byConnID.erase old.connID
    | none => r.byConnID).insert c' n).lookup c = some m at hm
  rw [AList.lookup_insert_ne (Ne.symm hc)] at hm
  split at hm
  · rename_i old hold
    by_cases hco : c = old.connID
    · rw [hco, AList.lookup_erase] at hm
      cases hm
    · rw [AList.lookup_erase_ne hco] at hm
      obtain ⟨rfl, s, hs, hsc⟩ := h.conn_node hops hreg hm
      exact hco (by rw [← hsc, show s = old from Option.some.inj (hs.symm.trans hold)])
  · rename_i hnone
    obtain ⟨rfl, s, hs, -⟩ := h.conn_node hops hreg hm
    exact absurd (hs.symm.trans hnone) (Option.some_ne_none s)

/-- A call that registers no session on connection `c` leaves `c` unmapped. -/
theorem step_unmapped {c : String} (hc : r.byConnID.lookup c = none) {op : Op}
    (hop : ∀ s, op = .register s → s.connID ≠ c) : (r.step op).byConnID.lookup c = none := by
  have herase : ∀ (m : GoMap String) (x : String), m.lookup c = none → (m.erase x).lookup c = none :=
    fun m x hm => by
      by_cases hx : c = x
      · rw [hx, AList.lookup_erase]
      · rw [AList.lookup_erase_ne hx, hm]
  cases op with
  | register s =>
    change ((match r.byNodeID.lookup s.nodeID with
      | some old => r.byConnID.erase old.connID
      | none => r.byConnID).insert s.connID s.nodeID).lookup c = none
    rw [AList.lookup_insert_ne (hop s rfl).symm]
    split
    · exact herase _ _ hc
    · exact hc
  | unregister x =>
    simp only [step, Registry.unregister]
    split
    · exact hc
    · exact herase _ _ hc
  | get _ | list => exact hc

/-- Under consistent indexes, a call that neither registers node `n` nor unregisters the
connection of `n`'s session leaves that session filed. -/
theorem Consistent.step_get (hr : r.Consistent) {n : String} {s : NodeSession}
    (hs : r.get n = some s) {op : Op} (hu : op ≠ .unregister s.connID)
    (hn : ∀ s', op = .register s' → s'.nodeID ≠ n) : (r.step op).get n = some s := by
  cases op with
  | register s' => rw [step, get, register_lookup, if_neg (Ne.symm (hn s' rfl))]; exact hs
  | unregister x =>
    have hx : x ≠ s.connID := fun h => hu (h ▸ rfl)
    refine (hr.get_unregister x n s).2 ⟨hs, Ne.symm hx⟩
  | get _ | list => exact hs

/-- **Superseded connections.**  After a run that registered `(n, c)` and later `(n, c')`, and
then registered no session on `c` again, `Unregister(c)` finds nothing and changes nothing. -/
theorem run_unregister_superseded (pre mid : List Op) {n c c' : String} (hc : c' ≠ c) :
    ∀ post : List Op, ConnsOwnedOnce (pre ++ .register ⟨n, c⟩ :: mid ++ .register ⟨n, c'⟩ :: post) →
      (∀ s ∈ registered post, s.connID ≠ c) →
      (run (pre ++ .register ⟨n, c⟩ :: mid ++ .register ⟨n, c'⟩ :: post)).byConnID.lookup c = none := by
  intro post
  induction post using List.reverseRecOn with
  | nil =>
    intro hops _
    have hpre : ConnsOwnedOnce (pre ++ .register ⟨n, c⟩ :: mid) :=
      @ConnsOwnedOnce.of_append _ [.register ⟨n, c'⟩] (by simpa using hops)
    rw [show pre ++ .register ⟨n, c⟩ :: mid ++ [.register ⟨n, c'⟩] =
      (pre ++ .register ⟨n, c⟩ :: mid) ++ [.register ⟨n, c'⟩] by simp, run, List.foldl_append]
    exact (runInv hpre).register_unmaps hpre (by simp) hc
  | append_singleton post op ih =>
    intro hops hpost
    have hops' : ConnsOwnedOnce (pre ++ .register ⟨n, c⟩ :: mid ++ .register ⟨n, c'⟩ :: post) :=
      @ConnsOwnedOnce.of_append _ [op] (by simpa using hops)
    have hsub : ∀ s ∈ registered post, s.connID ≠ c := fun s hs =>
      hpost s (mem_registered.2 (List.mem_append_left _ (mem_registered.1 hs)))
    rw [show pre ++ .register ⟨n, c⟩ :: mid ++ .register ⟨n, c'⟩ :: (post ++ [op]) =
      (pre ++ .register ⟨n, c⟩ :: mid ++ .register ⟨n, c'⟩ :: post) ++ [op] by simp, run,
      List.foldl_append]
    exact step_unmapped (ih hops' hsub) fun s hs =>
      hpost s (mem_registered.2 (by simp [hs]))

/-- **The latest registration stays.**  After a run that registered `(n, c')` and then neither
registered `n` again nor unregistered `c'`, `Get(n)` is the session `(n, c')`. -/
theorem run_get_latest (pre : List Op) {n c' : String} :
    ∀ post : List Op, ConnsOwnedOnce (pre ++ .register ⟨n, c'⟩ :: post) →
      (∀ op ∈ post, op ≠ .unregister c' ∧ ∀ s, op = .register s → s.nodeID ≠ n) →
      (run (pre ++ .register ⟨n, c'⟩ :: post)).get n = some ⟨n, c'⟩ := by
  intro post
  induction post using List.reverseRecOn with
  | nil =>
    intro _ _
    rw [run, List.foldl_append]
    simp [step, get, register_lookup]
  | append_singleton post op ih =>
    intro hops hpost
    have hops' : ConnsOwnedOnce (pre ++ .register ⟨n, c'⟩ :: post) :=
      @ConnsOwnedOnce.of_append _ [op] (by simpa using hops)
    rw [show pre ++ .register ⟨n, c'⟩ :: (post ++ [op]) = (pre ++ .register ⟨n, c'⟩ :: post) ++ [op] by
      simp, run, List.foldl_append]
    have hop := hpost op (by simp)
    exact (runInv hops').consistent.step_get
      (ih hops' fun op' h => hpost op' (List.mem_append_left _ h)) hop.1 hop.2

/-- **The two indexes agree after every sequence of calls** in which no connection id is
registered under two nodes: a connection maps to a node exactly when that node's session is filed
under it and has that connection.  So `Unregister(c)` returns the node of the session with
connection `c` and removes exactly that session.  And once `(n, c)` has been superseded by a later
`Register` of `(n, c')`, `Unregister(c)` finds nothing and changes nothing, while `Get(n)` is
`(n, c')` until `n` registers again or `c'` unregisters. -/
theorem run_indexes_agree (ops : List Op) (hops : ConnsOwnedOnce ops) :
    (∀ c n, (run ops).byConnID.lookup c = some n ↔
      ∃ s, (run ops).byNodeID.lookup n = some s ∧ s.connID = c ∧ s.nodeID = n) ∧
    (∀ c n, ((run ops).unregister c).2 = some n ↔ ∃ s, (run ops).get n = some s ∧ s.connID = c) ∧
    (∀ c n s, ((run ops).unregister c).1.get n = some s ↔
      (run ops).get n = some s ∧ s.connID ≠ c) ∧
    (∀ pre mid post n c c', ops = pre ++ .register ⟨n, c⟩ :: mid ++ .register ⟨n, c'⟩ :: post →
      c' ≠ c → (∀ s ∈ registered post, s.connID ≠ c) → (run ops).unregister c = (run ops, none)) ∧
    (∀ pre post n c', ops = pre ++ .register ⟨n, c'⟩ :: post →
      (∀ op ∈ post, op ≠ .unregister c' ∧ ∀ s, op = .register s → s.nodeID ≠ n) →
      (run ops).get n = some ⟨n, c'⟩) := by
  have h := runInv hops
  refine ⟨h.consistent.byConnID_lookup_iff, h.consistent.unregister_snd_eq_some,
    h.consistent.get_unregister, fun pre mid post n c c' hops' hc hpost => ?_,
    fun pre post n c' hops' hpost => ?_⟩
  · subst hops'
    unfold Registry.unregister
    rw [run_unregister_superseded pre mid hc post hops hpost]
  · subst hops'
    exact run_get_latest pre post hops hpost

/-- A node that reconnects: registered on `"c1"`, then on `"c2"`. -/
def reconnected : List Op := [.register ⟨"n", "c1"⟩, .register ⟨"n", "c2"⟩]

theorem run_indexes_agree_reconnected :
    (∀ c n, (run reconnected).byConnID.lookup c = some n ↔
      ∃ s, (run reconnected).byNodeID.lookup n = some s ∧ s.connID = c ∧ s.nodeID = n) ∧
    (∀ c n, ((run reconnected).unregister c).2 = some n ↔
      ∃ s, (run reconnected).get n = some s ∧ s.connID = c) ∧
    (∀ c n s, ((run reconnected).unregister c).1.get n = some s ↔
      (run reconnected).get n = some s ∧ s.connID ≠ c) ∧
    (∀ pre mid post n c c', reconnected = pre ++ .register ⟨n, c⟩ :: mid ++ .register ⟨n, c'⟩ :: post →
      c' ≠ c → (∀ s ∈ registered post, s.connID ≠ c) →
      (run reconnected).unregister c = (run reconnected, none)) ∧
    (∀ pre post n c', reconnected = pre ++ .register ⟨n, c'⟩ :: post →
      (∀ op ∈ post, op ≠ .unregister c' ∧ ∀ s, op = .register s → s.nodeID ≠ n) →
      (run reconnected).get n = some ⟨n, c'⟩) :=
  run_indexes_agree reconnected (by decide)

end Registry

end GoClaw
