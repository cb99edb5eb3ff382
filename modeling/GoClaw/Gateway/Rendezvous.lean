import GoClaw.Gateway.Invocations

namespace GoClaw

/-!
# Gateway — the invoker's rendezvous (`invoker.go`)

`HandleResult` sends on a pending call's one-slot `result` channel with a blocking send, from the
read loop of the connection the result came in on; `CancelPendingForNode` closes the `cancel`
channel of every call it collected, outside the lock.  Neither looks at whether it has done so
before, and a call is only removed from `pending` by its own deferred delete.

* `connStep_effects`, `callStep_effects`: what one step of a connection or of a call can do to
  the others.
* `DeliveryBlocked.run`: a read loop blocked on the full buffer of a call that has returned stays
  blocked in every continuation — nothing receives from that buffer again.
* `rendezvous_double_close_and_blocked_send`: two teardowns of one node close a cancelled call's
  cancel channel twice (the process panics), and a duplicated result blocks the read loop for
  good.
-/

namespace Runtime

variable {g g' : Runtime} {k i : Nat} {c : Conn} {v : Invocation} {inp : Input}

/-- **What a connection's step does to the others**: it moves only connection `k`, and it fills
an empty result buffer, closes a cancel channel, or leaves the calls as they are. -/
theorem connStep_effects (hs : g.connStep k c inp = some g') :
    (∀ k', k' ≠ k → g'.conns[k']? = g.conns[k']?) ∧
    (g'.invocations = g.invocations ∨
      (∃ j w r, g.invocations[j]? = some w ∧ w.result = none ∧
        g'.invocations = g.invocations.set j { w with result := some r }) ∨
      (∃ j w, g.invocations[j]? = some w ∧
        g'.invocations = g.invocations.set j { w with cancelClosed := true })) := by
  have hset : ∀ c', ∀ k', k' ≠ k → (g.conns.set k c')[k']? = g.conns[k']? :=
    fun _ _ h => List.getElem?_set_ne (Ne.symm h)
  cases hph : c.phase with
  | connecting =>
    simp only [connStep, hph] at hs
    cases hp : inp.params <;> simp only [hp, Option.some.injEq] at hs <;> subst hs
    · exact ⟨hset _, .inl rfl⟩
    · exact ⟨by simpa using hset _, .inl (by simp)⟩
  | reading =>
    simp only [connStep, hph] at hs
    cases hf : inp.frame with
    | none =>
      simp only [hf, Option.some.injEq] at hs
      subst hs
      exact ⟨hset _, .inl rfl⟩
    | some r =>
      simp only [hf, Option.some.injEq, handleResult] at hs
      subst hs
      split
      · exact ⟨hset _, .inl rfl⟩
      · exact ⟨fun _ _ => rfl, .inl rfl⟩
  | delivering owner r =>
    simp only [connStep, hph, deliver] at hs
    split at hs
    · rename_i w hw
      split_ifs at hs with hnone
      cases hs
      exact ⟨hset _, .inr (.inl ⟨owner, w, r, hw, hnone, rfl⟩)⟩
    · cases hs
  | closingWs w =>
    simp only [connStep, hph, Option.some.injEq] at hs
    subst hs
    exact ⟨hset _, .inl rfl⟩
  | unregistering =>
    simp only [connStep, hph, Option.some.injEq, onDisconnected] at hs
    subst hs
    split_ifs
    · exact ⟨hset _, .inl rfl⟩
    · split <;> exact ⟨hset _, .inl rfl⟩
  | collecting n =>
    simp only [connStep, hph, Option.some.injEq] at hs
    subst hs
    exact ⟨hset _, .inl rfl⟩
  | cancelling toCancel =>
    cases toCancel with
    | nil =>
      simp only [connStep, hph, Option.some.injEq] at hs
      subst hs
      exact ⟨hset _, .inl rfl⟩
    | cons o rest =>
      simp only [connStep, hph, closeCancel] at hs
      split at hs
      · rename_i owner howner
        split at hs
        · rename_i w hw
          split_ifs at hs
          · cases hs
            exact ⟨fun _ _ => rfl, .inl rfl⟩
          · cases hs
            exact ⟨hset _, .inr (.inr ⟨owner, w, hw, rfl⟩)⟩
        · cases hs
      · cases hs
  | closed => simp [connStep, hph] at hs

/-- **What a call's step does to the others**: it moves only call `i`. -/
theorem callStep_effects (hs : g.callStep i v inp = some g') :
    g'.conns = g.conns ∧ ∃ v', g'.invocations = g.invocations.set i v' := by
  cases hph : v.phase <;> simp only [callStep, hph] at hs
  all_goals repeat' (first | split_ifs at hs | split at hs)
  all_goals (cases hs; try exact ⟨rfl, _, rfl⟩)

end Runtime

open Runtime

/-- Connection `k` is blocked in `pi.result <- r` on the full buffer of call `owner`, which has
returned. -/
structure DeliveryBlocked (g : Runtime) (k owner : Nat) (r : NodeInvokeResult) : Prop where
  conn : g.conns[k]?.map (·.phase) = some (.delivering owner r)
  call : g.invocations[owner]?.map (fun v => (v.phase.isReturned, v.result.isSome)) =
    some (true, true)

namespace DeliveryBlocked

variable {g g' : Runtime} {k owner : Nat} {r : NodeInvokeResult}

/-- No step unblocks it: the connection's own send stays disabled, and no other step moves the
connection, empties the buffer or revives the call. -/
theorem next (h : DeliveryBlocked g k owner r) {a : Action} (hn : g.next a = some g') :
    DeliveryBlocked g' k owner r := by
  obtain ⟨c, hk, hc⟩ := Option.map_eq_some'.1 h.conn
  obtain ⟨v, hv, hvr⟩ := Option.map_eq_some'.1 h.call
  simp only [Prod.mk.injEq] at hvr
  -- the call keeps its phase and its buffer
  have hkeep : ∀ g' : Runtime, g'.conns[k]? = g.conns[k]? →
      (∃ v', g'.invocations[owner]? = some v' ∧ v'.phase = v.phase ∧ v'.result = v.result) →
      DeliveryBlocked g' k owner r := by
    rintro g' hk' ⟨v', hv', hph, hres⟩
    exact ⟨by rw [hk', hk, Option.map_some', hc], by rw [hv', Option.map_some', hph, hres, hvr.1,
      hvr.2]⟩
  have hklt := (List.getElem?_eq_some_iff.1 hk).1
  have hvlt := (List.getElem?_eq_some_iff.1 hv).1
  cases a with
  | accept rand =>
    simp only [Runtime.next] at hn
    split_ifs at hn
    cases hn
    exact hkeep _ (List.getElem?_append_left hklt) ⟨v, hv, rfl, rfl⟩
  | invoke req =>
    simp only [Runtime.next] at hn
    split_ifs at hn
    cases hn
    exact hkeep _ rfl ⟨v, by rw [List.getElem?_append_left hvlt, hv], rfl, rfl⟩
  | conn k' inp =>
    simp only [Runtime.next] at hn
    split_ifs at hn
    split at hn
    · rename_i c' hk'
      by_cases hkk : k' = k
      · -- the blocked connection itself: its send finds the buffer full
        subst hkk
        rw [hk] at hk'
        cases hk'
        simp only [connStep, hc, deliver, hv] at hn
        split_ifs at hn with hnone
        simp [hnone] at hvr
      · obtain ⟨hconns, hinv⟩ := connStep_effects hn
        refine hkeep _ (hconns k (Ne.symm hkk)) ?_
        rcases hinv with hinv | ⟨j, w, r', hw, hnone, hinv⟩ | ⟨j, w, hw, hinv⟩ <;> rw [hinv]
        · exact ⟨v, hv, rfl, rfl⟩
        · have hj : j ≠ owner := by
            rintro rfl
            rw [hv] at hw
            cases hw
            simp [hnone] at hvr
          exact ⟨v, by rw [List.getElem?_set_ne hj, hv], rfl, rfl⟩
        · by_cases hj : j = owner
          · subst hj
            rw [hv] at hw
            cases hw
            exact ⟨_, List.getElem?_set_self hvlt, rfl, rfl⟩
          · exact ⟨v, by rw [List.getElem?_set_ne hj, hv], rfl, rfl⟩
    · cases hn
  | call i inp =>
    simp only [Runtime.next] at hn
    split_ifs at hn
    split at hn
    · rename_i u hu
      by_cases hio : i = owner
      · -- the call has returned: it takes no step
        subst hio
        rw [hv] at hu
        cases hu
        cases hph : v.phase <;> simp [hph, InvokePhase.isReturned] at hvr
        simp [callStep, hph] at hn
      · obtain ⟨hconns, v', hinv⟩ := callStep_effects hn
        exact hkeep _ (by rw [hconns]) ⟨v, by rw [hinv, List.getElem?_set_ne hio, hv], rfl, rfl⟩
    · cases hn

/-- **Blocked for good**: every continuation of the run keeps it blocked. -/
theorem run (h : DeliveryBlocked g k owner r) {as : List Action} (hr : Runtime.run g as = some g') :
    DeliveryBlocked g' k owner r := by
  induction as generalizing g with
  | nil => cases hr; exact h
  | cons a as ih =>
    simp only [Runtime.run] at hr
    split at hr
    · exact ih (h.next ‹_›) hr
    · cases hr

end DeliveryBlocked

/-- `cancelledTeardown`, then node `"n"` reconnects on connection 1, which drops as well: its
`Unregister` finds the node, and its `CancelPendingForNode` collects the call again — the call
has not yet run its deferred delete — and closes its cancel channel a second time. -/
def secondTeardown : List Action :=
  cancelledTeardown ++
    [.accept fun _ => 1, .conn 1 { params := some (nodeHello "n") },
     .conn 1 {}, .conn 1 {}, .conn 1 {}, .conn 1 {}, .conn 1 {}]

/-- The result node `"n"` sends for the call of `cancelledTeardown`'s id. -/
def duplicated : NodeInvokeResult := { id := generateInvokeID fun _ => 0 }

/-- Node `"n"` is invoked through connection 0 and answers twice with the same id: the first
result fills the buffer, the second finds the call still pending and tries to send; the call then
times out and returns. -/
def duplicateResult : List Action :=
  [.accept fun _ => 0, .conn 0 { params := some (nodeHello "n") }, .invoke { nodeID := "n" },
   .call 0 {}, .call 0 {}, .call 0 {},
   .conn 0 { frame := some duplicated }, .conn 0 {}, .conn 0 { frame := some duplicated },
   .call 0 {}, .call 0 {}]

/-- The rendezvous is unsafe under interleaving.  Two successive teardowns of node `"n"`, before
the cancelled call has run its deferred delete, close its cancel channel twice, and the process
panics; and a duplicated result sends on a full buffer, blocking connection 0's read loop in
every continuation of the run. -/
theorem rendezvous_double_close_and_blocked_send :
    ((reach secondTeardown).Reachable ∧ (reach secondTeardown).panicked = true) ∧
    ((reach duplicateResult).Reachable ∧
      ∀ as g', Runtime.run (reach duplicateResult) as = some g' →
        DeliveryBlocked g' 0 0 duplicated) :=
  ⟨⟨⟨secondTeardown, rfl⟩, by decide⟩, ⟨duplicateResult, rfl⟩,
    fun _ _ hr => DeliveryBlocked.run ⟨by decide, by decide⟩ hr⟩

end GoClaw
