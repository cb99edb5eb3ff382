import GoClaw.Pairing.Program

namespace GoClaw

/-!
# Pairing — memory and disk under write failures (`store.go`)

Every mutation of the store changes the in-memory map first and then saves the whole map with
`saveJSON` (write a temporary file, rename it over the target).  So the store writes through:

* `mutation_writes_through`: the in-memory effect of a mutation is the same whatever the disk
  does; with a working disk a store whose files matched its memory still does, and with a
  failing one both files keep their contents; with a working disk no mutation reports an error
  but a device-not-found that changes nothing.  So a mutation that reports a write error has
  still made its change in memory (`mutation_writes_through_failed_add`).
-/

namespace Store

/-- Memory and both files agree. -/
def Synced (s : Store) : Prop :=
  s.pendingFile = s.state.pendingByID ∧ s.pairedFile = s.state.pairedByDevice

variable (s : Store)

@[simp] theorem savePending_ok : (s.savePending .ok).1 = { s with pendingFile := s.state.pendingByID } :=
  rfl

@[simp] theorem savePaired_ok : (s.savePaired .ok).1 = { s with pairedFile := s.state.pairedByDevice } :=
  rfl

/-- A failed save leaves the store as it was. -/
theorem savePending_fail {d : Disk} (hd : d ≠ .ok) : (s.savePending d).1 = s := by
  cases d <;> first | exact absurd rfl hd | rfl

/-- A failed save leaves the store as it was. -/
theorem savePaired_fail {d : Disk} (hd : d ≠ .ok) : (s.savePaired d).1 = s := by
  cases d <;> first | exact absurd rfl hd | rfl

end Store

/-- The store's mutations: the calls that change a map and save its file. -/
def Call.isMutation : Call → Bool
  | .addPending _ | .removePending _ | .setPaired _ | .updateDeviceMetadata _ _
  | .setDeviceToken _ _ _ | .pruneExpiredPending _ => true
  | _ => false

/-- The error a mutation reports: the save's for the four that return one, none for
`RemovePending` and `PruneExpiredPending`, which drop it. -/
def Call.errorOf : (c : Call) → c.Ret → Option PairingError
  | .addPending _, e | .setPaired _, e | .updateDeviceMetadata _ _, e
  | .setDeviceToken _ _ _, e => e
  | _, _ => none

/-- What `modifyPaired` does, for `UpdateDeviceMetadata` and `SetDeviceToken`. -/
theorem modifyPaired_writes_through (s : Store) (id : String) (f : PairedDevice → PairedDevice)
    (d : Disk) :
    let r := s.modifyPaired id f d
    r.1.state = (s.modifyPaired id f .ok).1.state ∧
    (d = .ok → s.Synced → r.1.Synced) ∧
    (d ≠ .ok → r.1.pendingFile = s.pendingFile ∧ r.1.pairedFile = s.pairedFile) ∧
    (d = .ok → r.2 = none ∨ r.2 = some (.deviceNotFound id) ∧ r.1 = s) := by
  unfold Store.modifyPaired
  split
  · exact ⟨rfl, fun _ h => h, fun _ => ⟨rfl, rfl⟩, fun _ => .inr ⟨rfl, rfl⟩⟩
  · refine ⟨rfl, ?_, fun hd => by simp [Store.savePaired_fail _ hd], ?_⟩
    · rintro rfl ⟨h1, -⟩
      exact ⟨h1, rfl⟩
    · rintro rfl
      exact .inl rfl

/-- A request of device `"d"` filed under `"r"`. -/
def requestR : PendingRequest :=
  { requestID := "r", deviceID := "d", publicKey := "k", displayName := "", platform := "",
    clientID := "", clientMode := "", role := "node", scopes := [], remoteIP := "", silent := false,
    isRepair := false, timestamp := 0 }

/-- The answer of a disk whose temporary file cannot be written. -/
def failedWrite : Answer := { disk := .writeFails }

/-- **Every mutation writes through.**  Its in-memory effect does not depend on the disk; with a
working disk, memory and files that agreed still agree (both hold the whole effect), and no error
is reported but a device-not-found that changes nothing; with a failing disk both files keep
their contents — while memory holds the effect. -/
theorem mutation_writes_through {c : Call} (hc : c.isMutation) (s : Store) (a : Answer) :
    let r := c.exec s a
    r.1.state = (c.exec s { a with disk := .ok }).1.state ∧
    (a.disk = .ok → s.Synced → r.1.Synced) ∧
    (a.disk ≠ .ok → r.1.pendingFile = s.pendingFile ∧ r.1.pairedFile = s.pairedFile) ∧
    (a.disk = .ok → c.errorOf r.2 = none ∨ ∃ id, c.errorOf r.2 = some (.deviceNotFound id) ∧
      r.1 = s) := by
  cases c with
  | addPending req =>
    refine ⟨rfl, ?_, fun hd => by simp [Call.exec, Store.addPending, Store.savePending_fail _ hd],
      fun hd => .inl (by simp [Call.exec, Store.addPending, Call.errorOf, hd, Store.savePending])⟩
    rintro hd ⟨-, h2⟩
    simp only [Call.exec, Store.addPending, hd, Store.savePending_ok]
    exact ⟨rfl, h2⟩
  | setPaired dev =>
    refine ⟨rfl, ?_, fun hd => by simp [Call.exec, Store.setPaired, Store.savePaired_fail _ hd],
      fun hd => .inl (by simp [Call.exec, Store.setPaired, Call.errorOf, hd, Store.savePaired])⟩
    rintro hd ⟨h1, -⟩
    simp only [Call.exec, Store.setPaired, hd, Store.savePaired_ok]
    exact ⟨h1, rfl⟩
  | updateDeviceMetadata id patch =>
    obtain ⟨h1, h2, h3, h4⟩ := modifyPaired_writes_through s id patch.apply a.disk
    refine ⟨h1, h2, h3, fun hd => ?_⟩
    rcases h4 hd with h | ⟨h, h'⟩
    · exact .inl h
    · exact .inr ⟨id, h, h'⟩
  | setDeviceToken id role tok =>
    obtain ⟨h1, h2, h3, h4⟩ :=
      modifyPaired_writes_through s id (fun dev => { dev with tokens := dev.tokens.insert role tok })
        a.disk
    refine ⟨h1, h2, h3, fun hd => ?_⟩
    rcases h4 hd with h | ⟨h, h'⟩
    · exact .inl h
    · exact .inr ⟨id, h, h'⟩
  | removePending id =>
    simp only [Call.exec, Store.removePending]
    split
    · exact ⟨rfl, fun _ h => h, fun _ => ⟨rfl, rfl⟩, fun _ => .inl rfl⟩
    · refine ⟨rfl, ?_, fun hd => by simp [Store.savePending_fail _ hd], fun _ => .inl rfl⟩
      rintro hd ⟨-, h2⟩
      simp only [hd, Store.savePending_ok]
      exact ⟨rfl, h2⟩
  | pruneExpiredPending t =>
    simp only [Call.exec, Store.pruneExpiredPending]
    split
    · refine ⟨rfl, ?_, fun hd => by simp [Store.savePending_fail _ hd], fun _ => .inl rfl⟩
      rintro hd ⟨-, h2⟩
      simp only [hd, Store.savePending_ok]
      exact ⟨rfl, h2⟩
    · rename_i h0
      refine ⟨rfl, fun _ h => ?_, fun _ => ⟨rfl, rfl⟩, fun _ => .inl rfl⟩
      rw [Nat.not_lt, Nat.le_zero, List.length_eq_zero] at h0
      simpa only [h0, List.foldl_nil] using h
  | _ => cases hc

theorem mutation_writes_through_failed_add :
    let r := (Call.addPending requestR).exec Store.empty failedWrite
    r.1.state = ((Call.addPending requestR).exec Store.empty { failedWrite with disk := .ok }).1.state ∧
    (failedWrite.disk = .ok → Store.empty.Synced → r.1.Synced) ∧
    (failedWrite.disk ≠ .ok →
      r.1.pendingFile = Store.empty.pendingFile ∧ r.1.pairedFile = Store.empty.pairedFile) ∧
    (failedWrite.disk = .ok → (Call.addPending requestR).errorOf r.2 = none ∨
      ∃ id, (Call.addPending requestR).errorOf r.2 = some (.deviceNotFound id) ∧
        r.1 = Store.empty) :=
  @mutation_writes_through (.addPending requestR) rfl Store.empty failedWrite

end GoClaw
