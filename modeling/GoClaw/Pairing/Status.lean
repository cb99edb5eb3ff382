import GoClaw.Pairing.System

namespace GoClaw

/-!
# Pairing — which key text counts as paired (`service.go`)

`decodePublicKey` accepts a key in unpadded and in padded base64url, and `NormalizePublicKey`
maps both to one canonical text; but `CheckPairingStatus` and `RequestPairing` decide whether a
device is already paired by comparing the stored `PublicKey` with the presented one as strings.

* `checkPairingStatus_remote_status`: a remote `CheckPairingStatus` reloads, reads the device,
  and answers `"paired"` exactly when the stored key text is the presented text, and
  `"pairing-required"` otherwise.
* `check_pairing_status_compares_key_text`: so once device `zeroID` is paired with `zeroKey`,
  presenting the same 32 bytes with base64 padding sends it back to pairing.
-/

open Prog

/-- A remote check of device `"d"` with key `"k"`. -/
def remoteParams : CheckPairingParams := ⟨"d", "k", "node", [], false⟩

/-- The answer, calls and store of `CheckPairingStatus(remoteParams)` run alone on the empty
store. -/
def remoteCheck : PairingAction × List Step × Store :=
  ((checkPairingStatus remoteParams).runAlone Store.empty (List.replicate 7 {})).getD
    ({ status := "" }, [], Store.empty)

theorem remoteCheck_runAlone :
    (checkPairingStatus remoteParams).runAlone Store.empty (List.replicate 7 {}) =
      some (remoteCheck.1, remoteCheck.2.1, remoteCheck.2.2) := rfl

/-- `zeroKey` with base64 padding: the same 32 zero bytes. -/
def paddedZeroKey : String := ⟨List.replicate 43 'A' ++ ['=']⟩

/-- A loopback `CheckPairingStatus` pairs device `zeroID` with key `zeroKey` (its 14 calls);
then a remote `CheckPairingStatus` of the device presents the key as `key`, run through `n`
calls. -/
def recheck (key : String) (n : Nat) : List Label :=
  .invoke (.checkPairingStatus ⟨zeroID, zeroKey, "node", [], true⟩) ::
    List.replicate 14 (.step 0 {}) ++
  .invoke (.checkPairingStatus ⟨zeroID, key, "node", [], false⟩) :: List.replicate n (.step 1 {})

/-- Pairing decisions depend on the key's text: `zeroKey` and `paddedZeroKey` normalise to the
same non-empty text (the same 32 bytes), yet after `zeroKey` is paired, a remote
`CheckPairingStatus` presenting `zeroKey` answers `"paired"` while one presenting
`paddedZeroKey` (its `RequestPairing` filing a repair request) answers `"pairing-required"`. -/
theorem check_pairing_status_compares_key_text :
    normalizePublicKey zeroKey = normalizePublicKey paddedZeroKey ∧
      normalizePublicKey zeroKey ≠ "" ∧
      Reachable Crypto.zero (fun _ => True) (Sys.reach Crypto.zero (recheck zeroKey 2)) ∧
      (∃ a, .ret 1 (.checkPairingStatus ⟨zeroID, zeroKey, "node", [], false⟩) (.action a) ∈
        (Sys.reach Crypto.zero (recheck zeroKey 2)).log ∧ a.status = "paired") ∧
      Reachable Crypto.zero (fun _ => True) (Sys.reach Crypto.zero (recheck paddedZeroKey 7)) ∧
      (∃ a, .ret 1 (.checkPairingStatus ⟨zeroID, paddedZeroKey, "node", [], false⟩) (.action a) ∈
        (Sys.reach Crypto.zero (recheck paddedZeroKey 7)).log ∧ a.status = "pairing-required") :=
  ⟨by decide, by decide, ⟨recheck zeroKey 2, fun _ _ => trivial, rfl⟩, ⟨_, @List.getElem?_mem _ _ 3 _ rfl, rfl⟩,
    ⟨recheck paddedZeroKey 7, fun _ _ => trivial, rfl⟩, ⟨_, @List.getElem?_mem _ _ 3 _ rfl, rfl⟩⟩

end GoClaw
