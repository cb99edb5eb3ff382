import GoClaw.Protocol.Connect

namespace GoClaw

namespace TestPairing

open Json Protocol

/-!
# `test-pairing.go` — the repository's pairing client

The script the repository ships to try a pairing handshake by hand: it reads the
`connect.challenge` event, signs the auth payload with its Ed25519 key, sends a connect request
it builds as a `map[string]any`, and prints the response.  It is the other party of
`Gateway.Handshake`, written against the same protocol, so its reading of the gateway's frames is
checked here against what the gateway writes.

* `readResponse` is `json.Unmarshal(respMsg, &resp)` into the script's response struct, and
  `readToken` the decoding of `resp.Result` it prints the device token from.
* `testPairing_misses_deviceToken`: the gateway's success response carries the device token in
  its `payload`, where `readToken` finds it, but the script looks for it under `result`, which
  the response has none of; so the script never prints the token it was issued.
-/

/-! ### Reading the response -/

/-- The anonymous struct of `resp.Error`. -/
structure ErrorInfo where
  code : String
  message : String
  deriving DecidableEq, Repr

/-- The struct `test-pairing.go` reads the response into. -/
structure Response where
  type : String
  id : String
  ok : Bool
  result : List Char
  error : Option ErrorInfo
  deriving DecidableEq, Repr

/-- The zero response, what `var resp struct{…}` holds. -/
def Response.zero : Response := ⟨"", "", false, [], none⟩

/-- The type of `resp.Error`'s target, as `reflect` writes it in an `UnmarshalTypeError`. -/
def errorType : String :=
  "struct \x7b Code string \"json:\\\"code\\\"\"; Message string \"json:\\\"message\\\"\" \x7d"

/-- The type of `resp`. -/
def responseType : String :=
  "struct \x7b Type string \"json:\\\"type\\\"\"; ID string \"json:\\\"id\\\"\"; OK bool \"json:\\\"ok\\\"\"; " ++
    "Result json.RawMessage \"json:\\\"result\\\"\"; Error *" ++ errorType ++ " \"json:\\\"error\\\"\" \x7d"

def ErrorInfo.fields : List (StructField ErrorInfo) :=
  [⟨"code", decodeString "string", (·.code), fun e v => { e with code := v }⟩,
   ⟨"message", decodeString "string", (·.message), fun e v => { e with message := v }⟩]

def Response.fields : List (StructField Response) :=
  [⟨"type", decodeString "string", (·.type), fun r v => { r with type := v }⟩,
   ⟨"id", decodeString "string", (·.id), fun r v => { r with id := v }⟩,
   ⟨"ok", decodeBool, (·.ok), fun r v => { r with ok := v }⟩,
   ⟨"result", decodeRaw, (·.result), fun r v => { r with result := v }⟩,
   ⟨"error", decodePtr (decodeStruct "" errorType ErrorInfo.fields) ⟨"", ""⟩, (·.error),
     fun r v => { r with error := v }⟩]

/-- `json.Unmarshal(respMsg, &resp)`. -/
def readResponse (respMsg : List Char) : Except JsonError Response :=
  unmarshal (decodeStruct "" responseType Response.fields) Response.zero respMsg

/-- The type of `result.Auth`. -/
def authType : String := "struct \x7b DeviceToken string \"json:\\\"deviceToken\\\"\" \x7d"

/-- The type of `result`. -/
def resultType : String := "struct \x7b Auth " ++ authType ++ " \"json:\\\"auth\\\"\" \x7d"

/-- `result.Auth`'s field, the token. -/
def authFields : List (StructField String) := [⟨"deviceToken", decodeString "string", id, fun _ v => v⟩]

/-- `result`'s field, `Auth`. -/
def resultFields : List (StructField String) := [⟨"auth", decodeStruct "" authType authFields, id, fun _ v => v⟩]

/-- `json.Unmarshal(resp.Result, &result)`, then `result.Auth.DeviceToken`. -/
def readToken (raw : List Char) : Except JsonError String :=
  unmarshal (decodeStruct "" resultType resultFields) "" raw

/-- The payload of a success response with a device token, as a value. -/
theorem helloPayload_of_ne {deviceToken : String} (h : deviceToken ≠ "") :
    helloPayload deviceToken =
      some (.object [(stringAtoms "auth", .object [(stringAtoms "deviceToken", stringValue deviceToken)])]) := by
  simp [helloPayload, h, helloAuthInfoCodec, structCodec, HelloAuthInfo.members, encodeStruct, Member.encode,
    Member.omits, stringCodec]

/-- **The script never sees its device token.**  For every request id and every device token,
the gateway's success response parses as an ok response to the request whose payload holds the
token, which the script's own `result` decoding reads back; but the script reads the response
into a struct whose token field is tagged `result`, which the response has no member for, so
`resp.Result` stays nil. -/
theorem testPairing_misses_deviceToken (id deviceToken : String) (hid : id ≠ "") (htok : deviceToken ≠ "") :
    ∃ t, helloResponse id deviceToken = .ok t ∧
      (∃ payload, parseFrame t = .ok (.res ⟨FrameTypeRes, id, true, payload, none⟩) ∧
        readToken payload = .ok deviceToken) ∧
      readResponse t = .ok ⟨FrameTypeRes, id, true, [], none⟩ := by
  set v : Value := .object [(stringAtoms "auth", .object [(stringAtoms "deviceToken", stringValue deviceToken)])]
  have hsafe : v.htmlSafe = true := by
    simp [v, Value.htmlSafe, membersHtmlSafe, stringAtoms_htmlSafe, stringValue]
  have hd : v.depth < maxNestingDepth := by simp [v, Value.depth, membersDepth, stringValue, maxNestingDepth]
  have ht : helloResponse id deviceToken =
      .ok ((Value.object ((responseFields id true (some v) none).map fun f => (stringAtoms f.1, f.2))).print .compact 0) := by
    rw [helloResponse, helloPayload_of_ne htok]
    exact marshalResponse_print id true (some v) none hid fun w hw => by cases hw; exact hd.le
  refine ⟨_, ht, ⟨_, parseFrame_response id true (some v) none hid fun w hw => by cases hw; exact hd, ?_⟩, ?_⟩
  · -- the script's `result` struct, applied to the payload, finds the token
    have h1 : lookupField resultFields "auth" =
        some ⟨"auth", decodeStruct "" authType authFields, fun s => s, fun _ v => v⟩ := rfl
    have h2 : lookupField authFields "deviceToken" =
        some ⟨"deviceToken", decodeString "string", fun s => s, fun _ v => v⟩ := rfl
    have hv : v = .object ([("auth", .object ([("deviceToken", stringValue deviceToken)].map
        fun m => (stringAtoms m.1, m.2)))].map fun m => (stringAtoms m.1, m.2)) := rfl
    rw [rawOf, escapeHTML_of_htmlSafe hsafe, readToken, unmarshal_print _ _ _ _ hd.le, hv,
      decodeStruct_object _ _ _ _ _ _ _ _ fun m hm => by
        rw [List.mem_singleton.1 hm]
        exact (by decide : 1 ≤ 10000)]
    simp only [List.foldlM_cons, List.foldlM_nil, h1]
    rw [decodeStruct_object _ _ _ _ _ _ _ _ fun m hm => by rw [List.mem_singleton.1 hm]; exact Nat.zero_le _]
    simp only [List.foldlM_cons, List.foldlM_nil, h2, decodeString_print, map_ok, ok_bind]
    rfl
  · -- the script's own response struct has no member for `payload`
    have hfs : ∀ f ∈ responseFields id true (some v) none, f.2.depth < maxNestingDepth := by
      simpa [responseFields, depth_escapeHTML, maxNestingDepth] using hd
    have h4 : lookupField Response.fields "payload" = none := lookupField_none (by decide)
    rw [readResponse, unmarshal_print _ _ _ _ (depth_frame_le hfs),
      decodeStruct_object _ _ _ _ _ _ _ _ fun f hf => (hfs f hf).le]
    simp only [responseFields, Option.toList, List.map, List.nil_append, List.cons_append, List.foldlM_cons,
      List.foldlM_nil]
    simp [lookupField, Response.fields, decodeString_print, decodeBool_print, map_ok, ok_bind, h4]
    rfl

theorem testPairing_misses_deviceToken_pair1 :
    ∃ t, helloResponse "pair-1" "tok" = .ok t ∧
      (∃ payload, parseFrame t = .ok (.res ⟨FrameTypeRes, "pair-1", true, payload, none⟩) ∧
        readToken payload = .ok "tok") ∧
      readResponse t = .ok ⟨FrameTypeRes, "pair-1", true, [], none⟩ :=
  testPairing_misses_deviceToken "pair-1" "tok" (by decide) (by decide)

/-! ### Reading the challenge -/

/-- The struct the script reads the challenge payload into. -/
structure Challenge where
  nonce : String
  ts : Int
  deriving DecidableEq, Repr

/-- The type of `challenge`. -/
def challengeType : String := "struct \x7b Nonce string \"json:\\\"nonce\\\"\"; Ts int64 \"json:\\\"ts\\\"\" \x7d"

def Challenge.fields : List (StructField Challenge) :=
  [⟨"nonce", decodeString "string", (·.nonce), fun c v => { c with nonce := v }⟩,
   ⟨"ts", decodeInt "int64", (·.ts), fun c v => { c with ts := v }⟩]

/-- How the script reads the challenge: the message into a `map[string]json.RawMessage`, its
`event` into a string and its `payload` into `challenge`, a missing member being a nil
`RawMessage`. -/
def readChallenge (msg : List Char) : Except JsonError (String × Challenge) := do
  let frame ← unmarshal (decodeMap decodeRaw [] "map[string]json.RawMessage") ∅ msg
  let event ← unmarshal (decodeString "string") "" ((frame.lookup "event").getD [])
  let challenge ← unmarshal (decodeStruct "" challengeType Challenge.fields) ⟨"", 0⟩ ((frame.lookup "payload").getD [])
  pure (event, challenge)

/-- The script reads back the nonce and the time of the gateway's challenge. -/
theorem readChallenge_challengeEvent (nonce : String) {ts : Int} (hts : IsInt64 ts) :
    ∃ ev, challengeEvent nonce ts = .ok ev ∧ readChallenge ev = .ok ("connect.challenge", ⟨nonce, ts⟩) := by
  have hp : challengePayload nonce ts = .object ([("nonce", stringValue nonce), ("ts", intValue ts)].map
      fun e => (stringAtoms e.1, e.2)) := rfl
  have hsafe : (challengePayload nonce ts).htmlSafe = true := by
    simp [hp, Value.htmlSafe, membersHtmlSafe, stringAtoms_htmlSafe, stringValue, intValue]
  have hd : (challengePayload nonce ts).depth < maxNestingDepth := by
    rw [show (challengePayload nonce ts).depth = 1 from rfl]; decide
  have hfs : ∀ f ∈ eventFields "connect.challenge" (some (challengePayload nonce ts)), f.2.depth < maxNestingDepth := by
    simpa [eventFields, depth_escapeHTML, maxNestingDepth] using hd
  refine ⟨_, marshalEvent_print "connect.challenge" (some _) (by decide) fun v hv => by cases hv; exact hd.le, ?_⟩
  rw [readChallenge, unmarshal_print _ _ _ _ (depth_frame_le hfs), decodeMap_print _ _ _ _ _ _ _ _ fun f hf => by
    obtain ⟨g, hg, rfl⟩ := List.mem_map.1 hf
    exact (hfs g hg).le]
  simp only [eventFields, Option.toList, List.map, List.cons_append, List.nil_append, List.foldlM_cons,
    List.foldlM_nil, decodeRaw, map_ok, ok_bind, decodeAtoms_stringAtoms, escapeHTML_of_htmlSafe hsafe]
  simp (disch := decide) only [pure_bind, AList.lookup_insert, AList.lookup_insert_ne, Option.getD_some]
  rw [print_compact _ (0 + 1), print_compact _ (0 + 1), unmarshal_print _ _ _ _ (Nat.zero_le _), decodeString_print,
    ok_bind, unmarshal_print _ _ _ _ hd.le, hp, decodeStruct_object _ _ _ _ _ _ _ _ fun f hf => by
      simp only [List.mem_cons, List.mem_singleton, List.not_mem_nil, or_false] at hf
      rcases hf with rfl | rfl <;> exact Nat.zero_le _]
  simp [lookupField, Challenge.fields, decodeString_print, decodeInt_print _ _ _ hts, map_ok, ok_bind]

/-! ### The connect request -/

/-- The script's `deriveDeviceID`: the hex SHA-256 of the key's bytes. -/
def deriveDeviceID (cr : Crypto) (pub : List UInt8) : String := hexEncode (List.ofFn (cr.sum256 pub))

/-- The script's `buildPayload`, `v2|deviceId|clientId|mode|role|scopes|signedAt|token|nonce`. -/
def buildPayload (deviceID clientID mode role : String) (scopes : List String) (signedAt : Int)
    (token nonce : String) : String :=
  "v2|" ++ deviceID ++ "|" ++ clientID ++ "|" ++ mode ++ "|" ++ role ++ "|" ++ ",".intercalate scopes ++ "|" ++
    toString signedAt ++ "|" ++ token ++ "|" ++ nonce

/-- What the script signs for the challenge `nonce`, with the `-token` flag `token`, at `signedAt`. -/
def signedPayload (cr : Crypto) (token : String) (pub : List UInt8) (signedAt : Int) (nonce : String) : String :=
  buildPayload (deriveDeviceID cr pub) "test-device" "node" "node" [] signedAt token nonce

/-- The script's `params` map: protocol 3, its `client`, its `auth` token and its `device`. -/
def connectParamsValue (token deviceID publicKey signature : String) (signedAt : Int) (nonce : String) : Value :=
  mapValue [("minProtocol", intValue 3), ("maxProtocol", intValue 3),
    ("client", mapValue [("id", stringValue "test-device"), ("displayName", stringValue "Test Device"),
      ("version", stringValue "1.0.0"), ("platform", stringValue "linux"), ("mode", stringValue "node")]),
    ("auth", mapValue [("token", stringValue token)]),
    ("device", mapValue [("id", stringValue deviceID), ("publicKey", stringValue publicKey),
      ("signature", stringValue signature), ("signedAt", intValue signedAt), ("nonce", stringValue nonce)])]

/-- `reqData`, `json.Marshal(connectReq)`: the connect request for the challenge `nonce`, signed at
`signedAt` with the key `pub`, `sig` being `ed25519.Sign(priv, []byte(payload))`. -/
def connectRequest (cr : Crypto) (token : String) (pub sig : List UInt8) (signedAt : Int) (nonce : String) :
    List Char :=
  (mapValue [("type", stringValue "req"), ("id", stringValue "pair-1"), ("method", stringValue "connect"),
    ("params", connectParamsValue token (deriveDeviceID cr pub) (Base64.encodeToString false pub)
      (Base64.encodeToString false sig) signedAt nonce)]).print .compact 0

/-- The device payload the script sends. -/
def devicePayload (cr : Crypto) (pub sig : List UInt8) (signedAt : Int) (nonce : String) : DeviceConnectPayload :=
  ⟨deriveDeviceID cr pub, Base64.encodeToString false pub, Base64.encodeToString false sig, signedAt, nonce⟩

/-- The params the script means: the ones its map spells out, in the gateway's `ConnectParams`. -/
def connectParams (cr : Crypto) (token : String) (pub sig : List UInt8) (signedAt : Int) (nonce : String) :
    ConnectParams :=
  { minProtocol := 3, maxProtocol := 3, client := ⟨"test-device", "Test Device", "1.0.0", "linux", "node"⟩,
    auth := some ⟨token⟩, device := some (devicePayload cr pub sig signedAt nonce) }

/-- `ParseFrame` reads a request frame whose members `json.Marshal` wrote in key order. -/
theorem parseFrame_sorted_request (id method : String) (p : Value) (hid : id ≠ "") (hmethod : method ≠ "")
    (hp : p.depth < maxNestingDepth) (hnull : p ≠ .null) :
    parseFrame ((Value.object ([("id", stringValue id), ("method", stringValue method), ("params", p),
      ("type", stringValue FrameTypeReq)].map fun f => (stringAtoms f.1, f.2))).print .compact 0) =
      .ok (.req ⟨FrameTypeReq, id, method, p.print .compact 0⟩) := by
  have hfs : ∀ f ∈ [("id", stringValue id), ("method", stringValue method), ("params", p),
      ("type", stringValue FrameTypeReq)], f.2.depth < maxNestingDepth := by
    simp [hp, show (0 : Nat) < maxNestingDepth by decide]
  have h1 : lookupField RawFrame.fields "id" = none := lookupField_none (by decide)
  have h2 : lookupField RawFrame.fields "method" = none := lookupField_none (by decide)
  have h3 : lookupField RawFrame.fields "params" = none := lookupField_none (by decide)
  have hl : lookupField RawFrame.fields "type" =
      some ⟨"type", decodeString "protocol.FrameType", (·.type), fun f v => { f with type := v }⟩ := rfl
  have hne : p.print .compact 0 ≠ "null".data := fun h => by
    obtain ⟨c, cs, hpc, hc⟩ := print_head_ne_n .compact 0 hnull
    rw [hpc] at h
    exact hc (List.cons.inj h).1
  rw [parseFrame, unmarshal_print _ _ _ _ (depth_frame_le hfs), unmarshal_print _ _ _ _ (depth_frame_le hfs),
    decodeStruct_object _ _ _ _ _ _ _ _ fun f hf => (hfs f hf).le,
    decodeStruct_object _ _ _ _ _ _ _ _ fun f hf => (hfs f hf).le]
  simp only [List.foldlM_cons, List.foldlM_nil, h1, h2, h3, hl, decodeString_print, map_ok, ok_bind, mapError_ok]
  simp [lookupField, RequestFrame.fields, decodeString_print, map_ok, ok_bind, mapError_ok, pure_eq_ok, hid,
    hmethod, decodeRaw, print_compact _ 1, FrameTypeReq, hne]

/-- `json.Marshal` writes the params map and its inner maps in key order. -/
theorem connectParamsValue_sorted (token deviceID publicKey signature : String) (signedAt : Int) (nonce : String) :
    connectParamsValue token deviceID publicKey signature signedAt nonce =
      .object ([("auth", .object ([("token", stringValue token)].map fun e => (stringAtoms e.1, e.2))),
        ("client", .object ([("displayName", stringValue "Test Device"), ("id", stringValue "test-device"),
          ("mode", stringValue "node"), ("platform", stringValue "linux"), ("version", stringValue "1.0.0")].map
            fun e => (stringAtoms e.1, e.2))),
        ("device", .object ([("id", stringValue deviceID), ("nonce", stringValue nonce),
          ("publicKey", stringValue publicKey), ("signature", stringValue signature),
          ("signedAt", intValue signedAt)].map fun e => (stringAtoms e.1, e.2))),
        ("maxProtocol", intValue 3), ("minProtocol", intValue 3)].map fun e => (stringAtoms e.1, e.2)) := rfl

theorem depth_connectParamsValue (token deviceID publicKey signature : String) (signedAt : Int) (nonce : String) :
    (connectParamsValue token deviceID publicKey signature signedAt nonce).depth < maxNestingDepth := by
  rw [connectParamsValue_sorted]
  exact Nat.le_of_ble_eq_true rfl

/-- The gateway decodes the script's `auth` map into the `ConnectAuth` it spells out. -/
theorem decode_authMap (token : String) (ctx : Ctx) (old : ConnectAuth) (L : Layout) (k : Nat) :
    connectAuthCodec.decode ctx old
      ((Value.object ([("token", stringValue token)].map fun e => (stringAtoms e.1, e.2))).print L k) =
      .ok ⟨token⟩ := by
  rw [connectAuthCodec, structCodec_decode, decodeStruct_object _ _ _ _ _ _ _ _ (by simp)]
  simp [lookupField, ConnectAuth.members, Member.toField, decodeString_print, map_ok, ok_bind]

/-- The gateway decodes the script's `client` map, written in key order, into the `ClientInfo` it
spells out. -/
theorem decode_clientMap (ctx : Ctx) (old : ClientInfo) (L : Layout) (k : Nat) :
    clientInfoCodec.decode ctx old
      ((Value.object ([("displayName", stringValue "Test Device"), ("id", stringValue "test-device"),
        ("mode", stringValue "node"), ("platform", stringValue "linux"), ("version", stringValue "1.0.0")].map
          fun e => (stringAtoms e.1, e.2))).print L k) =
      .ok ⟨"test-device", "Test Device", "1.0.0", "linux", "node"⟩ := by
  rw [clientInfoCodec, structCodec_decode, decodeStruct_object _ _ _ _ _ _ _ _ (by simp)]
  simp [lookupField, ClientInfo.members, Member.toField, Member.dropped, decodeString_print, map_ok, ok_bind]

/-- The gateway decodes the script's `device` map, written in key order, into the
`DeviceConnectPayload` it spells out. -/
theorem decode_deviceMap (deviceID publicKey signature nonce : String) {signedAt : Int} (hat : IsInt64 signedAt)
    (ctx : Ctx) (old : DeviceConnectPayload) (L : Layout) (k : Nat) :
    deviceConnectPayloadCodec.decode ctx old
      ((Value.object ([("id", stringValue deviceID), ("nonce", stringValue nonce),
        ("publicKey", stringValue publicKey), ("signature", stringValue signature),
        ("signedAt", intValue signedAt)].map fun e => (stringAtoms e.1, e.2))).print L k) =
      .ok ⟨deviceID, publicKey, signature, signedAt, nonce⟩ := by
  rw [deviceConnectPayloadCodec, structCodec_decode, decodeStruct_object _ _ _ _ _ _ _ _ (by simp)]
  simp [lookupField, DeviceConnectPayload.members, Member.toField, decodeString_print, int64Codec,
    decodeInt_print _ _ _ hat, map_ok, ok_bind]

/-- The gateway decodes the script's params map into the params it spells out. -/
theorem decodeConnectParams_script (token deviceID publicKey signature nonce : String) {signedAt : Int}
    (hat : IsInt64 signedAt) :
    decodeConnectParams ((connectParamsValue token deviceID publicKey signature signedAt nonce).print .compact 0) =
      .ok ⟨3, 3, ⟨"test-device", "Test Device", "1.0.0", "linux", "node"⟩, "", [], [], some ⟨token⟩,
        some ⟨deviceID, publicKey, signature, signedAt, nonce⟩⟩ := by
  set A : Value := .object ([("token", stringValue token)].map fun e => (stringAtoms e.1, e.2))
  set C : Value := .object ([("displayName", stringValue "Test Device"), ("id", stringValue "test-device"),
    ("mode", stringValue "node"), ("platform", stringValue "linux"), ("version", stringValue "1.0.0")].map
      fun e => (stringAtoms e.1, e.2))
  set D : Value := .object ([("id", stringValue deviceID), ("nonce", stringValue nonce),
    ("publicKey", stringValue publicKey), ("signature", stringValue signature), ("signedAt", intValue signedAt)].map
      fun e => (stringAtoms e.1, e.2))
  have hv : connectParamsValue token deviceID publicKey signature signedAt nonce =
      .object ([("auth", A), ("client", C), ("device", D), ("maxProtocol", intValue 3), ("minProtocol", intValue 3)].map
        fun e => (stringAtoms e.1, e.2)) := connectParamsValue_sorted _ _ _ _ _ _
  have hms : ∀ m ∈ [("auth", A), ("client", C), ("device", D), ("maxProtocol", intValue 3),
      ("minProtocol", intValue 3)], m.2.depth ≤ maxNestingDepth := by
    simp only [List.mem_cons, List.mem_singleton, List.not_mem_nil, or_false]
    rintro m (rfl | rfl | rfl | rfl | rfl) <;> exact Nat.le_of_ble_eq_true rfl
  have hA : ∀ ctx old L k, connectAuthCodec.decode ctx old (A.print L k) = .ok ⟨token⟩ := decode_authMap token
  have hC : ∀ ctx old L k, clientInfoCodec.decode ctx old (C.print L k) = _ := decode_clientMap
  have hD : ∀ ctx old L k, deviceConnectPayloadCodec.decode ctx old (D.print L k) = _ :=
    decode_deviceMap deviceID publicKey signature nonce hat
  rw [decodeConnectParams, if_neg (List.ne_nil_of_length_pos (print_length_pos _ _ _)), unmarshal_print _ _ _ _ (depth_connectParamsValue _ _ _ _ _ _).le, hv,
    connectParamsCodec, structCodec_decode, decodeStruct_object _ _ _ _ _ _ _ _ hms]
  simp [lookupField, ConnectParams.members, Member.toField, Member.dropped,
    decodePtr_print _ _ _ _ _ _ (show A ≠ .null from Value.noConfusion),
    decodePtr_print _ _ _ _ _ _ (show D ≠ .null from Value.noConfusion), hA, hC, hD,
    decodeInt_print _ _ _ (show IsInt64 3 by decide), map_ok, ok_bind]
  exact ⟨rfl, rfl, rfl⟩

/-- `json.Marshal` writes the connect request's members in key order. -/
theorem connectRequest_sorted (cr : Crypto) (token : String) (pub sig : List UInt8) (signedAt : Int)
    (nonce : String) :
    connectRequest cr token pub sig signedAt nonce =
      (Value.object ([("id", stringValue "pair-1"), ("method", stringValue "connect"),
        ("params", connectParamsValue token (deriveDeviceID cr pub) (Base64.encodeToString false pub)
          (Base64.encodeToString false sig) signedAt nonce),
        ("type", stringValue FrameTypeReq)].map fun f => (stringAtoms f.1, f.2))).print .compact 0 := rfl

/-- The gateway reads the script's connect request as the connect call with the params the
script's maps spell out. -/
theorem processConnectFrame_connectRequest (cr : Crypto) (conn : ConnInfo) (token : String) (pub sig : List UInt8)
    {signedAt : Int} (hat : IsInt64 signedAt) (nonce : String) :
    processConnectFrame cr conn (connectRequest cr token pub sig signedAt nonce) =
      Except.mapError ConnectError.handshake <$>
        processConnect cr conn ⟨"pair-1", "connect", connectParams cr token pub sig signedAt nonce⟩ := by
  rw [processConnectFrame, connectRequest_sorted,
    parseFrame_sorted_request _ _ _ (by decide) (by decide) (depth_connectParamsValue _ _ _ _ _ _) Value.noConfusion]
  exact (if_neg fun h => h rfl).trans (by rw [decodeConnectParams_script _ _ _ _ _ hat]; rfl)

/-- The gateway derives from the script's key text the id the script derived from its bytes. -/
theorem deriveDeviceID_encodeToString (cr : Crypto) {pub : List UInt8} (hpub : pub.length = Ed25519PublicKeySize) :
    GoClaw.deriveDeviceID cr (Base64.encodeToString false pub) = deriveDeviceID cr pub := by
  rw [GoClaw.deriveDeviceID, decodePublicKey_encodeToString hpub]
  rfl

/-- The payload the gateway rebuilds for the script's device is the one the script signed, with
the gateway's token in the script's token's place. -/
theorem signingPayload_script (cr : Crypto) (conn : ConnInfo) (token : String) (pub sig : List UInt8)
    (signedAt : Int) (nonce : String) :
    signingPayload conn (connectParams cr token pub sig signedAt nonce) (devicePayload cr pub sig signedAt nonce) =
      signedPayload cr (if conn.auth.mode = "token" then conn.auth.token else "") pub signedAt nonce := rfl

/-- Two auth payloads that differ at most in the token are equal exactly when the tokens are. -/
theorem buildPayload_token_inj (deviceID clientID mode role : String) (scopes : List String) (signedAt : Int)
    (t t' nonce : String) :
    buildPayload deviceID clientID mode role scopes signedAt t nonce =
      buildPayload deviceID clientID mode role scopes signedAt t' nonce ↔ t = t' := by
  simp only [buildPayload, String.ext_iff, String.data_append, List.append_assoc, List.append_cancel_left_eq,
    List.append_cancel_right_eq]

/-- Under an Ed25519 that accepts the script's signature over exactly the payload it signed, the
gateway accepts the script's signature exactly when the token it signs with is the script's. -/
theorem verifySignature_script (cr : Crypto) (conn : ConnInfo) {token : String} {pub sig : List UInt8}
    {signedAt : Int} {nonce : String} (hpub : pub.length = Ed25519PublicKeySize) (hsig : sig.length = SignatureSize)
    (hverify : ∀ m, cr.verify pub m sig = true ↔ m = signedPayload cr token pub signedAt nonce) :
    verifySignature cr (Base64.encodeToString false pub)
        (signingPayload conn (connectParams cr token pub sig signedAt nonce) (devicePayload cr pub sig signedAt nonce))
        (Base64.encodeToString false sig) = true ↔
      (if conn.auth.mode = "token" then conn.auth.token else "") = token := by
  rw [verifySignature, decodePublicKey_encodeToString hpub]
  simp only [Base64.decodeString_encodeToString, hsig, decide_True, Bool.true_and, hverify, signingPayload_script]
  exact buildPayload_token_inj _ _ _ _ _ _ _ _ _

/-! ### The script against the gateway -/

/-- **The script's half of the handshake reads and writes the gateway's frames.**  The script
reads back the nonce and the time of every challenge the gateway sends, and the gateway reads the
connect request the script answers with, its members reordered by `json.Marshal`, as the connect
call with the params the script's maps spell out. -/
theorem testPairing_handshake_frames (cr : Crypto) (conn : ConnInfo) (nonce token : String) (pub sig : List UInt8)
    {ts signedAt : Int} (hts : IsInt64 ts) (hat : IsInt64 signedAt) :
    ∃ ev, challengeEvent nonce ts = .ok ev ∧ readChallenge ev = .ok ("connect.challenge", ⟨nonce, ts⟩) ∧
      processConnectFrame cr conn (connectRequest cr token pub sig signedAt nonce) =
        Except.mapError ConnectError.handshake <$>
          processConnect cr conn ⟨"pair-1", "connect", connectParams cr token pub sig signedAt nonce⟩ := by
  obtain ⟨ev, hev, hread⟩ := readChallenge_challengeEvent nonce hts
  exact ⟨ev, hev, hread, processConnectFrame_connectRequest cr conn token pub sig hat nonce⟩

theorem testPairing_handshake_frames_zero :
    ∃ ev, challengeEvent "n" 0 = .ok ev ∧ readChallenge ev = .ok ("connect.challenge", ⟨"n", 0⟩) ∧
      processConnectFrame Crypto.zero (testConn true) (connectRequest Crypto.zero "secret" [] [] 0 "n") =
        Except.mapError ConnectError.handshake <$>
          processConnect Crypto.zero (testConn true) ⟨"pair-1", "connect", connectParams Crypto.zero "secret" [] [] 0 "n"⟩ :=
  testPairing_handshake_frames Crypto.zero (testConn true) "n" "secret" [] [] (by decide) (by decide)

/-- **The gateway's device checks on the script's device.**  Under an Ed25519 that accepts the
script's signature over exactly the payload it signed, the gateway accepts that signature exactly
when the token it puts in the payload, its own in auth mode `"token"` and `""` otherwise, is the
script's `-token`; and the id the script sends is the one the gateway derives from its key. -/
theorem testPairing_device_checks (cr : Crypto) (conn : ConnInfo) {token : String} {pub sig : List UInt8}
    {signedAt : Int} {nonce : String} (hpub : pub.length = Ed25519PublicKeySize) (hsig : sig.length = SignatureSize)
    (hverify : ∀ m, cr.verify pub m sig = true ↔ m = signedPayload cr token pub signedAt nonce) :
    (verifySignature cr (devicePayload cr pub sig signedAt nonce).publicKey
        (signingPayload conn (connectParams cr token pub sig signedAt nonce) (devicePayload cr pub sig signedAt nonce))
        (devicePayload cr pub sig signedAt nonce).signature = true ↔
      (if conn.auth.mode = "token" then conn.auth.token else "") = token) ∧
    GoClaw.deriveDeviceID cr (devicePayload cr pub sig signedAt nonce).publicKey =
      (devicePayload cr pub sig signedAt nonce).id :=
  ⟨verifySignature_script cr conn hpub hsig hverify, deriveDeviceID_encodeToString cr hpub⟩

/-- An Ed25519 that accepts a signature over `payload` only, with `cr`'s SHA-256. -/
def acceptingOnly (cr : Crypto) (payload : String) : Crypto := ⟨cr.sum256, fun _ m _ => m == payload⟩

/-- The script's key and signature in the examples: zero bytes. -/
def zeroKey : List UInt8 := List.replicate 32 0

/-- A signature of zero bytes. -/
def zeroSig : List UInt8 := List.replicate 64 0

/-- The crypto of the examples: it accepts the script's signature, with token `"secret"`, over
`testConn`'s challenge `"n"` at time 0. -/
def scriptCrypto : Crypto := acceptingOnly Crypto.zero (signedPayload Crypto.zero "secret" zeroKey 0 "n")

theorem testPairing_device_checks_testConn :
    (verifySignature scriptCrypto (devicePayload scriptCrypto zeroKey zeroSig 0 "n").publicKey
        (signingPayload (testConn true) (connectParams scriptCrypto "secret" zeroKey zeroSig 0 "n")
          (devicePayload scriptCrypto zeroKey zeroSig 0 "n"))
        (devicePayload scriptCrypto zeroKey zeroSig 0 "n").signature = true ↔
      (if (testConn true).auth.mode = "token" then (testConn true).auth.token else "") = "secret") ∧
    GoClaw.deriveDeviceID scriptCrypto (devicePayload scriptCrypto zeroKey zeroSig 0 "n").publicKey =
      (devicePayload scriptCrypto zeroKey zeroSig 0 "n").id :=
  testPairing_device_checks scriptCrypto (testConn true) rfl rfl fun _ => beq_iff_eq

/-- **Without a shared token the script is refused.**  Against a gateway started without
`--token` (auth mode `"none"`) with its Pairing Service attached, the script, run with a
non-empty `-token` (its default is `"secret"`), signs a payload with that token where the gateway
rebuilds it with `""`: the handshake ends with `INVALID_SIGNATURE`, before any pairing call. -/
theorem testPairing_refused_without_token (cr : Crypto) (conn : ConnInfo) {token : String} {pub sig : List UInt8}
    {signedAt : Int} {nonce : String} (hmode : conn.auth.mode = "none") (hpairing : conn.pairing = true)
    (htoken : token ≠ "") (hat : IsInt64 signedAt) (hpub : pub.length = Ed25519PublicKeySize)
    (hsig : sig.length = SignatureSize)
    (hverify : ∀ m, cr.verify pub m sig = true ↔ m = signedPayload cr token pub signedAt nonce) :
    processConnectFrame cr conn (connectRequest cr token pub sig signedAt nonce) =
      pure (.error (.handshake .invalidSignature)) := by
  have hv : verifySignature cr (devicePayload cr pub sig signedAt nonce).publicKey
      (signingPayload conn (connectParams cr token pub sig signedAt nonce) (devicePayload cr pub sig signedAt nonce))
      (devicePayload cr pub sig signedAt nonce).signature = false := by
    rw [Bool.eq_false_iff]
    intro h
    have ht := (verifySignature_script cr conn hpub hsig hverify).1 h
    rw [hmode, if_neg (by decide)] at ht
    exact htoken ht.symm
  have hval : validateConnect (connectParams cr token pub sig signedAt nonce) = true := rfl
  have hauth : (authenticate conn.auth (connectParams cr token pub sig signedAt nonce).auth).ok = true := by
    unfold authenticate
    rw [if_pos hmode]
  have hstep : deviceStep cr conn (connectParams cr token pub sig signedAt nonce) = pure (.error .invalidSignature) := by
    show (if conn.pairing then verifyDevice cr conn _ (devicePayload cr pub sig signedAt nonce) else _) = _
    rw [if_pos hpairing, verifyDevice, hv]
    rfl
  rw [processConnectFrame_connectRequest cr conn token pub sig hat nonce, processConnect]
  dsimp only
  rw [if_neg fun h => h rfl, hval, hauth, hstep]
  rfl

theorem testPairing_refused_without_token_testConn :
    processConnectFrame scriptCrypto (testConn true) (connectRequest scriptCrypto "secret" zeroKey zeroSig 0 "n") =
      pure (.error (.handshake .invalidSignature)) :=
  testPairing_refused_without_token scriptCrypto (testConn true) rfl rfl (by decide) (by decide) rfl rfl
    fun _ => beq_iff_eq

/-! ### Error replies -/

/-- The script reads the code and the message of a failed response. -/
theorem readResponse_sendError {id : String} (hid : id ≠ "") (code message : String) :
    readResponse (sendError id code message) = .ok ⟨FrameTypeRes, id, false, [], some ⟨code, message⟩⟩ := by
  have hfs : ∀ f ∈ responseFields id false none (some ⟨code, message, none⟩), f.2.depth < maxNestingDepth := by
    simp [responseFields, depth_errorShapeValue, maxNestingDepth]
  have herr : ∀ ctx L k, decodePtr (decodeStruct "" errorType ErrorInfo.fields) ⟨"", ""⟩ ctx none
      ((errorShapeValue ⟨code, message, none⟩).print L k) = .ok (some ⟨code, message⟩) := by
    intro ctx L k
    rw [decodePtr_print _ _ _ _ _ _ (by simp [errorShapeValue]), errorShapeValue,
      decodeStruct_object _ _ _ _ _ _ _ _ (by simp [maxNestingDepth])]
    simp [lookupField, ErrorInfo.fields, decodeString_print, map_ok, ok_bind]
  rw [sendError_print hid, readResponse, unmarshal_print _ _ _ _ (depth_frame_le hfs),
    decodeStruct_object _ _ _ _ _ _ _ _ fun f hf => (hfs f hf).le]
  simp only [responseFields, Option.toList, List.map, List.nil_append, List.cons_append, List.singleton_append,
    List.foldlM_cons, List.foldlM_nil]
  simp [lookupField, Response.fields, decodeString_print, decodeBool_print, map_ok, ok_bind, herr, Response.zero]

/-- **Every reported handshake error reaches the script.**  For every request id and every error
that `processConnect` reports on it, the frame it writes parses as a failed response to the
request carrying the error's code and message, and `test-pairing.go` reads that code and
message. -/
theorem testPairing_reads_connect_errors {id : String} (hid : id ≠ "") (params : ConnectParams) (e : ConnectError)
    {s : Protocol.ErrorShape} (hs : e.reply params = some s) :
    ∃ t, connectErrorFrame id params e = some t ∧
      parseFrame t = .ok (.res ⟨FrameTypeRes, id, false, [], some s⟩) ∧
      readResponse t = .ok ⟨FrameTypeRes, id, false, [], some ⟨s.code, s.message⟩⟩ := by
  obtain ⟨code, message, r⟩ := s
  obtain rfl : r = none := ConnectError.reply_retryable hs
  refine ⟨_, by rw [connectErrorFrame, hs]; rfl, ?_, readResponse_sendError hid code message⟩
  rw [sendError_print hid]
  exact parseFrame_response id false none _ hid fun v hv => by cases hv

theorem testPairing_reads_connect_errors_invalidSignature :
    ∃ t, connectErrorFrame "pair-1" (zeroConnect "node").params (.handshake .invalidSignature) = some t ∧
      parseFrame t = .ok (.res ⟨FrameTypeRes, "pair-1", false, [],
        some ⟨"INVALID_SIGNATURE", "device signature verification failed", none⟩⟩) ∧
      readResponse t = .ok ⟨FrameTypeRes, "pair-1", false, [],
        some ⟨"INVALID_SIGNATURE", "device signature verification failed"⟩⟩ :=
  testPairing_reads_connect_errors (by decide) _ _ rfl

end TestPairing

end GoClaw
