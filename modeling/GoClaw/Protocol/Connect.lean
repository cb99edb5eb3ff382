import GoClaw.Protocol.Frames
import GoClaw.Pairing.Files
import GoClaw.Pairing.System

namespace GoClaw

open Json Protocol

/-!
# The gateway protocol — the connect request on the wire

`Conn.processConnect` of `gateway.go` from the text it reads: `ParseFrame`, the checks that the
frame is a request and its method `connect`, and `json.Unmarshal` of the params into a zero
`ConnectParams`, before the handshake of `Gateway.Handshake` runs on the parsed request.

* `clientInfoCodec`, `connectAuthCodec`, `deviceConnectPayloadCodec` and `connectParamsCodec`
  follow the struct tags of `connect.go`, every field in its place.  The fields the model's
  records leave out (`deviceFamily`, `modelIdentifier`, `permissions`) are decoded and dropped
  (`Member.dropped`), so a value of the wrong type there still fails `Unmarshal`.
* `processConnectFrame` is `processConnect(data)`; `ConnectError` names the three ways it gives
  up before the handshake proper.
* `processConnectFrame_marshalRequest`: the frame `MarshalRequest` writes for a connect request
  is handled as `processConnect` handles the request itself, for all params whose integers are
  `int64`s.  `absorb_connectParams` is the step that carries it: decoding the printed params
  into a zero `ConnectParams` gives them back, the fields `omitempty` leaves out included.
* `challengeEvent` is the `connect.challenge` event `sendChallenge` writes, and `helloResponse`
  the success response, `{"auth": {"deviceToken": …}}` in its payload when there is a device
  token.
-/

/-! ### The connect params' json tags -/

namespace ClientInfo

/-- The zero `ClientInfo`. -/
def zero : ClientInfo := ⟨"", "", "", "", ""⟩

/-- `ClientInfo`'s fields with their tags, in the order of the Go struct. -/
def members : List (Member ClientInfo) :=
  [⟨"id", false, stringCodec "string", (·.id), fun c v => { c with id := v }, fun _ => rfl⟩,
   ⟨"displayName", true, stringCodec "string", (·.displayName), fun c v => { c with displayName := v },
     fun _ => rfl⟩,
   ⟨"version", false, stringCodec "string", (·.version), fun c v => { c with version := v }, fun _ => rfl⟩,
   ⟨"platform", false, stringCodec "string", (·.platform), fun c v => { c with platform := v }, fun _ => rfl⟩,
   .dropped "deviceFamily" (stringCodec "string") "",
   .dropped "modelIdentifier" (stringCodec "string") "",
   ⟨"mode", false, stringCodec "string", (·.mode), fun c v => { c with mode := v }, fun _ => rfl⟩]

end ClientInfo

/-- `protocol.ClientInfo`. -/
def clientInfoCodec : Codec ClientInfo :=
  structCodec "ClientInfo" "protocol.ClientInfo" ClientInfo.members (by decide)

namespace ConnectAuth

/-- The zero `ConnectAuth`. -/
def zero : ConnectAuth := ⟨""⟩

/-- `ConnectAuth`'s field with its tag. -/
def members : List (Member ConnectAuth) :=
  [⟨"token", false, stringCodec "string", (·.token), fun _ v => ⟨v⟩, fun _ => rfl⟩]

end ConnectAuth

/-- `protocol.ConnectAuth`. -/
def connectAuthCodec : Codec ConnectAuth :=
  structCodec "ConnectAuth" "protocol.ConnectAuth" ConnectAuth.members (by decide)

namespace DeviceConnectPayload

/-- The zero `DeviceConnectPayload`. -/
def zero : DeviceConnectPayload := ⟨"", "", "", 0, ""⟩

/-- `DeviceConnectPayload`'s fields with their tags. -/
def members : List (Member DeviceConnectPayload) :=
  [⟨"id", false, stringCodec "string", (·.id), fun d v => { d with id := v }, fun _ => rfl⟩,
   ⟨"publicKey", false, stringCodec "string", (·.publicKey), fun d v => { d with publicKey := v },
     fun _ => rfl⟩,
   ⟨"signature", false, stringCodec "string", (·.signature), fun d v => { d with signature := v },
     fun _ => rfl⟩,
   ⟨"signedAt", false, int64Codec, (·.signedAt), fun d v => { d with signedAt := v }, fun _ => rfl⟩,
   ⟨"nonce", false, stringCodec "string", (·.nonce), fun d v => { d with nonce := v }, fun _ => rfl⟩]

end DeviceConnectPayload

/-- `protocol.DeviceConnectPayload`. -/
def deviceConnectPayloadCodec : Codec DeviceConnectPayload :=
  structCodec "DeviceConnectPayload" "protocol.DeviceConnectPayload" DeviceConnectPayload.members (by decide)

namespace ConnectParams

/-- The zero `ConnectParams`, what `var params protocol.ConnectParams` holds. -/
def zero : ConnectParams := ⟨0, 0, ClientInfo.zero, "", [], [], none, none⟩

/-- `ConnectParams`'s fields with their tags, in the order of the Go struct. -/
def members : List (Member ConnectParams) :=
  [⟨"minProtocol", false, intCodec, (·.minProtocol), fun p v => { p with minProtocol := v }, fun _ => rfl⟩,
   ⟨"maxProtocol", false, intCodec, (·.maxProtocol), fun p v => { p with maxProtocol := v }, fun _ => rfl⟩,
   ⟨"client", false, clientInfoCodec, (·.client), fun p v => { p with client := v }, fun _ => rfl⟩,
   ⟨"role", true, stringCodec "string", (·.role), fun p v => { p with role := v }, fun _ => rfl⟩,
   ⟨"caps", true, stringsCodec, (·.caps), fun p v => { p with caps := v }, fun _ => rfl⟩,
   ⟨"commands", true, stringsCodec, (·.commands), fun p v => { p with commands := v }, fun _ => rfl⟩,
   .dropped "permissions" (mapCodec boolCodec false "map[string]bool") ∅,
   ⟨"auth", true, ptrCodec connectAuthCodec ConnectAuth.zero (encodeStruct_ne_null ConnectAuth.members),
     (·.auth), fun p v => { p with auth := v }, fun _ => rfl⟩,
   ⟨"device", true,
     ptrCodec deviceConnectPayloadCodec DeviceConnectPayload.zero (encodeStruct_ne_null DeviceConnectPayload.members),
     (·.device), fun p v => { p with device := v }, fun _ => rfl⟩]

end ConnectParams

/-- `protocol.ConnectParams`. -/
def connectParamsCodec : Codec ConnectParams :=
  structCodec "ConnectParams" "protocol.ConnectParams" ConnectParams.members (by decide)

theorem absorb_clientInfo (c : ClientInfo) : clientInfoCodec.absorb ClientInfo.zero c = c := by
  cases c
  simp only [clientInfoCodec, structCodec_absorb, ClientInfo.members, List.foldl_cons, List.foldl_nil,
    Member.absorb_dropped, Member.absorb_mk, ClientInfo.zero, stringCodec_absorb, stringCodec_isEmpty,
    Bool.true_and, Bool.false_and, Bool.false_eq_true, if_false, beq_iff_eq, ite_eq_right_iff,
    @eq_comm String "", imp_self, ClientInfo.mk.injEq, and_self]

theorem absorb_connectAuth (a : ConnectAuth) : connectAuthCodec.absorb ConnectAuth.zero a = a := rfl

theorem absorb_deviceConnectPayload (d : DeviceConnectPayload) :
    deviceConnectPayloadCodec.absorb DeviceConnectPayload.zero d = d := rfl

/-- Decoding printed params into a zero `ConnectParams` gives them back: a field `omitempty`
leaves out was empty, and stays so. -/
theorem absorb_connectParams (p : ConnectParams) : connectParamsCodec.absorb ConnectParams.zero p = p := by
  rcases p with ⟨_, _, _, _, _, _, _ | _, _ | _⟩ <;>
    simp only [connectParamsCodec, structCodec_absorb, ConnectParams.members, List.foldl_cons, List.foldl_nil,
      Member.absorb_dropped, Member.absorb_mk, ConnectParams.zero, intCodec_absorb, stringCodec_absorb,
      stringsCodec_absorb, ptrCodec_absorb, stringCodec_isEmpty, stringsCodec_isEmpty, ptrCodec_isEmpty,
      Bool.true_and, Bool.false_and, Bool.false_eq_true, if_false, if_true, Option.isNone_none,
      Option.isNone_some, Option.map_none', Option.map_some', Option.getD_none, absorb_clientInfo,
      absorb_connectAuth, absorb_deviceConnectPayload, beq_iff_eq, List.isEmpty_iff, ite_eq_right_iff,
      @eq_comm String "", @eq_comm (List String) [], imp_self, ConnectParams.mk.injEq, true_and, and_self]

/-- Params fit the codec's round trip when their integers are `int64`s; a field of the other
structs is a string. -/
theorem connectParamsCodec_fits {p : ConnectParams} (hmin : IsInt64 p.minProtocol) (hmax : IsInt64 p.maxProtocol)
    (hdev : ∀ d ∈ p.device, IsInt64 d.signedAt) : connectParamsCodec.Fits p := by
  intro m hm homit
  simp only [ConnectParams.members, List.mem_cons, List.mem_singleton, List.not_mem_nil, or_false] at hm
  rcases hm with rfl | rfl | rfl | rfl | rfl | rfl | rfl | rfl | rfl
  · exact hmin
  · exact hmax
  · intro m hm _
    simp only [ClientInfo.members, List.mem_cons, List.mem_singleton, List.not_mem_nil, or_false] at hm
    rcases hm with rfl | rfl | rfl | rfl | rfl | rfl | rfl <;> trivial
  · trivial
  · exact fun _ _ => trivial
  · exact fun _ _ => trivial
  · exact Bool.noConfusion homit
  · intro a _ m hm _
    rw [List.mem_singleton.1 hm]
    trivial
  · intro d hd m hm _
    simp only [DeviceConnectPayload.members, List.mem_cons, List.mem_singleton, List.not_mem_nil, or_false] at hm
    rcases hm with rfl | rfl | rfl | rfl | rfl
    all_goals first | trivial | exact hdev d hd

theorem stringsCodec_htmlSafe : stringsCodec.HtmlSafe := sliceCodec_htmlSafe (stringCodec_htmlSafe _) _ _

theorem connectParamsCodec_htmlSafe : connectParamsCodec.HtmlSafe := by
  have hclient : clientInfoCodec.HtmlSafe := structCodec_htmlSafe _ _ _ fun m hm => by
    simp only [ClientInfo.members, List.mem_cons, List.mem_singleton, List.not_mem_nil, or_false] at hm
    rcases hm with rfl | rfl | rfl | rfl | rfl | rfl | rfl <;> exact stringCodec_htmlSafe _
  have hauth : connectAuthCodec.HtmlSafe := structCodec_htmlSafe _ _ _ fun m hm => by
    rw [List.mem_singleton.1 hm]
    exact stringCodec_htmlSafe _
  have hdev : deviceConnectPayloadCodec.HtmlSafe := structCodec_htmlSafe _ _ _ fun m hm => by
    simp only [DeviceConnectPayload.members, List.mem_cons, List.mem_singleton, List.not_mem_nil, or_false] at hm
    rcases hm with rfl | rfl | rfl | rfl | rfl <;> first | exact stringCodec_htmlSafe _ | exact intCodec_htmlSafe
  refine structCodec_htmlSafe _ _ _ fun m hm => ?_
  simp only [ConnectParams.members, List.mem_cons, List.mem_singleton, List.not_mem_nil, or_false] at hm
  rcases hm with rfl | rfl | rfl | rfl | rfl | rfl | rfl | rfl | rfl
  · exact intCodec_htmlSafe
  · exact intCodec_htmlSafe
  · exact hclient
  · exact stringCodec_htmlSafe _
  · exact stringsCodec_htmlSafe
  · exact stringsCodec_htmlSafe
  · exact mapCodec_htmlSafe boolCodec_htmlSafe _ _
  · exact ptrCodec_htmlSafe hauth _ (encodeStruct_ne_null _)
  · exact ptrCodec_htmlSafe hdev _ (encodeStruct_ne_null _)

/-! ### `processConnect` from the frame -/

/-- Why `processConnect` gave up, by what it returned. -/
inductive ConnectError where
  /-- `ParseFrame`'s error, returned as it is; nothing is sent. -/
  | parse (e : FrameError)
  /-- `expected request frame`; nothing is sent. -/
  | notRequest
  /-- `INVALID_JSON`, `invalid connect params: %v`: `json.Unmarshal` refused the params. -/
  | invalidParams (e : JsonError)
  /-- An error of the handshake proper. -/
  | handshake (e : HandshakeError)
  deriving DecidableEq, Repr

/-- `var params protocol.ConnectParams`, then `json.Unmarshal(req.Params, &params)` unless the
params are nil. -/
def decodeConnectParams (raw : List Char) : Except JsonError ConnectParams :=
  if raw = [] then .ok ConnectParams.zero else unmarshal connectParamsCodec.decode ConnectParams.zero raw

/-- `processConnect(data)`: the device token on success. -/
def processConnectFrame (cr : Crypto) (conn : ConnInfo) (data : List Char) : Prog (Except ConnectError String) :=
  match parseFrame data with
  | .error e => pure (.error (.parse e))
  | .ok (.req req) =>
    if req.method ≠ "connect" then pure (.error (.handshake .invalidMethod))
    else
      match decodeConnectParams req.params with
      | .error e => pure (.error (.invalidParams e))
      | .ok params => Except.mapError .handshake <$> processConnect cr conn ⟨req.id, req.method, params⟩
  | .ok _ => pure (.error .notRequest)

/-- Printed params decode back, in a frame's `params` as `json.Marshal` wrote them. -/
theorem decodeConnectParams_print {p : ConnectParams} (hp : connectParamsCodec.Fits p)
    (hd : (connectParamsCodec.encode p).depth ≤ maxNestingDepth) :
    decodeConnectParams ((connectParamsCodec.encode p).print .compact 0) = .ok p := by
  rw [decodeConnectParams, if_neg (List.ne_nil_of_length_pos (print_length_pos _ _ _)),
    Codec.unmarshal_encode _ _ _ hp hd, absorb_connectParams]

/-- **The connect frame on the wire.**  For every request id and every params whose integers are
`int64`s, the frame `MarshalRequest` writes for the connect request is handled by
`processConnect` as the handshake handles the request itself: the same store calls, the same
outcome. -/
theorem processConnectFrame_marshalRequest (cr : Crypto) (conn : ConnInfo) (id : String) (p : ConnectParams)
    (hid : id ≠ "") (hmin : IsInt64 p.minProtocol) (hmax : IsInt64 p.maxProtocol)
    (hdev : ∀ d ∈ p.device, IsInt64 d.signedAt) :
    ∃ data, marshalRequest id "connect" (some (.ok (connectParamsCodec.encode p))) = .ok data ∧
      processConnectFrame cr conn data =
        Except.mapError ConnectError.handshake <$> processConnect cr conn ⟨id, "connect", p⟩ := by
  have hd : (connectParamsCodec.encode p).depth < maxNestingDepth :=
    lt_of_le_of_lt (connectParamsCodec.depth_encode p) (by decide)
  have hraw : rawOf (some (connectParamsCodec.encode p)) = (connectParamsCodec.encode p).print .compact 0 := by
    rw [rawOf, escapeHTML_of_htmlSafe (connectParamsCodec_htmlSafe p)]
  have hnull : (connectParamsCodec.encode p).print .compact 0 ≠ "null".data := by
    rw [show connectParamsCodec.encode p = encodeStruct ConnectParams.members p from rfl, encodeStruct,
      print_object]
    simp
  refine ⟨_, marshalRequest_print id "connect" (some _) hid (by decide) fun v hv => ?_, ?_⟩
  · cases hv; exact hd.le
  rw [processConnectFrame, parseFrame_request id "connect" _ hid (by decide) fun v hv => by cases hv; exact hd]
  simp only [hraw, if_neg hnull, decodeConnectParams_print (connectParamsCodec_fits hmin hmax hdev) hd.le]
  rfl

theorem processConnectFrame_marshalRequest_zeroConnect :
    ∃ data, marshalRequest "1" "connect" (some (.ok (connectParamsCodec.encode (zeroConnect "node").params))) =
        .ok data ∧
      processConnectFrame Crypto.zero (testConn true) data =
        Except.mapError ConnectError.handshake <$> processConnect Crypto.zero (testConn true) (zeroConnect "node") :=
  processConnectFrame_marshalRequest Crypto.zero (testConn true) "1" (zeroConnect "node").params (by decide)
    (by decide) (by decide) fun d hd => by cases hd; decide

/-! ### The error replies -/

/-- `string(errJSON)` of the `NOT_PAIRED` reply: `json.Marshal` of `{"requestId": requestID}`,
its error dropped (a nil `errJSON` is `""`). -/
def notPairedMessage (requestID : String) : String :=
  ⟨((jsonMarshal (.ok (mapValue [("requestId", stringValue requestID)]))).toOption).getD []⟩

/-- The code and message `processConnect` sends with `c.sendError` before it returns a handshake
error, for the params it decoded; the failed write of the success response sends none. -/
def HandshakeError.reply (params : ConnectParams) : HandshakeError → Option Protocol.ErrorShape
  | .invalidMethod => some ⟨"INVALID_METHOD", "first request must be connect", none⟩
  | .protocolMismatch => some ⟨"PROTOCOL_MISMATCH", "server protocol " ++ toString ServerProtocol ++
      " not in client range [" ++ toString params.minProtocol ++ ", " ++ toString params.maxProtocol ++ "]", none⟩
  | .unauthorized reason => some ⟨"UNAUTHORIZED", reason, none⟩
  | .invalidSignature => some ⟨"INVALID_SIGNATURE", "device signature verification failed", none⟩
  | .invalidNonce => some ⟨"INVALID_NONCE", "nonce does not match challenge", none⟩
  | .invalidDeviceID => some ⟨"INVALID_DEVICE_ID", "device ID does not match public key", none⟩
  | .notPaired requestID => some ⟨"NOT_PAIRED", notPairedMessage requestID, none⟩
  | .pairingError _ => some ⟨"PAIRING_ERROR", "unexpected pairing status", none⟩
  | .writeFailed => none

/-- The code and message sent for a `ConnectError`: none for a frame that does not parse or is
not a request, `INVALID_JSON` for params that do not decode. -/
def ConnectError.reply (params : ConnectParams) : ConnectError → Option Protocol.ErrorShape
  | .parse _ | .notRequest => none
  | .invalidParams e => some ⟨"INVALID_JSON", "invalid connect params: " ++ e.error, none⟩
  | .handshake e => e.reply params

/-- `c.sendError(id, code, message)`: the failed response `MarshalResponse` writes, and the empty
message `writeMessage` gets when marshalling fails. -/
def sendError (id code message : String) : List Char :=
  ((marshalResponse id false none (some ⟨code, message, none⟩)).toOption).getD []

/-- What `processConnect` writes before it returns the error `e` on the request `id` with the
params `params`. -/
def connectErrorFrame (id : String) (params : ConnectParams) (e : ConnectError) : Option (List Char) :=
  (e.reply params).map fun s => sendError id s.code s.message

/-- No reply sets `retryable`. -/
theorem ConnectError.reply_retryable {params : ConnectParams} {e : ConnectError} {s : Protocol.ErrorShape}
    (h : e.reply params = some s) : s.retryable = none := by
  rcases e with _ | _ | _ | (_ | _ | _ | _ | _ | _ | _ | _ | _) <;> cases h <;> rfl

/-- On a request id, `sendError` writes the printed failed response. -/
theorem sendError_print {id : String} (hid : id ≠ "") (code message : String) :
    sendError id code message = (Value.object ((responseFields id false none (some ⟨code, message, none⟩)).map
      fun f => (stringAtoms f.1, f.2))).print .compact 0 := by
  rw [sendError, show marshalResponse id false none _ = _ from
    marshalResponse_print id false none _ hid fun v hv => by cases hv]
  rfl

/-- The `NOT_PAIRED` message is the printed object `{"requestId": requestID}`. -/
theorem notPairedMessage_data (requestID : String) :
    (notPairedMessage requestID).data = (Value.object [(stringAtoms "requestId", stringValue requestID)]).print .compact 0 := by
  have hsafe : (Value.object [(stringAtoms "requestId", stringValue requestID)]).htmlSafe = true :=
    membersHtmlSafe_iff.2 fun m hm => by
      rw [List.mem_singleton.1 hm]
      exact ⟨stringAtoms_htmlSafe _, stringValue_htmlSafe _⟩
  rw [notPairedMessage, jsonMarshal, mapValue_singleton]
  show (Value.object [(stringAtoms "requestId", stringValue requestID)]).escapeHTML.print .compact 0 = _
  rw [escapeHTML_of_htmlSafe hsafe]

/-- **The `NOT_PAIRED` reply names the request.**  Whatever the params, the reply to a handshake
that ends in `pairing-required` for the request `requestID` has the code `NOT_PAIRED` and, as its
message, JSON that `json.Unmarshal` reads into a `map[string]string` holding exactly
`requestId: requestID`. -/
theorem notPaired_reply_requestId (params : ConnectParams) (requestID : String) :
    ∃ s, (HandshakeError.notPaired requestID).reply params = some s ∧ s.code = "NOT_PAIRED" ∧
      unmarshal (decodeMap (decodeString "string") "" "map[string]string") ∅ s.message.data =
        .ok ((∅ : GoMap String).insert "requestId" requestID) := by
  have hd : (Value.object [(stringAtoms "requestId", stringValue requestID)]).depth ≤ maxNestingDepth :=
    Nat.le_of_ble_eq_true rfl
  refine ⟨_, rfl, rfl, ?_⟩
  rw [notPairedMessage_data, unmarshal_print _ _ _ _ hd,
    decodeMap_print _ _ _ _ _ _ _ _ fun m hm => by rw [List.mem_singleton.1 hm]; exact Nat.zero_le _]
  simp [decodeString_print, decodeAtoms_stringAtoms, map_ok]

/-! ### The challenge -/

/-- The payload of `sendChallenge`, `map[string]any{"nonce": nonce, "ts": ts}`. -/
def challengePayload (nonce : String) (ts : Int) : Value :=
  mapValue [("nonce", stringValue nonce), ("ts", intValue ts)]

/-- `sendChallenge`'s frame, `MarshalEvent("connect.challenge", payload)`, for the nonce it draws
(`generateID`) and the time it reads (`time.Now().Unix()`). -/
def challengeEvent (nonce : String) (ts : Int) : Except MarshalError (List Char) :=
  marshalEvent "connect.challenge" (some (.ok (challengePayload nonce ts)))

/-! ### The success response -/

/-- `HelloAuthInfo`. -/
structure HelloAuthInfo where
  deviceToken : String
  deriving DecidableEq, Repr

/-- `HelloAuthInfo`'s field with its tag. -/
def HelloAuthInfo.members : List (Member HelloAuthInfo) :=
  [⟨"deviceToken", true, stringCodec "string", (·.deviceToken), fun _ v => ⟨v⟩, fun _ => rfl⟩]

/-- `protocol.HelloAuthInfo`. -/
def helloAuthInfoCodec : Codec HelloAuthInfo :=
  structCodec "HelloAuthInfo" "protocol.HelloAuthInfo" HelloAuthInfo.members (by decide)

/-- The payload `processConnect` hands `MarshalResponse` after a handshake that returned
`deviceToken`: `map[string]any{"auth": HelloAuthInfo{DeviceToken: deviceToken}}` when there is a
device token, nil otherwise. -/
def helloPayload (deviceToken : String) : Option Value :=
  if deviceToken ≠ "" then some (mapValue [("auth", helloAuthInfoCodec.encode ⟨deviceToken⟩)]) else none

/-- `MarshalResponse(req.ID, true, responsePayload, nil)`, the success response. -/
def helloResponse (id deviceToken : String) : Except MarshalError (List Char) :=
  marshalResponse id true ((helloPayload deviceToken).map .ok) none

end GoClaw
