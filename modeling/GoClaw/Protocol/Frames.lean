import GoClaw.Json.Codec

namespace GoClaw

namespace Protocol

open Json

/-!
# The gateway protocol — frames and their codec

`frames.go` and `marshal.go` of `internal/protocol`: the three frame kinds of the gateway's
wire protocol, the `Marshal*` functions that write them and `ParseFrame`, which reads any of
them back by its `type`.

* A frame's `json.RawMessage` (request params, response and event payloads) is its text, nil
  being empty; a Go value handed to `Marshal*` is the JSON value `json.Marshal` writes for it
  (`GoValue`).  `json.Marshal` of a frame is modelled at the text level (`objectText`,
  `rawField`): `structEncoder` and `marshalerEncoder`, which compacts a `RawMessage` again.
* `marshalRequest_print`, `marshalResponse_print`, `marshalEvent_print`: what the three write
  is the compact printing of the frame's fields.  `decodeRawFrame_print`: the discriminator
  pass reads the `type` of such a printing.  `parseFrame_request`, `parseFrame_response` and
  `parseFrame_event`: `ParseFrame` reads it back.
* `parseFrame_inverts_marshal`: the round trip, for Go values nested less deep than
  `maxNestingDepth`.  `parseFrame_refuses_deep_params`: at that depth itself the round trip
  breaks: `json.Marshal` of the params still goes through, but the frame around them is one
  level too deep for the scanner `Unmarshal` runs first.
-/

/-! ### Frames -/

/-- `FrameError`: a code, the field at fault (empty when none) and a message. -/
structure FrameError where
  code : String
  field : String
  message : String
  deriving DecidableEq, Repr

/-- `Error()`. -/
def FrameError.error (e : FrameError) : String :=
  if e.field ≠ "" then "frame error [" ++ e.code ++ "]: " ++ e.message ++ " (field=" ++ e.field ++ ")"
  else "frame error [" ++ e.code ++ "]: " ++ e.message

/-- `FrameTypeReq`. -/
def FrameTypeReq : String := "req"

/-- `FrameTypeRes`. -/
def FrameTypeRes : String := "res"

/-- `FrameTypeEvent`. -/
def FrameTypeEvent : String := "event"

/-- `ErrorShape`; `retryable` is the `*bool`, `none` for nil. -/
structure ErrorShape where
  code : String
  message : String
  retryable : Option Bool
  deriving DecidableEq, Repr

/-- `RawFrame`, the discriminator. -/
structure RawFrame where
  type : String
  deriving DecidableEq, Repr

/-- `RequestFrame`; a `json.RawMessage` is its text, nil being empty. -/
structure RequestFrame where
  type : String
  id : String
  method : String
  params : List Char
  deriving DecidableEq, Repr

/-- `ResponseFrame`. -/
structure ResponseFrame where
  type : String
  id : String
  ok : Bool
  payload : List Char
  error : Option ErrorShape
  deriving DecidableEq, Repr

/-- `EventFrame`; `seq` is the `*int`. -/
structure EventFrame where
  type : String
  event : String
  payload : List Char
  seq : Option Int
  deriving DecidableEq, Repr

/-- What `ParseFrame` returns: a `*RequestFrame`, a `*ResponseFrame` or an `*EventFrame`. -/
inductive Frame where
  | req (f : RequestFrame)
  | res (f : ResponseFrame)
  | event (f : EventFrame)
  deriving DecidableEq, Repr

/-! ### `json.Marshal` of a frame -/

/-- A Go string as `json.Marshal` writes it. -/
def stringText (s : String) : List Char := quoted (stringAtoms s)

/-- A bool as `json.Marshal` writes it. -/
def boolText (b : Bool) : List Char := (Value.bool b).print .compact 0

/-- One field as `structEncoder` writes it: its name, a colon, its value. -/
def fieldText (f : String × List Char) : List Char := stringText f.1 ++ ':' :: f.2

/-- `structEncoder`: the fields it writes, in order, between braces and after commas. -/
def objectText : List (String × List Char) → List Char
  | [] => ['{', '}']
  | f :: fs => '{' :: (fieldText f ++ (fs.flatMap (',' :: fieldText ·) ++ ['}']))

/-- A `json.RawMessage` field with `omitempty`: left out when empty, and otherwise written by
`marshalerEncoder`, which compacts it with `escapeHTML` and turns a failure into a
`MarshalerError`. -/
def rawField (name : String) (raw : List Char) : Except JsonError (List (String × List Char)) :=
  if raw = [] then .ok []
  else match compact raw with
    | .ok t => .ok [(name, t)]
    | .error e => .error (.marshaler "json.RawMessage" e)

/-- `json.Marshal` of an `ErrorShape`. -/
def ErrorShape.text (e : ErrorShape) : List Char :=
  objectText ([("code", stringText e.code), ("message", stringText e.message)] ++
    e.retryable.toList.map fun b => ("retryable", boolText b))

/-- `json.Marshal` of a `RequestFrame`. -/
def RequestFrame.marshal (f : RequestFrame) : Except JsonError (List Char) := do
  let params ← rawField "params" f.params
  pure (objectText ([("type", stringText f.type), ("id", stringText f.id), ("method", stringText f.method)] ++
    params))

/-- `json.Marshal` of a `ResponseFrame`. -/
def ResponseFrame.marshal (f : ResponseFrame) : Except JsonError (List Char) := do
  let payload ← rawField "payload" f.payload
  pure (objectText ([("type", stringText f.type), ("id", stringText f.id), ("ok", boolText f.ok)] ++ payload ++
    f.error.toList.map fun e => ("error", e.text)))

/-- `json.Marshal` of an `EventFrame`. -/
def EventFrame.marshal (f : EventFrame) : Except JsonError (List Char) := do
  let payload ← rawField "payload" f.payload
  pure (objectText ([("type", stringText f.type), ("event", stringText f.event)] ++ payload ++
    f.seq.toList.map fun n => ("seq", (toString n).data)))

/-! ### `MarshalRequest`, `MarshalResponse`, `MarshalEvent` -/

/-- A Go value as `json.Marshal` sees it: the JSON value it is written as, or the error
marshalling it reports (a type or value `encoding/json` does not take, a failing `MarshalJSON`). -/
abbrev GoValue := Except JsonError Value

/-- `json.Marshal(v)`: compact, strings escaped with `escapeHTML`. -/
def jsonMarshal (v : GoValue) : Except JsonError (List Char) := v.map fun v => v.escapeHTML.print .compact 0

/-- What the three return as `error`: a `*FrameError` of their own, or the error of the final
`json.Marshal` of the frame. -/
inductive MarshalError where
  | frame (e : FrameError)
  | json (e : JsonError)
  deriving DecidableEq, Repr

/-- The `MISSING_FIELD` error of a frame kind's required field. -/
def missingField (kind field : String) : FrameError :=
  ⟨"MISSING_FIELD", field, kind ++ " frame missing required \"" ++ field ++ "\" field"⟩

/-- `json.Marshal(payload)` for a frame: nothing for a nil `payload`, and `INVALID_JSON` with
`what` when marshalling fails. -/
def marshalPayload (what : String) : Option GoValue → Except MarshalError (List Char)
  | none => .ok []
  | some v =>
    match jsonMarshal v with
    | .ok raw => .ok raw
    | .error e => .error (.frame ⟨"INVALID_JSON", "", "failed to marshal " ++ what ++ ": " ++ e.error⟩)

/-- `MarshalRequest(id, method, params)`; `none` is a nil `params`. -/
def marshalRequest (id method : String) (params : Option GoValue) : Except MarshalError (List Char) := do
  if id = "" then throw (.frame (missingField "request" "id"))
  if method = "" then throw (.frame (missingField "request" "method"))
  let raw ← marshalPayload "request params" params
  (RequestFrame.marshal ⟨FrameTypeReq, id, method, raw⟩).mapError .json

/-- `MarshalResponse(id, ok, payload, errShape)`. -/
def marshalResponse (id : String) (ok : Bool) (payload : Option GoValue) (errShape : Option ErrorShape) :
    Except MarshalError (List Char) := do
  if id = "" then throw (.frame (missingField "response" "id"))
  let raw ← marshalPayload "response payload" payload
  (ResponseFrame.marshal ⟨FrameTypeRes, id, ok, raw, errShape⟩).mapError .json

/-- `MarshalEvent(event, payload)`. -/
def marshalEvent (event : String) (payload : Option GoValue) : Except MarshalError (List Char) := do
  if event = "" then throw (.frame (missingField "event" "event"))
  let raw ← marshalPayload "event payload" payload
  (EventFrame.marshal ⟨FrameTypeEvent, event, raw, none⟩).mapError .json

/-! ### `ParseFrame` -/

/-- The struct fields the decoder fills, by their tags. -/
def RawFrame.fields : List (StructField RawFrame) :=
  [⟨"type", decodeString "protocol.FrameType", (·.type), fun f v => { f with type := v }⟩]

def ErrorShape.fields : List (StructField ErrorShape) :=
  [⟨"code", decodeString "string", (·.code), fun e v => { e with code := v }⟩,
   ⟨"message", decodeString "string", (·.message), fun e v => { e with message := v }⟩,
   ⟨"retryable", decodePtr decodeBool false, (·.retryable), fun e v => { e with retryable := v }⟩]

/-- `*ErrorShape`. -/
def decodeErrorShape : Decoder (Option ErrorShape) :=
  decodePtr (decodeStruct "ErrorShape" "protocol.ErrorShape" ErrorShape.fields) ⟨"", "", none⟩

def RequestFrame.fields : List (StructField RequestFrame) :=
  [⟨"type", decodeString "protocol.FrameType", (·.type), fun f v => { f with type := v }⟩,
   ⟨"id", decodeString "string", (·.id), fun f v => { f with id := v }⟩,
   ⟨"method", decodeString "string", (·.method), fun f v => { f with method := v }⟩,
   ⟨"params", decodeRaw, (·.params), fun f v => { f with params := v }⟩]

def ResponseFrame.fields : List (StructField ResponseFrame) :=
  [⟨"type", decodeString "protocol.FrameType", (·.type), fun f v => { f with type := v }⟩,
   ⟨"id", decodeString "string", (·.id), fun f v => { f with id := v }⟩,
   ⟨"ok", decodeBool, (·.ok), fun f v => { f with ok := v }⟩,
   ⟨"payload", decodeRaw, (·.payload), fun f v => { f with payload := v }⟩,
   ⟨"error", decodeErrorShape, (·.error), fun f v => { f with error := v }⟩]

def EventFrame.fields : List (StructField EventFrame) :=
  [⟨"type", decodeString "protocol.FrameType", (·.type), fun f v => { f with type := v }⟩,
   ⟨"event", decodeString "string", (·.event), fun f v => { f with event := v }⟩,
   ⟨"payload", decodeRaw, (·.payload), fun f v => { f with payload := v }⟩,
   ⟨"seq", decodePtr (decodeInt "int") 0, (·.seq), fun f v => { f with seq := v }⟩]

/-- `strconv.Quote` of one character, for `%q`: quotes and backslashes escaped, the control
characters as `\a`, `\b`, `\f`, `\n`, `\r`, `\t`, `\v` or `\x` escapes.  A character past
ASCII is taken as printable and kept (`unicode.IsPrint`'s tables are not modelled). -/
def quoteRune (c : Char) : String :=
  if c = '"' then "\\\"" else if c = '\\' then "\\\\"
  else if c.toNat = 7 then "\\a" else if c.toNat = 8 then "\\b" else if c.toNat = 12 then "\\f"
  else if c.toNat = 10 then "\\n" else if c.toNat = 13 then "\\r" else if c.toNat = 9 then "\\t"
  else if c.toNat = 11 then "\\v"
  else if c.toNat < 0x20 ∨ c.toNat = 0x7F then "\\x" ++ ⟨[hexDigit (c.toNat / 16), hexDigit (c.toNat % 16)]⟩
  else c.toString

/-- `%q` of a string. -/
def goQuote (s : String) : String := "\"" ++ String.join (s.data.map quoteRune) ++ "\""

/-- `INVALID_JSON` with the decoder's error. -/
def invalidJSON (what : String) (e : JsonError) : FrameError := ⟨"INVALID_JSON", "", what ++ ": " ++ e.error⟩

/-- `ParseFrame(data)`: the discriminator first, then the frame of its kind, with the required
fields checked and a `null` request `params` made nil. -/
def parseFrame (data : List Char) : Except FrameError Frame := do
  let raw ← (unmarshal (decodeStruct "RawFrame" "protocol.RawFrame" RawFrame.fields) ⟨""⟩ data).mapError
    (invalidJSON "invalid frame JSON")
  if raw.type = "" then throw ⟨"MISSING_FIELD", "type", "frame missing required \"type\" field"⟩
  if raw.type = FrameTypeReq then
    let req ← (unmarshal (decodeStruct "RequestFrame" "protocol.RequestFrame" RequestFrame.fields)
      ⟨"", "", "", []⟩ data).mapError (invalidJSON "invalid request frame JSON")
    if req.id = "" then throw (missingField "request" "id")
    if req.method = "" then throw (missingField "request" "method")
    pure (.req (if req.params = "null".data then { req with params := [] } else req))
  else if raw.type = FrameTypeRes then
    let res ← (unmarshal (decodeStruct "ResponseFrame" "protocol.ResponseFrame" ResponseFrame.fields)
      ⟨"", "", false, [], none⟩ data).mapError (invalidJSON "invalid response frame JSON")
    if res.id = "" then throw (missingField "response" "id")
    pure (.res res)
  else if raw.type = FrameTypeEvent then
    let evt ← (unmarshal (decodeStruct "EventFrame" "protocol.EventFrame" EventFrame.fields)
      ⟨"", "", [], none⟩ data).mapError (invalidJSON "invalid event frame JSON")
    if evt.event = "" then throw (missingField "event" "event")
    pure (.event evt)
  else throw ⟨"UNKNOWN_TYPE", "", "unknown frame type: " ++ goQuote raw.type⟩

/-! ### Round trips -/

mutual

/-- The compact layout writes a value the same at every depth. -/
theorem print_compact : ∀ (v : Value) (k : Nat), v.print .compact k = v.print .compact 0
  | .array (v :: vs), k => by
    simp only [Value.print, Layout.compact_newline, print_compact v (k + 1), print_compact v 1,
      printItems_compact vs (k + 1), printItems_compact vs 1]
  | .object ((key, v) :: ms), k => by
    simp only [Value.print, Layout.compact_newline, Layout.compact_colon, print_compact v (k + 1),
      print_compact v 1, printMembers_compact ms (k + 1), printMembers_compact ms 1]
  | .null, _ | .bool true, _ | .bool false, _ | .number _ _, _ | .string _, _ | .array [], _
  | .object [], _ => rfl

theorem printItems_compact : ∀ (vs : List Value) (k : Nat), printItems .compact k vs = printItems .compact 0 vs
  | [], _ => rfl
  | v :: vs, k => by
    simp only [printItems, Layout.compact_newline, print_compact v k, printItems_compact vs k]

theorem printMembers_compact :
    ∀ (ms : List (List Atom × Value)) (k : Nat), printMembers .compact k ms = printMembers .compact 0 ms
  | [], _ => rfl
  | (key, v) :: ms, k => by
    simp only [printMembers, Layout.compact_newline, Layout.compact_colon, print_compact v k,
      printMembers_compact ms k]

end

/-- The fields after the first, as `structEncoder` writes them, are the printed members. -/
theorem flatMap_fieldText (fs : List (String × Value)) (k : Nat) :
    (fs.map fun f => (f.1, f.2.print .compact 0)).flatMap (',' :: fieldText ·) =
      printMembers .compact k (fs.map fun f => (stringAtoms f.1, f.2)) := by
  induction fs with
  | nil => rfl
  | cons f fs ih =>
    rw [List.map_cons, List.flatMap_cons, ih]
    simp only [printMembers, Layout.compact_newline, Layout.compact_colon, fieldText, stringText,
      print_compact f.2 k, List.nil_append, List.cons_append, List.append_assoc]

/-- `structEncoder`'s text of fields whose values are printed values is the printed object. -/
theorem objectText_print (fs : List (String × Value)) :
    objectText (fs.map fun f => (f.1, f.2.print .compact 0)) =
      (Value.object (fs.map fun f => (stringAtoms f.1, f.2))).print .compact 0 := by
  cases fs with
  | nil => rfl
  | cons f fs =>
    rw [List.map_cons, objectText, flatMap_fieldText fs 1]
    simp only [Value.print, Layout.compact_newline, Layout.compact_colon, fieldText, stringText,
      print_compact f.2 1, List.nil_append, List.cons_append, List.append_assoc]

/-- `json.Marshal` of a value as a frame field: compacting it again changes nothing. -/
theorem rawField_marshal (name : String) (v : Value) (hd : v.depth ≤ maxNestingDepth) :
    rawField name (v.escapeHTML.print .compact 0) = .ok [(name, v.escapeHTML.print .compact 0)] := by
  have hne : v.escapeHTML.print .compact 0 ≠ [] :=
    List.ne_nil_of_length_pos (print_length_pos _ _ _)
  rw [rawField, if_neg hne, compact_print _ (htmlSafe_escapeHTML v) (by rw [depth_escapeHTML]; exact hd)]

theorem ok_bind {ε α β : Type} (a : α) (f : α → Except ε β) : (Except.ok a >>= f) = f a := rfl

theorem map_ok {ε α β : Type} (f : α → β) (a : α) : Except.map f (Except.ok a : Except ε α) = .ok (f a) := rfl

theorem mapError_ok {ε ε' α : Type} (f : ε → ε') (a : α) : Except.mapError f (Except.ok a) = .ok a := rfl

theorem pure_eq_ok {ε α : Type} (a : α) : (pure a : Except ε α) = .ok a := rfl

theorem marshalPayload_ok (what : String) (v : Value) :
    marshalPayload what (some (.ok v)) = .ok (v.escapeHTML.print .compact 0) := rfl

/-- The `json.RawMessage` a frame carries for a Go value: `json.Marshal`'s text, nil for nil. -/
def rawOf : Option Value → List Char
  | none => []
  | some v => v.escapeHTML.print .compact 0

@[simp] theorem jsonMarshal_ok (v : Value) : jsonMarshal (.ok v) = .ok (rawOf (some v)) := rfl

/-- The fields `json.Marshal` writes for a request frame, as values. -/
def requestFields (id method : String) (params : Option Value) : List (String × Value) :=
  [("type", stringValue FrameTypeReq), ("id", stringValue id), ("method", stringValue method)] ++
    params.toList.map fun v => ("params", v.escapeHTML)

/-- An `ErrorShape` as `json.Marshal` writes it, as a value. -/
def errorShapeValue (e : ErrorShape) : Value :=
  .object (([("code", stringValue e.code), ("message", stringValue e.message)] ++
    e.retryable.toList.map fun b => ("retryable", Value.bool b)).map fun f => (stringAtoms f.1, f.2))

/-- The fields `json.Marshal` writes for a response frame, as values. -/
def responseFields (id : String) (ok : Bool) (payload : Option Value) (e : Option ErrorShape) :
    List (String × Value) :=
  [("type", stringValue FrameTypeRes), ("id", stringValue id), ("ok", .bool ok)] ++
    payload.toList.map (fun v => ("payload", v.escapeHTML)) ++ e.toList.map fun e => ("error", errorShapeValue e)

/-- The fields `json.Marshal` writes for an event frame, as values. -/
def eventFields (event : String) (payload : Option Value) : List (String × Value) :=
  [("type", stringValue FrameTypeEvent), ("event", stringValue event)] ++
    payload.toList.map fun v => ("payload", v.escapeHTML)

@[simp] theorem depth_stringValue (s : String) : (stringValue s).depth = 0 := rfl

@[simp] theorem depth_intValue (i : Int) : (intValue i).depth = 0 := rfl

theorem depth_errorShapeValue (e : ErrorShape) : (errorShapeValue e).depth = 1 := by
  rcases e with ⟨c, m, _ | b⟩ <;> rfl

/-- A printed frame's depth fits when its fields' depths stay under `maxNestingDepth`. -/
theorem depth_frame_le {fs : List (String × Value)} (h : ∀ f ∈ fs, f.2.depth < maxNestingDepth) :
    (Value.object (fs.map fun f => (stringAtoms f.1, f.2))).depth ≤ maxNestingDepth := by
  have : membersDepth (fs.map fun f => (stringAtoms f.1, f.2)) ≤ maxNestingDepth - 1 :=
    membersDepth_le fun m hm => by
      obtain ⟨f, hf, rfl⟩ := List.mem_map.1 hm
      have := h f hf
      show f.2.depth ≤ maxNestingDepth - 1
      omega
  simp only [Value.depth]
  unfold maxNestingDepth at this ⊢
  omega

theorem errorShape_text (e : ErrorShape) : e.text = (errorShapeValue e).print .compact 0 := by
  rw [errorShapeValue, ← objectText_print]
  rcases e with ⟨code, message, _ | b⟩ <;> rfl

/-- `MarshalRequest` writes the printing of its fields. -/
theorem marshalRequest_print (id method : String) (params : Option Value) (hid : id ≠ "") (hmethod : method ≠ "")
    (hp : ∀ v ∈ params, v.depth ≤ maxNestingDepth) :
    marshalRequest id method (params.map .ok) =
      .ok ((Value.object ((requestFields id method params).map fun f => (stringAtoms f.1, f.2))).print .compact 0) := by
  rw [← objectText_print]
  cases params with
  | none =>
    simp only [marshalRequest, hid, hmethod, if_false, marshalPayload, Option.map_none']
    rfl
  | some v =>
    simp only [marshalRequest, hid, hmethod, if_false, Option.map_some', marshalPayload_ok, pure_bind, ok_bind,
      RequestFrame.marshal, rawField_marshal _ v (hp v rfl)]
    rfl

/-- `MarshalResponse` writes the printing of its fields. -/
theorem marshalResponse_print (id : String) (ok : Bool) (payload : Option Value) (e : Option ErrorShape)
    (hid : id ≠ "") (hp : ∀ v ∈ payload, v.depth ≤ maxNestingDepth) :
    marshalResponse id ok (payload.map .ok) e =
      .ok ((Value.object ((responseFields id ok payload e).map fun f => (stringAtoms f.1, f.2))).print .compact 0) := by
  rw [← objectText_print]
  cases payload with
  | none =>
    simp only [marshalResponse, hid, if_false, marshalPayload, Option.map_none']
    cases e <;> simp only [ResponseFrame.marshal, rawField, if_true, ok_bind, pure_bind] <;>
      simp only [errorShape_text] <;> rfl
  | some v =>
    simp only [marshalResponse, hid, if_false, Option.map_some', marshalPayload_ok, pure_bind, ok_bind,
      ResponseFrame.marshal, rawField_marshal _ v (hp v rfl)]
    cases e <;> simp only [errorShape_text] <;> rfl

/-- `MarshalEvent` writes the printing of its fields. -/
theorem marshalEvent_print (event : String) (payload : Option Value) (hevent : event ≠ "")
    (hp : ∀ v ∈ payload, v.depth ≤ maxNestingDepth) :
    marshalEvent event (payload.map .ok) =
      .ok ((Value.object ((eventFields event payload).map fun f => (stringAtoms f.1, f.2))).print .compact 0) := by
  rw [← objectText_print]
  cases payload with
  | none =>
    simp only [marshalEvent, hevent, if_false, marshalPayload, Option.map_none']
    rfl
  | some v =>
    simp only [marshalEvent, hevent, if_false, Option.map_some', marshalPayload_ok, pure_bind, ok_bind,
      EventFrame.marshal, rawField_marshal _ v (hp v rfl)]
    rfl

/-- A printed `ErrorShape` decodes into a nil `*ErrorShape` as itself. -/
theorem decodeErrorShape_print (ctx : Ctx) (e : ErrorShape) (L : Layout) (k : Nat) :
    decodeErrorShape ctx none ((errorShapeValue e).print L k) = .ok (some e) := by
  rw [decodeErrorShape, decodePtr_print _ _ _ _ _ _ (by simp [errorShapeValue]), errorShapeValue,
    decodeStruct_object _ _ _ _ _ _ _ _ (by rcases e with ⟨c, m, _ | b⟩ <;> simp [maxNestingDepth])]
  rcases e with ⟨c, m, _ | b⟩ <;>
    simp [lookupField, ErrorShape.fields, decodeString_print, map_ok, ok_bind, decodePtr_print, decodeBool_print]

/-- The discriminator pass of `ParseFrame` reads the `type` of a printed frame whose other
members name no `RawFrame` field. -/
theorem decodeRawFrame_print (t : String) (fs : List (String × Value))
    (hfs : ∀ f ∈ fs, f.2.depth < maxNestingDepth) (hkeys : ∀ f ∈ fs, lookupField RawFrame.fields f.1 = none) :
    unmarshal (decodeStruct "RawFrame" "protocol.RawFrame" RawFrame.fields) ⟨""⟩
      ((Value.object ((("type", stringValue t) :: fs).map fun f => (stringAtoms f.1, f.2))).print .compact 0) =
      .ok ⟨t⟩ := by
  have hall : ∀ f ∈ ("type", stringValue t) :: fs, f.2.depth < maxNestingDepth :=
    List.forall_mem_cons.2 ⟨by simp [maxNestingDepth], hfs⟩
  have hl : lookupField RawFrame.fields "type" =
      some ⟨"type", decodeString "protocol.FrameType", (·.type), fun f v => { f with type := v }⟩ := rfl
  rw [unmarshal_print _ _ _ _ (depth_frame_le hall),
    decodeStruct_object _ _ _ _ _ _ _ _ fun f hf => le_of_lt (hall f hf), List.foldlM_cons]
  simp only [hl, decodeString_print, map_ok, ok_bind]
  exact foldlM_unknown_keys _ _ _ _ fs ⟨t⟩ hkeys

/-- `ParseFrame` reads a printed request frame back. -/
theorem parseFrame_request (id method : String) (params : Option Value) (hid : id ≠ "") (hmethod : method ≠ "")
    (hp : ∀ v ∈ params, v.depth < maxNestingDepth) :
    parseFrame ((Value.object ((requestFields id method params).map fun f => (stringAtoms f.1, f.2))).print .compact 0) =
      .ok (.req ⟨FrameTypeReq, id, method, if rawOf params = "null".data then [] else rawOf params⟩) := by
  have hfs : ∀ f ∈ requestFields id method params, f.2.depth < maxNestingDepth := by
    cases params <;> simp_all [requestFields, depth_escapeHTML, maxNestingDepth]
  have h1 : lookupField RawFrame.fields "id" = none := lookupField_none (by decide)
  have h2 : lookupField RawFrame.fields "method" = none := lookupField_none (by decide)
  have h3 : lookupField RawFrame.fields "params" = none := lookupField_none (by decide)
  have hraw : unmarshal (decodeStruct "RawFrame" "protocol.RawFrame" RawFrame.fields) ⟨""⟩
      ((Value.object ((requestFields id method params).map fun f => (stringAtoms f.1, f.2))).print .compact 0) =
      .ok ⟨FrameTypeReq⟩ :=
    decodeRawFrame_print _ _ (fun f hf => hfs f (List.mem_cons_of_mem _ hf)) (by cases params <;> simp [h1, h2, h3])
  rw [parseFrame, hraw, mapError_ok, ok_bind]
  simp only [FrameTypeReq, String.reduceEq, reduceIte, unmarshal_print _ _ _ _ (depth_frame_le hfs),
    decodeStruct_object _ _ _ _ _ _ _ _ fun f hf => le_of_lt (hfs f hf)]
  cases params <;>
    simp only [requestFields, Option.toList, List.map, List.nil_append, List.cons_append, List.append_nil,
      List.foldlM_cons, List.foldlM_nil] <;>
    simp [lookupField, RequestFrame.fields, decodeString_print, map_ok, ok_bind, mapError_ok, pure_eq_ok, hid,
      hmethod, decodeRaw, print_compact _ 1, rawOf, FrameTypeReq]
  split <;> next h => simp only [h, ite_true, ite_false]

/-- `ParseFrame` reads a printed response frame back. -/
theorem parseFrame_response (id : String) (ok : Bool) (payload : Option Value) (e : Option ErrorShape) (hid : id ≠ "")
    (hp : ∀ v ∈ payload, v.depth < maxNestingDepth) :
    parseFrame ((Value.object ((responseFields id ok payload e).map fun f => (stringAtoms f.1, f.2))).print .compact 0) =
      .ok (.res ⟨FrameTypeRes, id, ok, rawOf payload, e⟩) := by
  have hfs : ∀ f ∈ responseFields id ok payload e, f.2.depth < maxNestingDepth := by
    cases payload <;> cases e <;> simp_all [responseFields, depth_escapeHTML, depth_errorShapeValue, maxNestingDepth]
  have h1 : lookupField RawFrame.fields "id" = none := lookupField_none (by decide)
  have h2 : lookupField RawFrame.fields "ok" = none := lookupField_none (by decide)
  have h3 : lookupField RawFrame.fields "payload" = none := lookupField_none (by decide)
  have h4 : lookupField RawFrame.fields "error" = none := lookupField_none (by decide)
  have hraw : unmarshal (decodeStruct "RawFrame" "protocol.RawFrame" RawFrame.fields) ⟨""⟩
      ((Value.object ((responseFields id ok payload e).map fun f => (stringAtoms f.1, f.2))).print .compact 0) =
      .ok ⟨FrameTypeRes⟩ :=
    decodeRawFrame_print _ _ (fun f hf => hfs f (List.mem_cons_of_mem _ hf))
      (by cases payload <;> cases e <;> simp [h1, h2, h3, h4])
  rw [parseFrame, hraw, mapError_ok, ok_bind]
  simp only [FrameTypeReq, FrameTypeRes, String.reduceEq, reduceIte, unmarshal_print _ _ _ _ (depth_frame_le hfs),
    decodeStruct_object _ _ _ _ _ _ _ _ fun f hf => le_of_lt (hfs f hf)]
  cases payload <;> cases e <;>
    simp only [responseFields, Option.toList, List.map, List.nil_append, List.cons_append, List.append_nil,
      List.foldlM_cons, List.foldlM_nil] <;>
    simp [lookupField, ResponseFrame.fields, decodeString_print, decodeBool_print, map_ok, ok_bind, mapError_ok,
      pure_eq_ok, hid, decodeRaw, print_compact _ 1, rawOf, decodeErrorShape_print] <;>
    rfl

/-- `ParseFrame` reads a printed event frame back. -/
theorem parseFrame_event (event : String) (payload : Option Value) (hevent : event ≠ "")
    (hp : ∀ v ∈ payload, v.depth < maxNestingDepth) :
    parseFrame ((Value.object ((eventFields event payload).map fun f => (stringAtoms f.1, f.2))).print .compact 0) =
      .ok (.event ⟨FrameTypeEvent, event, rawOf payload, none⟩) := by
  have hfs : ∀ f ∈ eventFields event payload, f.2.depth < maxNestingDepth := by
    cases payload <;> simp_all [eventFields, depth_escapeHTML, maxNestingDepth]
  have h1 : lookupField RawFrame.fields "event" = none := lookupField_none (by decide)
  have h2 : lookupField RawFrame.fields "payload" = none := lookupField_none (by decide)
  have hraw : unmarshal (decodeStruct "RawFrame" "protocol.RawFrame" RawFrame.fields) ⟨""⟩
      ((Value.object ((eventFields event payload).map fun f => (stringAtoms f.1, f.2))).print .compact 0) =
      .ok ⟨FrameTypeEvent⟩ :=
    decodeRawFrame_print _ _ (fun f hf => hfs f (List.mem_cons_of_mem _ hf)) (by cases payload <;> simp [h1, h2])
  rw [parseFrame, hraw, mapError_ok, ok_bind]
  simp only [FrameTypeReq, FrameTypeRes, FrameTypeEvent, String.reduceEq, reduceIte,
    unmarshal_print _ _ _ _ (depth_frame_le hfs), decodeStruct_object _ _ _ _ _ _ _ _ fun f hf => le_of_lt (hfs f hf)]
  cases payload <;>
    simp only [eventFields, Option.toList, List.map, List.nil_append, List.cons_append, List.append_nil,
      List.foldlM_cons, List.foldlM_nil] <;>
    simp [lookupField, EventFrame.fields, decodeString_print, map_ok, ok_bind, mapError_ok, pure_eq_ok, hevent,
      decodeRaw, print_compact _ 1, rawOf] <;>
    rfl

/-! ### The codec round trip -/

/-- Every frame `MarshalRequest`, `MarshalResponse` and `MarshalEvent` write, for non-empty
required fields and Go values nested less deep than `maxNestingDepth`, reads back through
`ParseFrame` as the frame it was made from, a request's `null` params read as nil. -/
theorem parseFrame_inverts_marshal (id method event : String) (ok : Bool) (e : Option ErrorShape)
    (params payload : Option Value) (hid : id ≠ "") (hmethod : method ≠ "") (hevent : event ≠ "")
    (hparams : ∀ v ∈ params, v.depth < maxNestingDepth) (hpayload : ∀ v ∈ payload, v.depth < maxNestingDepth) :
    (∃ t, marshalRequest id method (params.map .ok) = .ok t ∧
      parseFrame t = .ok (.req ⟨FrameTypeReq, id, method, if rawOf params = "null".data then [] else rawOf params⟩)) ∧
    (∃ t, marshalResponse id ok (payload.map .ok) e = .ok t ∧
      parseFrame t = .ok (.res ⟨FrameTypeRes, id, ok, rawOf payload, e⟩)) ∧
    (∃ t, marshalEvent event (payload.map .ok) = .ok t ∧
      parseFrame t = .ok (.event ⟨FrameTypeEvent, event, rawOf payload, none⟩)) :=
  ⟨⟨_, marshalRequest_print id method params hid hmethod (fun v hv => le_of_lt (hparams v hv)),
      parseFrame_request id method params hid hmethod hparams⟩,
    ⟨_, marshalResponse_print id ok payload e hid (fun v hv => le_of_lt (hpayload v hv)),
      parseFrame_response id ok payload e hid hpayload⟩,
    ⟨_, marshalEvent_print event payload hevent (fun v hv => le_of_lt (hpayload v hv)),
      parseFrame_event event payload hevent hpayload⟩⟩

/-- The params of the round-trip test, `{"minProtocol":3}`. -/
def connectParams : Value := .object [(stringAtoms "minProtocol", intValue 3)]

theorem parseFrame_inverts_marshal_connect :
    (∃ t, marshalRequest "req-1" "connect" (some (.ok connectParams)) = .ok t ∧
      parseFrame t = .ok (.req ⟨FrameTypeReq, "req-1", "connect",
        if rawOf (some connectParams) = "null".data then [] else rawOf (some connectParams)⟩)) ∧
    (∃ t, marshalResponse "req-1" true (some (.ok connectParams)) (some ⟨"E", "<failed>", some true⟩) = .ok t ∧
      parseFrame t = .ok (.res ⟨FrameTypeRes, "req-1", true, rawOf (some connectParams),
        some ⟨"E", "<failed>", some true⟩⟩)) ∧
    (∃ t, marshalEvent "tick" (some (.ok connectParams)) = .ok t ∧
      parseFrame t = .ok (.event ⟨FrameTypeEvent, "tick", rawOf (some connectParams), none⟩)) :=
  parseFrame_inverts_marshal "req-1" "connect" "tick" true (some ⟨"E", "<failed>", some true⟩)
    (some connectParams) (some connectParams) (by decide) (by decide) (by decide)
    (by rintro v ⟨⟩; decide) (by rintro v ⟨⟩; decide)

/-- `n + 1` arrays, each the only item of the one around it. -/
def Value.nest : Nat → Value
  | 0 => .array []
  | n + 1 => .array [Value.nest n]

@[simp] theorem depth_nest (n : Nat) : (Value.nest n).depth = n + 1 := by
  induction n with
  | zero => rfl
  | succ n ih => simp [Value.nest, Value.depth, itemsDepth, ih]


/-- `Unmarshal` reports what `checkValid` finds wrong. -/
theorem unmarshal_of_checkValid {α : Type} (d : Decoder α) (old : α) {data : List Char} {e : JsonError}
    (h : checkValid data = .error e) : unmarshal d old data = .error e := by
  rw [unmarshal, h]
  rfl

/-- A request frame whose params nest as deep as `maxNestingDepth` allows is one level too
deep for `ParseFrame`. -/
theorem parseFrame_request_too_deep (id method : String) (v : Value) (hv : maxNestingDepth ≤ v.depth) :
    ∃ err, parseFrame ((Value.object ((requestFields id method (some v)).map
      fun f => (stringAtoms f.1, f.2))).print .compact 0) = .error err := by
  have hdeep : maxNestingDepth < (Value.object ((requestFields id method (some v)).map
      fun f => (stringAtoms f.1, f.2))).depth := by
    simp only [requestFields, Option.toList, List.map, List.cons_append, List.nil_append, Value.depth,
      membersDepth, depth_escapeHTML, stringValue]
    omega
  obtain ⟨e, he⟩ := checkValid_print_deep .compact _ hdeep
  exact ⟨_, by simp only [parseFrame, unmarshal_of_checkValid _ _ he]; rfl⟩

/-- Params nested as deep as `maxNestingDepth` allows go out, but the frame around them is one
level deeper than the scanner takes, so `ParseFrame` refuses what `MarshalRequest` wrote. -/
theorem parseFrame_refuses_deep_params :
    ∃ t, marshalRequest "req-1" "connect" (some (.ok (Value.nest 9999))) = .ok t ∧
      ∃ err, parseFrame t = .error err :=
  ⟨_, marshalRequest_print "req-1" "connect" (some (Value.nest 9999)) (by decide) (by decide)
      (by rintro v ⟨⟩; simp [maxNestingDepth]),
    parseFrame_request_too_deep "req-1" "connect" _ (by simp [maxNestingDepth])⟩

end Protocol

end GoClaw
