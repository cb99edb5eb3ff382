import GoClaw.Json.Value
import GoClaw.Pairing.Types

namespace GoClaw

namespace Json

/-!
# Go's `encoding/json` — decoding

`json.Unmarshal` checks its whole input with the scanner and then walks it a second time,
decoding each value into the Go value it is meant for by that value's type.  This module
models the second walk over a text `checkValid` accepted.

* `valueSpan`, `objectMembers` and `arrayElements` cut a valid text into the spans `d.value`
  hands on: a value's text, an object's keys (read by `unquote`) with their values' texts, an
  array's elements' texts.
* A `Decoder` is `d.value` into one Go type: it gets the value's text, what the Go value held
  before (decoding writes into it) and the error context, and returns the new Go value or the
  first `UnmarshalTypeError`.  `decodeString`, `decodeBool` and `decodeInt` are `literalStore`,
  `decodeRaw` is `RawMessage.UnmarshalJSON`, `decodePtr` is `indirect`, and `decodeSlice`,
  `decodeMap` and `decodeStruct` are `d.array` and `d.object`; a struct's fields are `StructField`s,
  found by exact name and then by `foldName`.
* `unmarshal` is `json.Unmarshal`.
* The `_print` lemmas say what each of them makes of a printed value: the walk over a printed
  container yields its members' printings (`objectMembers_print`, `arrayElements_print`), a
  printed Go string, bool or `int64` reads back as itself (`parseInt_toString` for
  `strconv.ParseInt`), and a container's decoder runs its parts' decoders on their printings.
-/

/-! ### Walking a valid text -/

/-- The text of the value `cs` holds after white space, and what follows it: the span
`d.skip` passes over, found with the scanner.  `none` where the scanner stops, which the
`checkValid` before every decode rules out. -/
def valueSpan (cs : List Char) : Option (List Char × List Char) :=
  match scanValue (cs.length + 1) 0 cs with
  | .ok rest => some ((skipSpace cs).take ((skipSpace cs).length - rest.length), rest)
  | .error _ => none

/-- The members of an object from its first key on: each key as `unquote` reads it and the
text of its value. -/
def membersFrom : Nat → List Char → Option (List (List Char × List Char))
  | 0, _ => none
  | fuel + 1, cs =>
    match skipSpace cs with
    | '"' :: cs =>
      match readString cs with
      | .ok (key, cs) =>
        match skipSpace cs with
        | ':' :: cs =>
          match valueSpan cs with
          | some (t, cs) =>
            match skipSpace cs with
            | ',' :: cs => ((key, t) :: ·) <$> membersFrom fuel cs
            | '}' :: _ => some [(key, t)]
            | _ => none
          | none => none
        | _ => none
      | .error _ => none
    | _ => none

/-- The members of an object text in the order of the text, as `d.object` walks them. -/
def objectMembers (cs : List Char) : Option (List (List Char × List Char)) :=
  match skipSpace cs with
  | '{' :: cs =>
    match skipSpace cs with
    | '}' :: _ => some []
    | _ => membersFrom cs.length cs
  | _ => none

/-- The elements of an array from the first one on. -/
def elementsFrom : Nat → List Char → Option (List (List Char))
  | 0, _ => none
  | fuel + 1, cs =>
    match valueSpan cs with
    | some (t, cs) =>
      match skipSpace cs with
      | ',' :: cs => (t :: ·) <$> elementsFrom fuel cs
      | ']' :: _ => some [t]
      | _ => none
    | none => none

/-- The elements of an array text in order, as `d.array` walks them. -/
def arrayElements (cs : List Char) : Option (List (List Char)) :=
  match skipSpace cs with
  | '[' :: cs =>
    match skipSpace cs with
    | ']' :: _ => some []
    | _ => elementsFrom cs.length cs
  | _ => none

/-! ### Walking printed values -/

theorem skipSpace_print {L : Layout} {k : Nat} {pre : List Char} (h : AllSpace pre) (v : Value)
    (rest : List Char) : skipSpace (pre ++ (v.print L k ++ rest)) = v.print L k ++ rest := by
  obtain ⟨c, cs, hv, hs, -⟩ := print_cons L k v
  rw [skipSpace_append h, hv, List.cons_append, skipSpace_cons hs]

/-- The span of a printed value is its printing. -/
theorem valueSpan_print {L : Layout} {k : Nat} {pre : List Char} (h : AllSpace pre) (v : Value)
    (hd : v.depth ≤ maxNestingDepth) {rest : List Char} (hr : NumberEnds rest) :
    valueSpan (pre ++ (v.print L k ++ rest)) = some (v.print L k, rest) := by
  rw [valueSpan, scanValue_space h, scanValue_print L v k _ 0 rest (by simp; omega) (by omega) hr,
    skipSpace_print h]
  simp

/-- A printed member's key as `unquote` reads it and its value's text. -/
def memberText (L : Layout) (k : Nat) (m : List Atom × Value) : List Char × List Char :=
  (decodeAtoms none m.1, m.2.print L k)

theorem length_le_printMembers (L : Layout) (k : Nat) :
    ∀ ms : List (List Atom × Value), ms.length ≤ (printMembers L k ms).length
  | [] => le_rfl
  | (_, _) :: ms => by
    have := length_le_printMembers L k ms
    simp only [printMembers, List.length_cons, List.length_append]
    omega

theorem length_le_printItems (L : Layout) (k : Nat) :
    ∀ vs : List Value, vs.length ≤ (printItems L k vs).length
  | [] => le_rfl
  | _ :: vs => by
    have := length_le_printItems L k vs
    simp only [printItems, List.length_cons, List.length_append]
    omega

theorem membersFrom_print (L : Layout) (k : Nat) {ws : List Char} (hws : AllSpace ws) (rest : List Char) :
    ∀ (ms : List (List Atom × Value)) (key : List Atom) (v : Value) (fuel : Nat) (pre : List Char),
      AllSpace pre → ms.length < fuel → v.depth ≤ maxNestingDepth → (∀ m ∈ ms, m.2.depth ≤ maxNestingDepth) →
      membersFrom fuel (pre ++ (quoted key ++ ':' :: (L.colon ++ (v.print L k ++
        (printMembers L k ms ++ (ws ++ '}' :: rest)))))) =
        some (memberText L k (key, v) :: ms.map (memberText L k))
  | ms, key, v, fuel + 1, pre, hpre, hlen, hv, hms => by
    have hkey : skipSpace (pre ++ (quoted key ++ ':' :: (L.colon ++ (v.print L k ++
        (printMembers L k ms ++ (ws ++ '}' :: rest)))))) =
        '"' :: (body key ++ '"' :: ':' :: (L.colon ++ (v.print L k ++
        (printMembers L k ms ++ (ws ++ '}' :: rest))))) := by
      rw [skipSpace_append hpre, quoted, List.cons_append, @skipSpace_cons '"' rfl]
      simp only [List.append_assoc, List.singleton_append, List.cons_append, List.nil_append]
    rw [membersFrom, hkey]
    simp only [readString, readStringFrom_body, @skipSpace_cons ':' rfl]
    rw [valueSpan_print L.colon_space v hv (numberEnds_printMembers L k ms hws rest)]
    cases ms with
    | nil =>
      simp only [printMembers, List.nil_append, skipSpace_append hws, @skipSpace_cons '}' rfl]
      rfl
    | cons m ms =>
      obtain ⟨key', v'⟩ := m
      simp only [printMembers, List.cons_append, List.append_assoc, @skipSpace_cons ',' rfl]
      rw [membersFrom_print L k hws rest ms key' v' fuel (L.newline k) (L.newline_space k)
        (by simp at hlen; omega) (hms _ (List.mem_cons_self _ _))
        (fun m hm => hms m (List.mem_cons_of_mem _ hm))]
      rfl

/-- The members of a printed object are its keys, read back, and its values' printings. -/
theorem objectMembers_print (L : Layout) (k : Nat) (ms : List (List Atom × Value))
    (hms : ∀ m ∈ ms, m.2.depth ≤ maxNestingDepth) :
    objectMembers ((Value.object ms).print L k) = some (ms.map (memberText L (k + 1))) := by
  cases ms with
  | nil => rfl
  | cons m ms =>
    obtain ⟨key, v⟩ := m
    have h := membersFrom_print L (k + 1) (L.newline_space k) [] ms key v
    simp only [Value.print, objectMembers, @skipSpace_cons '{' rfl]
    rw [skipSpace_append (L.newline_space (k + 1)), quoted, List.cons_append, @skipSpace_cons '"' rfl]
    simp only [quoted, List.cons_append] at h
    rw [h _ _ (L.newline_space (k + 1)) ?_ (hms _ (List.mem_cons_self _ _))
      (fun m hm => hms m (List.mem_cons_of_mem _ hm))]
    · rfl
    · have := length_le_printMembers L (k + 1) ms
      simp only [List.length_append, List.length_cons]
      omega

theorem elementsFrom_print (L : Layout) (k : Nat) {ws : List Char} (hws : AllSpace ws) (rest : List Char) :
    ∀ (vs : List Value) (v : Value) (fuel : Nat) (pre : List Char),
      AllSpace pre → vs.length < fuel → v.depth ≤ maxNestingDepth → (∀ w ∈ vs, w.depth ≤ maxNestingDepth) →
      elementsFrom fuel (pre ++ (v.print L k ++ (printItems L k vs ++ (ws ++ ']' :: rest)))) =
        some (v.print L k :: vs.map (Value.print L k))
  | vs, v, fuel + 1, pre, hpre, hlen, hv, hvs => by
    rw [elementsFrom, valueSpan_print hpre v hv (numberEnds_printItems L k vs hws rest)]
    cases vs with
    | nil =>
      simp only [printItems, List.nil_append, skipSpace_append hws, @skipSpace_cons ']' rfl]
      rfl
    | cons w vs =>
      simp only [printItems, List.cons_append, List.append_assoc, @skipSpace_cons ',' rfl]
      rw [elementsFrom_print L k hws rest vs w fuel (L.newline k) (L.newline_space k)
        (by simp at hlen; omega) (hvs _ (List.mem_cons_self _ _))
        (fun w hw => hvs w (List.mem_cons_of_mem _ hw))]
      rfl

/-- The elements of a printed array are its items' printings. -/
theorem arrayElements_print (L : Layout) (k : Nat) (vs : List Value)
    (hvs : ∀ v ∈ vs, v.depth ≤ maxNestingDepth) :
    arrayElements ((Value.array vs).print L k) = some (vs.map (Value.print L (k + 1))) := by
  cases vs with
  | nil => rfl
  | cons v vs =>
    have hne := print_cons L (k + 1) v
    obtain ⟨c, cs, hv, hs, hc, -⟩ := hne
    simp only [Value.print, arrayElements, @skipSpace_cons '[' rfl]
    rw [skipSpace_print (L.newline_space (k + 1)), hv, List.cons_append]
    split
    · rename_i h; exact absurd (List.cons.inj h).1 hc
    · rw [← List.cons_append, ← hv, elementsFrom_print L (k + 1) (L.newline_space k) [] vs v _ _
        (L.newline_space (k + 1)) ?_ (hvs _ (List.mem_cons_self _ _))
        (fun w hw => hvs w (List.mem_cons_of_mem _ hw))]
      · rfl
      · have := length_le_printItems L (k + 1) vs
        have := print_length_pos L (k + 1) v
        simp only [List.length_append, List.length_cons]
        omega

/-! ### Decoders -/

/-- Where the decoder is: the struct whose field it fills and the path of fields from the top,
the `errorContext` that `addErrorContext` writes into an `UnmarshalTypeError`. -/
structure Ctx where
  strct : String := ""
  fields : List String := []

/-- An `UnmarshalTypeError` for a value of kind `value` met where a `type` was expected. -/
def Ctx.typeError (ctx : Ctx) (value type : String) : JsonError :=
  .unmarshalType value ctx.strct (".".intercalate ctx.fields) type

/-- The context inside the field `field` of the struct `strct`. -/
def Ctx.enter (ctx : Ctx) (strct field : String) : Ctx := ⟨strct, ctx.fields ++ [field]⟩

/-- `d.value` into a Go value of one type: the value's text and what the Go value held before,
since decoding writes into it. -/
abbrev Decoder (α : Type) := Ctx → α → List Char → Except JsonError α

/-- `phasePanicMsg`, what the decoder panics with on a text that `checkValid` refuses. -/
def outOfSync : JsonError := .syntaxError "JSON decoder out of sync - data changing underfoot?"

/-- The kind of a value text, as an `UnmarshalTypeError` names it. -/
def kindOf : List Char → String
  | '"' :: _ => "string"
  | '[' :: _ => "array"
  | '{' :: _ => "object"
  | 't' :: _ => "bool"
  | 'f' :: _ => "bool"
  | _ => "number"

/-- `literalStore` into a string kind (`type` is `string` or a named string type): a string
literal sets it and `null` leaves it. -/
def decodeString (type : String) : Decoder String := fun ctx old t =>
  match t with
  | 'n' :: _ => .ok old
  | '"' :: cs => (readString cs).map fun r => ⟨r.1⟩
  | t => .error (ctx.typeError (kindOf t) type)

/-- `literalStore` into a bool. -/
def decodeBool : Decoder Bool := fun ctx old t =>
  match t with
  | 'n' :: _ => .ok old
  | 't' :: _ => .ok true
  | 'f' :: _ => .ok false
  | t => .error (ctx.typeError (kindOf t) "bool")

/-- The sign `strconv.ParseInt` reads, and the text after it. -/
def splitSign : List Char → Bool × List Char
  | c :: cs => if c = '-' then (true, cs) else if c = '+' then (false, cs) else (false, c :: cs)
  | [] => (false, [])

/-- `strconv.ParseInt(s, 10, 64)`: a sign, decimal digits, and a value in the range of `int64`. -/
def parseInt (s : List Char) : Option Int :=
  let (neg, ds) := splitSign s
  if ds ≠ [] ∧ ds.all Char.isDigit = true then
    let n : Int := if neg then -(readDigits 0 ds : Nat) else (readDigits 0 ds : Nat)
    if -2 ^ 63 ≤ n ∧ n < 2 ^ 63 then some n else none
  else none

/-- `literalStore` into a Go integer of type `type` (`int64`, or `int` on a 64-bit platform): a
number `strconv.ParseInt` takes sets it, `null` leaves it. -/
def decodeInt (type : String) : Decoder Int := fun ctx old t =>
  match t with
  | 'n' :: _ => .ok old
  | c :: cs =>
    if c = '-' ∨ c.isDigit then
      match parseInt (c :: cs) with
      | some n => .ok n
      | none => .error (ctx.typeError ("number " ++ ⟨c :: cs⟩) type)
    else .error (ctx.typeError (kindOf (c :: cs)) type)
  | [] => .error outOfSync

/-- `RawMessage.UnmarshalJSON`: the value's text as it stands, `null` included. -/
def decodeRaw : Decoder (List Char) := fun _ _ t => .ok t

variable {α σ : Type}

/-- A pointer, through `indirect`: `null` makes it nil, and anything else is decoded into what
it points to, a fresh `zero` when it was nil. -/
def decodePtr (d : Decoder α) (zero : α) : Decoder (Option α) := fun ctx old t =>
  match t with
  | 'n' :: _ => .ok none
  | t => (d ctx (old.getD zero) t).map some

/-- The elements of a slice, each decoded into the element there was, or a fresh `zero` past
the old length. -/
def decodeItems (d : Decoder α) (zero : α) (ctx : Ctx) : List α → List (List Char) →
    Except JsonError (List α)
  | _, [] => .ok []
  | old, t :: ts => do
    let x ← d ctx (old.headD zero) t
    let xs ← decodeItems d zero ctx old.tail ts
    pure (x :: xs)

/-- `d.array` into a slice: `null` makes it nil, and an array sets its elements and length. -/
def decodeSlice (d : Decoder α) (zero : α) (type : String) : Decoder (List α) := fun ctx old t =>
  match t with
  | 'n' :: _ => .ok []
  | '[' :: _ =>
    match arrayElements t with
    | some ts => decodeItems d zero ctx old ts
    | none => .error outOfSync
  | t => .error (ctx.typeError (kindOf t) type)

/-- `d.object` into a `map[string]V`: `null` makes it nil; each member is decoded into a fresh
`zero` and stored under its key, into the map there was. -/
def decodeMap (d : Decoder α) (zero : α) (type : String) : Decoder (GoMap α) := fun ctx old t =>
  match t with
  | 'n' :: _ => .ok ∅
  | '{' :: _ =>
    match objectMembers t with
    | some ms => ms.foldlM (fun m kt => (d ctx zero kt.2).map fun v => m.insert ⟨kt.1⟩ v) old
    | none => .error outOfSync
  | t => .error (ctx.typeError (kindOf t) type)

/-- A field of a Go struct as the decoder sees it: its JSON name, the decoder of its type, and
where it sits in the struct. -/
structure StructField (σ : Type) where
  {β : Type}
  name : String
  decode : Decoder β
  get : σ → β
  set : σ → β → σ

/-- `foldName` on one character: ASCII letters to upper case, and the four other characters
whose fold is ASCII (`ſ`, the Kelvin sign, `İ`, `ı`) to theirs.  Any other character is kept:
its fold is not ASCII, so it compares with the ASCII field names here as its fold does. -/
def foldChar (c : Char) : Char :=
  if c.toNat = 0x17F then 'S' else if c.toNat = 0x212A then 'K'
  else if c.toNat = 0x130 ∨ c.toNat = 0x131 then 'I' else c.toUpper

/-- `foldName`. -/
def foldName (s : String) : String := ⟨s.data.map foldChar⟩

/-- The field a key names: `byExactName`, else the first field whose name folds to the key's
fold (`byFoldedName`). -/
def lookupField (fs : List (StructField σ)) (key : String) : Option (StructField σ) :=
  (fs.find? fun f => f.name == key).orElse fun _ => fs.find? fun f => foldName f.name == foldName key

/-- `d.object` into a struct: each member whose key names a field is decoded into that field
with the field on the error context, in the order of the text; other members are skipped, and
`null` leaves the struct as it was. -/
def decodeStruct (strct type : String) (fs : List (StructField σ)) : Decoder σ := fun ctx old t =>
  match t with
  | 'n' :: _ => .ok old
  | '{' :: _ =>
    match objectMembers t with
    | some ms => ms.foldlM (fun s kt =>
        match lookupField fs ⟨kt.1⟩ with
        | some f => (f.decode (ctx.enter strct f.name) (f.get s) kt.2).map (f.set s)
        | none => .ok s) old
    | none => .error outOfSync
  | t => .error (ctx.typeError (kindOf t) type)

/-- `json.Unmarshal(data, &v)` where `v` held `old`: `checkValid` of the whole text, then the
decoder on the value it holds.  Where a type error leaves the decoder going on, the model stops
at it: `Unmarshal` reports that first error either way. -/
def unmarshal (d : Decoder α) (old : α) (data : List Char) : Except JsonError α := do
  checkValid data
  match valueSpan data with
  | some (t, _) => d {} old t
  | none => .error outOfSync

/-! ### Decoding printed values -/

/-- `Unmarshal` of a printed value is its decoder on the printing, when the depth fits. -/
theorem unmarshal_print (d : Decoder α) (old : α) (L : Layout) (v : Value)
    (hd : v.depth ≤ maxNestingDepth) : unmarshal d old (v.print L 0) = d {} old (v.print L 0) := by
  have hs := @valueSpan_print L 0 [] (fun _ h => absurd h (List.not_mem_nil _)) v hd [] (by simp [NumberEnds])
  simp only [List.nil_append, List.append_nil] at hs
  simp only [unmarshal, checkValid_print L v hd, hs]
  rfl

theorem decodeString_print (type : String) (ctx : Ctx) (old s : String) (L : Layout) (k : Nat) :
    decodeString type ctx old ((stringValue s).print L k) = .ok s := by
  simp only [stringValue, Value.print, quoted, decodeString, readString_stringValue]
  rfl

theorem decodeBool_print (ctx : Ctx) (old b : Bool) (L : Layout) (k : Nat) :
    decodeBool ctx old ((Value.bool b).print L k) = .ok b := by
  cases b <;> rfl

/-- `ParseInt` reads back the decimal text of an `int64`. -/
theorem parseInt_toString {i : Int} (h : -2 ^ 63 ≤ i ∧ i < 2 ^ 63) : parseInt (toString i).data = some i := by
  cases i with
  | ofNat m =>
    obtain ⟨c, cs, hcs, hc, -⟩ := toDigits_cons m
    have hsign : splitSign (Nat.toDigits 10 m) = (false, Nat.toDigits 10 m) := by
      have h1 : c ≠ '-' := by rintro rfl; exact absurd hc (by decide)
      have h2 : c ≠ '+' := by rintro rfl; exact absurd hc (by decide)
      rw [hcs, splitSign, if_neg h1, if_neg h2]
    have hall : (Nat.toDigits 10 m).all Char.isDigit = true :=
      List.all_eq_true.2 fun _ hc => isDigit_of_mem_toDigits hc
    rw [toString_ofNat_data, parseInt, hsign]
    dsimp only
    rw [if_pos ⟨by rw [hcs]; exact List.cons_ne_nil _ _, hall⟩, readDigits_toDigits, if_neg Bool.false_ne_true,
      if_pos (by simpa using h)]
    rfl
  | negSucc m =>
    obtain ⟨c, cs, hcs, -⟩ := toDigits_cons (m + 1)
    have hall : (Nat.toDigits 10 (m + 1)).all Char.isDigit = true :=
      List.all_eq_true.2 fun _ hc => isDigit_of_mem_toDigits hc
    rw [toString_negSucc_data, parseInt, splitSign, if_pos rfl]
    dsimp only
    rw [if_pos ⟨by rw [hcs]; exact List.cons_ne_nil _ _, hall⟩, readDigits_toDigits, if_pos rfl,
      if_pos (by simpa [Int.negSucc_eq] using h)]
    rfl

theorem decodeInt_print (type : String) (ctx : Ctx) (old : Int) {i : Int} (h : -2 ^ 63 ≤ i ∧ i < 2 ^ 63)
    (L : Layout) (k : Nat) : decodeInt type ctx old ((intValue i).print L k) = .ok i := by
  have hi := parseInt_toString h
  simp only [intValue, Value.print]
  obtain ⟨c, cs, hcs, hc⟩ : ∃ c cs, (toString i).data = c :: cs ∧ (c = '-' ∨ c.isDigit) := by
    cases i with
    | ofNat m =>
      obtain ⟨c, cs, hcs, hc, -⟩ := toDigits_cons m
      exact ⟨c, cs, by rw [toString_ofNat_data, hcs], .inr hc⟩
    | negSucc m => exact ⟨'-', _, toString_negSucc_data m, .inl rfl⟩
  rw [hcs] at hi ⊢
  have hn : c ≠ 'n' := by rcases hc with rfl | hc <;> [decide; (rintro rfl; exact absurd hc (by decide))]
  simp only [decodeInt, if_pos hc, hi]

theorem print_array (L : Layout) (k : Nat) (vs : List Value) :
    (Value.array vs).print L k = '[' :: ((Value.array vs).print L k).tail := by
  cases vs <;> rfl

theorem print_object (L : Layout) (k : Nat) (ms : List (List Atom × Value)) :
    (Value.object ms).print L k = '{' :: ((Value.object ms).print L k).tail := by
  rcases ms with _ | ⟨⟨_, _⟩, _⟩ <;> rfl

/-- Only `null` is printed with a leading `n`. -/
theorem print_head_ne_n (L : Layout) (k : Nat) {v : Value} (hv : v ≠ .null) :
    ∃ c cs, v.print L k = c :: cs ∧ c ≠ 'n' := by
  cases v with
  | null => exact absurd rfl hv
  | number lit h =>
    match lit, h with
    | c :: cs, h =>
      simp only [isNumber, Bool.and_eq_true, Bool.or_eq_true, beq_iff_eq] at h
      refine ⟨c, cs, rfl, ?_⟩
      rcases h.1.1 with rfl | h
      · decide
      · rintro rfl; exact absurd h (by decide)
  | bool b => cases b <;> exact ⟨_, _, rfl, by decide⟩
  | string as => exact ⟨_, _, rfl, by decide⟩
  | array vs => exact ⟨_, _, print_array L k vs, by decide⟩
  | object ms => exact ⟨_, _, print_object L k ms, by decide⟩

/-- A pointer to a value that is not `null` is decoded through. -/
theorem decodePtr_print (d : Decoder α) (zero : α) (ctx : Ctx) (old : Option α) (L : Layout) (k : Nat)
    {v : Value} (hv : v ≠ .null) :
    decodePtr d zero ctx old (v.print L k) = (d ctx (old.getD zero) (v.print L k)).map some := by
  obtain ⟨c, cs, hp, hn⟩ := print_head_ne_n L k hv
  rw [hp]
  simp only [decodePtr]
  split
  · rename_i h; exact absurd (List.cons.inj h).1 hn
  · rfl

theorem decodeSlice_print (d : Decoder α) (zero : α) (type : String) (ctx : Ctx) (old : List α)
    (L : Layout) (k : Nat) (vs : List Value) (hvs : ∀ v ∈ vs, v.depth ≤ maxNestingDepth) :
    decodeSlice d zero type ctx old ((Value.array vs).print L k) =
      decodeItems d zero ctx old (vs.map (Value.print L (k + 1))) := by
  have h : decodeSlice d zero type ctx old ((Value.array vs).print L k) =
      match arrayElements ((Value.array vs).print L k) with
      | some ts => decodeItems d zero ctx old ts
      | none => .error outOfSync := by
    rw [print_array]; rfl
  rw [h, arrayElements_print L k vs hvs]

theorem decodeMap_print (d : Decoder α) (zero : α) (type : String) (ctx : Ctx) (old : GoMap α)
    (L : Layout) (k : Nat) (ms : List (List Atom × Value)) (hms : ∀ m ∈ ms, m.2.depth ≤ maxNestingDepth) :
    decodeMap d zero type ctx old ((Value.object ms).print L k) =
      ms.foldlM (fun m kv => (d ctx zero (kv.2.print L (k + 1))).map fun v => m.insert ⟨decodeAtoms none kv.1⟩ v)
        old := by
  have h : decodeMap d zero type ctx old ((Value.object ms).print L k) =
      match objectMembers ((Value.object ms).print L k) with
      | some ts => ts.foldlM (fun m kt => (d ctx zero kt.2).map fun v => m.insert ⟨kt.1⟩ v) old
      | none => .error outOfSync := by
    rw [print_object]; rfl
  rw [h, objectMembers_print L k ms hms]
  exact List.foldlM_map _ _ _ _

theorem decodeStruct_print (strct type : String) (fs : List (StructField σ)) (ctx : Ctx) (old : σ)
    (L : Layout) (k : Nat) (ms : List (List Atom × Value)) (hms : ∀ m ∈ ms, m.2.depth ≤ maxNestingDepth) :
    decodeStruct strct type fs ctx old ((Value.object ms).print L k) =
      ms.foldlM (fun s m =>
        match lookupField fs ⟨decodeAtoms none m.1⟩ with
        | some f => (f.decode (ctx.enter strct f.name) (f.get s) (m.2.print L (k + 1))).map (f.set s)
        | none => .ok s) old := by
  have h : decodeStruct strct type fs ctx old ((Value.object ms).print L k) =
      match objectMembers ((Value.object ms).print L k) with
      | some ts => ts.foldlM (fun s kt =>
          match lookupField fs ⟨kt.1⟩ with
          | some f => (f.decode (ctx.enter strct f.name) (f.get s) kt.2).map (f.set s)
          | none => .ok s) old
      | none => .error outOfSync := by
    rw [print_object]; rfl
  rw [h, objectMembers_print L k ms hms]
  exact List.foldlM_map _ _ _ _

/-- `d.object` into a struct over a printed object whose keys are Go strings: each member is
looked up by its key and decoded from its printing. -/
theorem decodeStruct_object (strct type : String) (fs : List (StructField σ)) (ctx : Ctx) (old : σ)
    (L : Layout) (k : Nat) (ms : List (String × Value)) (hms : ∀ m ∈ ms, m.2.depth ≤ maxNestingDepth) :
    decodeStruct strct type fs ctx old ((Value.object (ms.map fun m => (stringAtoms m.1, m.2))).print L k) =
      ms.foldlM (fun s m =>
        match lookupField fs m.1 with
        | some f => (f.decode (ctx.enter strct f.name) (f.get s) (m.2.print L (k + 1))).map (f.set s)
        | none => .ok s) old := by
  rw [decodeStruct_print _ _ _ _ _ _ _ _ (fun m hm => by
    obtain ⟨m', hm', rfl⟩ := List.mem_map.1 hm
    exact hms m' hm'), List.foldlM_map]
  simp only [decodeAtoms_stringAtoms]

/-- A key that folds to no field's folded name names no field. -/
theorem lookupField_none {fs : List (StructField σ)} {key : String}
    (h : ∀ f ∈ fs, foldName f.name ≠ foldName key) : lookupField fs key = none := by
  have hex : fs.find? (fun f => f.name == key) = none :=
    List.find?_eq_none.2 fun f hf he => h f hf (by rw [eq_of_beq he])
  have hfold : fs.find? (fun f => foldName f.name == foldName key) = none :=
    List.find?_eq_none.2 fun f hf he => h f hf (eq_of_beq he)
  rw [lookupField, hex, hfold]
  rfl

/-- Members whose keys name no field leave the struct as it is. -/
theorem foldlM_unknown_keys {fs : List (StructField σ)} (strct : String) (ctx : Ctx) (L : Layout) (k : Nat) :
    ∀ (ms : List (String × Value)) (s : σ), (∀ m ∈ ms, lookupField fs m.1 = none) →
    ms.foldlM (fun s m =>
        match lookupField fs m.1 with
        | some f => (f.decode (ctx.enter strct f.name) (f.get s) (m.2.print L (k + 1))).map (f.set s)
        | none => .ok s) s = .ok s
  | [], _, _ => rfl
  | m :: ms, s, h => by
    rw [List.foldlM_cons, h m (List.mem_cons_self _ _)]
    exact foldlM_unknown_keys strct ctx L k ms s fun m' hm' => h m' (List.mem_cons_of_mem _ hm')

end Json

end GoClaw
