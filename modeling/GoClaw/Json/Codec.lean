import GoClaw.Json.Decode
import Mathlib.Data.List.Sort
import Mathlib.Data.String.Basic

namespace GoClaw

namespace Json

/-!
# Go's `encoding/json` — codecs

A Go type as `json.Marshal` writes it and `json.Unmarshal` reads it, packaged with the law
that reading back what it writes gives the value again (`Codec.decode_print`): `absorb old v`
is what decoding the printing of `v` into a Go value that held `old` leaves, and `Fits` the
values the law holds for.

* `stringCodec`, `boolCodec` and `int64Codec` are the scalars (the last in the range of
  `int64`), and `sliceCodec`, `mapCodec` and `structCodec` build a codec from their parts'
  codecs, proving its law from theirs.  Maps are printed with their keys sorted, as
  `mapEncoder` sorts them, and read back key by key (`lookup_mapCodec_absorb`).
* A struct's fields are `Member`s: a JSON name, `omitempty`, the field's codec and its place
  in the record.  A field `omitempty` leaves out is not decoded, so it keeps what the record
  held (`Member.absorb`).
* `Codec.unmarshal_encode`: `json.Unmarshal` of what a codec printed, in any layout, is
  `absorb`.
-/

/-- A Go type as `encoding/json` writes and reads it, with the law that reading back what it
writes, into any old value, leaves `absorb old v`. -/
structure Codec (β : Type) where
  /-- The type's name in an `UnmarshalTypeError`. -/
  type : String
  decode : Decoder β
  encode : β → Value
  /-- `isEmptyValue`: what `omitempty` leaves out. -/
  isEmpty : β → Bool
  /-- The values the round trip holds for. -/
  Fits : β → Prop
  /-- What decoding the printing of `v` into `old` leaves. -/
  absorb : β → β → β
  /-- A bound on how deep a printed value nests. -/
  maxDepth : Nat
  depth_encode : ∀ v, (encode v).depth ≤ maxDepth
  decode_print : ∀ v, Fits v → (encode v).depth ≤ maxNestingDepth → ∀ ctx old L k,
    decode ctx old ((encode v).print L k) = .ok (absorb old v)

variable {α β σ : Type}

/-- `json.MarshalIndent(v, "", "  ")`. -/
def marshalIndent (c : Codec β) (v : β) : List Char := (c.encode v).print Layout.indented 0

/-- `Unmarshal` reads back what a codec printed, in any layout, when its depth fits. -/
theorem Codec.unmarshal_encode (c : Codec β) (old v : β) (hv : c.Fits v)
    (hd : (c.encode v).depth ≤ maxNestingDepth) (L : Layout) :
    unmarshal c.decode old ((c.encode v).print L 0) = .ok (c.absorb old v) := by
  rw [unmarshal_print _ _ _ _ hd, c.decode_print v hv hd]

/-- A monadic fold whose every step succeeds is the plain fold. -/
theorem foldlM_ok {γ ε : Type} (f : γ → α → Except ε γ) (g : γ → α → γ) :
    ∀ (l : List α), (∀ a x, x ∈ l → f a x = .ok (g a x)) → ∀ init, l.foldlM f init = .ok (l.foldl g init)
  | [], _, _ => rfl
  | x :: l, h, init => by
    rw [List.foldlM_cons, h init x (List.mem_cons_self x l)]
    exact foldlM_ok f g l (fun a y hy => h a y (List.mem_cons_of_mem x hy)) (g init x)

theorem depth_le_itemsDepth {v : Value} : ∀ {vs : List Value}, v ∈ vs → v.depth ≤ itemsDepth vs
  | _ :: _, .head _ => le_max_left _ _
  | _ :: _, .tail _ h => le_trans (depth_le_itemsDepth h) (le_max_right _ _)

theorem depth_le_membersDepth {m : List Atom × Value} :
    ∀ {ms : List (List Atom × Value)}, m ∈ ms → m.2.depth ≤ membersDepth ms
  | _ :: _, .head _ => le_max_left _ _
  | _ :: _, .tail _ h => le_trans (depth_le_membersDepth h) (le_max_right _ _)

theorem itemsDepth_le {n : Nat} : ∀ {vs : List Value}, (∀ v ∈ vs, v.depth ≤ n) → itemsDepth vs ≤ n
  | [], _ => Nat.zero_le n
  | v :: vs, h => max_le (h v (List.mem_cons_self v vs))
    (itemsDepth_le fun w hw => h w (List.mem_cons_of_mem v hw))

theorem membersDepth_le {n : Nat} :
    ∀ {ms : List (List Atom × Value)}, (∀ m ∈ ms, m.2.depth ≤ n) → membersDepth ms ≤ n
  | [], _ => Nat.zero_le n
  | m :: ms, h => max_le (h m (List.mem_cons_self m ms))
    (membersDepth_le fun w hw => h w (List.mem_cons_of_mem m hw))

/-! ### Strings, bools and integers -/

/-- A Go string kind, `string` or a named string type `type`. -/
def stringCodec (type : String) : Codec String where
  type := type
  decode := decodeString type
  encode := stringValue
  isEmpty s := s == ""
  Fits _ := True
  absorb _ s := s
  maxDepth := 0
  depth_encode _ := le_rfl
  decode_print s _ _ ctx old L k := decodeString_print type ctx old s L k

@[simp] theorem stringCodec_decode (type : String) : (stringCodec type).decode = decodeString type := rfl

@[simp] theorem stringCodec_isEmpty (type s : String) : (stringCodec type).isEmpty s = (s == "") := rfl

@[simp] theorem stringCodec_absorb (type old s : String) : (stringCodec type).absorb old s = s := rfl

@[simp] theorem stringCodec_fits (type s : String) : (stringCodec type).Fits s := trivial

/-- `bool`. -/
def boolCodec : Codec Bool where
  type := "bool"
  decode := decodeBool
  encode := .bool
  isEmpty b := !b
  Fits _ := True
  absorb _ b := b
  maxDepth := 0
  depth_encode _ := le_rfl
  decode_print b _ _ ctx old L k := decodeBool_print ctx old b L k

@[simp] theorem boolCodec_isEmpty (b : Bool) : boolCodec.isEmpty b = !b := rfl

@[simp] theorem boolCodec_absorb (old b : Bool) : boolCodec.absorb old b = b := rfl

@[simp] theorem boolCodec_fits (b : Bool) : boolCodec.Fits b := trivial

/-- The range of `int64`. -/
def IsInt64 (i : Int) : Prop := -2 ^ 63 ≤ i ∧ i < 2 ^ 63

instance : DecidablePred IsInt64 := fun i => inferInstanceAs (Decidable (-2 ^ 63 ≤ i ∧ i < 2 ^ 63))

/-- `int64`: the round trip holds in its range. -/
def int64Codec : Codec Int where
  type := "int64"
  decode := decodeInt "int64"
  encode := intValue
  isEmpty i := i == 0
  Fits := IsInt64
  absorb _ i := i
  maxDepth := 0
  depth_encode _ := le_rfl
  decode_print _ h _ ctx old L k := decodeInt_print "int64" ctx old h L k

@[simp] theorem int64Codec_isEmpty (i : Int) : int64Codec.isEmpty i = (i == 0) := rfl

@[simp] theorem int64Codec_absorb (old i : Int) : int64Codec.absorb old i = i := rfl

@[simp] theorem int64Codec_fits (i : Int) : int64Codec.Fits i = IsInt64 i := rfl

/-- `int`, 64 bits wide on the platforms the gateway is built for: `int64Codec` under its own
type name. -/
def intCodec : Codec Int :=
  { int64Codec with
    type := "int"
    decode := decodeInt "int"
    decode_print := fun _ h _ ctx old L k => decodeInt_print "int" ctx old h L k }

@[simp] theorem intCodec_decode : intCodec.decode = decodeInt "int" := rfl

@[simp] theorem intCodec_isEmpty (i : Int) : intCodec.isEmpty i = (i == 0) := rfl

@[simp] theorem intCodec_absorb (old i : Int) : intCodec.absorb old i = i := rfl

@[simp] theorem intCodec_fits (i : Int) : intCodec.Fits i = IsInt64 i := rfl

/-! ### Pointers -/

/-- A pointer `*T` to `c`'s type, nil being `none`, for a type that is never printed as `null`:
nil is printed as `null`, which decodes to nil, and anything else as what it points to, which
decodes into the value pointed to, or into a fresh `zero` when the pointer was nil. -/
def ptrCodec (c : Codec α) (zero : α) (hnull : ∀ v, c.encode v ≠ .null) : Codec (Option α) where
  type := c.type
  decode := decodePtr c.decode zero
  encode p := p.elim .null c.encode
  isEmpty p := p.isNone
  Fits p := ∀ v ∈ p, c.Fits v
  absorb old p := p.map (c.absorb (old.getD zero))
  maxDepth := c.maxDepth
  depth_encode
    | none => Nat.zero_le _
    | some v => c.depth_encode v
  decode_print
    | none, _, _, _, _, _, _ => rfl
    | some v, h, hd, ctx, old, L, k => by
      show decodePtr c.decode zero ctx old ((c.encode v).print L k) = .ok (some (c.absorb (old.getD zero) v))
      rw [decodePtr_print _ _ _ _ _ _ (hnull v), c.decode_print v (h v rfl) hd]
      rfl

section Ptr

variable (c : Codec α) (zero : α) (hnull : ∀ v, c.encode v ≠ .null)

@[simp] theorem ptrCodec_decode : (ptrCodec c zero hnull).decode = decodePtr c.decode zero := rfl

@[simp] theorem ptrCodec_isEmpty (p : Option α) : (ptrCodec c zero hnull).isEmpty p = p.isNone := rfl

@[simp] theorem ptrCodec_absorb (old p : Option α) :
    (ptrCodec c zero hnull).absorb old p = p.map (c.absorb (old.getD zero)) := rfl

@[simp] theorem ptrCodec_fits (p : Option α) : (ptrCodec c zero hnull).Fits p = ∀ v ∈ p, c.Fits v := rfl

end Ptr

/-! ### Slices -/

/-- What decoding elements printed from `xs` into the slice `old` leaves. -/
def absorbItems (c : Codec α) (zero : α) : List α → List α → List α
  | _, [] => []
  | old, x :: xs => c.absorb (old.headD zero) x :: absorbItems c zero old.tail xs

theorem decodeItems_print (c : Codec α) (zero : α) (ctx : Ctx) (L : Layout) (k : Nat) :
    ∀ (xs : List α), (∀ x ∈ xs, c.Fits x ∧ (c.encode x).depth ≤ maxNestingDepth) → ∀ old,
      decodeItems c.decode zero ctx old (xs.map fun x => (c.encode x).print L k) =
        .ok (absorbItems c zero old xs)
  | [], _, _ => rfl
  | x :: xs, h, old => by
    have hx := h x (List.mem_cons_self x xs)
    simp only [List.map_cons, decodeItems, c.decode_print x hx.1 hx.2,
      decodeItems_print c zero ctx L k xs (fun y hy => h y (List.mem_cons_of_mem x hy)) old.tail]
    rfl

/-- A slice of `c`'s type (`type` its name).  The list stands for the nil slice and the empty
one alike; it is printed as an array, and `null` reads back as the same empty list
(`decodeSlice_null`). -/
def sliceCodec (c : Codec α) (zero : α) (type : String) : Codec (List α) where
  type := type
  decode := decodeSlice c.decode zero type
  encode xs := .array (xs.map c.encode)
  isEmpty xs := xs.isEmpty
  Fits xs := ∀ x ∈ xs, c.Fits x
  absorb := absorbItems c zero
  maxDepth := c.maxDepth + 1
  depth_encode xs := Nat.succ_le_succ (itemsDepth_le fun v hv => by
    obtain ⟨x, -, rfl⟩ := List.mem_map.1 hv
    exact c.depth_encode x)
  decode_print xs h hd ctx old L k := by
    have hvs : ∀ v ∈ xs.map c.encode, v.depth ≤ maxNestingDepth := fun v hv => by
      have := depth_le_itemsDepth hv
      simp only [Value.depth] at hd
      omega
    rw [decodeSlice_print _ _ _ _ _ _ _ _ hvs, List.map_map]
    exact decodeItems_print c zero ctx L (k + 1) xs
      (fun x hx => ⟨h x hx, hvs _ (List.mem_map_of_mem _ hx)⟩) old

@[simp] theorem sliceCodec_isEmpty (c : Codec α) (zero : α) (type : String) (xs : List α) :
    (sliceCodec c zero type).isEmpty xs = xs.isEmpty := rfl

@[simp] theorem sliceCodec_absorb (c : Codec α) (zero : α) (type : String) (old xs : List α) :
    (sliceCodec c zero type).absorb old xs = absorbItems c zero old xs := rfl

@[simp] theorem sliceCodec_fits (c : Codec α) (zero : α) (type : String) (xs : List α) :
    (sliceCodec c zero type).Fits xs = ∀ x ∈ xs, c.Fits x := rfl

/-- Elements whose codec overwrites what was there read back as themselves. -/
theorem absorbItems_eq (c : Codec α) (zero : α) (h : ∀ o x, c.absorb o x = x) :
    ∀ old xs, absorbItems c zero old xs = xs
  | _, [] => rfl
  | old, x :: xs => by rw [absorbItems, h, absorbItems_eq c zero h old.tail xs]

theorem decodeSlice_null (d : Decoder α) (zero : α) (type : String) (ctx : Ctx) (old : List α)
    (L : Layout) (k : Nat) :
    decodeSlice d zero type ctx old (Value.null.print L k) = .ok [] := rfl

/-! ### Maps -/

/-- A map's entries in the order `encoding/json` writes them: by key, as `strings.Compare`
orders them (code point order, which is UTF-8 byte order). -/
def sortedEntries (m : GoMap α) : List (Σ _ : String, α) :=
  m.entries.insertionSort fun a b => a.1 ≤ b.1

theorem sortedEntries_perm (m : GoMap α) : (sortedEntries m).Perm m.entries :=
  List.perm_insertionSort _ _

theorem nodupKeys_sortedEntries (m : GoMap α) : (sortedEntries m).NodupKeys :=
  (List.perm_nodupKeys (sortedEntries_perm m)).2 m.nodupKeys

/-- Inserting a list's entries, each changed by `f`, one after the other: the last insertion
of a key wins, and the list has one entry a key. -/
theorem lookup_foldl_insert (f : α → β) (k : String) :
    ∀ (l : List (Σ _ : String, α)), l.NodupKeys → ∀ (old : GoMap β),
      (l.foldl (fun acc e => acc.insert e.1 (f e.2)) old).lookup k = ((l.dlookup k).map f).or (old.lookup k)
  | [], _, _ => rfl
  | e :: l, hl, old => by
    rw [List.nodupKeys_cons] at hl
    rw [List.foldl_cons, lookup_foldl_insert f k l hl.2]
    by_cases hk : k = e.1
    · subst hk
      rw [List.dlookup_eq_none.2 hl.1, AList.lookup_insert, List.dlookup_cons_eq]
      rfl
    · rw [AList.lookup_insert_ne hk, List.dlookup_cons_ne l e hk]

/-- A `map[string]V` for `c`'s type `V` (`type` its name), printed with sorted keys.  A nil map
and an empty one are both `∅`; the map is printed as an object (`{}` when empty), and `null`
reads back as `∅`. -/
def mapCodec (c : Codec α) (zero : α) (type : String) : Codec (GoMap α) where
  type := type
  decode := decodeMap c.decode zero type
  encode m := .object ((sortedEntries m).map fun e => (stringAtoms e.1, c.encode e.2))
  isEmpty m := m.entries.isEmpty
  Fits m := ∀ e ∈ m.entries, c.Fits e.2
  absorb old m := (sortedEntries m).foldl (fun acc e => acc.insert e.1 (c.absorb zero e.2)) old
  maxDepth := c.maxDepth + 1
  depth_encode m := Nat.succ_le_succ (membersDepth_le fun e he => by
    obtain ⟨x, -, rfl⟩ := List.mem_map.1 he
    exact c.depth_encode x.2)
  decode_print m h hd ctx old L k := by
    have hms : ∀ e ∈ (sortedEntries m).map (fun e => (stringAtoms e.1, c.encode e.2)),
        e.2.depth ≤ maxNestingDepth := fun e he => by
      have := depth_le_membersDepth he
      simp only [Value.depth] at hd
      omega
    rw [decodeMap_print _ _ _ _ _ _ _ _ hms, List.foldlM_map]
    refine foldlM_ok _ _ _ (fun acc e he => ?_) old
    have hfit := h e ((sortedEntries_perm m).subset he)
    rw [c.decode_print e.2 hfit (hms _ (List.mem_map_of_mem _ he)), decodeAtoms_stringAtoms]
    rfl

@[simp] theorem mapCodec_isEmpty (c : Codec α) (zero : α) (type : String) (m : GoMap α) :
    (mapCodec c zero type).isEmpty m = m.entries.isEmpty := rfl

@[simp] theorem mapCodec_fits (c : Codec α) (zero : α) (type : String) (m : GoMap α) :
    (mapCodec c zero type).Fits m = ∀ e ∈ m.entries, c.Fits e.2 := rfl

/-- `json.Marshal` of a `map[string]any` holding `entries` (distinct keys, in any order), each
value as `json.Marshal` writes it: `mapEncoder` writes the keys sorted, by code point as
`strings.Compare` orders them. -/
def mapValue (entries : List (String × Value)) : Value :=
  .object ((entries.insertionSort fun a b => a.1.data ≤ b.1.data).map fun e => (stringAtoms e.1, e.2))

@[simp] theorem mapValue_singleton (k : String) (v : Value) : mapValue [(k, v)] = .object [(stringAtoms k, v)] :=
  rfl

/-- A decoded map has the entries of the map printed, each as its codec reads it back. -/
theorem lookup_mapCodec_absorb (c : Codec α) (zero : α) (type : String) (m : GoMap α) (k : String) :
    ((mapCodec c zero type).absorb ∅ m).lookup k = (m.lookup k).map (c.absorb zero) := by
  rw [show (mapCodec c zero type).absorb ∅ m =
      (sortedEntries m).foldl (fun acc e => acc.insert e.1 (c.absorb zero e.2)) ∅ from rfl,
    lookup_foldl_insert _ k _ (nodupKeys_sortedEntries m),
    List.perm_dlookup k (nodupKeys_sortedEntries m) m.nodupKeys (sortedEntries_perm m)]
  change _ = (m.entries.dlookup k).map (c.absorb zero)
  cases (m.entries.dlookup k).map (c.absorb zero) <;> rfl

/-! ### Structs -/

/-- A field of a Go struct as `encoding/json` writes and reads it: its JSON name, whether its
tag says `omitempty`, its type's codec, and where it sits in the struct.  Putting back what a
field holds changes nothing. -/
structure Member (σ : Type) where
  {β : Type}
  name : String
  omitEmpty : Bool
  codec : Codec β
  get : σ → β
  set : σ → β → σ
  set_get : ∀ s, set s (get s) = s

namespace Member

/-- The field as the decoder sees it. -/
def toField (m : Member σ) : StructField σ := ⟨m.name, m.codec.decode, m.get, m.set⟩

/-- `omitempty` leaves the field out of the printing of `x`. -/
def omits (m : Member σ) (x : σ) : Bool := m.omitEmpty && m.codec.isEmpty (m.get x)

/-- The field's member in the printing of `x`, unless `omitempty` leaves it out. -/
def encode (m : Member σ) (x : σ) : Option (List Atom × Value) :=
  if m.omits x then none else some (stringAtoms m.name, m.codec.encode (m.get x))

/-- What decoding the field's printing from `x` into `s` leaves, or `s` when it is left out. -/
def absorb (x s : σ) (m : Member σ) : σ :=
  m.set s (if m.omits x then m.get s else m.codec.absorb (m.get s) (m.get x))

end Member

/-- A field of the Go struct that the model's record does not keep, since nothing reads it.
It is still decoded, so that a value of the wrong type still fails `Unmarshal`, and then
dropped; the record holds `empty` there, which `omitempty` leaves out of every printing. -/
def Member.dropped (name : String) (c : Codec β) (empty : β) : Member σ :=
  ⟨name, true, c, fun _ => empty, fun s _ => s, fun _ => rfl⟩

@[simp] theorem Member.absorb_mk (name : String) (omitEmpty : Bool) (c : Codec β) (get : σ → β)
    (set : σ → β → σ) (h : ∀ s, set s (get s) = s) (x s : σ) :
    Member.absorb x s ⟨name, omitEmpty, c, get, set, h⟩ =
      set s (if omitEmpty && c.isEmpty (get x) then get s else c.absorb (get s) (get x)) := rfl

@[simp] theorem Member.absorb_dropped (name : String) (c : Codec β) (empty : β) (x s : σ) :
    Member.absorb x s (Member.dropped name c empty) = s := rfl

/-- A struct printed by its fields in order, as `structEncoder` writes it. -/
def encodeStruct (ms : List (Member σ)) (x : σ) : Value := .object (ms.filterMap (Member.encode · x))

/-- With distinct names, a field's own name finds it. -/
theorem lookupField_name {ms : List (Member σ)} (hnames : (ms.map Member.name).Nodup) {m : Member σ}
    (hm : m ∈ ms) : lookupField (ms.map Member.toField) m.name = some m.toField := by
  suffices h : (ms.map Member.toField).find? (fun f => f.name == m.name) = some m.toField by
    rw [lookupField, h]; rfl
  induction ms with
  | nil => exact absurd hm (List.not_mem_nil m)
  | cons m' ms ih =>
    rw [List.map_cons, List.nodup_cons] at hnames
    rcases List.mem_cons.1 hm with rfl | hm
    · simp [Member.toField]
    · have hne : m'.name ≠ m.name := fun h => hnames.1 (h ▸ List.mem_map_of_mem _ hm)
      rw [List.map_cons, List.find?_cons_of_neg _ (by simpa [Member.toField] using hne), ih hnames.2 hm]

/-- `d.object` over the members a struct's printing has: each field decoded in turn. -/
theorem foldlM_encode (strct : String) (ctx : Ctx) (L : Layout) (k : Nat) (fs : List (StructField σ)) (x : σ) :
    ∀ (ms : List (Member σ)), (∀ m ∈ ms, lookupField fs m.name = some m.toField) →
      (∀ m ∈ ms, m.omits x = false → m.codec.Fits (m.get x) ∧
        (m.codec.encode (m.get x)).depth ≤ maxNestingDepth) → ∀ old,
      (ms.filterMap (Member.encode · x)).foldlM (fun s m =>
        match lookupField fs ⟨decodeAtoms none m.1⟩ with
        | some f => (f.decode (ctx.enter strct f.name) (f.get s) (m.2.print L k)).map (f.set s)
        | none => .ok s) old = .ok (ms.foldl (Member.absorb x) old)
  | [], _, _, _ => rfl
  | m :: ms, hlook, hfit, old => by
    have ih := foldlM_encode strct ctx L k fs x ms (fun m' h => hlook m' (List.mem_cons_of_mem m h))
      (fun m' h => hfit m' (List.mem_cons_of_mem m h))
    by_cases ho : m.omits x = true
    · simp only [List.filterMap_cons, Member.encode, ho, if_true, List.foldl_cons, Member.absorb,
        m.set_get]
      exact ih old
    · have hf := hfit m (List.mem_cons_self m ms) (by simpa using ho)
      simp only [List.filterMap_cons, Member.encode, ho, Bool.false_eq_true, if_false, List.foldlM_cons,
        decodeAtoms_stringAtoms, List.foldl_cons, Member.absorb]
      rw [show (⟨m.name.data⟩ : String) = m.name from rfl, hlook m (List.mem_cons_self m ms)]
      simp only [Member.toField]
      rw [m.codec.decode_print _ hf.1 hf.2]
      exact ih _

theorem le_foldr_max {n : Nat} : ∀ {l : List Nat}, n ∈ l → n ≤ l.foldr max 0
  | _ :: _, .head _ => le_max_left _ _
  | _ :: _, .tail _ h => le_trans (le_foldr_max h) (le_max_right _ _)

/-- A struct whose fields `ms` have distinct names (`strct` its name, `type` its type's). -/
def structCodec (strct type : String) (ms : List (Member σ)) (hnames : (ms.map Member.name).Nodup) :
    Codec σ where
  type := type
  decode := decodeStruct strct type (ms.map Member.toField)
  encode := encodeStruct ms
  isEmpty _ := false
  Fits x := ∀ m ∈ ms, m.omits x = false → m.codec.Fits (m.get x)
  absorb old x := ms.foldl (Member.absorb x) old
  maxDepth := (ms.map fun m => m.codec.maxDepth).foldr max 0 + 1
  depth_encode x := Nat.succ_le_succ (membersDepth_le fun e he => by
    obtain ⟨m, hm, he⟩ := List.mem_filterMap.1 he
    by_cases ho : m.omits x = true
    · simp [Member.encode, ho] at he
    · simp only [Member.encode, ho, Bool.false_eq_true, if_false, Option.some.injEq] at he
      subst he
      exact (m.codec.depth_encode _).trans (le_foldr_max (List.mem_map_of_mem _ hm)))
  decode_print x h hd ctx old L k := by
    have hms : ∀ e ∈ ms.filterMap (Member.encode · x), e.2.depth ≤ maxNestingDepth := fun e he => by
      have := depth_le_membersDepth he
      simp only [encodeStruct, Value.depth] at hd
      omega
    rw [encodeStruct, decodeStruct_print _ _ _ _ _ _ _ _ hms]
    refine foldlM_encode strct ctx L (k + 1) _ x ms (fun m hm => lookupField_name hnames hm)
      (fun m hm ho => ⟨h m hm ho, hms (stringAtoms m.name, m.codec.encode (m.get x)) ?_⟩) old
    exact List.mem_filterMap.2 ⟨m, hm, by simp [Member.encode, ho]⟩

@[simp] theorem structCodec_decode (strct type : String) (ms : List (Member σ)) (h : (ms.map Member.name).Nodup) :
    (structCodec strct type ms h).decode = decodeStruct strct type (ms.map Member.toField) := rfl

@[simp] theorem structCodec_absorb (strct type : String) (ms : List (Member σ)) (h : (ms.map Member.name).Nodup)
    (old x : σ) : (structCodec strct type ms h).absorb old x = ms.foldl (Member.absorb x) old := rfl

theorem encodeStruct_ne_null (ms : List (Member σ)) (x : σ) : encodeStruct ms x ≠ .null :=
  Value.noConfusion

@[simp] theorem structCodec_fits (strct type : String) (ms : List (Member σ)) (h : (ms.map Member.name).Nodup)
    (x : σ) : (structCodec strct type ms h).Fits x = ∀ m ∈ ms, m.omits x = false → m.codec.Fits (m.get x) := rfl

/-! ### HTML safety -/

/-- Everything the codec prints is HTML-safe, so `json.Marshal`'s `escapeHTML` leaves it as it
is. -/
def Codec.HtmlSafe (c : Codec β) : Prop := ∀ v, (c.encode v).htmlSafe = true

theorem stringCodec_htmlSafe (type : String) : (stringCodec type).HtmlSafe := stringValue_htmlSafe

theorem boolCodec_htmlSafe : boolCodec.HtmlSafe := fun _ => rfl

theorem intCodec_htmlSafe : intCodec.HtmlSafe := fun _ => rfl

theorem ptrCodec_htmlSafe {c : Codec α} (hc : c.HtmlSafe) (zero : α) (hnull : ∀ v, c.encode v ≠ .null) :
    (ptrCodec c zero hnull).HtmlSafe
  | none => rfl
  | some v => hc v

theorem sliceCodec_htmlSafe {c : Codec α} (hc : c.HtmlSafe) (zero : α) (type : String) :
    (sliceCodec c zero type).HtmlSafe := fun _ =>
  itemsHtmlSafe_iff.2 fun _ hv => by
    obtain ⟨x, -, rfl⟩ := List.mem_map.1 hv
    exact hc x

theorem mapCodec_htmlSafe {c : Codec α} (hc : c.HtmlSafe) (zero : α) (type : String) :
    (mapCodec c zero type).HtmlSafe := fun _ =>
  membersHtmlSafe_iff.2 fun _ he => by
    obtain ⟨e, -, rfl⟩ := List.mem_map.1 he
    exact ⟨stringAtoms_htmlSafe e.1, hc e.2⟩

theorem structCodec_htmlSafe (strct type : String) {ms : List (Member σ)} (hn : (ms.map Member.name).Nodup)
    (hms : ∀ m ∈ ms, m.codec.HtmlSafe) : (structCodec strct type ms hn).HtmlSafe := fun x =>
  membersHtmlSafe_iff.2 fun e he => by
    obtain ⟨m, hm, he⟩ := List.mem_filterMap.1 he
    simp only [Member.encode] at he
    split at he
    · cases he
    · cases he
      exact ⟨stringAtoms_htmlSafe m.name, hms m hm _⟩

end Json

end GoClaw
