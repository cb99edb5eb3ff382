import GoClaw.Json.Codec

namespace GoClaw

namespace Json

/-!
# Go's `encoding/json` — nil slices

The model's `List` is Go's nil slice and its empty slice alike, and a codec prints it as an
array, `[]` when empty.  `json.Marshal` writes a nil slice as `null`.  So a Go value has
several texts, one for each choice of which of its empty slices are nil, and a read-back
result about the text Go wrote has to hold for all of them.

* `Value.NilVariant v w`: `w` is `v` with any of its empty arrays written `null`;
  `Codec.MarshalsIndent c v t` says `t` is `json.MarshalIndent` of such a `w`.  The model's
  own printing is one of them (`nilVariant_refl`), and so is the printing with every empty
  array `null` (`nilVariant_nilEmpty`).
* `Codec.NilSafe c`: `c` reads every such variant of what it prints back as `absorb`, as its
  law `decode_print` has it for the printing itself.  `null` decodes into a slice as the nil
  slice (`decodeSlice_null`), which is the model's empty list, so the scalars, `sliceCodec`,
  `mapCodec` and `structCodec` are all nil-safe when their parts are.
* `Codec.unmarshal_marshalsIndent`: `json.Unmarshal` of any text `json.MarshalIndent` may
  have written for `v` is `absorb`.
-/

variable {α β σ : Type}

mutual

/-- `w` is `v` with any of its empty arrays, a nil slice's, written `null`. -/
def Value.NilVariant : Value → Value → Prop
  | .array vs, w => (vs = [] ∧ w = .null) ∨ ∃ ws, w = .array ws ∧ ItemsNilVariant vs ws
  | .object ms, w => ∃ ns, w = .object ns ∧ MembersNilVariant ms ns
  | v, w => w = v

/-- The items `ws` are the items `vs`, each a `NilVariant`. -/
def ItemsNilVariant : List Value → List Value → Prop
  | [], ws => ws = []
  | v :: vs, ws => ∃ w ws', ws = w :: ws' ∧ v.NilVariant w ∧ ItemsNilVariant vs ws'

/-- The members `ns` are the members `ms`, under the same keys, each value a `NilVariant`. -/
def MembersNilVariant : List (List Atom × Value) → List (List Atom × Value) → Prop
  | [], ns => ns = []
  | (k, v) :: ms, ns => ∃ w ns', ns = (k, w) :: ns' ∧ v.NilVariant w ∧ MembersNilVariant ms ns'

end

@[simp] theorem nilVariant_array_iff (vs : List Value) (w : Value) :
    (Value.array vs).NilVariant w ↔ (vs = [] ∧ w = .null) ∨ ∃ ws, w = .array ws ∧ ItemsNilVariant vs ws :=
  Iff.rfl

@[simp] theorem nilVariant_object_iff (ms : List (List Atom × Value)) (w : Value) :
    (Value.object ms).NilVariant w ↔ ∃ ns, w = .object ns ∧ MembersNilVariant ms ns :=
  Iff.rfl

mutual

/-- A value with every empty array written `null`: what `json.Marshal` writes when every empty
slice is nil. -/
def Value.nilEmpty : Value → Value
  | .array [] => .null
  | .array (v :: vs) => .array (nilEmptyItems (v :: vs))
  | .object ms => .object (nilEmptyMembers ms)
  | v => v

def nilEmptyItems : List Value → List Value
  | [] => []
  | v :: vs => v.nilEmpty :: nilEmptyItems vs

def nilEmptyMembers : List (List Atom × Value) → List (List Atom × Value)
  | [] => []
  | (k, v) :: ms => (k, v.nilEmpty) :: nilEmptyMembers ms

end

mutual

theorem nilVariant_refl : ∀ v : Value, v.NilVariant v
  | .array vs => .inr ⟨vs, rfl, itemsNilVariant_refl vs⟩
  | .object ms => ⟨ms, rfl, membersNilVariant_refl ms⟩
  | .null | .bool _ | .number _ _ | .string _ => rfl

theorem itemsNilVariant_refl : ∀ vs : List Value, ItemsNilVariant vs vs
  | [] => rfl
  | v :: vs => ⟨v, vs, rfl, nilVariant_refl v, itemsNilVariant_refl vs⟩

theorem membersNilVariant_refl : ∀ ms : List (List Atom × Value), MembersNilVariant ms ms
  | [] => rfl
  | (_, v) :: ms => ⟨v, ms, rfl, nilVariant_refl v, membersNilVariant_refl ms⟩

end

mutual

theorem nilVariant_nilEmpty : ∀ v : Value, v.NilVariant v.nilEmpty
  | .array [] => .inl ⟨rfl, rfl⟩
  | .array (v :: vs) => .inr ⟨_, rfl, itemsNilVariant_nilEmptyItems (v :: vs)⟩
  | .object ms => ⟨_, rfl, membersNilVariant_nilEmptyMembers ms⟩
  | .null | .bool _ | .number _ _ | .string _ => rfl

theorem itemsNilVariant_nilEmptyItems : ∀ vs : List Value, ItemsNilVariant vs (nilEmptyItems vs)
  | [] => rfl
  | v :: vs => ⟨_, _, rfl, nilVariant_nilEmpty v, itemsNilVariant_nilEmptyItems vs⟩

theorem membersNilVariant_nilEmptyMembers :
    ∀ ms : List (List Atom × Value), MembersNilVariant ms (nilEmptyMembers ms)
  | [] => rfl
  | (_, v) :: ms => ⟨_, _, rfl, nilVariant_nilEmpty v, membersNilVariant_nilEmptyMembers ms⟩

end

mutual

/-- Writing an empty array `null` nests nothing deeper. -/
theorem depth_le_of_nilVariant : ∀ {v w : Value}, v.NilVariant w → w.depth ≤ v.depth
  | .array _, _, .inl ⟨_, rfl⟩ => Nat.zero_le _
  | .array _, _, .inr ⟨_, rfl, h⟩ => Nat.succ_le_succ (itemsDepth_le_of_nilVariant h)
  | .object _, _, ⟨_, rfl, h⟩ => Nat.succ_le_succ (membersDepth_le_of_nilVariant h)
  | .null, _, h | .bool _, _, h | .number _ _, _, h | .string _, _, h => (congrArg Value.depth h).le

theorem itemsDepth_le_of_nilVariant : ∀ {vs ws : List Value}, ItemsNilVariant vs ws → itemsDepth ws ≤ itemsDepth vs
  | [], _, h => (congrArg itemsDepth h).le
  | _ :: _, _, ⟨_, _, rfl, hv, hvs⟩ =>
    max_le_max (depth_le_of_nilVariant hv) (itemsDepth_le_of_nilVariant hvs)

theorem membersDepth_le_of_nilVariant :
    ∀ {ms ns : List (List Atom × Value)}, MembersNilVariant ms ns → membersDepth ns ≤ membersDepth ms
  | [], _, h => (congrArg membersDepth h).le
  | (_, _) :: _, _, ⟨_, _, rfl, hv, hms⟩ =>
    max_le_max (depth_le_of_nilVariant hv) (membersDepth_le_of_nilVariant hms)

end

/-- `c` reads back every variant of what it prints, a nil slice's `null` for any empty array,
as its law has it for the printing itself. -/
def Codec.NilSafe (c : Codec β) : Prop :=
  ∀ v, c.Fits v → (c.encode v).depth ≤ maxNestingDepth → ∀ w, (c.encode v).NilVariant w →
    ∀ ctx old L k, c.decode ctx old (w.print L k) = .ok (c.absorb old v)

/-- A codec that prints no array and no object has its printing as its only variant. -/
theorem Codec.nilSafe_of_scalar (c : Codec β) (h : ∀ v w, (c.encode v).NilVariant w → w = c.encode v) :
    c.NilSafe := fun v hv hd w hw ctx old L k => by
  rw [h v w hw]
  exact c.decode_print v hv hd ctx old L k

@[simp] theorem stringCodec_nilSafe (type : String) : (stringCodec type).NilSafe :=
  Codec.nilSafe_of_scalar _ fun _ _ h => h

@[simp] theorem boolCodec_nilSafe : boolCodec.NilSafe :=
  Codec.nilSafe_of_scalar _ fun _ _ h => h

@[simp] theorem int64Codec_nilSafe : int64Codec.NilSafe :=
  Codec.nilSafe_of_scalar _ fun _ _ h => h

/-! ### Slices -/

theorem decodeItems_nilVariant {c : Codec α} (hc : c.NilSafe) (zero : α) (ctx : Ctx) (L : Layout) (k : Nat) :
    ∀ (xs : List α) (ws : List Value), ItemsNilVariant (xs.map c.encode) ws →
      (∀ x ∈ xs, c.Fits x ∧ (c.encode x).depth ≤ maxNestingDepth) → ∀ old,
      decodeItems c.decode zero ctx old (ws.map (Value.print L k)) = .ok (absorbItems c zero old xs)
  | [], _, rfl, _, _ => rfl
  | x :: xs, _, ⟨w, ws, rfl, hw, hws⟩, h, old => by
    have hx := h x (List.mem_cons_self x xs)
    simp only [List.map_cons, decodeItems, hc x hx.1 hx.2 w hw,
      decodeItems_nilVariant hc zero ctx L k xs ws hws (fun y hy => h y (List.mem_cons_of_mem x hy)) old.tail]
    rfl

/-- A slice of a nil-safe type is nil-safe: `null` reads back as the empty list the model
printed as `[]`. -/
@[simp] theorem sliceCodec_nilSafe {c : Codec α} (hc : c.NilSafe) (zero : α) (type : String) :
    (sliceCodec c zero type).NilSafe := by
  intro xs h hd w hw ctx old L k
  have hd' : itemsDepth (xs.map c.encode) + 1 ≤ maxNestingDepth := hd
  rcases hw with ⟨hnil, rfl⟩ | ⟨ws, rfl, hws⟩
  · obtain rfl := List.map_eq_nil_iff.1 hnil
    exact decodeSlice_null c.decode zero type ctx old L k
  · have hws' : ∀ v ∈ ws, v.depth ≤ maxNestingDepth := fun v hv => by
      have := depth_le_itemsDepth hv
      have := itemsDepth_le_of_nilVariant hws
      omega
    have hvs : ∀ v ∈ xs.map c.encode, v.depth ≤ maxNestingDepth := fun v hv => by
      have := depth_le_itemsDepth hv
      omega
    show decodeSlice c.decode zero type ctx old ((Value.array ws).print L k) = _
    rw [decodeSlice_print _ _ _ _ _ _ _ _ hws']
    exact decodeItems_nilVariant hc zero ctx L (k + 1) xs ws hws
      (fun x hx => ⟨h x hx, hvs _ (List.mem_map_of_mem _ hx)⟩) old

/-! ### Maps -/

theorem foldlM_members_nilVariant {c : Codec α} (hc : c.NilSafe) (zero : α) (ctx : Ctx) (L : Layout)
    (k : Nat) : ∀ (es : List (Σ _ : String, α)) (ns : List (List Atom × Value)),
      MembersNilVariant (es.map fun e => (stringAtoms e.1, c.encode e.2)) ns →
      (∀ e ∈ es, c.Fits e.2 ∧ (c.encode e.2).depth ≤ maxNestingDepth) → ∀ old : GoMap α,
      ns.foldlM (fun m kv => (c.decode ctx zero (kv.2.print L k)).map fun v => m.insert ⟨decodeAtoms none kv.1⟩ v)
        old = .ok (es.foldl (fun acc e => acc.insert e.1 (c.absorb zero e.2)) old)
  | [], _, rfl, _, _ => rfl
  | e :: es, _, ⟨w, ns, rfl, hw, hns⟩, h, old => by
    have he := h e (List.mem_cons_self e es)
    rw [List.foldlM_cons, hc e.2 he.1 he.2 w hw, decodeAtoms_stringAtoms]
    exact foldlM_members_nilVariant hc zero ctx L k es ns hns (fun e' h' => h e' (List.mem_cons_of_mem e h')) _

/-- A map of a nil-safe type is nil-safe. -/
@[simp] theorem mapCodec_nilSafe {c : Codec α} (hc : c.NilSafe) (zero : α) (type : String) :
    (mapCodec c zero type).NilSafe := by
  intro m h hd w hw ctx old L k
  obtain ⟨ns, rfl, hns⟩ := hw
  have hd' : membersDepth ((sortedEntries m).map fun e => (stringAtoms e.1, c.encode e.2)) + 1 ≤
      maxNestingDepth := hd
  have hns' : ∀ e ∈ ns, e.2.depth ≤ maxNestingDepth := fun e he => by
    have := depth_le_membersDepth he
    have := membersDepth_le_of_nilVariant hns
    omega
  show decodeMap c.decode zero type ctx old ((Value.object ns).print L k) = _
  rw [decodeMap_print _ _ _ _ _ _ _ _ hns']
  refine foldlM_members_nilVariant hc zero ctx L (k + 1) _ ns hns (fun e he => ?_) old
  refine ⟨h e ((sortedEntries_perm m).subset he), ?_⟩
  have : (c.encode e.2).depth ≤ _ :=
    depth_le_membersDepth (List.mem_map_of_mem (fun e => (stringAtoms e.1, c.encode e.2)) he)
  omega

/-! ### Structs -/

/-- `d.object` over a variant of the members a struct's printing has: each field decoded in
turn, as from the printing itself. -/
theorem foldlM_encode_nilVariant (strct : String) (ctx : Ctx) (L : Layout) (k : Nat)
    (fs : List (StructField σ)) (x : σ) :
    ∀ (ms : List (Member σ)) (ns : List (List Atom × Value)),
      MembersNilVariant (ms.filterMap (Member.encode · x)) ns →
      (∀ m ∈ ms, lookupField fs m.name = some m.toField) →
      (∀ m ∈ ms, m.codec.NilSafe ∧ (m.omits x = false → m.codec.Fits (m.get x) ∧
        (m.codec.encode (m.get x)).depth ≤ maxNestingDepth)) → ∀ old,
      ns.foldlM (fun s m =>
        match lookupField fs ⟨decodeAtoms none m.1⟩ with
        | some f => (f.decode (ctx.enter strct f.name) (f.get s) (m.2.print L k)).map (f.set s)
        | none => .ok s) old = .ok (ms.foldl (Member.absorb x) old)
  | [], _, rfl, _, _, _ => rfl
  | m :: ms, ns, hns, hlook, hfit, old => by
    have ih := foldlM_encode_nilVariant strct ctx L k fs x ms
    have hlook' := fun m' h => hlook m' (List.mem_cons_of_mem m h)
    have hfit' := fun m' h => hfit m' (List.mem_cons_of_mem m h)
    have hm := hfit m (List.mem_cons_self m ms)
    by_cases ho : m.omits x = true
    · simp only [List.filterMap_cons, Member.encode, ho, if_true] at hns
      simp only [List.foldl_cons, Member.absorb, ho, if_true, m.set_get]
      exact ih ns hns hlook' hfit' old
    · simp only [List.filterMap_cons, Member.encode, ho, Bool.false_eq_true, if_false] at hns
      obtain ⟨w, ns, rfl, hw, hns⟩ := hns
      have hf := hm.2 (by simpa using ho)
      simp only [List.foldlM_cons, decodeAtoms_stringAtoms, List.foldl_cons, Member.absorb, ho,
        Bool.false_eq_true, if_false]
      rw [show (⟨m.name.data⟩ : String) = m.name from rfl, hlook m (List.mem_cons_self m ms)]
      simp only [Member.toField]
      rw [hm.1 _ hf.1 hf.2 w hw]
      exact ih ns hns hlook' hfit' _

/-- A struct whose fields' types are nil-safe is nil-safe. -/
theorem structCodec_nilSafe (strct type : String) {ms : List (Member σ)} (hn : (ms.map Member.name).Nodup)
    (hms : ∀ m ∈ ms, m.codec.NilSafe) : (structCodec strct type ms hn).NilSafe := by
  intro x h hd w hw ctx old L k
  obtain ⟨ns, rfl, hns⟩ := hw
  have hd' : membersDepth (ms.filterMap (Member.encode · x)) + 1 ≤ maxNestingDepth := hd
  have hns' : ∀ e ∈ ns, e.2.depth ≤ maxNestingDepth := fun e he => by
    have := depth_le_membersDepth he
    have := membersDepth_le_of_nilVariant hns
    omega
  show decodeStruct strct type (ms.map Member.toField) ctx old ((Value.object ns).print L k) = _
  rw [decodeStruct_print _ _ _ _ _ _ _ _ hns']
  refine foldlM_encode_nilVariant strct ctx L (k + 1) _ x ms ns hns (fun m hm => lookupField_name hn hm)
    (fun m hm => ⟨hms m hm, fun ho => ⟨h m hm ho, ?_⟩⟩) old
  have : (m.codec.encode (m.get x)).depth ≤ _ := depth_le_membersDepth
    (List.mem_filterMap.2 ⟨m, hm, by simp [Member.encode, ho]⟩ :
      (stringAtoms m.name, m.codec.encode (m.get x)) ∈ ms.filterMap (Member.encode · x))
  omega

/-! ### What `json.MarshalIndent` writes -/

/-- The texts `json.MarshalIndent(v, "", "  ")` may write for `v`, whichever of its empty slices
are nil. -/
def Codec.MarshalsIndent (c : Codec β) (v : β) (t : List Char) : Prop :=
  ∃ w, (c.encode v).NilVariant w ∧ t = w.print Layout.indented 0

/-- The model's printing, every empty slice `[]`, is one of them. -/
theorem Codec.marshalsIndent_marshalIndent (c : Codec β) (v : β) : c.MarshalsIndent v (marshalIndent c v) :=
  ⟨_, nilVariant_refl _, rfl⟩

/-- `json.Unmarshal` of any text `json.MarshalIndent` may have written for `v` is `absorb`. -/
theorem Codec.unmarshal_marshalsIndent {c : Codec β} (hc : c.NilSafe) (old v : β) (hv : c.Fits v)
    (hd : (c.encode v).depth ≤ maxNestingDepth) {t : List Char} (ht : c.MarshalsIndent v t) :
    unmarshal c.decode old t = .ok (c.absorb old v) := by
  obtain ⟨w, hw, rfl⟩ := ht
  rw [unmarshal_print _ _ _ _ ((depth_le_of_nilVariant hw).trans hd), hc v hv hd w hw]

end Json

end GoClaw
