import GoClaw.Pairing.Identity
import GoClaw.Text.Decimal

namespace GoClaw

/-!
# Pairing — what the signing payload binds (`identity.go`)

`BuildAuthPayload` joins the connect fields with `|` and the scopes with `,`, escaping neither,
so a device's signature covers the fields only as far as the text tells them apart.

* `buildAuthPayload_collides`: a `|` inside a field moves text between fields, and the scope
  lists `[""]` and `[]` join to the same empty field, without changing the payload.
* `buildAuthPayload_injective`: when no field before the nonce holds `|` and no scope holds `,`,
  the payload determines every field, and the scopes up to `[""]` against `[]`.
-/

/-! ### Joined text -/

theorem intercalate_go_append (acc x s : String) (l : List String) :
    String.intercalate.go (acc ++ x) s l = acc ++ String.intercalate.go x s l := by
  induction l generalizing x with
  | nil => rfl
  | cons a l ih => simp only [String.intercalate.go, String.append_assoc, ih]

/-- `String.intercalate` as `List.intercalate` of the characters. -/
theorem intercalate_data (s : String) (l : List String) :
    (s.intercalate l).data = List.intercalate s.data (l.map String.data) := by
  induction l with
  | nil => rfl
  | cons a l ih =>
    cases l with
    | nil => simp [String.intercalate, String.intercalate.go, List.intercalate]
    | cons b l =>
      have h : s.intercalate (a :: b :: l) = a ++ s ++ s.intercalate (b :: l) := by
        simp only [String.intercalate, String.intercalate.go, ← intercalate_go_append]
      rw [h, String.data_append, String.data_append, ih]
      simp [List.intercalate, List.intersperse_cons₂, List.append_assoc]

theorem mem_intersperse {α : Type} {sep x : α} : ∀ {l : List α}, x ∈ l.intersperse sep → x = sep ∨ x ∈ l
  | [], h => absurd h (List.not_mem_nil _)
  | [_], h => .inr h
  | a :: b :: l, h => by
    rw [List.intersperse_cons₂, List.mem_cons, List.mem_cons] at h
    rcases h with rfl | rfl | h
    · exact .inr (List.mem_cons_self _ _)
    · exact .inl rfl
    · exact (mem_intersperse h).imp_right (List.mem_cons_of_mem a)

/-- A character in joined text is in the separator or in a part. -/
theorem mem_intercalate {c : Char} {s : String} {l : List String}
    (h : c ∈ (s.intercalate l).data) : c ∈ s.data ∨ ∃ t ∈ l, c ∈ t.data := by
  rw [intercalate_data, List.intercalate, List.mem_flatten] at h
  obtain ⟨part, hpart, hc⟩ := h
  rcases mem_intersperse hpart with rfl | hpart
  · exact .inl hc
  · obtain ⟨t, ht, rfl⟩ := List.mem_map.1 hpart
    exact .inr ⟨t, ht, hc⟩

/-- Text cut at the first separator: the parts before it agree, and so do the rests. -/
theorem eq_of_append_sep {c : Char} {a a' b b' : List Char} (ha : c ∉ a) (ha' : c ∉ a')
    (h : a ++ c :: b = a' ++ c :: b') : a = a' ∧ b = b' := by
  have hs := congrArg (List.splitOnP (· == c)) h
  rw [List.splitOnP_first _ _ (fun x hx => by simpa using ne_of_mem_of_not_mem hx ha) c (by simp),
    List.splitOnP_first _ _ (fun x hx => by simpa using ne_of_mem_of_not_mem hx ha') c (by simp)]
    at hs
  obtain rfl := (List.cons.inj hs).1
  exact ⟨rfl, (List.cons.inj (List.append_cancel_left h)).2⟩

/-- Comma-joined lists of comma-free scopes are equal only for equal lists, or for `[]` and
`[""]`. -/
theorem intercalate_comma_eq {l l' : List String} (hl : ∀ s ∈ l, ',' ∉ s.data)
    (hl' : ∀ s ∈ l', ',' ∉ s.data) (h : ",".intercalate l = ",".intercalate l') :
    l = l' ∨ (l = [] ∧ l' = [""]) ∨ (l = [""] ∧ l' = []) := by
  have hd : List.intercalate [','] (l.map String.data) = List.intercalate [','] (l'.map String.data) := by
    simpa only [intercalate_data] using congrArg String.data h
  have hsplit : ∀ m : List String, (∀ s ∈ m, ',' ∉ s.data) → m ≠ [] →
      (List.intercalate [','] (m.map String.data)).splitOn ',' = m.map String.data :=
    fun m hm hne => List.splitOn_intercalate _ ',' (by simpa using hm) (by simpa using hne)
  have hinj : Function.Injective (List.map String.data) :=
    List.map_injective_iff.2 fun _ _ => String.ext
  -- the empty list joins to the text that also splits as `[""]`
  have hnil : ∀ m : List String, (∀ s ∈ m, ',' ∉ s.data) → m ≠ [] →
      List.intercalate [','] (m.map String.data) = [] → m = [""] := fun m hm hne he =>
    hinj (by rw [← hsplit m hm hne, he]; rfl)
  rcases eq_or_ne l [] with rfl | hne <;> rcases eq_or_ne l' [] with rfl | hne'
  · exact .inl rfl
  · exact .inr (.inl ⟨rfl, hnil l' hl' hne' hd.symm⟩)
  · exact .inr (.inr ⟨hnil l hl hne hd, rfl⟩)
  · exact .inl (hinj (by rw [← hsplit l hl hne, hd, hsplit l' hl' hne']))

/-! ### The payload -/

/-- The payload's characters, field after field. -/
theorem buildAuthPayload_data (p : AuthPayloadParams) :
    (buildAuthPayload p).data = ['v', '2', '|'] ++ (p.deviceID.data ++ '|' ::
      (p.clientID.data ++ '|' :: (p.clientMode.data ++ '|' :: (p.role.data ++ '|' ::
      ((",".intercalate p.scopes).data ++ '|' :: ((toString p.signedAtMs).data ++ '|' ::
      (p.token.data ++ '|' :: p.nonce.data))))))) := by
  simp [buildAuthPayload]

/-- No field before the nonce holds the field separator `|`, and no scope holds the scope
separator `,` (the nonce, the last field, may hold anything). -/
def AuthPayloadParams.Unambiguous (p : AuthPayloadParams) : Prop :=
  '|' ∉ p.deviceID.data ∧ '|' ∉ p.clientID.data ∧ '|' ∉ p.clientMode.data ∧ '|' ∉ p.role.data ∧
    (∀ s ∈ p.scopes, '|' ∉ s.data ∧ ',' ∉ s.data) ∧ '|' ∉ p.token.data

instance (p : AuthPayloadParams) : Decidable p.Unambiguous :=
  inferInstanceAs (Decidable (_ ∧ _ ∧ _ ∧ _ ∧ (∀ s ∈ p.scopes, _ ∧ _) ∧ _))

/-- The scope field of unambiguous parameters holds no `|`. -/
theorem pipe_not_mem_scopes {p : AuthPayloadParams} (hp : p.Unambiguous) :
    '|' ∉ (",".intercalate p.scopes).data := fun h =>
  (mem_intercalate h).elim (by simp) fun ⟨s, hs, hc⟩ => (hp.2.2.2.2.1 s hs).1 hc

/-- The decimal field holds no `|`. -/
theorem pipe_not_mem_toString (i : Int) : '|' ∉ (toString i).data := fun h =>
  (isDigit_or_minus_of_mem_toString h).elim (by simp) (by simp)

/-- **The payload binds unambiguous fields.**  When no field before the nonce holds `|` and no
scope holds `,`, equal payloads come from equal device, client, mode, role, time, token and nonce,
and from equal scope lists, or from `[]` and `[""]`, which both join to the empty field. -/
theorem buildAuthPayload_injective {p q : AuthPayloadParams} (hp : p.Unambiguous)
    (hq : q.Unambiguous) (h : buildAuthPayload p = buildAuthPayload q) :
    p.deviceID = q.deviceID ∧ p.clientID = q.clientID ∧ p.clientMode = q.clientMode ∧
      p.role = q.role ∧ p.signedAtMs = q.signedAtMs ∧ p.token = q.token ∧ p.nonce = q.nonce ∧
      (p.scopes = q.scopes ∨ (p.scopes = [] ∧ q.scopes = [""]) ∨
        (p.scopes = [""] ∧ q.scopes = [])) := by
  have hd := congrArg String.data h
  rw [buildAuthPayload_data, buildAuthPayload_data] at hd
  -- cut the payload field after field
  obtain ⟨hD, hd⟩ := eq_of_append_sep hp.1 hq.1 (List.append_cancel_left hd)
  obtain ⟨hC, hd⟩ := eq_of_append_sep hp.2.1 hq.2.1 hd
  obtain ⟨hM, hd⟩ := eq_of_append_sep hp.2.2.1 hq.2.2.1 hd
  obtain ⟨hR, hd⟩ := eq_of_append_sep hp.2.2.2.1 hq.2.2.2.1 hd
  obtain ⟨hS, hd⟩ := eq_of_append_sep (pipe_not_mem_scopes hp) (pipe_not_mem_scopes hq) hd
  obtain ⟨hT, hd⟩ := eq_of_append_sep (pipe_not_mem_toString _) (pipe_not_mem_toString _) hd
  obtain ⟨hK, hN⟩ := eq_of_append_sep hp.2.2.2.2.2 hq.2.2.2.2.2 hd
  exact ⟨String.ext hD, String.ext hC, String.ext hM, String.ext hR,
    toString_int_injective (String.ext hT), String.ext hK, String.ext hN,
    intercalate_comma_eq (fun s hs => (hp.2.2.2.2.1 s hs).2) (fun s hs => (hq.2.2.2.2.1 s hs).2)
      (String.ext hS)⟩

/-- Connect fields of a device `"d"` with role `"node"` and scope `"admin"`. -/
def adminFields : AuthPayloadParams := ⟨"d", "cli", "node", "node", ["admin"], 0, "", "n"⟩

theorem buildAuthPayload_injective_admin :
    adminFields.Unambiguous ∧ adminFields.Unambiguous ∧
      buildAuthPayload adminFields = buildAuthPayload adminFields ∧
      (adminFields.deviceID = adminFields.deviceID ∧ adminFields.clientID = adminFields.clientID ∧
        adminFields.clientMode = adminFields.clientMode ∧ adminFields.role = adminFields.role ∧
        adminFields.signedAtMs = adminFields.signedAtMs ∧ adminFields.token = adminFields.token ∧
        adminFields.nonce = adminFields.nonce ∧
        (adminFields.scopes = adminFields.scopes ∨
          (adminFields.scopes = [] ∧ adminFields.scopes = [""]) ∨
          (adminFields.scopes = [""] ∧ adminFields.scopes = []))) :=
  ⟨by decide, by decide, rfl, buildAuthPayload_injective (by decide) (by decide) rfl⟩

/-- Two collisions: device `"a|b"` with client `"c"` against device `"a"` with client `"b|c"`;
and scopes `[""]` against no scopes. -/
theorem buildAuthPayload_collides :
    buildAuthPayload ⟨"a|b", "c", "", "", [], 0, "", ""⟩ =
        buildAuthPayload ⟨"a", "b|c", "", "", [], 0, "", ""⟩ ∧
      buildAuthPayload ⟨"d", "c", "", "", [""], 0, "", ""⟩ =
        buildAuthPayload ⟨"d", "c", "", "", [], 0, "", ""⟩ := by
  decide

end GoClaw
