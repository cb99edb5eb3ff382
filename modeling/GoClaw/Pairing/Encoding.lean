import Mathlib.Data.List.Basic

namespace GoClaw

/-!
# Pairing — the text encodings of keys, ids and tokens

The pairing package encodes bytes in two ways, both from Go's standard library:

* `hexEncode` is `hex.EncodeToString` (lower-case, two digits a byte), used for device ids
  and nonces;
* `Base64.encode` / `Base64.decodeString` are `base64.RawURLEncoding` (`padded := false`) and
  `base64.URLEncoding` (`padded := true`) over the URL-safe alphabet, used for public keys,
  signatures and tokens.

The decoder follows `decodeQuantum`: carriage returns and line feeds are skipped anywhere, a
final quantum of two or three characters decodes to one or two bytes (and must then be padded
with `==` or `=` in the padded encoding), a lone final character is an error, and the unused
low bits of a final character are not checked (the encodings are not `Strict`).

* `decodeString_encodeToString`: unpadded decoding undoes unpadded encoding, on every byte
  string.
-/

/-! ### Hex -/

/-- One lower-case hex digit. -/
def hexDigit (n : Nat) : Char :=
  if n < 10 then Char.ofNat (48 + n) else Char.ofNat (87 + n)

/-- `hex.EncodeToString`. -/
def hexEncode (bs : List UInt8) : String :=
  ⟨bs.flatMap fun b => [hexDigit (b.toNat / 16), hexDigit (b.toNat % 16)]⟩

/-- Two digits a byte. -/
@[simp] theorem hexEncode_length (bs : List UInt8) : (hexEncode bs).length = 2 * bs.length := by
  induction bs with
  | nil => rfl
  | cons b bs ih =>
    simp only [hexEncode, String.length, List.flatMap_cons, List.length_append] at ih ⊢
    simp only [ih, List.length_cons, List.length_nil]
    omega

namespace Base64

/-! ### The URL-safe alphabet -/

/-- The character for a sextet. -/
def encodeChar (n : Nat) : Char :=
  if n < 26 then Char.ofNat (65 + n)
  else if n < 52 then Char.ofNat (71 + n)
  else if n < 62 then Char.ofNat (n - 4)
  else if n = 62 then '-'
  else '_'

/-- `decodeMap`: the sextet a character stands for, `none` outside the alphabet. -/
def decodeChar (c : Char) : Option Nat :=
  if 'A' ≤ c ∧ c ≤ 'Z' then some (c.toNat - 65)
  else if 'a' ≤ c ∧ c ≤ 'z' then some (c.toNat - 71)
  else if '0' ≤ c ∧ c ≤ '9' then some (c.toNat + 4)
  else if c = '-' then some 62
  else if c = '_' then some 63
  else none

/-! ### Encoding -/

/-- `Encode`: three bytes to four characters; one or two final bytes to two or three
characters, followed by `==` or `=` when `padded`. -/
def encode (padded : Bool) : List UInt8 → List Char
  | [] => []
  | [a] =>
    let v := a.toNat * 65536
    [encodeChar (v / 262144), encodeChar (v / 4096 % 64)] ++ if padded then ['=', '='] else []
  | [a, b] =>
    let v := a.toNat * 65536 + b.toNat * 256
    [encodeChar (v / 262144), encodeChar (v / 4096 % 64), encodeChar (v / 64 % 64)] ++
      if padded then ['='] else []
  | a :: b :: c :: rest =>
    let v := a.toNat * 65536 + b.toNat * 256 + c.toNat
    [encodeChar (v / 262144), encodeChar (v / 4096 % 64), encodeChar (v / 64 % 64),
      encodeChar (v % 64)] ++ encode padded rest

/-- Some bytes encode to some characters. -/
theorem encode_ne_nil {padded : Bool} {bs : List UInt8} (h : bs ≠ []) : encode padded bs ≠ [] := by
  match bs, h with
  | [_], _ => simp [encode]
  | [_, _], _ => simp [encode]
  | _ :: _ :: _ :: _, _ => simp [encode]

/-- `EncodeToString`. -/
def encodeToString (padded : Bool) (bs : List UInt8) : String := ⟨encode padded bs⟩

/-! ### Decoding -/

/-- The bytes of a quantum of four sextets, of which the first `dlen - 1` are kept. -/
def quantumBytes (x y z w : Nat) : List UInt8 :=
  let v := x * 262144 + y * 4096 + z * 64 + w
  [(v / 65536).toUInt8, (v / 256 % 256).toUInt8, (v % 256).toUInt8]

/-- `decodeQuantum`, quantum after quantum, over the characters left once line breaks are
skipped. -/
def decodeQuanta (padded : Bool) : List Char → Option (List UInt8)
  | [] => some []
  | [_] => none
  | [a, b] =>
    if padded then none else
    match decodeChar a, decodeChar b with
    | some x, some y => some ((quantumBytes x y 0 0).take 1)
    | _, _ => none
  | [a, b, c] =>
    if padded then none else
    match decodeChar a, decodeChar b, decodeChar c with
    | some x, some y, some z => some ((quantumBytes x y z 0).take 2)
    | _, _, _ => none
  | a :: b :: c :: d :: rest =>
    match decodeChar a, decodeChar b, decodeChar c, decodeChar d with
    | some x, some y, some z, some w => (quantumBytes x y z w ++ ·) <$> decodeQuanta padded rest
    | some x, some y, none, none =>
      if padded ∧ c = '=' ∧ d = '=' ∧ rest = [] then some ((quantumBytes x y 0 0).take 1)
      else none
    | some x, some y, some z, none =>
      if padded ∧ d = '=' ∧ rest = [] then some ((quantumBytes x y z 0).take 2) else none
    | _, _, _, _ => none

/-- `DecodeString`; `none` stands for a non-nil error. -/
def decodeString (padded : Bool) (s : String) : Option (List UInt8) :=
  decodeQuanta padded (s.toList.filter fun c => c ≠ '\n' ∧ c ≠ '\r')

/-! ### Decoding what was encoded -/

/-- Every sextet's character decodes back to it. -/
theorem decodeChar_encodeChar : ∀ n < 64, decodeChar (encodeChar n) = some n := by decide

/-- No sextet's character is a line break, so the decoder keeps it. -/
theorem encodeChar_kept : ∀ n < 64, decide (encodeChar n ≠ '\n' ∧ encodeChar n ≠ '\r') = true := by
  decide

/-- A byte is read back from its value. -/
theorem toUInt8_eq (a : UInt8) {v : Nat} (h : v = a.toNat) : v.toUInt8 = a :=
  UInt8.toNat.inj (by rw [h]; exact UInt8.toNat_ofNat_of_lt a.toNat_lt_size)

/-- **Unpadded base64url decodes what it encoded**, quantum by quantum: each sextet's character
decodes to the sextet, and the sextets of a quantum put back together give its bytes. -/
theorem decodeString_encodeToString : (bs : List UInt8) →
    decodeString false (encodeToString false bs) = some bs
  | [] => rfl
  | [a] => by
    have ha : a.toNat < 256 := a.toNat_lt_size
    have h1 : a.toNat * 65536 / 262144 < 64 := by omega
    have h2 : a.toNat * 65536 / 4096 % 64 < 64 := by omega
    simp only [decodeString, encodeToString, String.toList, encode, Bool.false_eq_true, if_false,
      List.append_nil, List.filter_cons, List.filter_nil, encodeChar_kept _ h1, encodeChar_kept _ h2,
      if_true, decodeQuanta, decodeChar_encodeChar _ h1, decodeChar_encodeChar _ h2, quantumBytes,
      List.take_succ_cons, List.take_zero, Option.some.injEq, List.cons.injEq, and_true]
    exact toUInt8_eq a (by omega)
  | [a, b] => by
    have ha : a.toNat < 256 := a.toNat_lt_size
    have hb : b.toNat < 256 := b.toNat_lt_size
    have h1 : (a.toNat * 65536 + b.toNat * 256) / 262144 < 64 := by omega
    have h2 : (a.toNat * 65536 + b.toNat * 256) / 4096 % 64 < 64 := by omega
    have h3 : (a.toNat * 65536 + b.toNat * 256) / 64 % 64 < 64 := by omega
    simp only [decodeString, encodeToString, String.toList, encode, Bool.false_eq_true, if_false,
      List.append_nil, List.filter_cons, List.filter_nil, encodeChar_kept _ h1, encodeChar_kept _ h2,
      encodeChar_kept _ h3, if_true, decodeQuanta, decodeChar_encodeChar _ h1,
      decodeChar_encodeChar _ h2, decodeChar_encodeChar _ h3, quantumBytes,
      List.take_succ_cons, List.take_zero, Option.some.injEq, List.cons.injEq, and_true]
    exact ⟨toUInt8_eq a (by omega), toUInt8_eq b (by omega)⟩
  | a :: b :: c :: rest => by
    have ha : a.toNat < 256 := a.toNat_lt_size
    have hb : b.toNat < 256 := b.toNat_lt_size
    have hc : c.toNat < 256 := c.toNat_lt_size
    have h1 : (a.toNat * 65536 + b.toNat * 256 + c.toNat) / 262144 < 64 := by omega
    have h2 : (a.toNat * 65536 + b.toNat * 256 + c.toNat) / 4096 % 64 < 64 := by omega
    have h3 : (a.toNat * 65536 + b.toNat * 256 + c.toNat) / 64 % 64 < 64 := by omega
    have h4 : (a.toNat * 65536 + b.toNat * 256 + c.toNat) % 64 < 64 := by omega
    have ih := decodeString_encodeToString rest
    simp only [decodeString, encodeToString, String.toList] at ih
    simp only [decodeString, encodeToString, String.toList, encode, List.cons_append,
      List.nil_append, List.filter_cons, encodeChar_kept _ h1, encodeChar_kept _ h2,
      encodeChar_kept _ h3, encodeChar_kept _ h4, if_true, decodeQuanta, decodeChar_encodeChar _ h1,
      decodeChar_encodeChar _ h2, decodeChar_encodeChar _ h3, decodeChar_encodeChar _ h4, ih,
      quantumBytes, Option.map_eq_map, Option.map_some', Option.some.injEq, List.cons.injEq,
      and_true]
    exact ⟨toUInt8_eq a (by omega), toUInt8_eq b (by omega), toUInt8_eq c (by omega)⟩

end Base64

end GoClaw
