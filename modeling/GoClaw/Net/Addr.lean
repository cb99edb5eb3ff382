import GoClaw.Pairing.Encoding
import GoClaw.Text.Decimal

namespace GoClaw
namespace Net

/-!
# Go's `net` and `net/netip` — the text of an address

The gateway decides whether a connection is local from its `RemoteAddr`, the text Go's HTTP
server writes with `TCPAddr.String`, read back with `net.SplitHostPort` and `net.ParseIP`.  This
module models those functions of Go's standard library (Go 1.22, where `net.ParseIP` is
`netip.ParseAddr` with zoned addresses refused), on the characters of the text: every
delimiter they look for is ASCII, so a byte index and a character index cut a text at the same
places.  An IP is its byte slice, 4 or 16 bytes; `ParseIP` returns the 16-byte form.

* `splitHostPort_joinHostPort`: `SplitHostPort` gives back the host and port `JoinHostPort`
  joined, and `splitHostPort_joinHostPort_host`: whenever it succeeds on such a text, it gives
  that host.
* `appendTo6_eq`: `appendTo6` is the hex groups joined by `:`, its zero run written `::`.
* `parseIP_appendTo4`, `parseIP_appendTo6`: `ParseIP` reads back the dotted decimal of every IPv4
  address and every 16-byte address `appendTo6` prints.
* `parseIP_no_percent`: `ParseIP` accepts no text with a `%`, so no zoned address.
* `appendTo6_ffff`: the texts of `appendTo6` that start with `::ffff:` are those of a zero run
  followed by a `0xffff` group and more, and what follows the prefix is no address.
-/

/-! ### Host and port -/

/-- `bytealg.IndexByteString`: the first index of `c`. -/
def indexByte (c : Char) : List Char → Option Nat
  | [] => none
  | d :: s => if d = c then some 0 else (indexByte c s).map (· + 1)

/-- `bytealg.LastIndexByteString`: the last index of `c`. -/
def lastIndexByte (c : Char) : List Char → Option Nat
  | [] => none
  | d :: s =>
    match lastIndexByte c s with
    | some i => some (i + 1)
    | none => if d = c then some 0 else none

/-- `net.JoinHostPort`: a host with a colon is taken for an IPv6 literal and bracketed. -/
def joinHostPort (host port : String) : String :=
  if ':' ∈ host.data then "[" ++ host ++ "]:" ++ port else host ++ ":" ++ port

/-- The host of `SplitHostPort` before its bracket checks, with the offsets after which no `[`
and no `]` may stand; `i` is the index of the last colon. -/
def splitHost (s : List Char) (i : Nat) : Except String (String × Nat × Nat) :=
  if s.head? = some '[' then
    match indexByte ']' s with
    | none => .error "missing \x27]\x27 in address"
    | some e =>
      if e + 1 = s.length then .error "missing port in address"
      else if e + 1 = i then .ok (⟨(s.take e).drop 1⟩, 1, e + 1)
      else if s[e + 1]? = some ':' then .error "too many colons in address"
      else .error "missing port in address"
  else if ':' ∈ s.take i then .error "too many colons in address"
  else .ok (⟨s.take i⟩, 0, 0)

/-- `net.SplitHostPort`, its errors the reasons of the `AddrError`. -/
def splitHostPort (hostport : String) : Except String (String × String) :=
  match lastIndexByte ':' hostport.data with
  | none => .error "missing port in address"
  | some i =>
    match splitHost hostport.data i with
    | .error e => .error e
    | .ok (host, j, k) =>
      if '[' ∈ hostport.data.drop j then .error "unexpected \x27[\x27 in address"
      else if ']' ∈ hostport.data.drop k then .error "unexpected \x27]\x27 in address"
      else .ok (host, ⟨hostport.data.drop (i + 1)⟩)

/-- `strings.TrimPrefix`. -/
def trimPrefix (s pre : List Char) : List Char :=
  if pre.isPrefixOf s then s.drop pre.length else s

/-! ### Printing an IP -/

/-- `IPv6loopback`, `::1`. -/
def IPv6loopback : List UInt8 := List.replicate 15 0 ++ [1]

/-- `v4InV6Prefix`: ten zero bytes and two `0xff`, the start of an IPv4 address in 16 bytes. -/
def v4InV6Prefix : List UInt8 := List.replicate 10 0 ++ [255, 255]

/-- `appendDecimal`: a byte in decimal, without leading zeros. -/
def appendDecimal (x : Nat) : List Char :=
  (if x ≥ 100 then [Nat.digitChar (x / 100)] else []) ++
    (if x ≥ 10 then [Nat.digitChar (x / 10 % 10)] else []) ++ [Nat.digitChar (x % 10)]

/-- `appendHex`: a 16-bit group in lower-case hex, without leading zeros. -/
def appendHex (x : Nat) : List Char :=
  (if x ≥ 0x1000 then [hexDigit (x / 0x1000)] else []) ++
    (if x ≥ 0x100 then [hexDigit (x / 0x100 % 16)] else []) ++
    (if x ≥ 0x10 then [hexDigit (x / 0x10 % 16)] else []) ++ [hexDigit (x % 16)]

/-- `Addr.appendTo4`: the bytes in decimal, separated by dots. -/
def appendTo4 (p4 : List UInt8) : List Char :=
  List.intercalate ['.'] (p4.map fun b => appendDecimal b.toNat)

/-- The 16-bit groups of an address, big-endian (`Addr.v6u16`). -/
def groups : List UInt8 → List Nat
  | a :: b :: rest => (a.toNat * 256 + b.toNat) :: groups rest
  | _ => []

/-- The zero run `appendTo6` writes as `::`, as `(zeroStart, zeroEnd)`: the first longest run of
two or more zero groups, `(255, 255)` when there is none. -/
def zeroRun (g : List Nat) : Nat × Nat :=
  (List.range 8).foldl (fun r i =>
    let j := i + ((g.drop i).takeWhile (· = 0)).length
    if j - i ≥ 2 ∧ j - i > r.2 - r.1 then (i, j) else r) (255, 255)

/-- The printing loop of `appendTo6` from group `i`, for at most `fuel` more rounds: at
`zeroStart` it writes `::` and goes on at `zeroEnd`. -/
def appendTo6Loop (g : List Nat) (zs ze : Nat) : Nat → Nat → List Char
  | 0, _ => []
  | fuel + 1, i =>
    if i < 8 then
      if i = zs then
        if ze ≥ 8 then [':', ':']
        else [':', ':'] ++ appendHex (g.getD ze 0) ++ appendTo6Loop g zs ze fuel (ze + 1)
      else (if i > 0 then [':'] else []) ++ appendHex (g.getD i 0) ++ appendTo6Loop g zs ze fuel (i + 1)
    else []

/-- `Addr.appendTo6` of an address without zone. -/
def appendTo6 (ip : List UInt8) : List Char :=
  appendTo6Loop (groups ip) (zeroRun (groups ip)).1 (zeroRun (groups ip)).2 8 0

namespace IP

/-- `IP.To4`: the four bytes of an IPv4 address, in either form. -/
def to4 (ip : List UInt8) : Option (List UInt8) :=
  if ip.length = 4 then some ip
  else if ip.length = 16 ∧ ip.take 12 = v4InV6Prefix then some (ip.drop 12)
  else none

/-- `IP.Equal`: the same bytes, or an IPv4 address and its 16-byte form. -/
def equal (ip x : List UInt8) : Bool :=
  if ip.length = x.length then ip == x
  else if ip.length = 4 ∧ x.length = 16 then x.take 12 == v4InV6Prefix && ip == x.drop 12
  else if ip.length = 16 ∧ x.length = 4 then ip.take 12 == v4InV6Prefix && ip.drop 12 == x
  else false

/-- `IP.IsLoopback`: `127.0.0.0/8` or `::1`. -/
def isLoopback (ip : List UInt8) : Bool :=
  match to4 ip with
  | some ip4 => ip4.head? == some 127
  | none => equal ip IPv6loopback

/-- `IP.String`: dotted decimal for an IPv4 address in either form, `appendTo6` otherwise (an
address `To4` refuses is not IPv4-mapped, so `Addr.String` takes its IPv6 branch). -/
def string (ip : List UInt8) : String :=
  if ip = [] then "<nil>"
  else if ip.length ≠ 4 ∧ ip.length ≠ 16 then "?" ++ hexEncode ip
  else match to4 ip with
    | some p4 => ⟨appendTo4 p4⟩
    | none => ⟨appendTo6 ip⟩

end IP

/-- `net.TCPAddr` of an accepted connection, whose IP is 4 or 16 bytes. -/
structure TCPAddr where
  ip : List UInt8
  port : Nat
  zone : String
  ip_length : ip.length = 4 ∨ ip.length = 16

/-- `ipEmptyString`. -/
def ipEmptyString (ip : List UInt8) : String := if ip = [] then "" else IP.string ip

/-- `TCPAddr.String`: the `RemoteAddr` Go's HTTP server gives a request. -/
def TCPAddr.string (a : TCPAddr) : String :=
  if a.zone ≠ "" then joinHostPort (ipEmptyString a.ip ++ "%" ++ a.zone) (toString a.port)
  else joinHostPort (ipEmptyString a.ip) (toString a.port)

/-! ### Parsing an IP -/

/-- The value of a hex digit, in either case. -/
def hexValue (c : Char) : Option Nat :=
  if c.isDigit then some (c.toNat - 48)
  else if 'a' ≤ c ∧ c ≤ 'f' then some (c.toNat - 87)
  else if 'A' ≤ c ∧ c ≤ 'F' then some (c.toNat - 55)
  else none

/-- The loop of `parseIPv4Fields`, with the value and digit count of the current field, the
fields before it, and the character before the current one (`none` at the start). -/
def parseIPv4Fields.go (val digLen : Nat) (fields : List UInt8) (prev : Option Char) :
    List Char → Option (List UInt8)
  | [] => if fields.length < 3 then none else some (fields ++ [val.toUInt8])
  | c :: s =>
    if c.isDigit then
      if digLen = 1 ∧ val = 0 then none
      else if val * 10 + (c.toNat - 48) > 255 then none
      else go (val * 10 + (c.toNat - 48)) (digLen + 1) fields (some c) s
    else if c = '.' then
      if prev = none ∨ s = [] ∨ prev = some '.' then none
      else if fields.length = 3 then none
      else go 0 0 (fields ++ [val.toUInt8]) (some c) s
    else none

/-- `parseIPv4Fields`: four decimal fields without leading zeros, each at most 255. -/
def parseIPv4Fields (s : List Char) : Option (List UInt8) := parseIPv4Fields.go 0 0 [] none s

/-- The hex loop of `parseIPv6`: the group's value, its digit count, and the text after it. -/
def readHex (acc off : Nat) : List Char → Option (Nat × Nat × List Char)
  | [] => some (acc, off, [])
  | c :: s =>
    match hexValue c with
    | none => some (acc, off, c :: s)
    | some v =>
      if off > 3 then none
      else if acc * 16 + v > 65535 then none
      else readHex (acc * 16 + v) (off + 1) s

/-- The group loop of `parseIPv6`, `n` groups left (so `i = ip.length = 16 - 2 * n`), with the
position of `::` seen so far: it stops at the end of the text, after an embedded IPv4 address,
after a final `::`, or after the eighth group. -/
def parseIPv6Loop : Nat → List UInt8 → Option Nat → List Char →
    Option (List UInt8 × Option Nat × List Char)
  | 0, ip, ellipsis, s => some (ip, ellipsis, s)
  | n + 1, ip, ellipsis, s =>
    match readHex 0 0 s with
    | none => none
    | some (acc, off, rest) =>
      if off = 0 then none
      else if rest.head? = some '.' then
        if ellipsis = none ∧ ip.length ≠ 12 then none
        else if ip.length + 4 > 16 then none
        else (parseIPv4Fields s).map fun f => (ip ++ f, ellipsis, [])
      else
        match rest with
        | [] => some (ip ++ [(acc / 256).toUInt8, acc.toUInt8], ellipsis, [])
        | c :: s =>
          if c ≠ ':' then none
          else
            match s with
            | [] => none
            | ':' :: s =>
              if ellipsis.isSome then none
              else if s = [] then
                some (ip ++ [(acc / 256).toUInt8, acc.toUInt8], some (ip.length + 2), [])
              else parseIPv6Loop n (ip ++ [(acc / 256).toUInt8, acc.toUInt8]) (some (ip.length + 2)) s
            | s => parseIPv6Loop n (ip ++ [(acc / 256).toUInt8, acc.toUInt8]) ellipsis s

/-- The end of `parseIPv6`: the whole text read, and a short address filled with zeros where
the `::` stood. -/
def parseIPv6End : Option (List UInt8 × Option Nat × List Char) → Option (List UInt8)
  | none => none
  | some (ip, ellipsis, s) =>
    if s ≠ [] then none
    else if ip.length < 16 then
      match ellipsis with
      | none => none
      | some e => some (ip.take e ++ List.replicate (16 - ip.length) 0 ++ ip.drop e)
    else if ellipsis.isSome then none
    else some ip

/-- The zone `parseIPv6` splits off at the first `%`; an empty one after a `%` is an error. -/
def splitZone (input : List Char) : Option (List Char × List Char) :=
  match indexByte '%' input with
  | some i => if input.drop (i + 1) = [] then none else some (input.take i, input.drop (i + 1))
  | none => some (input, [])

/-- `parseIPv6` after the zone is split off: a leading `::`, then the group loop, then the
end checks. -/
def parseIPv6Addr : List Char → Option (List UInt8)
  | [':', ':'] => some (List.replicate 16 0)
  | ':' :: ':' :: s => parseIPv6End (parseIPv6Loop 8 [] (some 0) s)
  | s => parseIPv6End (parseIPv6Loop 8 [] none s)

/-- `parseIPv6`: the 16 bytes and the zone. -/
def parseIPv6 (input : List Char) : Option (List UInt8 × List Char) :=
  match splitZone input with
  | none => none
  | some (s, zone) => (parseIPv6Addr s).map (·, zone)

/-- `netip.ParseAddr`, as `As16` and the zone: the first `.`, `:` or `%` picks the family. -/
def parseAddr (s : List Char) : Option (List UInt8 × List Char) :=
  match s.find? (fun c => c == '.' || c == ':' || c == '%') with
  | some '.' => (parseIPv4Fields s).map fun f => (v4InV6Prefix ++ f, [])
  | some ':' => parseIPv6 s
  | _ => none

/-- `net.ParseIP`: the 16-byte form of an address without zone. -/
def parseIP (s : String) : Option (List UInt8) :=
  match parseAddr s.data with
  | some (ip, []) => some ip
  | _ => none

/-! ### Reading hex and decimal -/

theorem hexValue_hexDigit : ∀ n < 16, hexValue (hexDigit n) = some n := by decide

/-- A hex digit is none of the delimiters the parsers look for. -/
theorem hexDigit_ne : ∀ n < 16, hexDigit n ≠ ':' ∧ hexDigit n ≠ '.' ∧ hexDigit n ≠ '%' ∧
    hexDigit n ≠ '[' ∧ hexDigit n ≠ ']' := by decide

theorem mem_appendHex {x : Nat} (hx : x < 65536) {c : Char} (h : c ∈ appendHex x) :
    ∃ n < 16, c = hexDigit n := by
  have hm : ∀ k, k % 16 < 16 := fun k => Nat.mod_lt _ (by decide)
  simp only [appendHex, List.mem_append, List.mem_ite_nil_right, List.mem_singleton] at h
  rcases h with ((⟨-, rfl⟩ | ⟨-, rfl⟩) | ⟨-, rfl⟩) | rfl
  exacts [⟨_, by omega, rfl⟩, ⟨_, hm _, rfl⟩, ⟨_, hm _, rfl⟩, ⟨_, hm _, rfl⟩]

theorem appendHex_eq_cons {x : Nat} (hx : x < 65536) :
    ∃ n < 16, ∃ cs, appendHex x = hexDigit n :: cs := by
  have hm : ∀ k, k % 16 < 16 := fun k => Nat.mod_lt _ (by decide)
  unfold appendHex
  by_cases h3 : x ≥ 0x1000
  · exact ⟨x / 0x1000, by omega, _, by rw [if_pos h3]; rfl⟩
  by_cases h2 : x ≥ 0x100
  · exact ⟨_, hm _, _, by rw [if_neg h3, if_pos h2]; rfl⟩
  by_cases h1 : x ≥ 0x10
  · exact ⟨_, hm _, _, by rw [if_neg h3, if_neg h2, if_pos h1]; rfl⟩
  · exact ⟨_, hm _, _, by rw [if_neg h3, if_neg h2, if_neg h1]; rfl⟩

theorem readHex_digit {acc off v : Nat} {c : Char} (s : List Char) (hc : hexValue c = some v)
    (hoff : off ≤ 3) (hacc : acc * 16 + v ≤ 65535) :
    readHex acc off (c :: s) = readHex (acc * 16 + v) (off + 1) s := by
  simp only [readHex, hc]
  rw [if_neg (by omega), if_neg (by omega)]

theorem readHex_stop {acc off : Nat} {s : List Char} (hs : ∀ c ∈ s.head?, hexValue c = none) :
    readHex acc off s = some (acc, off, s) := by
  cases s with
  | nil => rfl
  | cons c s => simp only [readHex, hs c rfl]

/-- The hex loop reads a printed group back, and stops where it ends. -/
theorem readHex_appendHex {x : Nat} (hx : x < 65536) (rest : List Char)
    (hr : ∀ c ∈ rest.head?, hexValue c = none) :
    readHex 0 0 (appendHex x ++ rest) = some (x, (appendHex x).length, rest) := by
  have hd : ∀ n < 16, hexValue (hexDigit n) = some n := hexValue_hexDigit
  unfold appendHex
  split_ifs with h3 h2 h1 <;>
    simp only [List.singleton_append, List.cons_append, List.nil_append, List.length_cons,
      List.length_nil] <;>
    first
    | omega
    | (repeat rw [readHex_digit _ (hd _ (by omega)) (by omega) (by omega)]
       rw [readHex_stop hr]; congr 2; omega)

theorem appendHex_ne_nil (x : Nat) : appendHex x ≠ [] := by simp [appendHex]

section Decimal

open parseIPv4Fields

theorem go_digit {val digLen k : Nat} {fields : List UInt8} {prev : Option Char} (s : List Char)
    (hk : k < 10) (hlead : ¬(digLen = 1 ∧ val = 0)) (hv : val * 10 + k ≤ 255) :
    go val digLen fields prev (Nat.digitChar k :: s) =
      go (val * 10 + k) (digLen + 1) fields (some (Nat.digitChar k)) s := by
  obtain ⟨hval, hdig⟩ := digitChar_decimal k hk
  simp only [go, hdig, if_true, hval, if_neg hlead, if_neg (show ¬(val * 10 + k > 255) by omega)]

theorem go_dot {val digLen : Nat} {fields : List UInt8} {c : Char} {s : List Char}
    (hc : c ≠ '.') (hs : s ≠ []) (hf : fields.length ≠ 3) :
    go val digLen fields (some c) ('.' :: s) = go 0 0 (fields ++ [val.toUInt8]) (some '.') s := by
  simp only [go, show Char.isDigit '.' = false by decide, Bool.false_eq_true, if_false, if_true,
    Option.some_ne_none, hs, Option.some.injEq, hc, hf, or_self]

/-- The field loop reads a printed byte back: no leading zero, at most 255. -/
theorem go_appendDecimal {x : Nat} (hx : x < 256) (fields : List UInt8) (prev : Option Char)
    (t : List Char) :
    go 0 0 fields prev (appendDecimal x ++ t) =
      go x (appendDecimal x).length fields (some (Nat.digitChar (x % 10))) t := by
  unfold appendDecimal
  split_ifs with h2 h1 <;>
    simp only [List.singleton_append, List.cons_append, List.nil_append, List.length_cons,
      List.length_nil] <;>
    first
    | omega
    | (repeat rw [go_digit _ (by omega) (by omega) (by omega)]
       congr 1; omega)

theorem digitChar_ne_dot {k : Nat} (hk : k < 10) : Nat.digitChar k ≠ '.' := fun h => by
  have := (digitChar_decimal k hk).2
  rw [h] at this
  exact absurd this (by decide)

theorem appendTo4_eq (a b c d : UInt8) :
    appendTo4 [a, b, c, d] = appendDecimal a.toNat ++ '.' :: (appendDecimal b.toNat ++
      '.' :: (appendDecimal c.toNat ++ '.' :: appendDecimal d.toNat)) := by
  simp [appendTo4, List.intercalate]

theorem appendDecimal_ne_nil (x : Nat) : appendDecimal x ≠ [] := by
  simp [appendDecimal]

/-- **Dotted decimal round trip**: `parseIPv4Fields` reads back the four bytes `appendTo4`
printed. -/
theorem parseIPv4Fields_appendTo4 (a b c d : UInt8) :
    parseIPv4Fields (appendTo4 [a, b, c, d]) = some [a, b, c, d] := by
  have hne : ∀ (x : UInt8) (t : List Char), appendDecimal x.toNat ++ t ≠ [] := fun x t h =>
    appendDecimal_ne_nil x.toNat (List.append_eq_nil.1 h).1
  have hdot : ∀ x : UInt8, Nat.digitChar (x.toNat % 10) ≠ '.' := fun x =>
    digitChar_ne_dot (Nat.mod_lt _ (by decide))
  have hlast := go_appendDecimal d.toNat_lt_size [a.toNat.toUInt8, b.toNat.toUInt8, c.toNat.toUInt8]
    (some '.') []
  rw [List.append_nil] at hlast
  rw [appendTo4_eq, parseIPv4Fields, go_appendDecimal a.toNat_lt_size,
    go_dot (hdot a) (hne _ _) (by simp), go_appendDecimal b.toNat_lt_size,
    go_dot (hdot b) (hne _ _) (by simp), go_appendDecimal c.toNat_lt_size,
    go_dot (hdot c) (appendDecimal_ne_nil _) (by simp), List.nil_append, List.singleton_append,
    List.cons_append, List.singleton_append, hlast]
  simp only [go, List.length_cons, List.length_nil, lt_self_iff_false, if_false, List.cons_append,
    List.nil_append, Base64.toUInt8_eq _ rfl]

end Decimal

/-! ### The group loop of `parseIPv6` -/

/-- The two bytes `parseIPv6` stores for a group. -/
def groupBytes (x : Nat) : List UInt8 := [(x / 256).toUInt8, x.toUInt8]

/-- Groups in hex, each after a colon. -/
def colonHex (gs : List Nat) : List Char := gs.flatMap fun x => ':' :: appendHex x

/-- Groups in hex, separated by colons. -/
def hexJoin : List Nat → List Char
  | [] => []
  | x :: xs => appendHex x ++ colonHex xs

theorem parseIPv6Loop_end {x : Nat} (hx : x < 65536) (n : Nat) (ip : List UInt8)
    (e : Option Nat) :
    parseIPv6Loop (n + 1) ip e (appendHex x) = some (ip ++ groupBytes x, e, []) := by
  have h := readHex_appendHex hx [] (by simp)
  rw [List.append_nil] at h
  simp [parseIPv6Loop, h, appendHex_ne_nil, groupBytes]

theorem parseIPv6Loop_sep {x : Nat} (hx : x < 65536) (n : Nat) (ip : List UInt8)
    (e : Option Nat) {c : Char} {s : List Char} (hc : c ≠ ':') :
    parseIPv6Loop (n + 1) ip e (appendHex x ++ ':' :: c :: s) =
      parseIPv6Loop n (ip ++ groupBytes x) e (c :: s) := by
  have h := readHex_appendHex hx (':' :: c :: s) (by simp; decide)
  simp only [parseIPv6Loop, h, List.length_eq_zero, appendHex_ne_nil, if_false, List.head?_cons,
    Option.some.injEq, show (':' : Char) ≠ '.' by decide, ne_eq, not_true_eq_false, groupBytes]
  split
  · rename_i heq; cases heq
  · rename_i heq; cases heq; exact absurd rfl hc
  · rfl

theorem parseIPv6Loop_ellipsis {x : Nat} (hx : x < 65536) (n : Nat) (ip : List UInt8)
    (t : List Char) :
    parseIPv6Loop (n + 1) ip none (appendHex x ++ ':' :: ':' :: t) =
      if t = [] then some (ip ++ groupBytes x, some (ip.length + 2), [])
      else parseIPv6Loop n (ip ++ groupBytes x) (some (ip.length + 2)) t := by
  have h := readHex_appendHex hx (':' :: ':' :: t) (by simp; decide)
  simp only [parseIPv6Loop, h, List.length_eq_zero, appendHex_ne_nil, if_false, List.head?_cons,
    Option.some.injEq, show (':' : Char) ≠ '.' by decide, ne_eq, not_true_eq_false, groupBytes,
    Option.isSome_none, Bool.false_eq_true]

/-- The loop reads groups separated by single colons to the end of the text. -/
theorem parseIPv6Loop_hexJoin : ∀ (xs : List Nat) (x n : Nat) (ip : List UInt8) (e : Option Nat),
    xs.length < n → (∀ y ∈ x :: xs, y < 65536) →
    parseIPv6Loop n ip e (appendHex x ++ colonHex xs) =
      some (ip ++ (x :: xs).flatMap groupBytes, e, [])
  | [], x, n + 1, ip, e, _, hb => by
    simp [colonHex, parseIPv6Loop_end (hb x (by simp))]
  | y :: ys, x, n + 1, ip, e, hn, hb => by
    obtain ⟨k, hk, cs, hy⟩ := appendHex_eq_cons (hb y (by simp))
    have ih := parseIPv6Loop_hexJoin ys y n (ip ++ groupBytes x) e (by simp at hn; omega)
      (fun z hz => hb z (List.mem_cons_of_mem _ hz))
    simp only [colonHex, List.flatMap_cons, List.cons_append, hy] at ih ⊢
    rw [parseIPv6Loop_sep (hb x (by simp)) n ip e (hexDigit_ne k hk).1, ih, List.append_assoc]

/-- The loop reads groups separated by single colons up to a `::`, and notes where it stood. -/
theorem parseIPv6Loop_hexJoin_ellipsis : ∀ (xs : List Nat) (x n : Nat) (ip : List UInt8)
    (t : List Char), xs.length < n → (∀ y ∈ x :: xs, y < 65536) →
    parseIPv6Loop n ip none (appendHex x ++ colonHex xs ++ ':' :: ':' :: t) =
      if t = [] then
        some (ip ++ (x :: xs).flatMap groupBytes, some (ip.length + 2 * xs.length + 2), [])
      else parseIPv6Loop (n - xs.length - 1) (ip ++ (x :: xs).flatMap groupBytes)
        (some (ip.length + 2 * xs.length + 2)) t
  | [], x, n + 1, ip, t, _, hb => by
    simp [colonHex, parseIPv6Loop_ellipsis (hb x (by simp))]
  | y :: ys, x, n + 1, ip, t, hn, hb => by
    obtain ⟨k, hk, cs, hy⟩ := appendHex_eq_cons (hb y (by simp))
    have ih := parseIPv6Loop_hexJoin_ellipsis ys y n (ip ++ groupBytes x) t (by simp at hn; omega)
      (fun z hz => hb z (List.mem_cons_of_mem _ hz))
    simp only [colonHex, List.flatMap_cons, List.cons_append, List.append_assoc, hy] at ih ⊢
    have h1 : n + 1 - (ys.length + 1) - 1 = n - ys.length - 1 := by omega
    have h2 : ip.length + 2 * (ys.length + 1) + 2 =
        (ip ++ groupBytes x).length + 2 * ys.length + 2 := by
      simp [groupBytes]; omega
    rw [parseIPv6Loop_sep (hb x (by simp)) n ip none (hexDigit_ne k hk).1, ih, List.length_cons,
      h1, h2]

/-! ### The shape of `appendTo6` -/

/-- What `zeroRun` keeps: no run yet, or a run of two or more zero groups inside `g`. -/
def IsZeroRun (g : List Nat) (r : Nat × Nat) : Prop :=
  r = (255, 255) ∨
    (r.1 + 2 ≤ r.2 ∧ r.2 ≤ g.length ∧ (g.drop r.1).take (r.2 - r.1) = List.replicate (r.2 - r.1) 0)

/-- The zero groups from `i` on are a run. -/
theorem takeWhile_zero_run (g : List Nat) (i : Nat) :
    let n := ((g.drop i).takeWhile (· = 0)).length
    n ≤ g.length - i ∧ (g.drop i).take n = List.replicate n 0 := by
  intro n
  have happ := List.takeWhile_append_dropWhile (fun x => decide (x = 0)) (g.drop i)
  have hlen := congrArg List.length happ
  simp only [List.length_append, List.length_drop] at hlen
  refine ⟨by omega, ?_⟩
  rw [← happ, List.take_left' rfl, List.eq_replicate_iff]
  exact ⟨rfl, fun b hb => by simpa using List.mem_takeWhile_imp hb⟩

theorem zeroRun_isZeroRun (g : List Nat) (hg : g.length = 8) : IsZeroRun g (zeroRun g) := by
  unfold zeroRun
  suffices ∀ (l : List Nat) (r : Nat × Nat), (∀ i ∈ l, i ≤ 8) → IsZeroRun g r →
      IsZeroRun g (l.foldl (fun r i =>
        let j := i + ((g.drop i).takeWhile (· = 0)).length
        if j - i ≥ 2 ∧ j - i > r.2 - r.1 then (i, j) else r) r) from
    this _ _ (fun i hi => by simp at hi; omega) (.inl rfl)
  intro l
  induction l with
  | nil => exact fun r _ hr => hr
  | cons i l ih =>
    intro r hl hr
    apply ih _ (fun k hk => hl k (List.mem_cons_of_mem _ hk))
    dsimp only
    split_ifs with h
    · obtain ⟨hn, hrun⟩ := takeWhile_zero_run g i
      refine .inr ⟨by omega, by omega, ?_⟩
      simpa using hrun
    · exact hr

theorem drop_eq_getD_cons {g : List Nat} {i : Nat} (h : i < g.length) :
    g.drop i = g.getD i 0 :: g.drop (i + 1) := by
  rw [List.drop_eq_getElem_cons h, List.getD_eq_getElem?_getD, List.getElem?_eq_getElem h,
    Option.getD_some]

section Printer

variable {g : List Nat} (hg : g.length = 8) {zs ze : Nat}
include hg

/-- Past the zero run, the loop writes each group after a colon. -/
theorem appendTo6Loop_tail : ∀ fuel i, 0 < i → 8 ≤ fuel + i → (∀ k, i ≤ k → k < 8 → k ≠ zs) →
    appendTo6Loop g zs ze fuel i = colonHex (g.drop i)
  | 0, i, _, hf, _ => by rw [appendTo6Loop, List.drop_eq_nil_of_le (by omega)]; rfl
  | fuel + 1, i, hi, hf, hz => by
    by_cases h8 : i < 8
    · rw [appendTo6Loop, if_pos h8, if_neg (hz i le_rfl h8), if_pos hi,
        appendTo6Loop_tail fuel (i + 1) (by omega) (by omega) (fun k hk hk8 => hz k (by omega) hk8),
        drop_eq_getD_cons (by omega : i < g.length)]
      rfl
    · rw [appendTo6Loop, if_neg h8, List.drop_eq_nil_of_le (by omega)]
      rfl

/-- At the zero run, the loop writes `::` and the groups after it. -/
theorem appendTo6Loop_at (hz : zs < ze) (hze : ze ≤ 8) (fuel : Nat) (hf : 8 ≤ fuel + 1 + zs) :
    appendTo6Loop g zs ze (fuel + 1) zs = ':' :: ':' :: hexJoin (g.drop ze) := by
  rw [appendTo6Loop, if_pos (by omega), if_pos rfl]
  split_ifs with h8
  · rw [List.drop_eq_nil_of_le (by omega)]; rfl
  · rw [appendTo6Loop_tail hg fuel (ze + 1) (by omega) (by omega) (fun k hk _ => by omega),
      drop_eq_getD_cons (by omega : ze < g.length)]
    rfl

/-- Before the zero run, the loop writes each group after a colon, then `::` and the rest. -/
theorem appendTo6Loop_run (hz : zs < ze) (hze : ze ≤ 8) : ∀ fuel i, 0 < i → i ≤ zs → 8 ≤ fuel + i →
    appendTo6Loop g zs ze fuel i =
      colonHex ((g.drop i).take (zs - i)) ++ ':' :: ':' :: hexJoin (g.drop ze)
  | 0, i, _, _, hf => by omega
  | fuel + 1, i, hi, hiz, hf => by
    rcases Nat.lt_or_eq_of_le hiz with hlt | rfl
    · rw [appendTo6Loop, if_pos (by omega), if_neg (by omega), if_pos hi,
        appendTo6Loop_run hz hze fuel (i + 1) (by omega) (by omega) (by omega),
        drop_eq_getD_cons (by omega : i < g.length), show zs - i = (zs - (i + 1)) + 1 by omega,
        List.take_succ_cons]
      simp [colonHex]
    · rw [appendTo6Loop_at hg hz hze fuel hf, Nat.sub_self, List.take_zero]
      rfl

end Printer

theorem length_groups : ∀ b : List UInt8, (groups b).length = b.length / 2
  | [] => rfl
  | [_] => by simp [groups]
  | _ :: _ :: rest => by simp [groups, length_groups rest]; omega

/-- **The shape of `appendTo6`**: the hex groups joined by colons, with the zero run `zeroRun`
finds, if any, written `::`. -/
theorem appendTo6_eq (b : List UInt8) (hb : b.length = 16) :
    appendTo6 b =
      if (zeroRun (groups b)).1 < 8 then
        hexJoin ((groups b).take (zeroRun (groups b)).1) ++ ':' :: ':' ::
          hexJoin ((groups b).drop (zeroRun (groups b)).2)
      else hexJoin (groups b) := by
  have hg : (groups b).length = 8 := by rw [length_groups, hb]
  unfold appendTo6
  generalize groups b = g at hg ⊢
  have hrun := zeroRun_isZeroRun g hg
  generalize zeroRun g = r at hrun ⊢
  obtain ⟨zs, ze⟩ := r
  rcases hrun with h | ⟨h2, hle, -⟩ <;> dsimp only at *
  · obtain ⟨rfl, rfl⟩ := Prod.mk.inj h
    obtain ⟨x, xs, rfl⟩ := List.exists_cons_of_length_pos (show 0 < g.length by omega)
    rw [if_neg (by decide), appendTo6Loop, if_pos (by decide), if_neg (by decide), if_neg (by decide),
      appendTo6Loop_tail hg 7 1 (by decide) (by decide) (fun k _ hk => by omega)]
    rfl
  · rw [if_pos (by omega)]
    rcases Nat.eq_zero_or_pos zs with rfl | hzs
    · rw [appendTo6Loop_at hg (by omega) (by omega) 7 (by omega)]
      rfl
    · obtain ⟨x, xs, rfl⟩ := List.exists_cons_of_length_pos (show 0 < g.length by omega)
      obtain ⟨zs, rfl⟩ : ∃ k, zs = k + 1 := ⟨zs - 1, by omega⟩
      rw [appendTo6Loop, if_pos (by decide), if_neg (by omega), if_neg (by decide),
        appendTo6Loop_run hg (by omega) (by omega) 7 1 (by decide) (by omega) (by decide),
        List.take_succ_cons, hexJoin]
      simp only [List.nil_append, List.append_assoc]
      rfl

/-! ### Reading an address back -/

theorem toNat_toUInt8 (n : Nat) : n.toUInt8.toNat = n % 256 := rfl

/-- The bytes `parseIPv6` stores for the groups of an address are the address. -/
theorem flatMap_groupBytes_groups : ∀ b : List UInt8, b.length % 2 = 0 →
    (groups b).flatMap groupBytes = b
  | [], _ => rfl
  | [_], h => by simp at h
  | a :: c :: rest, h => by
    have ha : a.toNat < 256 := a.toNat_lt_size
    have hc : c.toNat < 256 := c.toNat_lt_size
    simp only [groups, List.flatMap_cons, groupBytes,
      flatMap_groupBytes_groups rest (by simp at h; omega), List.cons_append, List.nil_append]
    congr 2 <;> apply UInt8.toNat.inj <;> rw [toNat_toUInt8] <;> omega

theorem lt_of_mem_groups : ∀ {b : List UInt8} {y : Nat}, y ∈ groups b → y < 65536
  | a :: c :: rest, y, h => by
    have ha : a.toNat < 256 := a.toNat_lt_size
    have hc : c.toNat < 256 := c.toNat_lt_size
    rcases List.mem_cons.1 h with rfl | h
    · omega
    · exact lt_of_mem_groups h

theorem length_flatMap_groupBytes (l : List Nat) : (l.flatMap groupBytes).length = 2 * l.length := by
  induction l with
  | nil => rfl
  | cons x l ih => simp [groupBytes, ih]; omega

theorem flatMap_groupBytes_replicate (m : Nat) :
    (List.replicate m 0).flatMap groupBytes = List.replicate (2 * m) 0 := by
  induction m with
  | zero => rfl
  | succ m ih =>
    rw [List.replicate_succ, List.flatMap_cons, ih, show 2 * (m + 1) = 2 + 2 * m by omega,
      List.replicate_add]
    rfl

/-- The bytes of groups with a zero run, the run written as zero bytes. -/
theorem flatMap_groupBytes_run {g : List Nat} {zs ze : Nat} (hz : zs ≤ ze)
    (hzero : (g.drop zs).take (ze - zs) = List.replicate (ze - zs) 0) :
    g.flatMap groupBytes = (g.take zs).flatMap groupBytes ++ List.replicate (2 * (ze - zs)) 0 ++
      (g.drop ze).flatMap groupBytes := by
  conv_lhs => rw [← List.take_append_drop zs g, ← List.take_append_drop (ze - zs) (g.drop zs),
    hzero, List.drop_drop, Nat.add_sub_cancel' hz]
  simp only [List.flatMap_append, flatMap_groupBytes_replicate, List.append_assoc]

theorem parseIPv6End_full {ip : List UInt8} (h : ip.length = 16) :
    parseIPv6End (some (ip, none, [])) = some ip := by
  simp [parseIPv6End, h]

/-- A short address is filled with zeros where the `::` stood. -/
theorem parseIPv6End_split {a b : List UInt8} {e : Nat} (he : e = a.length)
    (h : a.length + b.length < 16) :
    parseIPv6End (some (a ++ b, some e, [])) =
      some (a ++ List.replicate (16 - a.length - b.length) 0 ++ b) := by
  simp only [parseIPv6End, ne_eq, not_true_eq_false, if_false, List.length_append,
    if_pos h, he, List.take_left', List.drop_left', Nat.sub_sub]

theorem parseIPv6Addr_of_ne {c : Char} {s : List Char} (hc : c ≠ ':') :
    parseIPv6Addr (c :: s) = parseIPv6End (parseIPv6Loop 8 [] none (c :: s)) := by
  unfold parseIPv6Addr
  split
  · rename_i heq; cases heq; exact absurd rfl hc
  · rename_i heq; cases heq; exact absurd rfl hc
  · rfl

theorem parseIPv6Addr_ellipsis {c : Char} {s : List Char} :
    parseIPv6Addr (':' :: ':' :: c :: s) = parseIPv6End (parseIPv6Loop 8 [] (some 0) (c :: s)) := by
  rfl

/-- Eight groups joined by single colons read back as their bytes. -/
theorem parseIPv6Addr_hexJoin {g : List Nat} (hg : g.length = 8) (hb : ∀ y ∈ g, y < 65536) :
    parseIPv6Addr (hexJoin g) = some (g.flatMap groupBytes) := by
  obtain ⟨x, xs, rfl⟩ := List.exists_cons_of_length_pos (show 0 < g.length by omega)
  obtain ⟨k, hk, cs, hx⟩ := appendHex_eq_cons (hb x (List.mem_cons_self _ _))
  rw [hexJoin, hx, List.cons_append, parseIPv6Addr_of_ne (hexDigit_ne k hk).1, ← List.cons_append,
    ← hx, parseIPv6Loop_hexJoin xs x 8 [] none (by simp at hg; omega) hb, List.nil_append,
    parseIPv6End_full (by rw [length_flatMap_groupBytes, hg])]

/-- Fewer than eight groups around a `::` read back as their bytes, with zero bytes where the
`::` stood. -/
theorem parseIPv6Addr_hexJoin_ellipsis {A B : List Nat} (hlen : A.length + B.length < 8)
    (hbA : ∀ y ∈ A, y < 65536) (hbB : ∀ y ∈ B, y < 65536) :
    parseIPv6Addr (hexJoin A ++ ':' :: ':' :: hexJoin B) =
      some (A.flatMap groupBytes ++ List.replicate (16 - (A.flatMap groupBytes).length -
        (B.flatMap groupBytes).length) 0 ++ B.flatMap groupBytes) := by
  have hlen' : (A.flatMap groupBytes).length + (B.flatMap groupBytes).length < 16 := by
    simp only [length_flatMap_groupBytes]; omega
  cases A with
  | nil =>
    cases B with
    | nil => rfl
    | cons y ys =>
      obtain ⟨k, hk, cs, hy⟩ := appendHex_eq_cons (hbB y (List.mem_cons_self _ _))
      have := parseIPv6Loop_hexJoin ys y 8 [] (some 0) (by simp at hlen; omega) hbB
      rw [hexJoin, List.nil_append, hexJoin, hy, List.cons_append, parseIPv6Addr_ellipsis,
        ← List.cons_append, ← hy, this]
      exact parseIPv6End_split rfl hlen'
  | cons x xs =>
    obtain ⟨k, hk, cs, hx⟩ := appendHex_eq_cons (hbA x (List.mem_cons_self _ _))
    have := parseIPv6Loop_hexJoin_ellipsis xs x 8 [] (hexJoin B) (by simp at hlen; omega) hbA
    rw [hexJoin, List.append_assoc, hx, List.cons_append, parseIPv6Addr_of_ne (hexDigit_ne k hk).1,
      ← List.cons_append, ← hx, ← List.append_assoc, this, List.nil_append]
    have he : ([] : List UInt8).length + 2 * xs.length + 2 =
        ((x :: xs).flatMap groupBytes).length := by
      simp only [length_flatMap_groupBytes, List.length_cons, List.length_nil]; omega
    cases B with
    | nil =>
      rw [if_pos (show hexJoin ([] : List Nat) = [] from rfl)]
      conv_lhs => rw [← List.append_nil ((x :: xs).flatMap groupBytes)]
      exact parseIPv6End_split he hlen'
    | cons y ys =>
      rw [if_neg (by simp [hexJoin, appendHex_ne_nil]), hexJoin,
        parseIPv6Loop_hexJoin ys y _ _ _ (by simp at hlen ⊢; omega) hbB]
      exact parseIPv6End_split he hlen'

/-- `parseIPv6` reads back every 16-byte address `appendTo6` prints. -/
theorem parseIPv6Addr_appendTo6 (b : List UInt8) (hb : b.length = 16) :
    parseIPv6Addr (appendTo6 b) = some b := by
  have hg : (groups b).length = 8 := by rw [length_groups, hb]
  have hbound : ∀ y ∈ groups b, y < 65536 := fun _ => lt_of_mem_groups
  conv_rhs => rw [← flatMap_groupBytes_groups b (by omega)]
  rw [appendTo6_eq b hb]
  generalize groups b = g at hg hbound
  have hrun := zeroRun_isZeroRun g hg
  generalize zeroRun g = r at hrun
  obtain ⟨zs, ze⟩ := r
  rcases hrun with h | ⟨h2, hle, hzero⟩ <;> dsimp only
  · obtain ⟨rfl, rfl⟩ := Prod.mk.inj h
    rw [if_neg (by decide), parseIPv6Addr_hexJoin hg hbound]
  · rw [if_pos (by omega), flatMap_groupBytes_run (by omega) hzero,
      parseIPv6Addr_hexJoin_ellipsis (by simp; omega)
        (fun y hy => hbound y (List.mem_of_mem_take hy))
        (fun y hy => hbound y (List.mem_of_mem_drop hy))]
    simp only [length_flatMap_groupBytes, List.length_take, List.length_drop, hg]
    congr 4
    omega

/-! ### Splitting host and port -/

theorem indexByte_eq_none {c : Char} : ∀ {s : List Char}, c ∉ s → indexByte c s = none
  | [], _ => rfl
  | d :: s, h => by
    rw [List.mem_cons, not_or] at h
    simp [indexByte, Ne.symm h.1, indexByte_eq_none h.2]

theorem indexByte_append {c : Char} {r : List Char} : ∀ {l : List Char}, c ∉ l →
    indexByte c (l ++ c :: r) = some l.length
  | [], _ => by simp [indexByte]
  | d :: l, h => by
    rw [List.mem_cons, not_or] at h
    simp [indexByte, Ne.symm h.1, indexByte_append h.2]

theorem lastIndexByte_eq_none {c : Char} : ∀ {s : List Char}, c ∉ s → lastIndexByte c s = none
  | [], _ => rfl
  | d :: s, h => by
    rw [List.mem_cons, not_or] at h
    simp [lastIndexByte, Ne.symm h.1, lastIndexByte_eq_none h.2]

theorem lastIndexByte_append {c : Char} {r : List Char} (hr : c ∉ r) : ∀ {l : List Char},
    lastIndexByte c (l ++ c :: r) = some l.length
  | [] => by simp [lastIndexByte, lastIndexByte_eq_none hr]
  | d :: l => by simp [lastIndexByte, lastIndexByte_append hr]

theorem joinHostPort_data (host port : String) :
    (joinHostPort host port).data = if ':' ∈ host.data then '[' :: (host.data ++ ']' :: ':' :: port.data)
      else host.data ++ ':' :: port.data := by
  unfold joinHostPort
  split_ifs <;> simp [String.data_append]


theorem splitHostPort_of_splitHost {hostport : String} {i j k : Nat} {host : String}
    (hi : lastIndexByte ':' hostport.data = some i) (hs : splitHost hostport.data i = .ok (host, j, k))
    (hj : '[' ∉ hostport.data.drop j) (hk : ']' ∉ hostport.data.drop k) :
    splitHostPort hostport = .ok (host, ⟨hostport.data.drop (i + 1)⟩) := by
  simp only [splitHostPort, hi, hs, hj, hk, if_false]

/-- A host `SplitHostPort` returns is cut out by `splitHost` at the last colon. -/
theorem splitHostPort_inv {hostport host port : String}
    (h : splitHostPort hostport = .ok (host, port)) :
    ∃ i j k, lastIndexByte ':' hostport.data = some i ∧ splitHost hostport.data i = .ok (host, j, k) := by
  unfold splitHostPort at h
  split at h
  · cases h
  · rename_i i _
    split at h
    · cases h
    · rename_i host' j k hs
      split_ifs at h
      cases h
      exact ⟨i, j, k, by assumption, hs⟩

/-- What `splitHost` cuts: between the brackets when the text starts with one, else up to the
last colon. -/
theorem splitHost_inv {s : List Char} {i j k : Nat} {host : String}
    (h : splitHost s i = .ok (host, j, k)) :
    (s.head? = some '[' ∧ ∃ e, indexByte ']' s = some e ∧ e + 1 = i ∧ host = ⟨(s.take e).drop 1⟩) ∨
      (s.head? ≠ some '[' ∧ host = ⟨s.take i⟩) := by
  unfold splitHost at h
  split_ifs at h with hb
  · split at h
    · cases h
    · rename_i e he
      split_ifs at h with h1 h2
      cases h
      exact .inl ⟨hb, e, he, h2, rfl⟩
  · cases h
    exact .inr ⟨hb, rfl⟩


theorem bracket_eq (host port : List Char) :
    '[' :: (host ++ ']' :: ':' :: port) = ('[' :: host ++ [']']) ++ ':' :: port := by simp

/-- Whenever `SplitHostPort` succeeds on what `JoinHostPort` joined, it gives the host back: the
port need only have no colon, the host not start with `[`. -/
theorem splitHostPort_joinHostPort_host {host port h p : String} (hh : host.data.head? ≠ some '[')
    (hp : ':' ∉ port.data) (hs : splitHostPort (joinHostPort host port) = .ok (h, p)) : h = host := by
  obtain ⟨i, j, k, hi, hsplit⟩ := splitHostPort_inv hs
  rw [joinHostPort_data] at hi hsplit
  split_ifs at hi hsplit with hc
  · rw [bracket_eq, lastIndexByte_append hp] at hi
    cases hi
    rcases splitHost_inv hsplit with ⟨-, e, -, he, rfl⟩ | ⟨hb, -⟩
    · obtain rfl : e = host.data.length + 1 := by
        simp only [List.cons_append, List.length_cons, List.length_append, List.length_singleton,
          List.length_nil] at he
        omega
      rw [List.take_succ_cons, List.take_left' rfl]
      rfl
    · simp at hb
  · rw [lastIndexByte_append hp] at hi
    cases hi
    rcases splitHost_inv hsplit with ⟨hb, -⟩ | ⟨-, rfl⟩
    · cases hd : host.data with
      | nil => rw [hd] at hb; simp at hb
      | cons c cs => rw [hd] at hb hh; simp at hb hh; exact absurd hb hh
    · simp

/-- **`SplitHostPort` undoes `JoinHostPort`** for a host and a port without brackets, the port
without colons. -/
theorem splitHostPort_joinHostPort {host port : String} (hh : '[' ∉ host.data ∧ ']' ∉ host.data)
    (hp : ':' ∉ port.data ∧ '[' ∉ port.data ∧ ']' ∉ port.data) :
    splitHostPort (joinHostPort host port) = .ok (host, port) := by
  have hd := joinHostPort_data host port
  split_ifs at hd with hc
  · have hi : lastIndexByte ':' (joinHostPort host port).data = some (host.data.length + 2) := by
      rw [hd, bracket_eq, lastIndexByte_append hp.1]; simp
    have hs : splitHost (joinHostPort host port).data (host.data.length + 2) =
        .ok (host, 1, host.data.length + 2) := by
      rw [hd, splitHost]
      simp only [List.head?_cons, if_true]
      rw [← List.cons_append, indexByte_append (by simp [hh.2])]
      simp
    have hk : ('[' :: (host.data ++ ']' :: ':' :: port.data)).drop (host.data.length + 2) =
        ':' :: port.data := by
      show List.drop (host.data.length + 1 + 1) _ = _
      rw [List.drop_succ_cons, List.drop_append]
      rfl
    have hj : '[' ∉ host.data ++ ']' :: ':' :: port.data := by simp [hh.1, hp.2.1]
    rw [splitHostPort_of_splitHost hi hs (by rw [hd]; exact hj) (by rw [hd, hk]; simp [hp.2.2]), hd,
      List.drop_succ_cons, List.drop_append]
    rfl
  · have hi : lastIndexByte ':' (joinHostPort host port).data = some host.data.length := by
      rw [hd, lastIndexByte_append hp.1]
    have hhead : (host.data ++ ':' :: port.data).head? ≠ some '[' := by
      cases h : host.data with
      | nil => simp
      | cons c cs => rw [h] at hh; simp at hh ⊢; exact Ne.symm hh.1.1
    have hs : splitHost (joinHostPort host port).data host.data.length = .ok (host, 0, 0) := by
      rw [hd, splitHost, if_neg hhead, List.take_left' rfl, if_neg hc]
    rw [splitHostPort_of_splitHost hi hs (by simp [hd, hh.1, hp.2.1]) (by simp [hd, hh.2, hp.2.2]), hd,
      List.drop_append]
    rfl

/-! ### Which texts `ParseIP` accepts -/

theorem indexByte_ne_none {c : Char} : ∀ {s : List Char}, c ∈ s → indexByte c s ≠ none
  | d :: s, h => by
    unfold indexByte
    split_ifs with hd
    · simp
    · simp only [ne_eq, Option.map_eq_none']
      exact indexByte_ne_none ((List.mem_cons.1 h).resolve_left (Ne.symm hd))

/-- The characters that pick the family in `ParseAddr`. -/
theorem family_of_isDigit {c : Char} (h : c.isDigit) : (c == '.' || c == ':' || c == '%') = false := by
  have : c ≠ '.' ∧ c ≠ ':' ∧ c ≠ '%' := by
    refine ⟨?_, ?_, ?_⟩ <;> (rintro rfl; exact absurd h (by decide))
  simp [this.1, this.2.1, this.2.2]

theorem mem_colonHex {gs : List Nat} (hb : ∀ y ∈ gs, y < 65536) {c : Char} (h : c ∈ colonHex gs) :
    c = ':' ∨ ∃ n < 16, c = hexDigit n := by
  simp only [colonHex, List.mem_flatMap, List.mem_cons] at h
  obtain ⟨x, hx, rfl | h⟩ := h
  · exact .inl rfl
  · exact .inr (mem_appendHex (hb x hx) h)

theorem mem_hexJoin {gs : List Nat} (hb : ∀ y ∈ gs, y < 65536) {c : Char} (h : c ∈ hexJoin gs) :
    c = ':' ∨ ∃ n < 16, c = hexDigit n := by
  cases gs with
  | nil => cases h
  | cons x xs =>
    rcases List.mem_append.1 h with h | h
    · exact .inr (mem_appendHex (hb x (List.mem_cons_self _ _)) h)
    · exact mem_colonHex (fun y hy => hb y (List.mem_cons_of_mem _ hy)) h

/-- `appendTo6` writes colons and hex digits, and at least one colon. -/
theorem mem_appendTo6 {b : List UInt8} (hb : b.length = 16) {c : Char} (h : c ∈ appendTo6 b) :
    c = ':' ∨ ∃ n < 16, c = hexDigit n := by
  have hbound : ∀ y ∈ groups b, y < 65536 := fun _ => lt_of_mem_groups
  rw [appendTo6_eq b hb] at h
  split_ifs at h
  · simp only [List.mem_append, List.mem_cons] at h
    rcases h with h | h | h | h
    · exact mem_hexJoin (fun y hy => hbound y (List.mem_of_mem_take hy)) h
    · exact .inl h
    · exact .inl h
    · exact mem_hexJoin (fun y hy => hbound y (List.mem_of_mem_drop hy)) h
  · exact mem_hexJoin hbound h

theorem colon_mem_appendTo6 {b : List UInt8} (hb : b.length = 16) : ':' ∈ appendTo6 b := by
  have hg : (groups b).length = 8 := by rw [length_groups, hb]
  rw [appendTo6_eq b hb]
  split_ifs
  · simp
  · obtain ⟨x, y, rest, h⟩ : ∃ x y rest, groups b = x :: y :: rest := by
      match groups b, hg with
      | x :: y :: rest, _ => exact ⟨x, y, rest, rfl⟩
    simp [h, hexJoin, colonHex]

/-- `ParseAddr` reads a text of colons and hex digits, with a colon, as IPv6. -/
theorem parseIP_of_hexText {t : List Char} (ht : ∀ c ∈ t, c = ':' ∨ ∃ n < 16, c = hexDigit n)
    (hc : ':' ∈ t) : parseIP ⟨t⟩ = parseIPv6Addr t := by
  have hfind : t.find? (fun c => c == '.' || c == ':' || c == '%') = some ':' := by
    cases hf : t.find? (fun c => c == '.' || c == ':' || c == '%') with
    | none => exact absurd (List.find?_eq_none.1 hf ':' hc) (by decide)
    | some c =>
      have hp := List.find?_some hf
      rcases ht c (List.mem_of_find?_eq_some hf) with rfl | ⟨n, hn, rfl⟩
      · rfl
      · obtain ⟨h1, h2, h3, -⟩ := hexDigit_ne n hn
        simp [h1, h2, h3] at hp
  have hz : splitZone t = some (t, []) := by
    rw [splitZone, indexByte_eq_none fun h => ?_]
    rcases ht _ h with h | ⟨n, hn, h⟩
    · exact absurd h (by decide)
    · exact (hexDigit_ne n hn).2.2.1 h.symm
  simp only [parseIP, parseAddr, hfind, parseIPv6, hz]
  cases parseIPv6Addr t <;> rfl

/-- **IPv6 round trip**: `ParseIP` reads back every 16-byte address `appendTo6` prints. -/
theorem parseIP_appendTo6 {b : List UInt8} (hb : b.length = 16) :
    parseIP ⟨appendTo6 b⟩ = some b := by
  rw [parseIP_of_hexText (fun _ => mem_appendTo6 hb) (colon_mem_appendTo6 hb),
    parseIPv6Addr_appendTo6 b hb]

theorem mem_appendDecimal {x : Nat} (hx : x < 256) {c : Char} (h : c ∈ appendDecimal x) :
    ∃ k < 10, c = Nat.digitChar k := by
  have hm : ∀ k, k % 10 < 10 := fun k => Nat.mod_lt _ (by decide)
  simp only [appendDecimal, List.mem_append, List.mem_ite_nil_right, List.mem_singleton] at h
  rcases h with (⟨-, rfl⟩ | ⟨-, rfl⟩) | rfl
  exacts [⟨_, by omega, rfl⟩, ⟨_, hm _, rfl⟩, ⟨_, hm _, rfl⟩]

/-- **IPv4 round trip**: `ParseIP` reads dotted decimal back as the 16-byte form. -/
theorem parseIP_appendTo4 (a b c d : UInt8) :
    parseIP ⟨appendTo4 [a, b, c, d]⟩ = some (v4InV6Prefix ++ [a, b, c, d]) := by
  have hfind : (appendTo4 [a, b, c, d]).find? (fun c => c == '.' || c == ':' || c == '%') = some '.' := by
    rw [appendTo4_eq, List.find?_append, List.find?_eq_none.2 fun c hc => ?_]
    · rfl
    · obtain ⟨k, hk, rfl⟩ := mem_appendDecimal a.toNat_lt_size hc
      simp [family_of_isDigit (digitChar_decimal k hk).2]
  simp only [parseIP, parseAddr, hfind, parseIPv4Fields_appendTo4, Option.map_some']


/-- One character of the field loop: a digit or a dot, after which the loop goes on. -/
theorem parseIPv4Fields_go_cons {val digLen : Nat} {fields : List UInt8} {prev : Option Char}
    {c : Char} {s : List Char} {r : List UInt8}
    (h : parseIPv4Fields.go val digLen fields prev (c :: s) = some r) :
    (c.isDigit ∨ c = '.') ∧ ∃ v n f p, parseIPv4Fields.go v n f p s = some r := by
  unfold parseIPv4Fields.go at h
  by_cases hd : c.isDigit
  · rw [if_pos hd] at h
    split_ifs at h
    exact ⟨.inl hd, _, _, _, _, h⟩
  by_cases hdot : c = '.'
  · rw [if_neg hd, if_pos hdot] at h
    split_ifs at h
    exact ⟨.inr hdot, _, _, _, _, h⟩
  · rw [if_neg hd, if_neg hdot] at h
    cases h

/-- The field loop accepts only digits and dots. -/
theorem parseIPv4Fields_go_chars : ∀ {val digLen : Nat} {fields : List UInt8} {prev : Option Char}
    {s : List Char} {r : List UInt8}, parseIPv4Fields.go val digLen fields prev s = some r →
    ∀ c ∈ s, c.isDigit ∨ c = '.'
  | _, _, _, _, [], _, _ => fun _ h => absurd h (List.not_mem_nil _)
  | _, _, _, _, c :: s, _, h => by
    obtain ⟨hc, _, _, _, _, h⟩ := parseIPv4Fields_go_cons h
    intro d hd
    rcases List.mem_cons.1 hd with rfl | hd
    exacts [hc, parseIPv4Fields_go_chars h d hd]

/-- A zone that parses is the one after the first `%`. -/
theorem parseIPv6_no_zone {input : List Char} {ip : List UInt8}
    (h : parseIPv6 input = some (ip, [])) : '%' ∉ input := by
  unfold parseIPv6 at h
  split at h
  · cases h
  · rename_i s zone hz
    obtain ⟨a, -, ha⟩ := Option.map_eq_some'.1 h
    obtain rfl : zone = [] := (Prod.mk.inj ha).2
    unfold splitZone at hz
    split at hz
    · split_ifs at hz with hd
      exact absurd (Prod.mk.inj (Option.some.inj hz)).2 hd
    · rename_i hi
      exact fun hm => indexByte_ne_none hm hi

/-- `ParseIP` accepts no text with a `%`: a zone after an IPv6 address is refused, and `%` ends
no IPv4 field. -/
theorem parseIP_no_percent {s : String} {ip : List UInt8} (h : parseIP s = some ip) :
    '%' ∉ s.data := by
  unfold parseIP at h
  split at h
  · rename_i ip' hpa
    unfold parseAddr at hpa
    split at hpa
    · obtain ⟨f, hf, -⟩ := Option.map_eq_some'.1 hpa
      intro hm
      rcases parseIPv4Fields_go_chars hf _ hm with h | h <;> exact absurd h (by decide)
    · exact parseIPv6_no_zone hpa
    · cases hpa
  · cases h

/-! ### The text of an IP -/

namespace IP

theorem length_of_to4 {ip p4 : List UInt8} (h : to4 ip = some p4) : p4.length = 4 := by
  unfold to4 at h
  split_ifs at h with h4 h16
  · cases h; exact h4
  · cases h; simp [h16.1]

theorem to4_v4InV6Prefix {p4 : List UInt8} (h : p4.length = 4) :
    to4 (v4InV6Prefix ++ p4) = some p4 := by
  have : (v4InV6Prefix ++ p4).length = 16 := by simp [v4InV6Prefix, h]
  rw [to4, if_neg (by omega), if_pos ⟨this, List.take_left' rfl⟩, List.drop_left' (by rfl)]

theorem isLoopback_of_to4 {ip p4 : List UInt8} (h : to4 ip = some p4) :
    isLoopback ip = (p4.head? == some 127) := by
  simp only [isLoopback, h]

theorem isLoopback_of_to4_none {ip : List UInt8} (h : to4 ip = none) (h16 : ip.length = 16) :
    isLoopback ip = (ip == IPv6loopback) := by
  simp only [isLoopback, h, equal, h16, show IPv6loopback.length = 16 from rfl, if_true]

theorem length_of_to4_none {ip : List UInt8} (h : to4 ip = none) (hl : ip.length = 4 ∨ ip.length = 16) :
    ip.length = 16 := by
  rcases hl with h4 | h16
  · simp [to4, h4] at h
  · exact h16

theorem string_data {ip : List UInt8} (h : ip.length = 4 ∨ ip.length = 16) :
    (string ip).data = match to4 ip with
      | some p4 => appendTo4 p4
      | none => appendTo6 ip := by
  have hne : ip ≠ [] := by rintro rfl; simp at h
  rw [string, if_neg hne, if_neg (by omega)]
  cases to4 ip <;> rfl

end IP

theorem digitChar_ne : ∀ k < 10, Nat.digitChar k ≠ '[' ∧ Nat.digitChar k ≠ ']' ∧
    Nat.digitChar k ≠ '%' ∧ Nat.digitChar k ≠ ':' := by decide

theorem mem_appendTo4 {a b c d : UInt8} {x : Char} (h : x ∈ appendTo4 [a, b, c, d]) :
    x = '.' ∨ ∃ k < 10, x = Nat.digitChar k := by
  rw [appendTo4_eq] at h
  simp only [List.mem_append, List.mem_cons] at h
  rcases h with h | h | h | h | h | h | h
  all_goals first
    | exact .inl h
    | exact .inr (mem_appendDecimal (UInt8.toNat_lt_size _) h)

theorem eq_four_of_length {p4 : List UInt8} (h : p4.length = 4) : ∃ a b c d, p4 = [a, b, c, d] := by
  match p4, h with
  | [a, b, c, d], _ => exact ⟨a, b, c, d, rfl⟩

/-- The text of an IP holds no `[`, `]` or `%`. -/
theorem not_bracket_of_mem_string {ip : List UInt8} (h : ip.length = 4 ∨ ip.length = 16) {c : Char}
    (hc : c ∈ (IP.string ip).data) : c ≠ '[' ∧ c ≠ ']' ∧ c ≠ '%' := by
  rw [IP.string_data h] at hc
  split at hc
  · rename_i p4 h4
    obtain ⟨a, b, c', d, rfl⟩ := eq_four_of_length (IP.length_of_to4 h4)
    rcases mem_appendTo4 hc with rfl | ⟨k, hk, rfl⟩
    · decide
    · exact ⟨(digitChar_ne k hk).1, (digitChar_ne k hk).2.1, (digitChar_ne k hk).2.2.1⟩
  · rename_i h4
    rcases mem_appendTo6 (IP.length_of_to4_none h4 h) hc with rfl | ⟨n, hn, rfl⟩
    · decide
    · exact ⟨(hexDigit_ne n hn).2.2.2.1, (hexDigit_ne n hn).2.2.2.2, (hexDigit_ne n hn).2.2.1⟩


/-- Fewer than eight groups and no `::` make no address. -/
theorem parseIP_hexJoin_short {gs : List Nat} (hb : ∀ y ∈ gs, y < 65536) (h0 : gs ≠ [])
    (h8 : gs.length < 8) : parseIP ⟨hexJoin gs⟩ = none := by
  obtain ⟨x, xs, rfl⟩ := List.exists_cons_of_ne_nil h0
  obtain ⟨k, hk, cs, hx⟩ := appendHex_eq_cons (hb x (List.mem_cons_self _ _))
  cases xs with
  | nil =>
    have hfind : (hexJoin [x]).find? (fun c => c == '.' || c == ':' || c == '%') = none := by
      refine List.find?_eq_none.2 fun c hc => ?_
      have hc' : c ∈ appendHex x := by simpa [hexJoin, colonHex] using hc
      obtain ⟨n, hn, rfl⟩ := mem_appendHex (hb x (by simp)) hc'
      obtain ⟨h1, h2, h3, -⟩ := hexDigit_ne n hn
      simp [h1, h2, h3]
    simp only [parseIP, parseAddr, hfind]
  | cons y ys =>
    rw [parseIP_of_hexText (fun c => mem_hexJoin hb) (by simp [hexJoin, colonHex]), hexJoin, hx,
      List.cons_append, parseIPv6Addr_of_ne (hexDigit_ne k hk).1, ← List.cons_append, ← hx,
      parseIPv6Loop_hexJoin (y :: ys) x 8 [] none (by simp at h8 ⊢; omega) hb]
    simp only [parseIPv6End, List.nil_append, length_flatMap_groupBytes, ne_eq, not_true_eq_false,
      if_false, show 2 * (x :: y :: ys).length < 16 by simp at h8 ⊢; omega, if_true]

/-- Groups whose text starts with `ffff:` start with `0xffff` and go on after it. -/
theorem hexJoin_ffff {B : List Nat} (hb : ∀ y ∈ B, y < 65536)
    (h : "ffff:".data.isPrefixOf (hexJoin B) = true) :
    ∃ gs, B = 65535 :: gs ∧ gs ≠ [] ∧ (hexJoin B).drop 5 = hexJoin gs := by
  obtain ⟨t, ht⟩ := List.isPrefixOf_iff_prefix.1 h
  match B, hb, ht with
  | [], _, ht => simp [hexJoin] at ht
  | [y], hb, ht =>
    have hmem : ':' ∈ appendHex y := by
      rw [show hexJoin [y] = appendHex y by simp [hexJoin, colonHex]] at ht
      rw [← ht]; simp
    obtain ⟨n, hn, h⟩ := mem_appendHex (hb y (by simp)) hmem
    exact absurd h.symm (hexDigit_ne n hn).1
  | y :: z :: zs, hb, ht =>
    have hsplit : hexJoin (y :: z :: zs) = appendHex y ++ ':' :: hexJoin (z :: zs) := by
      simp [hexJoin, colonHex]
    have hr := readHex_appendHex (hb y (by simp)) (':' :: hexJoin (z :: zs)) (by simp; decide)
    rw [← hsplit, ← ht] at hr
    have hf : readHex 0 0 ("ffff:".data ++ t) = some (65535, 4, ':' :: t) := rfl
    rw [hf] at hr
    obtain ⟨hy, hl, -⟩ := Prod.mk.inj_iff.1 (Option.some.inj hr) |>.imp id Prod.mk.inj_iff.1
    subst hy
    refine ⟨z :: zs, rfl, List.cons_ne_nil _ _, ?_⟩
    rw [hsplit, show 5 = 4 + 1 from rfl, ← List.drop_drop, List.drop_left' hl.symm]
    rfl


/-- **The only texts `TrimPrefix` of `::ffff:` changes**: `appendTo6` starts with `::ffff:` only
when its zero run opens the text and a `0xffff` group and more follow it; what is left after the
prefix is then fewer than eight groups without `::`, and the address is not `::1`. -/
theorem appendTo6_ffff {b : List UInt8} (hb : b.length = 16)
    (h : "::ffff:".data.isPrefixOf (appendTo6 b) = true) :
    ∃ gs, (appendTo6 b).drop 7 = hexJoin gs ∧ gs ≠ [] ∧ gs.length < 8 ∧ (∀ y ∈ gs, y < 65536) ∧
      b ≠ IPv6loopback := by
  have hg : (groups b).length = 8 := by rw [length_groups, hb]
  have hbound : ∀ y ∈ groups b, y < 65536 := fun _ => lt_of_mem_groups
  have hne : b = IPv6loopback → 65535 ∉ groups b := by rintro rfl; decide
  rw [appendTo6_eq b hb] at h ⊢
  generalize groups b = g at hg hbound hne h ⊢
  have hrun := zeroRun_isZeroRun g hg
  generalize zeroRun g = r at hrun h ⊢
  obtain ⟨zs, ze⟩ := r
  have hhex : ∀ x ∈ g, ∀ t r, (':' :: t).isPrefixOf (appendHex x ++ r) = false := fun x hx t r => by
    obtain ⟨k, hk, cs, hx'⟩ := appendHex_eq_cons (hbound x hx)
    rw [hx', List.cons_append, List.isPrefixOf_cons₂]
    simp [Ne.symm (hexDigit_ne k hk).1]
  obtain ⟨x, xs, rfl⟩ := List.exists_cons_of_length_pos (show 0 < g.length by omega)
  rcases hrun with hr | ⟨h2, hle, -⟩ <;> dsimp only at h ⊢
  · obtain ⟨rfl, rfl⟩ := Prod.mk.inj hr
    rw [if_neg (by decide), hexJoin, hhex x (by simp)] at h
    cases h
  · rw [if_pos (by omega)] at h ⊢
    rcases Nat.eq_zero_or_pos zs with rfl | hzs
    · have hB : ∀ y ∈ (x :: xs).drop ze, y < 65536 := fun y hy => hbound y (List.mem_of_mem_drop hy)
      rw [List.take_zero, hexJoin, List.nil_append] at h ⊢
      simp only [List.isPrefixOf_cons₂, beq_self_eq_true, Bool.true_and] at h
      obtain ⟨gs, hgs, hne', hdrop⟩ := hexJoin_ffff hB h
      have hlen := congrArg List.length hgs
      simp only [List.length_drop, List.length_cons] at hlen hg
      refine ⟨gs, by simpa using hdrop, hne', by omega, fun y hy => hB y (hgs ▸ List.mem_cons_of_mem _ hy),
        fun hl => hne hl (List.mem_of_mem_drop (hgs ▸ List.mem_cons_self _ _))⟩
    · rw [show zs = (zs - 1) + 1 by omega, List.take_succ_cons, hexJoin, List.append_assoc,
        hhex x (by simp)] at h
      cases h

/-! ### `TrimPrefix` -/

theorem trimPrefix_of_not {s pre : List Char} (h : pre.isPrefixOf s = false) : trimPrefix s pre = s := by
  rw [trimPrefix, if_neg (by simp [h])]

/-- `TrimPrefix` keeps a character the prefix does not have. -/
theorem mem_trimPrefix {s pre : List Char} {c : Char} (hc : c ∈ s) (hp : c ∉ pre) :
    c ∈ trimPrefix s pre := by
  unfold trimPrefix
  split_ifs with h
  · obtain ⟨t, rfl⟩ := List.isPrefixOf_iff_prefix.1 h
    rw [List.drop_left]
    exact (List.mem_append.1 hc).resolve_left hp
  · exact hc

end Net
end GoClaw
