import GoClaw.Json.Syntax
import GoClaw.Text.Decimal

namespace GoClaw

namespace Json

/-!
# Go's `encoding/json` — values and how they are printed

A JSON value as `json.Marshal` writes it, token by token.  `Value` keeps each string literal
as the pieces of its body (`Atom`: a character, a one-letter escape or a `\u` escape) and each
number as its literal, so that every text a `MarshalJSON` method may return is, once compacted,
the printing of one `Value`.

* `Value.print` writes a value in a `Layout`: `Layout.compact` is `json.Marshal`'s, and
  `Layout.indented` is `json.MarshalIndent(v, "", "  ")`'s (`Indent` puts each member and
  element on a line of its own indented by its depth, a space after each colon, and keeps
  empty arrays and objects as `[]` and `{}`).
* `stringValue` is `appendString` with `escapeHTML`, and `intValue` is `strconv.AppendInt`.
* `readString_stringValue`: a printed Go string reads back as itself.
* `scanValue_print`: the scanner passes over a printed value exactly, in any layout and after
  any white space, when its depth fits under `maxNestingDepth`; `scanValue_print_deep`: it
  stops on one nested deeper than that.  So `checkValid` accepts a printed value exactly when
  its depth fits (`checkValid_print`, `checkValid_print_deep`).
* `compact_print`: `Compact` leaves the compact printing of an HTML-safe value as it is, and
  `htmlSafe_escapeHTML` says `escapeHTML` makes any value so.
-/

/-! ### String literals -/

/-- The letters of the one-letter escapes. -/
def shortEscapes : List Char := ['"', '\\', '/', 'b', 'f', 'n', 'r', 't']

/-- The hex digits, either case. -/
def hexChars : List Char := "0123456789abcdefABCDEF".data

theorem escapeOf_isSome : ∀ c ∈ shortEscapes, (escapeOf c).isSome := by decide

theorem hexVal_isSome : ∀ c ∈ hexChars, (hexVal c).isSome := by decide

/-- One piece of a string literal's body as the text has it. -/
inductive Atom where
  /-- A character standing for itself: no control character, quote or backslash. -/
  | plain (c : Char) (h : 0x20 ≤ c.toNat ∧ c ≠ '"' ∧ c ≠ '\\')
  /-- A one-letter escape: `\"`, `\\`, `\/`, `\b`, `\f`, `\n`, `\r` or `\t`. -/
  | short (c : Char) (h : c ∈ shortEscapes)
  /-- A `\u` escape with its four hex digits. -/
  | unicode (a b c d : Char) (h : a ∈ hexChars ∧ b ∈ hexChars ∧ c ∈ hexChars ∧ d ∈ hexChars)

/-- The code unit four hex digits stand for. -/
def hexNat (a b c d : Char) : Nat :=
  (((hexVal a).getD 0 * 16 + (hexVal b).getD 0) * 16 + (hexVal c).getD 0) * 16 + (hexVal d).getD 0

namespace Atom

/-- The atom's characters. -/
def text : Atom → List Char
  | plain c _ => [c]
  | short c _ => ['\\', c]
  | unicode a b c d _ => ['\\', 'u', a, b, c, d]

/-- What `unquoteBytes` makes of an atom after a pending high surrogate `p`. -/
def step (p : Option Nat) : Atom → List Char × Option Nat
  | plain c _ => (flushPending p ++ [c], none)
  | short c _ => (flushPending p ++ [(escapeOf c).getD c], none)
  | unicode a b c d _ => decodeUnit p (hexNat a b c d)

end Atom

/-- The body of a string literal. -/
def body (atoms : List Atom) : List Char := atoms.flatMap Atom.text

/-- A string literal with its quotes. -/
def quoted (atoms : List Atom) : List Char := '"' :: (body atoms ++ ['"'])

/-- The characters a body decodes to after a pending high surrogate `p`. -/
def decodeAtoms : Option Nat → List Atom → List Char
  | p, [] => flushPending p
  | p, a :: as => (a.step p).1 ++ decodeAtoms (a.step p).2 as

@[simp] theorem body_nil : body [] = [] := rfl

@[simp] theorem body_cons (a : Atom) (as : List Atom) : body (a :: as) = a.text ++ body as := rfl

@[simp] theorem prependDecoded_ok (cs out rest : List Char) :
    prependDecoded cs (.ok (out, rest)) = .ok (cs ++ out, rest) := rfl

theorem hex4_eq {a b c d : Char} (h : a ∈ hexChars ∧ b ∈ hexChars ∧ c ∈ hexChars ∧ d ∈ hexChars) :
    hex4 a b c d = .ok (hexNat a b c d) := by
  obtain ⟨ha, hb, hc, hd⟩ := h
  obtain ⟨w, hw⟩ := Option.isSome_iff_exists.1 (hexVal_isSome a ha)
  obtain ⟨x, hx⟩ := Option.isSome_iff_exists.1 (hexVal_isSome b hb)
  obtain ⟨y, hy⟩ := Option.isSome_iff_exists.1 (hexVal_isSome c hc)
  obtain ⟨z, hz⟩ := Option.isSome_iff_exists.1 (hexVal_isSome d hd)
  simp [hex4, hexNat, hw, hx, hy, hz]

/-- The decoder takes one atom at a time. -/
theorem readStringFrom_atom (p : Option Nat) (a : Atom) (rest : List Char) :
    readStringFrom p (a.text ++ rest) =
      prependDecoded (a.step p).1 (readStringFrom (a.step p).2 rest) := by
  cases a with
  | plain c h =>
    obtain ⟨h₁, h₂, h₃⟩ := h
    simp only [Atom.text, Atom.step, List.singleton_append]
    rw [readStringFrom, if_neg (by omega)]
    all_goals intros; simp_all
  | short c h =>
    obtain ⟨e, he⟩ := Option.isSome_iff_exists.1 (escapeOf_isSome c h)
    have hu : c ≠ 'u' := by rintro rfl; exact absurd h (by decide)
    simp only [Atom.text, Atom.step, List.cons_append, List.nil_append, he, Option.getD_some]
    rw [readStringFrom, he]
    all_goals intros; simp_all
  | unicode a b c d h =>
    simp only [Atom.text, Atom.step, List.cons_append, List.nil_append]
    rw [readStringFrom, hex4_eq h]

/-- A body and its closing quote decode to `decodeAtoms`, leaving what follows. -/
theorem readStringFrom_body (p : Option Nat) (as : List Atom) (rest : List Char) :
    readStringFrom p (body as ++ '"' :: rest) = .ok (decodeAtoms p as, rest) := by
  induction as generalizing p with
  | nil => simp [decodeAtoms, readStringFrom]
  | cons a as ih =>
    rw [body_cons, List.append_assoc, readStringFrom_atom, ih]
    rfl

/-! ### Go's strings -/

theorem hexVal_hexDigit : ∀ n < 16, hexVal (hexDigit n) = some n := by decide

theorem hexDigit_mem : ∀ n < 16, hexDigit n ∈ hexChars := by decide

theorem hexDigit_mod_mem (n : Nat) : hexDigit (n % 16) ∈ hexChars :=
  hexDigit_mem _ (Nat.mod_lt _ (by decide))

/-- The `\u00XX` escape `appendString` writes for a byte below `0x80`. -/
def byteEscape (n : Nat) : Atom :=
  .unicode '0' '0' (hexDigit (n / 16 % 16)) (hexDigit (n % 16))
    ⟨by decide, by decide, hexDigit_mod_mem _, hexDigit_mod_mem _⟩

/-- The atoms `appendString` writes for a character, with `escapeHTML`: `\"`, `\\`, `\n`, `\r`
and `\t`; `\u00XX` for the other control characters and for `<`, `>` and `&`; ` ` and
` ` for the line and paragraph separators; anything else as it is. -/
def quoteAtoms (c : Char) : List Atom :=
  if h₁ : c = '"' then [.short '"' (by decide)]
  else if h₂ : c = '\\' then [.short '\\' (by decide)]
  else if c = '\n' then [.short 'n' (by decide)]
  else if c = '\r' then [.short 'r' (by decide)]
  else if c = '\t' then [.short 't' (by decide)]
  else if h₃ : c.toNat < 0x20 ∨ c = '<' ∨ c = '>' ∨ c = '&' then [byteEscape c.toNat]
  else if c.toNat = 0x2028 ∨ c.toNat = 0x2029 then
    [.unicode '2' '0' '2' (hexDigit (c.toNat % 16)) ⟨by decide, by decide, by decide, hexDigit_mod_mem _⟩]
  else [.plain c ⟨Nat.le_of_not_lt (not_or.1 h₃).1, h₁, h₂⟩]

/-- Each character of a Go string decodes back from its atoms. -/
theorem decodeAtoms_quoteAtoms (c : Char) (as : List Atom) :
    decodeAtoms none (quoteAtoms c ++ as) = c :: decodeAtoms none as := by
  have hx : ∀ n < 16, (hexVal (hexDigit n)).getD 0 = n := fun n hn => by
    rw [hexVal_hexDigit n hn]; rfl
  have hofNat : Char.ofNat c.toNat = c := Char.ofNat_toNat c
  -- the one-letter escapes evaluate outright
  by_cases h₁ : c = '"'
  · subst h₁; rfl
  by_cases h₂ : c = '\\'
  · subst h₂; rfl
  by_cases h₃ : c = '\n'
  · subst h₃; rfl
  by_cases h₄ : c = '\r'
  · subst h₄; rfl
  by_cases h₅ : c = '\t'
  · subst h₅; rfl
  rw [quoteAtoms, dif_neg h₁, dif_neg h₂, if_neg h₃, if_neg h₄, if_neg h₅]
  split
  next h₆ =>
    have hc : c.toNat < 0x80 := by
      rcases h₆ with h | rfl | rfl | rfl <;> first | omega | decide
    have hn : hexNat '0' '0' (hexDigit (c.toNat / 16 % 16)) (hexDigit (c.toNat % 16)) = c.toNat := by
      have h0 : (hexVal '0').getD 0 = 0 := rfl
      simp only [hexNat, hx _ (Nat.mod_lt _ (by decide)), h0]
      omega
    simp only [List.singleton_append, decodeAtoms, Atom.step, byteEscape, hn, decodeUnit, unitChars,
      hofNat]
    rw [if_neg (by omega), if_neg (by omega)]
    rfl
  split
  next h₇ =>
    have hn : hexNat '2' '0' '2' (hexDigit (c.toNat % 16)) = c.toNat := by
      simp only [hexNat, hx _ (Nat.mod_lt _ (by decide))]
      rcases h₇ with h | h <;> simp [hexVal, h]
    simp only [List.singleton_append, decodeAtoms, Atom.step, hn, decodeUnit, unitChars, hofNat]
    rw [if_neg (by omega), if_neg (by omega)]
    rfl
  rfl

/-- `appendString` of a Go string, with `escapeHTML`, as atoms. -/
def stringAtoms (s : String) : List Atom := s.data.flatMap quoteAtoms

/-- A Go string reads back as itself. -/
theorem decodeAtoms_stringAtoms (s : String) : decodeAtoms none (stringAtoms s) = s.data := by
  unfold stringAtoms
  induction s.data with
  | nil => rfl
  | cons c cs ih => rw [List.flatMap_cons, decodeAtoms_quoteAtoms, ih]

/-! ### Numbers -/

/-- The characters that go on with a number literal where it could end. -/
def continuesNumber (c : Char) : Bool := c.isDigit || c == '.' || c == 'e' || c == 'E'

/-- What follows a value: its head, if any, does not go on with a number literal. -/
def NumberEnds (rest : List Char) : Prop := ∀ c ∈ rest.head?, continuesNumber c = false

/-- The characters a number literal is made of. -/
def numberChar (c : Char) : Bool := c.isDigit || c == '-' || c == '+' || c == '.' || c == 'e' || c == 'E'

/-- A number literal: a minus sign or a digit first, number characters only, and the scanner's
number states take all of it. -/
def isNumber (lit : List Char) : Bool :=
  match lit with
  | c :: _ => (c == '-' || c.isDigit) && lit.all numberChar && (scanNumber lit).toOption == some []
  | [] => false

theorem skipDigits_append (cs rest : List Char) (h : skipDigits cs = [] → NumberEnds rest) :
    skipDigits (cs ++ rest) = skipDigits cs ++ rest := by
  induction cs with
  | nil =>
    cases rest with
    | nil => rfl
    | cons c rest =>
      have hc := h rfl c rfl
      simp only [continuesNumber, Bool.or_eq_false_iff] at hc
      simp [skipDigits, hc.1.1.1]
  | cons c cs ih =>
    by_cases hc : c.isDigit
    · simp only [skipDigits, hc, if_true] at h ⊢; exact ih h
    · simp [skipDigits, hc]

/-- A scanner state's result grows by whatever follows, as long as it does not go on with the
number. -/
def Extends (F : List Char → Except JsonError (List Char)) : Prop :=
  ∀ cs out rest, F cs = .ok out → (out = [] → NumberEnds rest) → F (cs ++ rest) = .ok (out ++ rest)

theorem digitsAfter_extends (ctx : String) : Extends (digitsAfter ctx) := by
  rintro (_ | ⟨c, cs⟩) out rest h hrest
  · simp [digitsAfter] at h
  · by_cases hc : c.isDigit
    · simp only [digitsAfter, hc, if_true, Except.ok.injEq, List.cons_append] at h ⊢
      subst h
      rw [skipDigits_append cs rest hrest]
    · simp [digitsAfter, hc] at h

theorem scanExponent_extends : Extends scanExponent := by
  rintro (_ | ⟨c, cs⟩) out rest h hrest
  · simp [scanExponent, dropSign, digitsAfter] at h
  · have hd : dropSign (c :: cs ++ rest) = dropSign (c :: cs) ++ rest := by
      simp only [List.cons_append, dropSign]; split_ifs <;> rfl
    simp only [scanExponent] at h ⊢
    rw [hd]
    exact digitsAfter_extends _ _ out rest h hrest

theorem scanExponentPart_extends : Extends scanExponentPart := by
  rintro (_ | ⟨c, cs⟩) out rest h hrest
  · simp only [scanExponentPart, Except.ok.injEq] at h
    subst h
    rcases rest with _ | ⟨c, rest⟩
    · rfl
    · have hc := hrest rfl c rfl
      simp only [continuesNumber, Bool.or_eq_false_iff, beq_eq_false_iff_ne] at hc
      simp [scanExponentPart, hc]
  · simp only [scanExponentPart, List.cons_append] at h ⊢
    split_ifs at h ⊢
    · exact scanExponent_extends cs out rest h hrest
    · simp only [Except.ok.injEq] at h ⊢
      rw [← h]; rfl

/-- Where a number may end, its fraction and exponent states stop at once. -/
theorem scanFraction_of_numberEnds {rest : List Char} (hrest : NumberEnds rest) :
    scanFraction rest = .ok rest := by
  rcases rest with _ | ⟨c, rest⟩
  · rfl
  · have hc := hrest c rfl
    simp only [continuesNumber, Bool.or_eq_false_iff, beq_eq_false_iff_ne] at hc
    simp [scanFraction, scanExponentPart, hc]

theorem scanFraction_extends : Extends scanFraction := by
  rintro (_ | ⟨c, cs⟩) out rest h hrest
  · simp only [scanFraction, scanExponentPart, Except.ok.injEq] at h
    subst h
    exact scanFraction_of_numberEnds (hrest rfl)
  · simp only [scanFraction, List.cons_append] at h ⊢
    split_ifs at h ⊢
    · cases hm : digitsAfter "after decimal point in numeric literal" cs with
      | error e => simp [hm, Except.bind] at h
      | ok m =>
        simp only [hm, Except.bind] at h
        have hmr : m = [] → NumberEnds rest := fun hm0 => by
          subst hm0; simp only [scanExponentPart, Except.ok.injEq] at h; exact hrest h.symm
        rw [digitsAfter_extends _ cs m rest hm hmr]
        exact scanExponentPart_extends m out rest h hrest
    · exact scanExponentPart_extends (c :: cs) out rest h hrest

theorem scanMagnitude_extends : Extends scanMagnitude := by
  rintro (_ | ⟨c, cs⟩) out rest h hrest
  · simp [scanMagnitude] at h
  · simp only [scanMagnitude, List.cons_append] at h ⊢
    split_ifs at h ⊢
    · exact scanFraction_extends cs out rest h hrest
    · have hs : skipDigits cs = [] → NumberEnds rest := fun hs => by
        rw [hs] at h; simp only [scanFraction, scanExponentPart, Except.ok.injEq] at h
        exact hrest h.symm
      rw [skipDigits_append cs rest hs]
      exact scanFraction_extends _ out rest h hrest

theorem scanNumber_extends : Extends scanNumber := by
  rintro (_ | ⟨c, cs⟩) out rest h hrest
  · simp [scanNumber, scanMagnitude] at h
  · simp only [scanNumber, List.cons_append] at h ⊢
    split_ifs at h ⊢
    · exact scanMagnitude_extends cs out rest h hrest
    · exact scanMagnitude_extends (c :: cs) out rest h hrest

/-- The scanner takes a number literal and stops where it ends. -/
theorem scanNumber_lit {lit : List Char} (h : isNumber lit = true) (rest : List Char)
    (hrest : NumberEnds rest) : scanNumber (lit ++ rest) = .ok rest := by
  match lit, h with
  | c :: cs, h =>
    simp only [isNumber, Bool.and_eq_true, beq_iff_eq] at h
    have hs : scanNumber (c :: cs) = .ok [] := by
      cases hs : scanNumber (c :: cs) <;> simp_all [Except.toOption]
    exact scanNumber_extends _ [] rest hs fun _ => hrest

theorem skipDigits_of_digits : ∀ cs : List Char, (∀ c ∈ cs, c.isDigit) → skipDigits cs = []
  | [], _ => rfl
  | c :: cs, h => by
    simp only [List.forall_mem_cons] at h
    simp [skipDigits, h.1, skipDigits_of_digits cs h.2]

/-- The digits of a natural number: a digit first, and no `0` first unless it is the only one. -/
theorem toDigits_cons (n : Nat) :
    ∃ c cs, Nat.toDigits 10 n = c :: cs ∧ c.isDigit ∧ (c = '0' → cs = []) := by
  rcases Nat.eq_zero_or_pos n with rfl | hn
  · exact ⟨'0', [], rfl, rfl, fun _ => rfl⟩
  · obtain ⟨c, cs, hcs, hc0⟩ := toDigitsCore_head_ne_zero _ n [] hn (Nat.lt_succ_self n)
    refine ⟨c, cs, hcs, @isDigit_of_mem_toDigits n c ?_, fun h => absurd h hc0⟩
    change c ∈ Nat.toDigitsCore 10 (n + 1) n []
    rw [hcs]
    exact List.mem_cons_self c cs

/-- The digits of a natural number are a number literal's magnitude. -/
theorem scanMagnitude_toDigits (n : Nat) : scanMagnitude (Nat.toDigits 10 n) = .ok [] := by
  obtain ⟨c, cs, hcs, hc, hc0⟩ := toDigits_cons n
  have hdig : ∀ d ∈ cs, d.isDigit := fun d hd => isDigit_of_mem_toDigits (hcs ▸ List.mem_cons_of_mem c hd)
  rw [hcs, scanMagnitude]
  by_cases h0 : c = '0'
  · rw [if_pos h0, hc0 h0]; rfl
  · rw [if_neg h0, if_pos hc, skipDigits_of_digits cs hdig]; rfl

/-- `strconv.AppendInt` writes a number literal. -/
theorem isNumber_toString (i : Int) : isNumber (toString i).data = true := by
  have hnum : ∀ n, (Nat.toDigits 10 n).all numberChar = true := fun n => by
    simp only [List.all_eq_true, numberChar]
    intro c hc
    simp [isDigit_of_mem_toDigits hc]
  cases i with
  | ofNat n =>
    obtain ⟨c, cs, hcs, hc, -⟩ := toDigits_cons n
    have hm := scanMagnitude_toDigits n
    have hall := hnum n
    have hne : c ≠ '-' := by rintro rfl; exact absurd hc (by decide)
    rw [hcs] at hm hall
    rw [toString_ofNat_data, hcs]
    simp only [isNumber, scanNumber, if_neg hne, hm, hall, hc, Bool.or_true, Bool.true_and]
    rfl
  | negSucc n =>
    rw [toString_negSucc_data]
    simp only [isNumber, scanNumber, if_pos, scanMagnitude_toDigits, List.all_cons, hnum]
    rfl

/-! ### Values -/

/-- A JSON value as `json.Marshal` writes it. -/
inductive Value where
  | null
  | bool (b : Bool)
  | number (lit : List Char) (h : isNumber lit = true)
  | string (atoms : List Atom)
  | array (items : List Value)
  | object (members : List (List Atom × Value))

/-- `appendString` with `escapeHTML`: a Go string. -/
def stringValue (s : String) : Value := .string (stringAtoms s)

/-- `strconv.AppendInt(b, i, 10)`: a Go integer. -/
def intValue (i : Int) : Value := .number (toString i).data (isNumber_toString i)

mutual

/-- How many arrays and objects the deepest part of a value sits in, its own included. -/
def Value.depth : Value → Nat
  | .array items => itemsDepth items + 1
  | .object members => membersDepth members + 1
  | _ => 0

/-- The depth of the deepest item. -/
def itemsDepth : List Value → Nat
  | [] => 0
  | v :: vs => max v.depth (itemsDepth vs)

/-- The depth of the deepest member. -/
def membersDepth : List (List Atom × Value) → Nat
  | [] => 0
  | (_, v) :: ms => max v.depth (membersDepth ms)

end

@[simp] theorem depth_bool (b : Bool) : (Value.bool b).depth = 0 := rfl

/-- Where a printer puts white space: `newline d` before each element or member at depth `d`
and before the closing bracket of a container at depth `d`, and `colon` after each colon. -/
structure Layout where
  newline : Nat → List Char
  colon : List Char
  newline_space : ∀ d, ∀ c ∈ newline d, isSpace c = true
  colon_space : ∀ c ∈ colon, isSpace c = true

/-- `json.Marshal`'s layout: no white space. -/
def Layout.compact : Layout := ⟨fun _ => [], [], by simp, by simp⟩

/-- `json.MarshalIndent(v, "", "  ")`'s layout: `appendNewline` writes a line feed and two
spaces a level. -/
def Layout.indented : Layout :=
  ⟨fun d => '\n' :: List.replicate (2 * d) ' ', [' '],
    fun d c hc => by
      rcases List.mem_cons.1 hc with rfl | hc
      · rfl
      · rw [List.eq_of_mem_replicate hc]; rfl,
    fun c hc => by rw [List.mem_singleton.1 hc]; rfl⟩

mutual

/-- A value printed at depth `d` in the layout `L`. -/
def Value.print (L : Layout) (d : Nat) : Value → List Char
  | .null => "null".data
  | .bool true => "true".data
  | .bool false => "false".data
  | .number lit _ => lit
  | .string atoms => quoted atoms
  | .array [] => ['[', ']']
  | .array (v :: vs) =>
    '[' :: (L.newline (d + 1) ++ (v.print L (d + 1) ++ (printItems L (d + 1) vs ++
      (L.newline d ++ [']']))))
  | .object [] => ['{', '}']
  | .object ((k, v) :: ms) =>
    '{' :: (L.newline (d + 1) ++ (quoted k ++ ':' :: (L.colon ++ (v.print L (d + 1) ++
      (printMembers L (d + 1) ms ++ (L.newline d ++ ['}']))))))

/-- The items after the first, each after a comma. -/
def printItems (L : Layout) (d : Nat) : List Value → List Char
  | [] => []
  | v :: vs => ',' :: (L.newline d ++ (v.print L d ++ printItems L d vs))

/-- The members after the first, each after a comma. -/
def printMembers (L : Layout) (d : Nat) : List (List Atom × Value) → List Char
  | [] => []
  | (k, v) :: ms =>
    ',' :: (L.newline d ++ (quoted k ++ ':' :: (L.colon ++ (v.print L d ++ printMembers L d ms))))

end

/-! ### The scanner over printed values -/

/-- White space only. -/
def AllSpace (cs : List Char) : Prop := ∀ c ∈ cs, isSpace c = true

theorem skipSpace_append {pre : List Char} (h : AllSpace pre) (cs : List Char) :
    skipSpace (pre ++ cs) = skipSpace cs := by
  induction pre with
  | nil => rfl
  | cons c pre ih =>
    simp only [AllSpace, List.forall_mem_cons] at h
    simp only [List.cons_append, skipSpace, h.1, if_true]
    exact ih h.2

theorem scanValue_space {pre : List Char} (h : AllSpace pre) (fuel d : Nat) (cs : List Char) :
    scanValue fuel d (pre ++ cs) = scanValue fuel d cs := by
  cases fuel <;> simp only [scanValue, skipSpace_append h]

theorem scanValue_number {c : Char} (hc : (c == '-' || c.isDigit) = true) (f d : Nat) (cs : List Char) :
    scanValue (f + 1) d (c :: cs) = scanNumber (c :: cs) := by
  have hs : isSpace c = false := by
    cases h : isSpace c
    · rfl
    · simp only [isSpace, Bool.or_eq_true, beq_iff_eq] at h
      rcases h with ((rfl | rfl) | rfl) | rfl <;> exact absurd hc (by decide)
  rw [scanValue]
  simp only [skipSpace, hs, Bool.false_eq_true, if_false]
  split
  all_goals first
    | (rename_i h; obtain ⟨rfl, -⟩ := List.cons.inj h; exact absurd hc (by decide))
    | (rename_i h; obtain ⟨rfl, rfl⟩ := List.cons.inj h
       rw [if_pos (by simpa [Bool.or_eq_true, beq_iff_eq] using hc)])
    | (rename_i h; exact absurd h (List.cons_ne_nil _ _))

theorem skipSpace_cons {c : Char} (h : isSpace c = false) (cs : List Char) :
    skipSpace (c :: cs) = c :: cs := by
  simp [skipSpace, h]

theorem isSpace_of_startsNumber {c : Char} (hc : (c == '-' || c.isDigit) = true) : isSpace c = false := by
  cases h : isSpace c
  · rfl
  · simp only [isSpace, Bool.or_eq_true, beq_iff_eq] at h
    rcases h with ((rfl | rfl) | rfl) | rfl <;> exact absurd hc (by decide)

/-- Every printed value starts with a character that is no white space and closes nothing. -/
theorem print_cons (L : Layout) (k : Nat) (v : Value) :
    ∃ c cs, v.print L k = c :: cs ∧ isSpace c = false ∧ c ≠ ']' ∧ c ≠ '}' := by
  cases v with
  | number lit h =>
    match lit, h with
    | c :: cs, h =>
      simp only [isNumber, Bool.and_eq_true] at h
      have hs := isSpace_of_startsNumber h.1.1
      refine ⟨c, cs, rfl, hs, ?_, ?_⟩ <;> (rintro rfl; exact absurd h.1.1 (by decide))
  | bool b => cases b <;> exact ⟨_, _, rfl, rfl, by decide, by decide⟩
  | array items => cases items <;> exact ⟨_, _, rfl, rfl, by decide, by decide⟩
  | object ms =>
    rcases ms with _ | ⟨⟨k, v⟩, ms⟩ <;> exact ⟨_, _, rfl, rfl, by decide, by decide⟩
  | _ => exact ⟨_, _, rfl, rfl, by decide, by decide⟩

theorem print_length_pos (L : Layout) (k : Nat) (v : Value) : 0 < (v.print L k).length := by
  obtain ⟨c, cs, h, -⟩ := print_cons L k v
  simp [h]

theorem scanValue_array {L : Layout} {k f d : Nat} {pre : List Char} (hd : d < maxNestingDepth)
    (hpre : AllSpace pre) (v : Value) (rest : List Char) :
    scanValue (f + 1) d ('[' :: (pre ++ (v.print L k ++ rest))) =
      scanElements f (d + 1) (v.print L k ++ rest) := by
  obtain ⟨c, cs, hv, hs, hc, -⟩ := print_cons L k v
  rw [scanValue]
  simp only [skipSpace, show isSpace '[' = false from rfl, Bool.false_eq_true, if_false]
  rw [if_neg (by unfold maxNestingDepth at hd ⊢; omega), skipSpace_append hpre, hv, List.cons_append,
    skipSpace_cons hs]
  split
  · rename_i h; exact absurd (List.cons.inj h).1 hc
  · rfl


theorem scanValue_object {f d : Nat} {pre : List Char} (hd : d < maxNestingDepth)
    (hpre : AllSpace pre) (key : List Atom) (rest : List Char) :
    scanValue (f + 1) d ('{' :: (pre ++ (quoted key ++ rest))) = scanMembers f (d + 1) (quoted key ++ rest) := by
  rw [scanValue]
  simp only [skipSpace, show isSpace '{' = false from rfl, Bool.false_eq_true, if_false]
  rw [if_neg (by unfold maxNestingDepth at hd ⊢; omega), skipSpace_append hpre, quoted, List.cons_append,
    @skipSpace_cons '"' rfl]
  rfl

theorem scanValue_string (f d : Nat) (as : List Atom) (rest : List Char) :
    scanValue (f + 1) d (quoted as ++ rest) = .ok rest := by
  rw [quoted, List.cons_append, List.append_assoc, scanValue, @skipSpace_cons '"' rfl]
  simp only [List.singleton_append]
  show (readString _).map Prod.snd = _
  rw [readString, readStringFrom_body]
  rfl

theorem scanElements_step (f d : Nat) (cs : List Char) :
    scanElements (f + 1) d cs = scanValue f d cs >>= afterElement f d := rfl

theorem afterElement_comma {pre : List Char} (hpre : AllSpace pre) (f d : Nat) (cs : List Char) :
    afterElement (f + 1) d (pre ++ ',' :: cs) = scanElements f d cs := by
  rw [afterElement, skipSpace_append hpre, @skipSpace_cons ',' rfl]
  rfl

theorem afterElement_close {pre : List Char} (hpre : AllSpace pre) (f d : Nat) (cs : List Char) :
    afterElement (f + 1) d (pre ++ ']' :: cs) = .ok cs := by
  rw [afterElement, skipSpace_append hpre, @skipSpace_cons ']' rfl]
  rfl

theorem scanMembers_space {pre : List Char} (hpre : AllSpace pre) (fuel d : Nat) (cs : List Char) :
    scanMembers fuel d (pre ++ cs) = scanMembers fuel d cs := by
  cases fuel <;> simp only [scanMembers, skipSpace_append hpre]

theorem scanMembers_key (f d : Nat) (key : List Atom) (cs : List Char) :
    scanMembers (f + 1) d (quoted key ++ ':' :: cs) = scanValue f d cs >>= afterMember f d := by
  rw [quoted, List.cons_append, List.append_assoc, scanMembers, @skipSpace_cons '"' rfl]
  simp only [List.singleton_append]
  rw [readString, readStringFrom_body]
  simp only [bind, Except.bind, skipSpace_cons (show isSpace ':' = false from rfl)]

theorem afterMember_comma {pre : List Char} (hpre : AllSpace pre) (f d : Nat) (cs : List Char) :
    afterMember (f + 1) d (pre ++ ',' :: cs) = scanMembers f d cs := by
  rw [afterMember, skipSpace_append hpre, @skipSpace_cons ',' rfl]
  rfl

theorem afterMember_close {pre : List Char} (hpre : AllSpace pre) (f d : Nat) (cs : List Char) :
    afterMember (f + 1) d (pre ++ '}' :: cs) = .ok cs := by
  rw [afterMember, skipSpace_append hpre, @skipSpace_cons '}' rfl]
  rfl


theorem continuesNumber_of_isSpace {c : Char} (h : isSpace c = true) : continuesNumber c = false := by
  simp only [isSpace, Bool.or_eq_true, beq_iff_eq] at h
  rcases h with ((rfl | rfl) | rfl) | rfl <;> rfl

theorem numberEnds_space {ws : List Char} (hws : AllSpace ws) {c : Char} (hc : continuesNumber c = false)
    (rest : List Char) : NumberEnds (ws ++ c :: rest) := by
  rcases ws with _ | ⟨w, ws⟩
  · simpa [NumberEnds] using hc
  · simpa [NumberEnds] using continuesNumber_of_isSpace (hws w (List.mem_cons_self w ws))

theorem numberEnds_printItems (L : Layout) (k : Nat) (vs : List Value) {ws : List Char} (hws : AllSpace ws)
    (rest : List Char) : NumberEnds (printItems L k vs ++ (ws ++ ']' :: rest)) := by
  cases vs with
  | nil => exact numberEnds_space hws (show continuesNumber ']' = false from rfl) rest
  | cons v vs => simp [NumberEnds, printItems]; rfl

theorem numberEnds_printMembers (L : Layout) (k : Nat) (ms : List (List Atom × Value)) {ws : List Char}
    (hws : AllSpace ws) (rest : List Char) : NumberEnds (printMembers L k ms ++ (ws ++ '}' :: rest)) := by
  rcases ms with _ | ⟨⟨key, v⟩, ms⟩
  · exact numberEnds_space hws (show continuesNumber '}' = false from rfl) rest
  · simp [NumberEnds, printMembers]; rfl

mutual

/-- The scanner passes over a printed value exactly when its depth fits. -/
theorem scanValue_print (L : Layout) : ∀ (v : Value) (k fuel d : Nat) (rest : List Char),
    (v.print L k).length ≤ fuel → d + v.depth ≤ maxNestingDepth → NumberEnds rest →
    scanValue fuel d (v.print L k ++ rest) = .ok rest
  | .null, k, fuel + 1, d, rest, _, _, _ => by
    simp [Value.print, scanValue, skipSpace, isSpace, scanLiteral]
  | .bool true, k, fuel + 1, d, rest, _, _, _ => by
    simp [Value.print, scanValue, skipSpace, isSpace, scanLiteral]
  | .bool false, k, fuel + 1, d, rest, _, _, _ => by
    simp [Value.print, scanValue, skipSpace, isSpace, scanLiteral]
  | .number (c :: cs) h, k, fuel + 1, d, rest, _, _, hrest => by
    have hc : (c == '-' || c.isDigit) = true := by
      simp only [isNumber, Bool.and_eq_true] at h; exact h.1.1
    rw [Value.print, List.cons_append, scanValue_number hc, ← List.cons_append, scanNumber_lit h rest hrest]
  | .string as, k, fuel + 1, d, rest, _, _, _ => scanValue_string fuel d as rest
  | .array [], k, fuel + 1, d, rest, _, hd, _ => by
    simp only [Value.depth, itemsDepth] at hd
    simp only [Value.print, List.cons_append, List.singleton_append, List.nil_append]
    rw [scanValue, @skipSpace_cons '[' rfl]
    simp only [if_neg (show ¬ maxNestingDepth ≤ d by omega)]
    rw [@skipSpace_cons ']' rfl]
    rfl
  | .array (v :: vs), k, fuel + 1, d, rest, hf, hd, _ => by
    have hv := print_length_pos L (k + 1) v
    simp only [Value.depth, itemsDepth] at hd
    have hd' := Nat.max_le.1 (show max v.depth (itemsDepth vs) ≤ maxNestingDepth - d - 1 by omega)
    simp only [Value.print, List.cons_append, List.append_assoc, List.singleton_append, List.nil_append,
      List.length_cons, List.length_append, List.length_nil] at hf ⊢
    rw [scanValue_array (by omega) (L.newline_space _) v]
    obtain ⟨g, rfl⟩ : ∃ g, fuel = g + 1 := ⟨fuel - 1, by omega⟩
    rw [scanElements_step, scanValue_print L v (k + 1) g (d + 1) _ (by omega) (by omega)
      (numberEnds_printItems L (k + 1) vs (L.newline_space k) rest)]
    exact afterElement_printItems L vs (k + 1) g (d + 1) (L.newline k) rest (L.newline_space k)
      (by simp only [List.length_append]; omega) (by omega)
  | .object [], k, fuel + 1, d, rest, _, hd, _ => by
    simp only [Value.depth, membersDepth] at hd
    simp only [Value.print, List.cons_append, List.singleton_append, List.nil_append]
    rw [scanValue, @skipSpace_cons '{' rfl]
    simp only [if_neg (show ¬ maxNestingDepth ≤ d by omega)]
    rw [@skipSpace_cons '}' rfl]
    rfl
  | .object ((key, v) :: ms), k, fuel + 1, d, rest, hf, hd, _ => by
    have hv := print_length_pos L (k + 1) v
    simp only [Value.depth, membersDepth] at hd
    have hd' := Nat.max_le.1 (show max v.depth (membersDepth ms) ≤ maxNestingDepth - d - 1 by omega)
    simp only [Value.print, List.cons_append, List.append_assoc, List.singleton_append, List.nil_append,
      List.length_cons, List.length_append, List.length_nil] at hf ⊢
    rw [scanValue_object (by omega) (L.newline_space _) key]
    obtain ⟨g, rfl⟩ : ∃ g, fuel = g + 1 := ⟨fuel - 1, by omega⟩
    rw [scanMembers_key, scanValue_space L.colon_space, scanValue_print L v (k + 1) g (d + 1) _ (by omega)
      (by omega) (numberEnds_printMembers L (k + 1) ms (L.newline_space k) rest)]
    exact afterMember_printMembers L ms (k + 1) g (d + 1) (L.newline k) rest (L.newline_space k)
      (by simp only [List.length_append]; omega) (by omega)
  | v, k, 0, d, rest, hf, _, _ => absurd hf (by have := print_length_pos L k v; omega)

/-- After an element, the scanner passes over the printed items after it and the closing
bracket. -/
theorem afterElement_printItems (L : Layout) : ∀ (vs : List Value) (k fuel d : Nat) (ws rest : List Char),
    AllSpace ws → (printItems L k vs ++ ws).length < fuel → d + itemsDepth vs ≤ maxNestingDepth →
    afterElement fuel d (printItems L k vs ++ (ws ++ ']' :: rest)) = .ok rest
  | [], k, fuel + 1, d, ws, rest, hws, _, _ => afterElement_close hws fuel d rest
  | v :: vs, k, fuel + 1, d, ws, rest, hws, hf, hd => by
    have hv := print_length_pos L k v
    simp only [itemsDepth] at hd
    have hd' := Nat.max_le.1 (show max v.depth (itemsDepth vs) ≤ maxNestingDepth - d by omega)
    simp only [printItems, List.cons_append, List.append_assoc, List.length_cons, List.length_append] at hf ⊢
    rw [← List.nil_append (',' :: _), afterElement_comma (fun _ h => absurd h (List.not_mem_nil _))]
    obtain ⟨g, rfl⟩ : ∃ g, fuel = g + 1 := ⟨fuel - 1, by omega⟩
    rw [scanElements_step, scanValue_space (L.newline_space k), scanValue_print L v k g d _ (by omega) (by omega)
      (numberEnds_printItems L k vs hws rest)]
    exact afterElement_printItems L vs k g d ws rest hws (by simp only [List.length_append]; omega) (by omega)
  | vs, k, 0, d, ws, rest, _, hf, _ => absurd hf (Nat.not_lt_zero _)

/-- After a member, the scanner passes over the printed members after it and the closing
brace. -/
theorem afterMember_printMembers (L : Layout) :
    ∀ (ms : List (List Atom × Value)) (k fuel d : Nat) (ws rest : List Char),
    AllSpace ws → (printMembers L k ms ++ ws).length < fuel → d + membersDepth ms ≤ maxNestingDepth →
    afterMember fuel d (printMembers L k ms ++ (ws ++ '}' :: rest)) = .ok rest
  | [], k, fuel + 1, d, ws, rest, hws, _, _ => afterMember_close hws fuel d rest
  | (key, v) :: ms, k, fuel + 1, d, ws, rest, hws, hf, hd => by
    have hv := print_length_pos L k v
    simp only [membersDepth] at hd
    have hd' := Nat.max_le.1 (show max v.depth (membersDepth ms) ≤ maxNestingDepth - d by omega)
    simp only [printMembers, List.cons_append, List.append_assoc, List.length_cons, List.length_append] at hf ⊢
    rw [← List.nil_append (',' :: _), afterMember_comma (fun _ h => absurd h (List.not_mem_nil _)),
      scanMembers_space (L.newline_space k)]
    obtain ⟨g, rfl⟩ : ∃ g, fuel = g + 1 := ⟨fuel - 1, by omega⟩
    rw [scanMembers_key, scanValue_space L.colon_space, scanValue_print L v k g d _ (by omega) (by omega)
      (numberEnds_printMembers L k ms hws rest)]
    exact afterMember_printMembers L ms k g d ws rest hws (by simp only [List.length_append]; omega) (by omega)
  | ms, k, 0, d, ws, rest, _, hf, _ => absurd hf (Nat.not_lt_zero _)

end

/-! ### Reading printed values back -/

/-- A Go string, printed, reads back as itself. -/
theorem readString_stringValue (s : String) (rest : List Char) :
    readString (body (stringAtoms s) ++ '"' :: rest) = .ok (s.data, rest) := by
  rw [readString, readStringFrom_body, decodeAtoms_stringAtoms]

/-- `checkValid` accepts a printed value whose depth fits. -/
theorem checkValid_print (L : Layout) (v : Value) (h : v.depth ≤ maxNestingDepth) :
    checkValid (v.print L 0) = .ok () := by
  rw [checkValid, ← List.append_nil (v.print L 0),
    scanValue_print L v 0 _ 0 [] (by simp) (by omega) (by simp [NumberEnds])]
  rfl

theorem scanValue_deep_open {c : Char} (hc : c = '[' ∨ c = '{') {d : Nat} (hd : maxNestingDepth ≤ d)
    (fuel : Nat) (cs : List Char) : ∃ e, scanValue (fuel + 1) d (c :: cs) = .error e := by
  rcases hc with rfl | rfl
  · rw [scanValue, @skipSpace_cons '[' rfl]; simp [hd]
  · rw [scanValue, @skipSpace_cons '{' rfl]; simp [hd]

mutual

/-- The scanner stops on a printed value nested deeper than `maxNestingDepth` allows. -/
theorem scanValue_print_deep (L : Layout) : ∀ (v : Value) (k fuel d : Nat) (rest : List Char),
    (v.print L k).length ≤ fuel → d ≤ maxNestingDepth → maxNestingDepth < d + v.depth →
    ∃ e, scanValue fuel d (v.print L k ++ rest) = .error e
  | .array [], k, fuel + 1, d, rest, _, _, hd => by
    simp only [Value.depth, itemsDepth] at hd
    exact scanValue_deep_open (.inl rfl) (by omega) fuel _
  | .array (v :: vs), k, fuel + 1, d, rest, hf, hd₀, hd => by
    by_cases hmax : maxNestingDepth ≤ d
    · exact scanValue_deep_open (.inl rfl) hmax fuel _
    have hv := print_length_pos L (k + 1) v
    simp only [Value.depth, itemsDepth] at hd
    simp only [Value.print, List.cons_append, List.append_assoc, List.singleton_append, List.nil_append,
      List.length_cons, List.length_append, List.length_nil] at hf ⊢
    rw [scanValue_array (by omega) (L.newline_space _) v]
    obtain ⟨g, rfl⟩ : ∃ g, fuel = g + 1 := ⟨fuel - 1, by omega⟩
    rw [scanElements_step]
    by_cases hvd : maxNestingDepth < d + 1 + v.depth
    · obtain ⟨e, he⟩ := scanValue_print_deep L v (k + 1) g (d + 1) _ (by omega) (by omega) hvd
      exact ⟨e, by rw [he]; rfl⟩
    · rw [scanValue_print L v (k + 1) g (d + 1) _ (by omega) (by omega)
        (numberEnds_printItems L (k + 1) vs (L.newline_space k) rest)]
      exact afterElement_printItems_deep L vs (k + 1) g (d + 1) (L.newline k) rest (L.newline_space k)
        (by simp only [List.length_append]; omega) (by omega) (by omega)
  | .object [], k, fuel + 1, d, rest, _, _, hd => by
    simp only [Value.depth, membersDepth] at hd
    exact scanValue_deep_open (.inr rfl) (by omega) fuel _
  | .object ((key, v) :: ms), k, fuel + 1, d, rest, hf, hd₀, hd => by
    by_cases hmax : maxNestingDepth ≤ d
    · exact scanValue_deep_open (.inr rfl) hmax fuel _
    have hv := print_length_pos L (k + 1) v
    simp only [Value.depth, membersDepth] at hd
    simp only [Value.print, List.cons_append, List.append_assoc, List.singleton_append, List.nil_append,
      List.length_cons, List.length_append, List.length_nil] at hf ⊢
    rw [scanValue_object (by omega) (L.newline_space _) key]
    obtain ⟨g, rfl⟩ : ∃ g, fuel = g + 1 := ⟨fuel - 1, by omega⟩
    rw [scanMembers_key, scanValue_space L.colon_space]
    by_cases hvd : maxNestingDepth < d + 1 + v.depth
    · obtain ⟨e, he⟩ := scanValue_print_deep L v (k + 1) g (d + 1) _ (by omega) (by omega) hvd
      exact ⟨e, by rw [he]; rfl⟩
    · rw [scanValue_print L v (k + 1) g (d + 1) _ (by omega) (by omega)
        (numberEnds_printMembers L (k + 1) ms (L.newline_space k) rest)]
      exact afterMember_printMembers_deep L ms (k + 1) g (d + 1) (L.newline k) rest (L.newline_space k)
        (by simp only [List.length_append]; omega) (by omega) (by omega)
  | .null, _, _, _, _, _, _, hd
  | .bool _, _, _, _, _, _, _, hd
  | .number _ _, _, _, _, _, _, _, hd
  | .string _, _, _, _, _, _, _, hd => by simp only [Value.depth] at hd; omega
  | v, k, 0, d, rest, hf, _, _ => absurd hf (by have := print_length_pos L k v; omega)

/-- After an element, the scanner stops on printed items nested too deep. -/
theorem afterElement_printItems_deep (L : Layout) :
    ∀ (vs : List Value) (k fuel d : Nat) (ws rest : List Char), AllSpace ws →
      (printItems L k vs ++ ws).length < fuel → d ≤ maxNestingDepth → maxNestingDepth < d + itemsDepth vs →
      ∃ e, afterElement fuel d (printItems L k vs ++ (ws ++ ']' :: rest)) = .error e
  | v :: vs, k, fuel + 1, d, ws, rest, hws, hf, hd₀, hd => by
    have hv := print_length_pos L k v
    simp only [itemsDepth] at hd
    simp only [printItems, List.cons_append, List.append_assoc, List.length_cons, List.length_append] at hf ⊢
    rw [← List.nil_append (',' :: _), afterElement_comma (fun _ h => absurd h (List.not_mem_nil _))]
    obtain ⟨g, rfl⟩ : ∃ g, fuel = g + 1 := ⟨fuel - 1, by omega⟩
    rw [scanElements_step, scanValue_space (L.newline_space k)]
    by_cases hvd : maxNestingDepth < d + v.depth
    · obtain ⟨e, he⟩ := scanValue_print_deep L v k g d _ (by omega) hd₀ hvd
      exact ⟨e, by rw [he]; rfl⟩
    · rw [scanValue_print L v k g d _ (by omega) (by omega) (numberEnds_printItems L k vs hws rest)]
      exact afterElement_printItems_deep L vs k g d ws rest hws (by simp only [List.length_append]; omega) hd₀
        (by omega)
  | [], _, _, d, _, _, _, _, hd₀, hd => by simp only [itemsDepth] at hd; omega
  | _ :: _, _, 0, _, _, _, _, hf, _, _ => absurd hf (Nat.not_lt_zero _)

/-- After a member, the scanner stops on printed members nested too deep. -/
theorem afterMember_printMembers_deep (L : Layout) :
    ∀ (ms : List (List Atom × Value)) (k fuel d : Nat) (ws rest : List Char), AllSpace ws →
      (printMembers L k ms ++ ws).length < fuel → d ≤ maxNestingDepth → maxNestingDepth < d + membersDepth ms →
      ∃ e, afterMember fuel d (printMembers L k ms ++ (ws ++ '}' :: rest)) = .error e
  | (key, v) :: ms, k, fuel + 1, d, ws, rest, hws, hf, hd₀, hd => by
    have hv := print_length_pos L k v
    simp only [membersDepth] at hd
    simp only [printMembers, List.cons_append, List.append_assoc, List.length_cons, List.length_append] at hf ⊢
    rw [← List.nil_append (',' :: _), afterMember_comma (fun _ h => absurd h (List.not_mem_nil _)),
      scanMembers_space (L.newline_space k)]
    obtain ⟨g, rfl⟩ : ∃ g, fuel = g + 1 := ⟨fuel - 1, by omega⟩
    rw [scanMembers_key, scanValue_space L.colon_space]
    by_cases hvd : maxNestingDepth < d + v.depth
    · obtain ⟨e, he⟩ := scanValue_print_deep L v k g d _ (by omega) hd₀ hvd
      exact ⟨e, by rw [he]; rfl⟩
    · rw [scanValue_print L v k g d _ (by omega) (by omega) (numberEnds_printMembers L k ms hws rest)]
      exact afterMember_printMembers_deep L ms k g d ws rest hws (by simp only [List.length_append]; omega) hd₀
        (by omega)
  | [], _, _, d, _, _, _, _, hd₀, hd => by simp only [membersDepth] at hd; omega
  | _ :: _, _, 0, _, _, _, _, hf, _, _ => absurd hf (Nat.not_lt_zero _)

end

/-- `checkValid` refuses a printed value nested deeper than `maxNestingDepth`. -/
theorem checkValid_print_deep (L : Layout) (v : Value) (h : maxNestingDepth < v.depth) :
    ∃ e, checkValid (v.print L 0) = .error e := by
  obtain ⟨e, he⟩ := scanValue_print_deep L v 0 ((v.print L 0).length + 1) 0 [] (by omega) (Nat.zero_le _)
    (by omega)
  rw [List.append_nil] at he
  exact ⟨e, by rw [checkValid, he]; rfl⟩

/-! ### HTML escaping and `Compact` -/

/-- The characters `Compact` with `escapeHTML` rewrites. -/
def htmlUnsafe (c : Char) : Bool :=
  c == '<' || c == '>' || c == '&' || c.toNat == 0x2028 || c.toNat == 0x2029

/-- An atom `Compact` leaves alone. -/
def Atom.htmlSafe : Atom → Bool
  | .plain c _ => !htmlUnsafe c
  | _ => true

/-- What `Compact` with `escapeHTML` makes of an atom. -/
def Atom.escapeHTML : Atom → Atom
  | .plain c h =>
    if c.toNat < 0x80 ∧ htmlUnsafe c then byteEscape c.toNat
    else if htmlUnsafe c then
      .unicode '2' '0' '2' (hexDigit (c.toNat % 16)) ⟨by decide, by decide, by decide, hexDigit_mod_mem _⟩
    else .plain c h
  | a => a

mutual

/-- A value none of whose strings holds a character `Compact` rewrites. -/
def Value.htmlSafe : Value → Bool
  | .string as => as.all Atom.htmlSafe
  | .array items => itemsHtmlSafe items
  | .object ms => membersHtmlSafe ms
  | _ => true

def itemsHtmlSafe : List Value → Bool
  | [] => true
  | v :: vs => v.htmlSafe && itemsHtmlSafe vs

def membersHtmlSafe : List (List Atom × Value) → Bool
  | [] => true
  | (k, v) :: ms => k.all Atom.htmlSafe && v.htmlSafe && membersHtmlSafe ms

end

mutual

/-- `escapeHTML` on every string of a value, keys included. -/
def Value.escapeHTML : Value → Value
  | .string as => .string (as.map Atom.escapeHTML)
  | .array items => .array (escapeItems items)
  | .object ms => .object (escapeMembers ms)
  | v => v

def escapeItems : List Value → List Value
  | [] => []
  | v :: vs => v.escapeHTML :: escapeItems vs

def escapeMembers : List (List Atom × Value) → List (List Atom × Value)
  | [] => []
  | (k, v) :: ms => (k.map Atom.escapeHTML, v.escapeHTML) :: escapeMembers ms

end

theorem Atom.htmlSafe_escapeHTML (a : Atom) : a.escapeHTML.htmlSafe = true := by
  cases a with
  | plain c h =>
    simp only [Atom.escapeHTML]
    split_ifs with h₁ h₂ <;> simp_all [Atom.htmlSafe, byteEscape]
  | _ => rfl

theorem atoms_htmlSafe_escapeHTML (as : List Atom) : (as.map Atom.escapeHTML).all Atom.htmlSafe = true := by
  simp [Atom.htmlSafe_escapeHTML]

mutual

theorem htmlSafe_escapeHTML : ∀ v : Value, v.escapeHTML.htmlSafe = true
  | .string as => atoms_htmlSafe_escapeHTML as
  | .array items => itemsHtmlSafe_escapeItems items
  | .object ms => membersHtmlSafe_escapeMembers ms
  | .null | .bool _ | .number _ _ => rfl

theorem itemsHtmlSafe_escapeItems : ∀ vs : List Value, itemsHtmlSafe (escapeItems vs) = true
  | [] => rfl
  | v :: vs => by
    simp only [escapeItems, itemsHtmlSafe, htmlSafe_escapeHTML v, itemsHtmlSafe_escapeItems vs, Bool.and_self]

theorem membersHtmlSafe_escapeMembers : ∀ ms : List (List Atom × Value), membersHtmlSafe (escapeMembers ms) = true
  | [] => rfl
  | (k, v) :: ms => by
    simp only [escapeMembers, membersHtmlSafe, atoms_htmlSafe_escapeHTML, htmlSafe_escapeHTML v,
      membersHtmlSafe_escapeMembers ms, Bool.and_self]

end

mutual

theorem depth_escapeHTML : ∀ v : Value, v.escapeHTML.depth = v.depth
  | .array items => by simp only [Value.escapeHTML, Value.depth, itemsDepth_escapeItems items]
  | .object ms => by simp only [Value.escapeHTML, Value.depth, membersDepth_escapeMembers ms]
  | .null | .bool _ | .number _ _ | .string _ => rfl

theorem itemsDepth_escapeItems : ∀ vs : List Value, itemsDepth (escapeItems vs) = itemsDepth vs
  | [] => rfl
  | v :: vs => by simp only [escapeItems, itemsDepth, depth_escapeHTML v, itemsDepth_escapeItems vs]

theorem membersDepth_escapeMembers :
    ∀ ms : List (List Atom × Value), membersDepth (escapeMembers ms) = membersDepth ms
  | [] => rfl
  | (k, v) :: ms => by
    simp only [escapeMembers, membersDepth, depth_escapeHTML v, membersDepth_escapeMembers ms]

end

theorem Atom.escapeHTML_of_htmlSafe {a : Atom} (h : a.htmlSafe = true) : a.escapeHTML = a := by
  cases a with
  | plain c _ =>
    simp only [Atom.htmlSafe, Bool.not_eq_true'] at h
    simp [Atom.escapeHTML, h]
  | _ => rfl

theorem atoms_escapeHTML_of_htmlSafe {as : List Atom} (h : as.all Atom.htmlSafe = true) :
    as.map Atom.escapeHTML = as :=
  (List.map_congr_left fun a ha => Atom.escapeHTML_of_htmlSafe (List.all_eq_true.1 h a ha)).trans
    (List.map_id as)

mutual

/-- `escapeHTML` leaves an HTML-safe value as it is. -/
theorem escapeHTML_of_htmlSafe : ∀ {v : Value}, v.htmlSafe = true → v.escapeHTML = v
  | .string _, h => congrArg Value.string (atoms_escapeHTML_of_htmlSafe h)
  | .array _, h => congrArg Value.array (escapeItems_of_htmlSafe h)
  | .object _, h => congrArg Value.object (escapeMembers_of_htmlSafe h)
  | .null, _ | .bool _, _ | .number _ _, _ => rfl

theorem escapeItems_of_htmlSafe : ∀ {vs : List Value}, itemsHtmlSafe vs = true → escapeItems vs = vs
  | [], _ => rfl
  | _ :: _, h => by
    simp only [itemsHtmlSafe, Bool.and_eq_true] at h
    rw [escapeItems, escapeHTML_of_htmlSafe h.1, escapeItems_of_htmlSafe h.2]

theorem escapeMembers_of_htmlSafe :
    ∀ {ms : List (List Atom × Value)}, membersHtmlSafe ms = true → escapeMembers ms = ms
  | [], _ => rfl
  | (_, _) :: _, h => by
    simp only [membersHtmlSafe, Bool.and_eq_true] at h
    rw [escapeMembers, atoms_escapeHTML_of_htmlSafe h.1.1, escapeHTML_of_htmlSafe h.1.2,
      escapeMembers_of_htmlSafe h.2]

end

theorem itemsHtmlSafe_iff : ∀ {vs : List Value}, itemsHtmlSafe vs = true ↔ ∀ v ∈ vs, v.htmlSafe = true
  | [] => by simp [itemsHtmlSafe]
  | v :: vs => by simp [itemsHtmlSafe, @itemsHtmlSafe_iff vs]

theorem membersHtmlSafe_iff : ∀ {ms : List (List Atom × Value)},
    membersHtmlSafe ms = true ↔ ∀ m ∈ ms, m.1.all Atom.htmlSafe = true ∧ m.2.htmlSafe = true
  | [] => by simp [membersHtmlSafe]
  | (k, v) :: ms => by simp [membersHtmlSafe, @membersHtmlSafe_iff ms, and_assoc]

/-- `appendString` already writes `\u` escapes for what `escapeHTML` rewrites. -/
theorem quoteAtoms_htmlSafe (c : Char) : (quoteAtoms c).all Atom.htmlSafe = true := by
  rw [quoteAtoms]
  by_cases h₁ : c = '"'
  · rw [dif_pos h₁]; rfl
  by_cases h₂ : c = '\\'
  · rw [dif_neg h₁, dif_pos h₂]; rfl
  rw [dif_neg h₁, dif_neg h₂]
  by_cases h₃ : c = '\n'
  · rw [if_pos h₃]; rfl
  by_cases h₄ : c = '\r'
  · rw [if_neg h₃, if_pos h₄]; rfl
  by_cases h₅ : c = '\t'
  · rw [if_neg h₃, if_neg h₄, if_pos h₅]; rfl
  rw [if_neg h₃, if_neg h₄, if_neg h₅]
  by_cases h₆ : c.toNat < 0x20 ∨ c = '<' ∨ c = '>' ∨ c = '&'
  · rw [dif_pos h₆]; rfl
  rw [dif_neg h₆]
  by_cases h₇ : c.toNat = 0x2028 ∨ c.toNat = 0x2029
  · rw [if_pos h₇]; rfl
  -- what is left is kept as it is, and is none of the characters `escapeHTML` rewrites
  rw [if_neg h₇]
  simp only [not_or] at h₆ h₇
  simp [Atom.htmlSafe, htmlUnsafe, h₆.2.1, h₆.2.2.1, h₆.2.2.2, h₇.1, h₇.2]

theorem stringAtoms_htmlSafe (s : String) : (stringAtoms s).all Atom.htmlSafe = true :=
  List.all_eq_true.2 fun a ha => by
    obtain ⟨c, -, hc⟩ := List.mem_flatMap.1 ha
    exact List.all_eq_true.1 (quoteAtoms_htmlSafe c) a hc

theorem stringValue_htmlSafe (s : String) : (stringValue s).htmlSafe = true := stringAtoms_htmlSafe s

theorem escapeHTMLChar_of_safe {c : Char} (h : htmlUnsafe c = false) : escapeHTMLChar c = [c] := by
  simp only [htmlUnsafe, Bool.or_eq_false_iff, beq_eq_false_iff_ne] at h
  simp [escapeHTMLChar, h]

/-- Outside strings, `Compact` keeps a character that is no white space, quote or character it
rewrites. -/
theorem compactChars_keep {c : Char} (hs : isSpace c = false) (hq : c ≠ '"') (hu : htmlUnsafe c = false)
    (cs : List Char) : compactChars false (c :: cs) = c :: compactChars false cs := by
  have hq' : (c == '"') = false := beq_false_of_ne hq
  simp [compactChars, hs, hq', escapeHTMLChar_of_safe hu]

/-- Inside a string, `Compact` keeps a character that is no backslash or quote and none it
rewrites. -/
theorem compactChars_in {c : Char} (hb : c ≠ '\\') (hq : c ≠ '"') (hu : htmlUnsafe c = false)
    (cs : List Char) : compactChars true (c :: cs) = c :: compactChars true cs := by
  have hq' : (c != '"') = true := by simp [hq]
  rw [compactChars, escapeHTMLChar_of_safe hu, hq']
  · rfl
  all_goals intros; simp_all

theorem hexChars_plain : ∀ c ∈ hexChars, c ≠ '\\' ∧ c ≠ '"' ∧ htmlUnsafe c = false := by decide

theorem compactChars_atom (a : Atom) (h : a.htmlSafe = true) (rest : List Char) :
    compactChars true (a.text ++ rest) = a.text ++ compactChars true rest := by
  cases a with
  | plain c hc =>
    simp only [Atom.htmlSafe, Bool.not_eq_true'] at h
    exact compactChars_in hc.2.2 hc.2.1 h rest
  | short c hc =>
    have hu : ∀ c ∈ shortEscapes, htmlUnsafe c = false := by decide
    simp [Atom.text, compactChars, escapeHTMLChar_of_safe (hu c hc)]
  | unicode a b c d hc =>
    obtain ⟨ha, hb, hc, hd⟩ := hc
    show compactChars true ('\\' :: 'u' :: a :: b :: c :: d :: rest) = _
    rw [compactChars, compactChars_in (hexChars_plain a ha).1 (hexChars_plain a ha).2.1 (hexChars_plain a ha).2.2,
      compactChars_in (hexChars_plain b hb).1 (hexChars_plain b hb).2.1 (hexChars_plain b hb).2.2,
      compactChars_in (hexChars_plain c hc).1 (hexChars_plain c hc).2.1 (hexChars_plain c hc).2.2,
      compactChars_in (hexChars_plain d hd).1 (hexChars_plain d hd).2.1 (hexChars_plain d hd).2.2]
    rfl

theorem compactChars_quoted (as : List Atom) (h : as.all Atom.htmlSafe = true) (rest : List Char) :
    compactChars false (quoted as ++ rest) = quoted as ++ compactChars false rest := by
  have hbody : ∀ as : List Atom, as.all Atom.htmlSafe = true →
      compactChars true (body as ++ '"' :: rest) = body as ++ '"' :: compactChars false rest := by
    intro as h
    induction as with
    | nil => simp [compactChars, escapeHTMLChar]
    | cons a as ih =>
      simp only [List.all_cons, Bool.and_eq_true] at h
      rw [body_cons, List.append_assoc, compactChars_atom a h.1, ih h.2, List.append_assoc]
  simp only [quoted, List.cons_append, List.append_assoc, List.singleton_append]
  show '"' :: compactChars true (body as ++ '"' :: rest) = _
  rw [hbody as h]
  rfl

theorem isDigit_toNat (c : Char) : c.isDigit = true ↔ 48 ≤ c.toNat ∧ c.toNat ≤ 57 := by
  simp only [Char.isDigit, Bool.and_eq_true, decide_eq_true_eq]
  exact Iff.rfl

/-- A character of a number literal is no white space, quote or character `Compact` rewrites. -/
theorem numberChar_plain {c : Char} (h : numberChar c = true) :
    isSpace c = false ∧ c ≠ '"' ∧ htmlUnsafe c = false := by
  simp only [numberChar, Bool.or_eq_true, beq_iff_eq] at h
  rcases h with ((((hd | rfl) | rfl) | rfl) | rfl) | rfl
  · have hn := (isDigit_toNat c).1 hd
    have hne : ∀ d : Char, d.toNat < 48 ∨ 57 < d.toNat → c ≠ d := fun d hd h => by rw [h] at hn; omega
    simp only [isSpace, htmlUnsafe, Bool.or_eq_false_iff, beq_eq_false_iff_ne]
    refine ⟨⟨⟨⟨hne _ (by decide), hne _ (by decide)⟩, hne _ (by decide)⟩, hne _ (by decide)⟩,
      hne _ (by decide), ⟨⟨⟨⟨hne _ (by decide), hne _ (by decide)⟩, hne _ (by decide)⟩, by omega⟩, by omega⟩⟩
  all_goals decide

/-- Outside strings, `Compact` keeps a run of characters that are no white space, quotes or
characters it rewrites. -/
theorem compactChars_plain {cs : List Char}
    (h : ∀ c ∈ cs, isSpace c = false ∧ c ≠ '"' ∧ htmlUnsafe c = false) (rest : List Char) :
    compactChars false (cs ++ rest) = cs ++ compactChars false rest := by
  induction cs with
  | nil => rfl
  | cons c cs ih =>
    obtain ⟨hs, hq, hu⟩ := h c (List.mem_cons_self c cs)
    rw [List.cons_append, compactChars_keep hs hq hu, ih fun d hd => h d (List.mem_cons_of_mem c hd)]
    rfl

theorem punct_plain : ∀ c ∈ "[]{},:".data, isSpace c = false ∧ c ≠ '"' ∧ htmlUnsafe c = false := by
  decide

theorem compactChars_punct {c : Char} (hc : c ∈ "[]{},:".data) (cs : List Char) :
    compactChars false (c :: cs) = c :: compactChars false cs :=
  have h := punct_plain c hc
  compactChars_keep h.1 h.2.1 h.2.2 cs

@[simp] theorem Layout.compact_newline (d : Nat) : Layout.compact.newline d = [] := rfl

@[simp] theorem Layout.compact_colon : Layout.compact.colon = [] := rfl

mutual

/-- `Compact` keeps the compact printing of an HTML-safe value as it is. -/
theorem compactChars_print : ∀ (v : Value) (k : Nat) (rest : List Char), v.htmlSafe = true →
    compactChars false (v.print .compact k ++ rest) = v.print .compact k ++ compactChars false rest
  | .null, _, rest, _ => @compactChars_plain "null".data (by decide) rest
  | .bool true, _, rest, _ => @compactChars_plain "true".data (by decide) rest
  | .bool false, _, rest, _ => @compactChars_plain "false".data (by decide) rest
  | .number lit h, _, rest, _ => by
    have hall : lit.all numberChar = true := by
      match lit, h with
      | c :: cs, h => simp only [isNumber, Bool.and_eq_true] at h; exact h.1.2
    exact compactChars_plain (fun c hc => numberChar_plain (List.all_eq_true.1 hall c hc)) rest
  | .string as, _, rest, h => compactChars_quoted as h rest
  | .array [], _, rest, _ => @compactChars_plain "[]".data (by decide) rest
  | .array (v :: vs), k, rest, h => by
    simp only [Value.htmlSafe, itemsHtmlSafe, Bool.and_eq_true] at h
    simp only [Value.print, Layout.compact_newline, Layout.compact_colon, List.nil_append, List.cons_append, List.append_assoc]
    rw [compactChars_punct (by decide), compactChars_print v _ _ h.1, compactChars_printItems vs _ _ h.2,
      compactChars_punct (by decide)]
  | .object [], _, rest, _ => @compactChars_plain "{}".data (by decide) rest
  | .object ((key, v) :: ms), k, rest, h => by
    simp only [Value.htmlSafe, membersHtmlSafe, Bool.and_eq_true] at h
    simp only [Value.print, Layout.compact_newline, Layout.compact_colon, List.nil_append, List.cons_append, List.append_assoc]
    rw [compactChars_punct (by decide), compactChars_quoted key h.1.1, compactChars_punct (by decide),
      compactChars_print v _ _ h.1.2, compactChars_printMembers ms _ _ h.2, compactChars_punct (by decide)]

theorem compactChars_printItems : ∀ (vs : List Value) (k : Nat) (rest : List Char), itemsHtmlSafe vs = true →
    compactChars false (printItems .compact k vs ++ rest) = printItems .compact k vs ++ compactChars false rest
  | [], _, _, _ => rfl
  | v :: vs, k, rest, h => by
    simp only [itemsHtmlSafe, Bool.and_eq_true] at h
    simp only [printItems, Layout.compact_newline, Layout.compact_colon, List.nil_append, List.cons_append, List.append_assoc]
    rw [compactChars_punct (by decide), compactChars_print v _ _ h.1, compactChars_printItems vs _ _ h.2]

theorem compactChars_printMembers :
    ∀ (ms : List (List Atom × Value)) (k : Nat) (rest : List Char), membersHtmlSafe ms = true →
    compactChars false (printMembers .compact k ms ++ rest) = printMembers .compact k ms ++ compactChars false rest
  | [], _, _, _ => rfl
  | (key, v) :: ms, k, rest, h => by
    simp only [membersHtmlSafe, Bool.and_eq_true] at h
    simp only [printMembers, Layout.compact_newline, Layout.compact_colon, List.nil_append, List.cons_append, List.append_assoc]
    rw [compactChars_punct (by decide), compactChars_quoted key h.1.1, compactChars_punct (by decide),
      compactChars_print v _ _ h.1.2, compactChars_printMembers ms _ _ h.2]

end

/-- `Compact` with `escapeHTML` leaves the compact printing of an HTML-safe value whose depth
fits as it is. -/
theorem compact_print (v : Value) (hs : v.htmlSafe = true) (hd : v.depth ≤ maxNestingDepth) :
    compact (v.print .compact 0) = .ok (v.print .compact 0) := by
  have hc := compactChars_print v 0 [] hs
  rw [List.append_nil] at hc
  rw [compact, checkValid_print _ v hd]
  exact congrArg Except.ok (hc.trans (List.append_nil _))

end Json

end GoClaw
