import GoClaw.Pairing.Encoding

namespace GoClaw

namespace Json

/-!
# Go's `encoding/json` — the scanner

The frames of the gateway protocol and the pairing store's files go through Go's
`encoding/json` (Go 1.21, the toolchain of the builder image).  This module models the part
of it that decides what a text is.

* Texts are lists of characters.  Every text here is valid UTF-8, so a byte the scanner
  reports is the first byte of a character (`firstByte`).
* `scanValue` is the scanner as a recursive descent over one value, with the nesting bound
  `maxNestingDepth` of `pushParseState` and the `SyntaxError` texts of `scanner.go`; at the end
  of the input it reports what the scanner reports when `eof` feeds it a space.
* `readString` is a string literal as the scanner accepts it and `unquoteBytes` decodes it,
  surrogate pairs included.
* `checkValid` is the scan `Unmarshal` makes of its whole input, and `compact` is
  `appendCompact` with `escapeHTML`, which `json.Marshal` applies to a `json.RawMessage`.
-/

/-- The errors of `encoding/json` this code meets: `*SyntaxError`, `*UnmarshalTypeError` (with
the `Struct` and `Field` of its error context) and `*MarshalerError`. -/
inductive JsonError where
  | syntaxError (msg : String)
  | unmarshalType (value strct field type : String)
  | marshaler (type : String) (err : JsonError)
  deriving DecidableEq, Repr

/-- `Error()`. -/
def JsonError.error : JsonError → String
  | .syntaxError msg => msg
  | .unmarshalType value strct field type =>
    if strct ≠ "" ∨ field ≠ "" then
      "json: cannot unmarshal " ++ value ++ " into Go struct field " ++ strct ++ "." ++ field ++
        " of type " ++ type
    else "json: cannot unmarshal " ++ value ++ " into Go value of type " ++ type
  | .marshaler type err => "json: error calling MarshalJSON for type " ++ type ++ ": " ++ err.error

/-! ### Bytes in messages -/

/-- The first byte of a character's UTF-8 encoding. -/
def firstByte (c : Char) : Nat :=
  if c.toNat < 0x80 then c.toNat
  else if c.toNat < 0x800 then 0xC0 + c.toNat / 0x40
  else if c.toNat < 0x10000 then 0xE0 + c.toNat / 0x1000
  else 0xF0 + c.toNat / 0x40000

/-- `quoteChar`: the byte a character starts with, quoted as `strconv.Quote` quotes that byte
as a rune.  A leading byte of a longer encoding (`0xC2` to `0xF4`) is a printable Latin-1
letter or sign and stands for itself. -/
def quoteChar (c : Char) : String :=
  let b := firstByte c
  if b = 39 then "'\\''"
  else if b = 34 then "'\"'"
  else if b = 92 then "'\\\\'"
  else if b = 7 then "'\\a'"
  else if b = 8 then "'\\b'"
  else if b = 12 then "'\\f'"
  else if b = 10 then "'\\n'"
  else if b = 13 then "'\\r'"
  else if b = 9 then "'\\t'"
  else if b = 11 then "'\\v'"
  else if b < 0x20 ∨ b = 0x7F then "'\\x" ++ ⟨[hexDigit (b / 16), hexDigit (b % 16)]⟩ ++ "'"
  else "'" ++ (Char.ofNat b).toString ++ "'"

/-- `s.error(c, context)`. -/
def invalidChar (c : Char) (context : String) : JsonError :=
  .syntaxError ("invalid character " ++ quoteChar c ++ " " ++ context)

/-- The error of `eof` in a state that accepts white space. -/
def eofError : JsonError := .syntaxError "unexpected end of JSON input"

/-! ### White space, literals and numbers -/

/-- `isSpace`: the white space allowed between tokens. -/
def isSpace (c : Char) : Bool := c == ' ' || c == '\t' || c == '\r' || c == '\n'

/-- The scanner's `scanSkipSpace` steps. -/
def skipSpace : List Char → List Char
  | c :: cs => if isSpace c then skipSpace cs else c :: cs
  | [] => []

/-- The letters of `true`, `false` or `null` after the first (`stateT`, `stateTr`, …). -/
def scanLiteral (lit : String) : List Char → List Char → Except JsonError (List Char)
  | [], cs => .ok cs
  | e :: es, c :: cs =>
    if c = e then scanLiteral lit es cs
    else .error (invalidChar c ("in literal " ++ lit ++ " (expecting " ++ quoteChar e ++ ")"))
  | e :: _, [] => .error (invalidChar ' ' ("in literal " ++ lit ++ " (expecting " ++ quoteChar e ++ ")"))

/-- Digits, as far as they go. -/
def skipDigits : List Char → List Char
  | c :: cs => if c.isDigit then skipDigits cs else c :: cs
  | [] => []

/-- One digit and the digits after it, or the error `context` at what stands there. -/
def digitsAfter (context : String) : List Char → Except JsonError (List Char)
  | c :: cs => if c.isDigit then .ok (skipDigits cs) else .error (invalidChar c context)
  | [] => .error (invalidChar ' ' context)

/-- An exponent's optional sign. -/
def dropSign : List Char → List Char
  | c :: cs => if c = '+' ∨ c = '-' then cs else c :: cs
  | [] => []

/-- `stateE`, `stateESign`: an exponent after its `e` or `E`. -/
def scanExponent (cs : List Char) : Except JsonError (List Char) :=
  digitsAfter "in exponent of numeric literal" (dropSign cs)

/-- An exponent, if the text goes on with `e` or `E`. -/
def scanExponentPart : List Char → Except JsonError (List Char)
  | c :: cs => if c = 'e' ∨ c = 'E' then scanExponent cs else .ok (c :: cs)
  | [] => .ok []

/-- `state0` onwards: an optional fraction (`stateDot`, `stateDot0`), then an optional
exponent. -/
def scanFraction : List Char → Except JsonError (List Char)
  | c :: cs =>
    if c = '.' then (digitsAfter "after decimal point in numeric literal" cs).bind scanExponentPart
    else scanExponentPart (c :: cs)
  | [] => scanExponentPart []

/-- `stateNeg`, `state0`, `state1`: a number after its optional minus sign. -/
def scanMagnitude : List Char → Except JsonError (List Char)
  | c :: cs =>
    if c = '0' then scanFraction cs
    else if c.isDigit then scanFraction (skipDigits cs)
    else .error (invalidChar c "in numeric literal")
  | [] => .error (invalidChar ' ' "in numeric literal")

/-- A number literal from its first character, a minus sign or a digit. -/
def scanNumber : List Char → Except JsonError (List Char)
  | c :: cs => if c = '-' then scanMagnitude cs else scanMagnitude (c :: cs)
  | [] => scanMagnitude []

/-! ### Strings -/

/-- The value of a hex digit, either case. -/
def hexVal (c : Char) : Option Nat :=
  if '0' ≤ c ∧ c ≤ '9' then some (c.toNat - 48)
  else if 'a' ≤ c ∧ c ≤ 'f' then some (c.toNat - 87)
  else if 'A' ≤ c ∧ c ≤ 'F' then some (c.toNat - 55)
  else none

/-- The context of the scanner's `stateInStringEscU` states. -/
def uContext : String := "in \\u hexadecimal character escape"

/-- `getu4` on four characters, with the scanner's error at the first that is not a hex digit. -/
def hex4 (a b c d : Char) : Except JsonError Nat :=
  match hexVal a, hexVal b, hexVal c, hexVal d with
  | some w, some x, some y, some z => .ok (((w * 16 + x) * 16 + y) * 16 + z)
  | none, _, _, _ => .error (invalidChar a uContext)
  | _, none, _, _ => .error (invalidChar b uContext)
  | _, _, none, _ => .error (invalidChar c uContext)
  | _, _, _, none => .error (invalidChar d uContext)

/-- The scanner's error on a `\u` escape cut short by the end of the input. -/
def hexShort : List Char → JsonError
  | c :: cs => if (hexVal c).isSome then hexShort cs else invalidChar c uContext
  | [] => invalidChar ' ' uContext

/-- The character a one-letter escape stands for. -/
def escapeOf (c : Char) : Option Char :=
  if c = '"' then some '"' else if c = '\\' then some '\\' else if c = '/' then some '/'
  else if c = 'b' then some (Char.ofNat 8) else if c = 'f' then some (Char.ofNat 12)
  else if c = 'n' then some '\n' else if c = 'r' then some '\r' else if c = 't' then some '\t'
  else none

/-- Put decoded characters in front of what the rest of a literal decodes to. -/
def prependDecoded (cs : List Char) (r : Except JsonError (List Char × List Char)) :
    Except JsonError (List Char × List Char) :=
  r.map fun p => (cs ++ p.1, p.2)

/-- U+FFFD, what an unpaired surrogate decodes to. -/
def replacementChar : Char := Char.ofNat 0xFFFD

/-- A `\u` code unit with no high surrogate before it: a high surrogate waits for its partner,
a lone low one is U+FFFD. -/
def unitChars (n : Nat) : List Char × Option Nat :=
  if 0xD800 ≤ n ∧ n < 0xDC00 then ([], some n)
  else if 0xDC00 ≤ n ∧ n < 0xE000 then ([replacementChar], none)
  else ([Char.ofNat n], none)

/-- A `\u` code unit after a pending high surrogate, if any (`utf16.DecodeRune`). -/
def decodeUnit : Option Nat → Nat → List Char × Option Nat
  | none, n => unitChars n
  | some h, n =>
    if 0xDC00 ≤ n ∧ n < 0xE000 then ([Char.ofNat ((h - 0xD800) * 0x400 + (n - 0xDC00) + 0x10000)], none)
    else (replacementChar :: (unitChars n).1, (unitChars n).2)

/-- What a pending high surrogate leaves when no low one follows it. -/
def flushPending : Option Nat → List Char
  | some _ => [replacementChar]
  | none => []

/-- A string literal after its opening quote, with a high surrogate `pending` from the
escape before: the characters `unquoteBytes` decodes and the text after the closing quote, or
the scanner's error. -/
def readStringFrom (pending : Option Nat) : List Char → Except JsonError (List Char × List Char)
  | [] => .error eofError
  | '"' :: rest => .ok (flushPending pending, rest)
  | '\\' :: 'u' :: a :: b :: c :: d :: rest =>
    match hex4 a b c d with
    | .error e => .error e
    | .ok n => prependDecoded (decodeUnit pending n).1 (readStringFrom (decodeUnit pending n).2 rest)
  | '\\' :: 'u' :: rest => .error (hexShort rest)
  | '\\' :: c :: rest =>
    match escapeOf c with
    | some e => prependDecoded (flushPending pending ++ [e]) (readStringFrom none rest)
    | none => .error (invalidChar c "in string escape code")
  | ['\\'] => .error (invalidChar ' ' "in string escape code")
  | c :: rest =>
    if c.toNat < 0x20 then .error (invalidChar c "in string literal")
    else prependDecoded (flushPending pending ++ [c]) (readStringFrom none rest)

/-- A string literal after its opening quote. -/
def readString (cs : List Char) : Except JsonError (List Char × List Char) := readStringFrom none cs

/-! ### Values -/

/-- `maxNestingDepth`. -/
def maxNestingDepth : Nat := 10000

mutual

/-- One value, after white space, at nesting depth `depth`; the text after it.  `fuel` bounds
the recursion and is never short when it is the length of the text. -/
def scanValue : Nat → Nat → List Char → Except JsonError (List Char)
  | 0, _, _ => .error eofError
  | fuel + 1, depth, cs =>
    match skipSpace cs with
    | '{' :: rest =>
      if maxNestingDepth ≤ depth then .error (invalidChar '{' "exceeded max depth")
      else match skipSpace rest with
        | '}' :: rest' => .ok rest'
        | rest' => scanMembers fuel (depth + 1) rest'
    | '[' :: rest =>
      if maxNestingDepth ≤ depth then .error (invalidChar '[' "exceeded max depth")
      else match skipSpace rest with
        | ']' :: rest' => .ok rest'
        | rest' => scanElements fuel (depth + 1) rest'
    | '"' :: rest => (readString rest).map Prod.snd
    | 't' :: rest => scanLiteral "true" ['r', 'u', 'e'] rest
    | 'f' :: rest => scanLiteral "false" ['a', 'l', 's', 'e'] rest
    | 'n' :: rest => scanLiteral "null" ['u', 'l', 'l'] rest
    | c :: rest =>
      if c = '-' ∨ c.isDigit then scanNumber (c :: rest)
      else .error (invalidChar c "looking for beginning of value")
    | [] => .error eofError
  termination_by structural fuel => fuel

/-- The elements of an array from its first one, and its closing bracket. -/
def scanElements : Nat → Nat → List Char → Except JsonError (List Char)
  | 0, _, _ => .error eofError
  | fuel + 1, depth, cs => do
    let rest ← scanValue fuel depth cs
    afterElement fuel depth rest
  termination_by structural fuel => fuel

/-- After an array element: a comma and the next element, or the closing bracket. -/
def afterElement : Nat → Nat → List Char → Except JsonError (List Char)
  | 0, _, _ => .error eofError
  | fuel + 1, depth, cs =>
    match skipSpace cs with
    | ',' :: rest => scanElements fuel depth rest
    | ']' :: rest => .ok rest
    | c :: _ => .error (invalidChar c "after array element")
    | [] => .error eofError
  termination_by structural fuel => fuel

/-- The members of an object from its first key, and its closing brace. -/
def scanMembers : Nat → Nat → List Char → Except JsonError (List Char)
  | 0, _, _ => .error eofError
  | fuel + 1, depth, cs =>
    match skipSpace cs with
    | '"' :: rest => do
      let (_, rest) ← readString rest
      match skipSpace rest with
      | ':' :: rest => do
        let rest ← scanValue fuel depth rest
        afterMember fuel depth rest
      | c :: _ => .error (invalidChar c "after object key")
      | [] => .error eofError
    | c :: _ => .error (invalidChar c "looking for beginning of object key string")
    | [] => .error eofError
  termination_by structural fuel => fuel

/-- After an object member: a comma and the next member, or the closing brace. -/
def afterMember : Nat → Nat → List Char → Except JsonError (List Char)
  | 0, _, _ => .error eofError
  | fuel + 1, depth, cs =>
    match skipSpace cs with
    | ',' :: rest => scanMembers fuel depth rest
    | '}' :: rest => .ok rest
    | c :: _ => .error (invalidChar c "after object key:value pair")
    | [] => .error eofError
  termination_by structural fuel => fuel

end

/-- `checkValid`: the input is one value with white space around it. -/
def checkValid (data : List Char) : Except JsonError Unit := do
  let rest ← scanValue (data.length + 1) 0 data
  match skipSpace rest with
  | [] => pure ()
  | c :: _ => .error (invalidChar c "after top-level value")

/-! ### Compaction -/

/-- What `appendCompact` writes for a character with `escapeHTML`: `<`, `>`, `&`, U+2028 and
U+2029 as `\u` escapes, anything else as it is. -/
def escapeHTMLChar (c : Char) : List Char :=
  if c = '<' then "\\u003c".data else if c = '>' then "\\u003e".data
  else if c = '&' then "\\u0026".data else if c.toNat = 0x2028 then "\\u2028".data
  else if c.toNat = 0x2029 then "\\u2029".data else [c]

/-- The characters `appendCompact` keeps from a valid text: white space outside strings goes,
`inString` following the scanner in and out of string literals. -/
def compactChars : Bool → List Char → List Char
  | _, [] => []
  | false, c :: cs =>
    if isSpace c then compactChars false cs else escapeHTMLChar c ++ compactChars (c == '"') cs
  | true, '\\' :: c :: cs => '\\' :: escapeHTMLChar c ++ compactChars true cs
  | true, c :: cs => escapeHTMLChar c ++ compactChars (c != '"') cs

/-- `Compact` with `escapeHTML` (`appendCompact`): the text without its white space, or the
scanner's error. -/
def compact (src : List Char) : Except JsonError (List Char) := do
  checkValid src
  pure (compactChars false src)

end Json

end GoClaw
