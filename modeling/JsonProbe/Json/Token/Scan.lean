import JsonProbe.Json.Token
import JsonProbe.Text.Utf8
/-!
# Scanning one token

Each scanner reads one token off the front of a byte list and says how many bytes it took, so
that the caller can drop them. Offsets in errors are absolute: the caller passes the offset of the
first byte.

* Blanks are space, tab, line feed and carriage return.
* A number is scanned greedily as `-? digits ('.' digits)? ([eE] [+-]? digits)?` with every digit
  run possibly empty, and then judged: the integer part is non-empty without a leading zero, and a
  fraction or exponent that is begun has digits.
* A word is a letter followed by letters, digits and underscores; only `true`, `false` and `null`
  are tokens.
* A string's raw bytes and decoded escapes are gathered up to the closing quote, and the whole
  content must then be well-formed UTF-8.
-/

set_option autoImplicit false

namespace JsonProbe.Token

/-- Space, tab, line feed and carriage return separate tokens. -/
def isBlank (b : UInt8) : Bool :=
  b == 0x20 || b == 0x09 || b == 0x0A || b == 0x0D

/-- An ASCII decimal digit. -/
def isDigit (b : UInt8) : Bool :=
  0x30 ≤ b && b ≤ 0x39

/-- An ASCII letter. -/
def isLetter (b : UInt8) : Bool :=
  (0x41 ≤ b && b ≤ 0x5A) || (0x61 ≤ b && b ≤ 0x7A)

/-- A byte that continues a word: a letter, a digit or an underscore. -/
def isWordByte (b : UInt8) : Bool :=
  isLetter b || isDigit b || b == 0x5F

/-- The value of an ASCII hexadecimal digit of either case. -/
def hexValue? (b : UInt8) : Option Nat :=
  if isDigit b then some (b.toNat - 0x30)
  else if 0x41 ≤ b && b ≤ 0x46 then some (b.toNat - 0x37)
  else if 0x61 ≤ b && b ≤ 0x66 then some (b.toNat - 0x57)
  else none

/-- Bytes shown as text, read lossily. -/
def bytesText (bs : List UInt8) : String :=
  String.ofList (Utf8.decodeLossy bs)

/-- The bytes of an ASCII text. -/
def asciiBytes (s : String) : List UInt8 :=
  s.toList.map fun c => c.toNat.toUInt8

/-! ## Numbers -/

/-- A run of digits at the front, and the bytes after it. -/
def digits (bs : List UInt8) : List UInt8 × List UInt8 :=
  (bs.takeWhile isDigit, bs.dropWhile isDigit)

/-- The fraction part at the front: a point and the digits after it, if a point comes next. The
flag says whether the part is acceptable: absent, or with at least one digit. -/
def fraction : List UInt8 → List UInt8 × Bool
  | 0x2E :: rest => let ds := (digits rest).1; (0x2E :: ds, !ds.isEmpty)
  | _ => ([], true)

/-- The exponent part at the front: `e` or `E`, an optional sign and digits, if an `e` or `E`
comes next. The flag says whether the part is acceptable: absent, or with at least one digit. -/
def exponent (bs : List UInt8) : List UInt8 × Bool :=
  match bs with
  | e :: rest =>
    if e == 0x65 || e == 0x45 then
      match rest with
      | s :: more =>
        if s == 0x2B || s == 0x2D then
          let ds := (digits more).1
          (e :: s :: ds, !ds.isEmpty)
        else
          let ds := (digits rest).1
          (e :: ds, !ds.isEmpty)
      | [] => ([e], false)
    else ([], true)
  | [] => ([], true)

/-- The integer part is acceptable when it has digits and no leading zero. -/
def integerOk (ds : List UInt8) : Bool :=
  match ds with
  | [] => false
  | [_] => true
  | d :: _ => d != 0x30

/-- The bytes a number scan takes from the front of the list, and whether they form a JSON
number. -/
def numberText (bs : List UInt8) : List UInt8 × Bool :=
  let (sign, body) : List UInt8 × List UInt8 :=
    match bs with
    | 0x2D :: rest => ([0x2D], rest)
    | _ => ([], bs)
  let (int, afterInt) := digits body
  let (frac, fracOk) := fraction afterInt
  let (exp, expOk) := exponent (afterInt.drop frac.length)
  (sign ++ int ++ frac ++ exp, integerOk int && fracOk && expOk)

/-! ## Words -/

/-- The token a word stands for, if it is one of JSON's three. -/
def ofWord? (word : List UInt8) : Option Token :=
  if word = asciiBytes "true" then some (.boolean true)
  else if word = asciiBytes "false" then some (.boolean false)
  else if word = asciiBytes "null" then some .null
  else none

/-! ## Strings -/

/-- The character a one-letter escape stands for. -/
def simpleEscape? : UInt8 → Option Char
  | 0x22 => some '"'
  | 0x5C => some '\\'
  | 0x2F => some '/'
  | 0x62 => some '\x08'
  | 0x66 => some '\x0c'
  | 0x6E => some '\n'
  | 0x72 => some '\r'
  | 0x74 => some '\t'
  | _ => none

/-- The value of four hexadecimal digits. -/
def quad? (a b c d : UInt8) : Option Nat := do
  let va ← hexValue? a
  let vb ← hexValue? b
  let vc ← hexValue? c
  let vd ← hexValue? d
  pure (((va * 16 + vb) * 16 + vc) * 16 + vd)

/-- A code unit that opens a surrogate pair. -/
def isHighSurrogate (n : Nat) : Bool := 0xD800 ≤ n && n ≤ 0xDBFF

/-- A code unit that closes a surrogate pair. -/
def isLowSurrogate (n : Nat) : Bool := 0xDC00 ≤ n && n ≤ 0xDFFF

/-- The character a `\u` escape stands for, given the bytes after the `u`, and how many of them
it takes. A high surrogate must be followed by an escaped low surrogate; a low surrogate may not
stand alone. On failure the escape is quoted as written from its backslash up to the first byte
that could not be taken: `written k` quotes `k` bytes. -/
def unicodeEscape (offset : Nat) (bs : List UInt8) : Except LexError (Char × Nat) :=
  let written (k : Nat) : LexError := .invalidEscape (bytesText ((0x5C :: 0x75 :: bs).take k)) offset
  match bs with
  | a :: b :: c :: d :: rest =>
    match quad? a b c d with
    | none => .error (written 2)
    | some high =>
      if isHighSurrogate high then
        match rest with
        | 0x5C :: 0x75 :: a' :: b' :: c' :: d' :: _ =>
          match quad? a' b' c' d' with
          | none => .error (written 8)
          | some low =>
            if isLowSurrogate low then
              .ok (Char.ofNat (0x10000 + (high - 0xD800) * 0x400 + (low - 0xDC00)), 10)
            else .error (written 12)
        | 0x5C :: 0x75 :: _ => .error (written 8)
        | _ => .error (written 6)
      else if isLowSurrogate high then .error (written 6)
      else .ok (Char.ofNat high, 4)
  | _ => .error (written 2)

/-- The encoded character an escape stands for, given the bytes after the backslash at `offset`,
and how many of them it takes. -/
def escape (offset : Nat) : List UInt8 → Except LexError (List UInt8 × Nat)
  | [] => .error (.unterminatedString offset)
  | 0x75 :: rest =>
    match unicodeEscape offset rest with
    | .ok (c, k) => .ok (Utf8.encode c, k + 1)
    | .error e => .error e
  | e :: _ =>
    match simpleEscape? e with
    | some c => .ok (Utf8.encode c, 1)
    | none => .error (.invalidEscape ("\\" ++ String.singleton (Char.ofNat e.toNat)) offset)

/-- Reads the content of a string that opened at `start`, from the byte at `offset` on. `acc`
holds the content gathered so far, latest byte first. The result is the decoded content and the
offset after the closing quote. -/
def stringBody (start offset : Nat) (acc : List UInt8) (bs : List UInt8) :
    Except LexError (String × Nat) :=
  match bs with
  | [] => .error (.unterminatedString start)
  | b :: rest =>
    if b == 0x22 then
      match Utf8.decode? acc.reverse with
      | some cs => .ok (String.ofList cs, offset + 1)
      | none => .error (.invalidUtf8 start)
    else if b == 0x5C then
      match escape offset rest with
      | .error e => .error e
      | .ok (out, k) => stringBody start (offset + 1 + k) (out.reverse ++ acc) (rest.drop k)
    else if b < 0x20 then .error (.controlCharacter b offset)
    else stringBody start (offset + 1) (b :: acc) rest
termination_by bs.length
decreasing_by
  all_goals simp only [List.length_cons, List.length_drop]
  all_goals omega

/-! ## One token -/

/-- Reads the token whose first byte `b`, at `offset`, is not a blank; `rest` follows it. The
result is the token and how many bytes of `rest` it takes besides `b`. A byte that starts no
token is reported as the first character of the lossy reading from it on. -/
def scan (offset : Nat) (b : UInt8) (rest : List UInt8) : Except LexError (Token × Nat) :=
  if b == 0x7B then .ok (.lbrace, 0)
  else if b == 0x7D then .ok (.rbrace, 0)
  else if b == 0x5B then .ok (.lbracket, 0)
  else if b == 0x5D then .ok (.rbracket, 0)
  else if b == 0x3A then .ok (.colon, 0)
  else if b == 0x2C then .ok (.comma, 0)
  else if b == 0x22 then
    match stringBody offset (offset + 1) [] rest with
    | .ok (value, finish) => .ok (.string value, finish - offset - 1)
    | .error e => .error e
  else if b == 0x2D || isDigit b then
    let (text, ok) := numberText (b :: rest)
    if ok then .ok (.number (bytesText text), text.length - 1)
    else .error (.invalidNumber (bytesText text) offset)
  else if isLetter b then
    let word := (b :: rest).takeWhile isWordByte
    match ofWord? word with
    | some t => .ok (t, word.length - 1)
    | none => .error (.unknownIdentifier (bytesText word) offset)
  else .error (.unexpectedChar (Utf8.firstLossy b rest) offset)

end JsonProbe.Token
