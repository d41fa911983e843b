import JsonProbe.Json.TokenStream
/-!
# The lexer as a cursor

The lexer as the program keeps it: the input, a cursor into it, and the offset where the latest
token began.  Each action moves the cursor and ends with a value or a fault; either way the lexer
keeps the cursor where the action left it, and a later call starts from there.  A slice or an
index that falls outside the input aborts the program (`Fault.outOfRange`); a range asked for
with `get` is checked instead (`slice?`).

The cursor only moves forward (`Forward`); that is how the loop over a string's body ends.
-/

set_option autoImplicit false

namespace JsonProbe

/-- The lexer: its input, the cursor, and the offset where the latest token began. -/
structure Lexer where
  input : List UInt8
  position : Nat
  tokenStart : Nat
  deriving DecidableEq, Repr

/-- Why a lexer action stops early: a lexical error, or a slice or index outside the input,
which aborts the program. -/
inductive Fault where
  | lex (error : LexError)
  | outOfRange
  deriving DecidableEq, Repr

namespace Lexer

open Token

/-- How a lexer action ends: with a value or a fault, and in both cases the lexer as the action
left it. -/
inductive Outcome (α : Type) where
  | ok (value : α) (lexer : Lexer)
  | fault (fault : Fault) (lexer : Lexer)
  deriving Repr

/-- The lexer an action left, whichever way it ended. -/
def Outcome.lexer {α : Type} : Outcome α → Lexer
  | .ok _ l => l
  | .fault _ l => l

/-- A lexer at the start of `input`. -/
def new (input : List UInt8) : Lexer := ⟨input, 0, 0⟩

/-- The byte under the cursor, if there is one. -/
def currentByte (l : Lexer) : Option UInt8 := l.input[l.position]?

/-- The cursor `n` bytes on. -/
def skip (l : Lexer) (n : Nat) : Lexer := { l with position := l.position + n }

/-- The bytes from offset `lo` up to `hi`, if that range lies within the input. -/
def slice? (l : Lexer) (lo hi : Nat) : Option (List UInt8) :=
  if lo ≤ hi ∧ hi ≤ l.input.length then some ((l.input.take hi).drop lo) else none

/-- The cursor past the bytes that satisfy `p`: the loops that skip blanks, read a word and read
digits. -/
def skipWhile (p : UInt8 → Bool) (l : Lexer) : Lexer :=
  match h : l.currentByte with
  | some b =>
    have : l.position < l.input.length := (List.getElem?_eq_some_iff.mp h).1
    if p b then skipWhile p (l.skip 1) else l
  | none => l
termination_by l.input.length - l.position
decreasing_by
  simp only [skip]
  omega

/-! ## Numbers and words -/

/-- The cursor past a run of digits, and how many there were. -/
def readDigits (l : Lexer) : Lexer × Nat :=
  let l' := l.skipWhile isDigit
  (l', l'.position - l.position)

/-- Whether `count` digits from `intStart` on form an acceptable integer part: at least one, and
no leading zero in a run of two or more.  The first digit is indexed only for such a run; `none`
means that index falls outside the input. -/
def integerOk? (l : Lexer) (intStart count : Nat) : Option Bool :=
  if count = 0 then some false
  else if 1 < count then l.input[intStart]?.map (· != 0x30)
  else some true

/-- The fraction part, if a point is under the cursor: the cursor past the point and its digits,
and whether the part has a digit.  Without a point the part is absent, which is acceptable. -/
def readFraction (l : Lexer) : Lexer × Bool :=
  if l.currentByte = some 0x2E then
    let d := (l.skip 1).readDigits
    (d.1, d.2 != 0)
  else (l, true)

/-- The exponent part, if `e` or `E` is under the cursor: the cursor past the mark, an optional
sign and the digits, and whether the part has a digit.  Without a mark the part is absent. -/
def readExponent (l : Lexer) : Lexer × Bool :=
  if l.currentByte = some 0x65 ∨ l.currentByte = some 0x45 then
    let marked := l.skip 1
    let signed :=
      if marked.currentByte = some 0x2B ∨ marked.currentByte = some 0x2D then marked.skip 1
      else marked
    let d := signed.readDigits
    (d.1, d.2 != 0)
  else (l, true)

/-- Reads a number from the cursor on: greedily an optional minus, digits, a fraction and an
exponent, and then judges what it read. -/
def readNumber (l : Lexer) : Outcome Token :=
  let start := l.position
  let signed := if l.currentByte = some 0x2D then l.skip 1 else l
  let int := signed.readDigits
  match int.1.integerOk? signed.position int.2 with
  | none => .fault .outOfRange int.1
  | some intOk =>
    let frac := readFraction int.1
    let exp := readExponent frac.1
    match exp.1.slice? start exp.1.position with
    | none => .fault .outOfRange exp.1
    | some text =>
      if intOk && frac.2 && exp.2 then .ok (.number (bytesText text)) exp.1
      else .fault (.lex (.invalidNumber (bytesText text) start)) exp.1

/-- Reads a word from the cursor on; only `true`, `false` and `null` are tokens. -/
def readIdentifier (l : Lexer) : Outcome Token :=
  let start := l.position
  let l' := l.skipWhile isWordByte
  match l'.slice? start l'.position with
  | none => .fault .outOfRange l'
  | some text =>
    match ofWord? text with
    | some t => .ok t l'
    | none => .fault (.lex (.unknownIdentifier (bytesText text) start)) l'

/-! ## Strings -/

/-- The error for an escape that cannot be read, quoting it from its backslash at `escapeStart`
up to the cursor. -/
def invalidEscape {α : Type} (escapeStart : Nat) (l : Lexer) : Outcome α :=
  match l.slice? escapeStart (min l.position l.input.length) with
  | none => .fault .outOfRange l
  | some text => .fault (.lex (.invalidEscape (bytesText text) escapeStart)) l

/-- Reads four hexadecimal digits under the cursor as a code unit. -/
def readHex4 (escapeStart : Nat) (l : Lexer) : Outcome Nat :=
  match l.slice? l.position (l.position + 4) with
  | some [a, b, c, d] =>
    match quad? a b c d with
    | some n => .ok n (l.skip 4)
    | none => invalidEscape escapeStart l
  | _ => invalidEscape escapeStart l

/-- The character of a code point, if it is a Unicode scalar value. -/
def scalar (escapeStart code : Nat) (l : Lexer) : Outcome Char :=
  if code.isValidChar then .ok (Char.ofNat code) l else invalidEscape escapeStart l

/-- Reads the code of a `\u` escape from just after its `u`.  A high surrogate must be followed by
an escaped low surrogate; a low surrogate may not stand alone. -/
def readUnicodeEscape (escapeStart : Nat) (l : Lexer) : Outcome Char :=
  match readHex4 escapeStart l with
  | .fault f l => .fault f l
  | .ok high l =>
    if isHighSurrogate high then
      if l.slice? l.position (l.position + 2) = some [0x5C, 0x75] then
        match readHex4 escapeStart (l.skip 2) with
        | .fault f l => .fault f l
        | .ok low l =>
          if isLowSurrogate low then
            scalar escapeStart (0x10000 + (high - 0xD800) * 0x400 + (low - 0xDC00)) l
          else invalidEscape escapeStart l
      else invalidEscape escapeStart l
    else if isLowSurrogate high then invalidEscape escapeStart l
    else scalar escapeStart high l

/-- Reads the escape whose backslash is at `escapeStart`, from just after the backslash. -/
def readEscape (escapeStart : Nat) (l : Lexer) : Outcome Char :=
  match l.currentByte with
  | none => .fault (.lex (.unterminatedString escapeStart)) l
  | some b =>
    if b = 0x75 then readUnicodeEscape escapeStart (l.skip 1)
    else
      match simpleEscape? b with
      | some c => .ok c (l.skip 1)
      | none =>
        .fault (.lex (.invalidEscape ("\\" ++ String.singleton (Char.ofNat b.toNat)) escapeStart))
          (l.skip 1)

/-- The cursor is at or after where it was, over the same input, with the same token start. -/
structure Forward (l l' : Lexer) : Prop where
  input : l'.input = l.input
  tokenStart : l'.tokenStart = l.tokenStart
  position : l.position ≤ l'.position

theorem Forward.refl (l : Lexer) : Forward l l := ⟨rfl, rfl, Nat.le_refl _⟩

theorem Forward.trans {l l' l'' : Lexer} (h : Forward l l') (h' : Forward l' l'') :
    Forward l l'' :=
  ⟨h'.input.trans h.input, h'.tokenStart.trans h.tokenStart, Nat.le_trans h.position h'.position⟩

theorem forward_skip (l : Lexer) (n : Nat) : Forward l (l.skip n) :=
  ⟨rfl, rfl, Nat.le_add_right _ _⟩

theorem invalidEscape_lexer {α : Type} (escapeStart : Nat) (l : Lexer) :
    (invalidEscape (α := α) escapeStart l).lexer = l := by
  unfold invalidEscape
  split <;> rfl

theorem readHex4_forward (escapeStart : Nat) (l : Lexer) :
    Forward l (readHex4 escapeStart l).lexer := by
  unfold readHex4
  split
  · split
    · exact forward_skip l 4
    · rw [invalidEscape_lexer]
      exact Forward.refl l
  · rw [invalidEscape_lexer]
    exact Forward.refl l

theorem scalar_lexer (escapeStart code : Nat) (l : Lexer) :
    (scalar escapeStart code l).lexer = l := by
  unfold scalar
  split
  · rfl
  · exact invalidEscape_lexer escapeStart l

theorem readUnicodeEscape_forward (escapeStart : Nat) (l : Lexer) :
    Forward l (readUnicodeEscape escapeStart l).lexer := by
  have first := readHex4_forward escapeStart l
  unfold readUnicodeEscape
  split
  · rename_i f l' read
    rw [read] at first
    exact first
  · rename_i high l' read
    rw [read] at first
    -- every way on ends at the lexer the first code unit left, or one the second read moved
    split
    · split
      · have second := readHex4_forward escapeStart (l'.skip 2)
        split
        · rename_i f l'' read'
          rw [read'] at second
          exact first.trans ((forward_skip l' 2).trans second)
        · rename_i low l'' read'
          rw [read'] at second
          have moved := first.trans ((forward_skip l' 2).trans second)
          split
          · rwa [scalar_lexer]
          · rwa [invalidEscape_lexer]
      · rwa [invalidEscape_lexer]
    · split
      · rwa [invalidEscape_lexer]
      · rwa [scalar_lexer]

theorem readEscape_forward (escapeStart : Nat) (l : Lexer) :
    Forward l (readEscape escapeStart l).lexer := by
  unfold readEscape
  split
  · exact Forward.refl l
  · split
    · exact (forward_skip l 1).trans (readUnicodeEscape_forward escapeStart (l.skip 1))
    · split
      · exact forward_skip l 1
      · exact forward_skip l 1

/-- Gathers a string's content after its opening quote at `start`, raw bytes as they are and each
escape as the UTF-8 encoding of its character, up to the closing quote; `result` holds what was
gathered so far. -/
def readStringBody (start : Nat) (result : List UInt8) (l : Lexer) : Outcome (List UInt8) :=
  match h : l.currentByte with
  | none => .fault (.lex (.unterminatedString start)) l
  | some b =>
    have inside : l.position < l.input.length := (List.getElem?_eq_some_iff.mp h).1
    if b = 0x22 then .ok result (l.skip 1)
    else if b = 0x5C then
      match e : readEscape l.position (l.skip 1) with
      | .ok c l' =>
        -- an escape takes its backslash and at least the byte after it
        have moved : Forward (l.skip 1) l' := by
          have := readEscape_forward l.position (l.skip 1)
          rwa [e] at this
        readStringBody start (result ++ Utf8.encode c) l'
      | .fault f l' => .fault f l'
    else if b < 0x20 then .fault (.lex (.controlCharacter b l.position)) l
    else readStringBody start (result ++ [b]) (l.skip 1)
termination_by l.input.length - l.position
decreasing_by
  · have same := moved.input
    have far := moved.position
    simp only [skip] at same far
    rw [same]
    omega
  · simp only [skip]
    omega

/-- Reads a string whose opening quote is under the cursor; its content must be UTF-8. -/
def readString (l : Lexer) : Outcome Token :=
  let start := l.position
  match readStringBody start [] (l.skip 1) with
  | .fault f l' => .fault f l'
  | .ok bytes l' =>
    match Utf8.decode? bytes with
    | some cs => .ok (.string (String.ofList cs)) l'
    | none => .fault (.lex (.invalidUtf8 start)) l'

/-! ## One token -/

/-- Reads the token that the byte `b` under the cursor starts.  A byte that starts no token is
reported as the first character of the lossy reading of the input from the cursor on. -/
def readToken (l : Lexer) (b : UInt8) : Outcome Token :=
  if b == 0x7B then .ok .lbrace (l.skip 1)
  else if b == 0x7D then .ok .rbrace (l.skip 1)
  else if b == 0x5B then .ok .lbracket (l.skip 1)
  else if b == 0x5D then .ok .rbracket (l.skip 1)
  else if b == 0x3A then .ok .colon (l.skip 1)
  else if b == 0x2C then .ok .comma (l.skip 1)
  else if b == 0x22 then l.readString
  else if b == 0x2D || isDigit b then l.readNumber
  else if isLetter b then l.readIdentifier
  else
    match l.slice? l.position l.input.length with
    | none => .fault .outOfRange l
    | some rest =>
      .fault (.lex (.unexpectedChar ((Utf8.decodeLossy rest).headD '�') l.position)) l

/-- The lexer with the blanks before the next token skipped, noting that the token begins there. -/
def atToken (l : Lexer) : Lexer :=
  let l := l.skipWhile isBlank
  { l with tokenStart := l.position }

/-- Skips blanks, notes where the next token begins, and reads it; at the end of the input the
token is `eof`. -/
def nextToken (l : Lexer) : Outcome Token :=
  let l := l.atToken
  match l.currentByte with
  | none => .ok .eof l
  | some b => l.readToken b

/-- The loop that calls `nextToken` until the end of input or an error, with room for `calls`
calls: the tokens read, each at the offset where it began, and how the loop ended.  `none` when
the calls run out first, or when the program aborts. -/
def lexLoop : Nat → Lexer → Option TokenStream
  | 0, _ => none
  | calls + 1, l =>
    match l.nextToken with
    | .ok .eof l' => some (.eof l'.tokenStart)
    | .ok t l' => (lexLoop calls l').map (.cons ⟨t, l'.tokenStart⟩)
    | .fault (.lex e) _ => some (.failure e)
    | .fault .outOfRange _ => none

end Lexer

end JsonProbe
