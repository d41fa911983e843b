import JsonProbe.Regex.Syntax
import JsonProbe.Regex.Error
import JsonProbe.Regex.Unicode.Class
import JsonProbe.Regex.Unicode.NameChars
import JsonProbe.Text.Blank
/-!
# Reading a pattern into a syntax tree

The reader walks the pattern once, left to right, and reports the first error it meets. Open
groups and alternations wait on one stack, open brackets and class operators on another. Between
items it skips white space and `#` comments while the `x` flag is on; the flag holds until the end
of the group that set it.

Its rules, in brief:

* `(` opens a group: a capture (optionally named by `?P<name>` or `?<name>`), a non-capturing group
  `(?flags:...)`, or a flag directive `(?flags)` that holds for the rest of the group. Look-around
  (`?=`, `?!`, `?<=`, `?<!`) is refused.
* `?`, `*`, `+` and `{m}`, `{m,}`, `{m,n}` repeat the item before them, which must exist and not be
  empty or a flag directive; a `?` after them makes them lazy. Counts skip white space around their
  digits and must fit in 32 bits.
* `\` escapes: hexadecimal (`\x`, `\u`, `\U`, fixed width or in braces), Unicode classes `\p`,
  `\P`, Perl classes, special literals, assertions (with `\b{start}` and friends), and any ASCII
  punctuation. Digits are refused as backreferences; other letters are unrecognized.
* `[` opens a class: a leading `^` negates, leading `-` and a first `]` are literals, `[:name:]`
  names an ASCII class inside brackets, ranges join two literals, and `&&`, `--`, `~~` combine sets
  from left to right.

Every loop here advances the pattern, so each is bounded by the pattern's length, given as fuel.
-/

set_option autoImplicit false

namespace JsonProbe.Regex

namespace Parse

/-- The items of a concatenation being read, with its span. -/
structure Concat where
  span : Span
  asts : List Ast

/-- Adds an item to a concatenation. -/
def Concat.push (c : Concat) (a : Ast) : Concat := { c with asts := c.asts ++ [a] }

/-- A concatenation as an expression: empty, its single item, or the sequence. -/
def Concat.toAst (c : Concat) : Ast :=
  match c.asts with
  | [] => .empty c.span
  | [a] => a
  | _ => .concat c.span c.asts

/-- The span of a class item. -/
def ClassSetItem.span : ClassSetItem → Span
  | .empty s => s
  | .literal lit => lit.span
  | .range s _ _ => s
  | .ascii c => c.span
  | .unicode c => c.span
  | .perl c => c.span
  | .bracketed s _ _ => s
  | .union s _ => s

/-- The items of a class union being read, with its span. -/
structure Union where
  span : Span
  items : List ClassSetItem

/-- Adds an item to a union; the span grows to cover it. -/
def Union.push (u : Union) (item : ClassSetItem) : Union :=
  let s := ClassSetItem.span item
  { span := ⟨if u.items.isEmpty then s.start else u.span.start, s.stop⟩, items := u.items ++ [item] }

/-- A union as one item: empty, its single item, or the union. -/
def Union.toItem (u : Union) : ClassSetItem :=
  match u.items with
  | [] => .empty u.span
  | [i] => i
  | _ => .union u.span u.items

/-- An open group, or the branches of an alternation read so far. -/
inductive GroupState where
  | group (prior : Concat) (kind : GroupKind) (openSpan : Span) (ignoreWs : Bool)
  | alternation (span : Span) (asts : List Ast)

/-- An open bracket, or the left side of a class operator. -/
inductive ClassState where
  | opened (parent : Union) (setSpan : Span) (negated : Bool)
  | op (kind : ClassSetOp) (lhs : ClassSet)

/-- The reader's state. -/
structure State where
  pattern : String
  rest : List Char
  pos : Position
  ignoreWs : Bool := false
  captureIndex : Nat := 0
  captureNames : List (String × Span) := []
  groups : List GroupState := []
  classes : List ClassState := []

/-- The reader. -/
abbrev ParserM := StateT State (Except Error)

/-- Stops with an error. -/
def fail {α : Type} (span : Span) (kind : ErrorKind) : ParserM α := do
  throw ⟨(← get).pattern, kind, span⟩

/-- The character at the cursor. -/
def current? : ParserM (Option Char) := return (← get).rest.head?

/-- The character at the cursor, or a space at the end (callers check the end first). -/
def current : ParserM Char := return (← get).rest.headD ' '

/-- Whether the cursor is at the end. -/
def isEof : ParserM Bool := return (← get).rest.isEmpty

/-- The cursor's position. -/
def pos : ParserM Position := return (← get).pos

/-- The empty span at the cursor. -/
def here : ParserM Span := return Span.at (← get).pos

/-- The span of the character at the cursor. -/
def spanChar : ParserM Span := do
  let s ← get
  match s.rest with
  | c :: _ => return ⟨s.pos, s.pos.advance c⟩
  | [] => return Span.at s.pos

/-- Moves past one character; says whether a character follows. -/
def bump : ParserM Bool := do
  let s ← get
  match s.rest with
  | [] => return false
  | c :: r =>
    set { s with rest := r, pos := s.pos.advance c }
    return !r.isEmpty

/-- Moves past `lead` if the pattern continues with it. -/
def bumpIf (lead : String) : ParserM Bool := do
  let s ← get
  let l := lead.toList
  if l.isPrefixOf s.rest then
    set { s with rest := s.rest.drop l.length, pos := l.foldl Position.advance s.pos }
    return true
  else return false

/-- Skips white space, and `#` comments up to the end of their line. -/
def skipBlank (inComment : Bool) : Position → List Char → Position × List Char
  | p, [] => (p, [])
  | p, c :: r =>
    if inComment then skipBlank (c != '\n') (p.advance c) r
    else if Blank.isWhiteSpace c then skipBlank false (p.advance c) r
    else if c == '#' then skipBlank true (p.advance c) r
    else (p, c :: r)

/-- Skips white space and comments when the `x` flag is on. -/
def bumpSpace : ParserM Unit := do
  let s ← get
  if s.ignoreWs then
    let (p, r) := skipBlank false s.pos s.rest
    set { s with pos := p, rest := r }

/-- Moves past one character and then past white space; says whether a character follows. -/
def bumpAndBumpSpace : ParserM Bool := do
  if !(← bump) then return false
  bumpSpace
  return !(← isEof)

/-- The character after the cursor. -/
def peek : ParserM (Option Char) := return (← get).rest.tail.head?

/-- The first character after the cursor that is not white space nor the first `#`, when the `x`
flag is on; otherwise the next character. -/
def peekSpace : ParserM (Option Char) := do
  let s ← get
  if !s.ignoreWs then return s.rest.tail.head?
  match s.rest with
  | [] => return none
  | _ :: after =>
    let rec scan (inComment : Bool) : List Char → Option Char
      | [] => none
      | c :: r =>
        if Blank.isWhiteSpace c then scan inComment r
        else if !inComment && c == '#' then scan true r
        else some c
    return (scan false after).orElse fun _ => after.head?

/-- Characters that are meta characters and may be escaped. -/
def isMeta (c : Char) : Bool :=
  "\\.+*?()|[]{}^$#&-~".toList.contains c

/-- Characters that may be escaped: meta characters, and ASCII other than letters, digits, `<`
and `>`. -/
def isEscapable (c : Char) : Bool :=
  isMeta c || (c.toNat < 0x80 && !c.isAlphanum && c != '<' && c != '>')

/-- Hexadecimal digits. -/
def isHex (c : Char) : Bool :=
  c.isDigit || ('a' ≤ c && c ≤ 'f') || ('A' ≤ c && c ≤ 'F')

/-- A character of a capture name: a letter or `_` first, then also digits, `.`, `[` and `]`;
letters and digits are Alphabetic and Numeric by Unicode 17.0. -/
def isCaptureChar (c : Char) (first : Bool) : Bool :=
  if first then c == '_' || Unicode.nameAlphabetic.contains c.toNat
  else c == '_' || c == '.' || c == '[' || c == ']' ||
    Unicode.nameAlphabetic.contains c.toNat || Unicode.nameNumeric.contains c.toNat

/-- The character of a code point, if it is a Unicode scalar value. -/
def scalar? (n : Nat) : Option Char :=
  if n ≤ 0x10FFFF && !(0xD800 ≤ n && n ≤ 0xDFFF) then some (Char.ofNat n) else none

/-- The value of a numeral in a base. -/
def numeral (base : Nat) (digits : List Char) : Nat :=
  digits.foldl (fun n c => base * n + CharSet.hexDigit c) 0

/-! ## Primitives -/

/-- An item that needs no stack: a literal, an assertion, a dot or a class escape. -/
inductive Primitive where
  | literal (lit : Literal)
  | assertion (span : Span) (kind : AssertionKind)
  | dot (span : Span)
  | perl (cls : PerlClass)
  | unicode (cls : UnicodeClass)

/-- The span of a primitive. -/
def Primitive.span : Primitive → Span
  | .literal lit => lit.span
  | .assertion s _ => s
  | .dot s => s
  | .perl c => c.span
  | .unicode c => c.span

/-- A primitive as an expression. -/
def Primitive.toAst : Primitive → Ast
  | .literal lit => .literal lit
  | .assertion s k => .assertion s k
  | .dot s => .dot s
  | .perl c => .perlClass c
  | .unicode c => .unicodeClass c

/-- A primitive as a class item: assertions and dots cannot stand in a class. -/
def Primitive.toClassItem (p : Primitive) : ParserM ClassSetItem :=
  match p with
  | .literal lit => return .literal lit
  | .perl c => return .perl c
  | .unicode c => return .unicode c
  | other => fail other.span .classEscapeInvalid

/-- A primitive as a range end: only literals bound ranges. -/
def Primitive.toClassLiteral (p : Primitive) : ParserM Literal :=
  match p with
  | .literal lit => return lit
  | other => fail other.span .classRangeLiteral

/-- Reads `count` hexadecimal digits, the first at the cursor. -/
def hexDigits (first : Bool) : Nat → List Char → ParserM (List Char)
  | 0, acc => return acc
  | n + 1, acc => do
    if !first then
      if !(← bumpAndBumpSpace) then fail (← here) .escapeUnexpectedEof
    let c ← current
    if !isHex c then fail (← spanChar) .escapeHexInvalidDigit
    hexDigits false n (acc ++ [c])

/-- Reads a fixed-width hexadecimal escape, from its first digit. -/
def parseHexDigits (w : HexWidth) : ParserM Literal := do
  let start ← pos
  let count := match w with
    | .x => 2
    | .short => 4
    | .long => 8
  let digits ← hexDigits true count []
  let _ ← bumpAndBumpSpace
  let stop ← pos
  match scalar? (numeral 16 digits) with
  | some c => return ⟨⟨start, stop⟩, .hexFixed w, c⟩
  | none => fail ⟨start, stop⟩ .escapeHexInvalid

/-- Reads hexadecimal digits up to a closing brace. -/
def braceDigits : Nat → List Char → ParserM (List Char)
  | 0, acc => return acc
  | fuel + 1, acc => do
    if !(← bumpAndBumpSpace) then return acc
    let c ← current
    if c == '}' then return acc
    if !isHex c then fail (← spanChar) .escapeHexInvalidDigit
    braceDigits fuel (acc ++ [c])

/-- Reads a hexadecimal escape in braces, from the opening brace. -/
def parseHexBrace (w : HexWidth) : ParserM Literal := do
  let bracePos ← pos
  let start := (← spanChar).stop
  let digits ← braceDigits ((← get).rest.length + 1) []
  if ← isEof then fail ⟨bracePos, ← pos⟩ .escapeUnexpectedEof
  let stop ← pos
  let _ ← bumpAndBumpSpace
  if digits.isEmpty then fail ⟨bracePos, ← pos⟩ .escapeHexEmpty
  let value := numeral 16 digits
  match (if value ≤ 0xFFFFFFFF then scalar? value else none) with
  | some c => return ⟨⟨start, ← pos⟩, .hexBrace w, c⟩
  | none => fail ⟨start, stop⟩ .escapeHexInvalid

/-- Reads a hexadecimal escape, from its `x`, `u` or `U`. -/
def parseHex : ParserM Literal := do
  let c ← current
  let w : HexWidth := if c == 'x' then .x else if c == 'u' then .short else .long
  if !(← bumpAndBumpSpace) then fail (← here) .escapeUnexpectedEof
  if (← current) == '{' then parseHexBrace w else parseHexDigits w

/-- Reads characters up to a closing brace. -/
def braceText : Nat → List Char → ParserM (List Char)
  | 0, acc => return acc
  | fuel + 1, acc => do
    if !(← bumpAndBumpSpace) then return acc
    let c ← current
    if c == '}' then return acc
    braceText fuel (acc ++ [c])

/-- The index of the first occurrence of `needle` in `hay`. -/
def indexOfSub (needle hay : List Char) : Option Nat :=
  let rec go : Nat → List Char → Option Nat
    | i, l => if needle.isPrefixOf l then some i else match l with
      | [] => none
      | _ :: r => go (i + 1) r
  go 0 hay

/-- What the text in the braces of `\p{...}` names: a name and a value around the first `!=`,
else around the first `:`, else around the first `=`, else a name alone. -/
def unicodeClassKind (name : List Char) : UnicodeClassKind :=
  let text (l : List Char) := String.ofList l
  match indexOfSub ['!', '='] name with
  | some i => .namedValue .notEqual (text (name.take i)) (text (name.drop (i + 2)))
  | none =>
    match name.findIdx? (· == ':'), name.findIdx? (· == '=') with
    | some i, _ => .namedValue .colon (text (name.take i)) (text (name.drop (i + 1)))
    | none, some i => .namedValue .equal (text (name.take i)) (text (name.drop (i + 1)))
    | none, none => .named (text name)

/-- Reads a Unicode class escape, from its `p` or `P`. -/
def parseUnicodeClass : ParserM UnicodeClass := do
  let negated := (← current) == 'P'
  if !(← bumpAndBumpSpace) then fail (← here) .escapeUnexpectedEof
  if (← current) == '{' then
    let start := (← spanChar).stop
    let name ← braceText ((← get).rest.length + 1) []
    if ← isEof then fail (← here) .escapeUnexpectedEof
    let _ ← bump
    return ⟨⟨start, ← pos⟩, negated, unicodeClassKind name⟩
  else
    let start ← pos
    let c ← current
    if c == '\\' then fail (← spanChar) .unicodeClassInvalid
    let _ ← bumpAndBumpSpace
    return ⟨⟨start, ← pos⟩, negated, .oneLetter c⟩

/-- Reads a Perl class escape, from its letter. -/
def parsePerlClass : ParserM PerlClass := do
  let c ← current
  let span ← spanChar
  let _ ← bump
  let kind : PerlKind := if c == 'd' || c == 'D' then .digit else if c == 's' || c == 'S' then .space else .word
  return ⟨span, c == 'D' || c == 'S' || c == 'W', kind⟩

/-- A character of a special word boundary name. -/
def isBoundaryNameChar (c : Char) : Bool :=
  ('A' ≤ c && c ≤ 'Z') || ('a' ≤ c && c ≤ 'z') || c == '-'

/-- Reads the characters of a special word boundary name. -/
def boundaryName : Nat → List Char → ParserM (List Char)
  | 0, acc => return acc
  | fuel + 1, acc => do
    match ← current? with
    | some c =>
      if isBoundaryNameChar c then
        let _ ← bumpAndBumpSpace
        boundaryName fuel (acc ++ [c])
      else return acc
    | none => return acc

/-- Tries to read `{start}`, `{end}`, `{start-half}` or `{end-half}` after `\b`. Braces that do not
start with a letter or `-` are left for a counted repetition. -/
def maybeSpecialWordBoundary (wbStart : Position) : ParserM (Option AssertionKind) := do
  let saved ← get
  let start ← pos
  if !(← bumpAndBumpSpace) then fail ⟨wbStart, ← pos⟩ .specialWordOrRepetitionUnexpectedEof
  let startContents ← pos
  if !isBoundaryNameChar (← current) then
    set saved
    return none
  let name ← boundaryName ((← get).rest.length + 1) []
  if (← isEof) || (← current) != '}' then fail ⟨start, ← pos⟩ .specialWordBoundaryUnclosed
  let stop ← pos
  let _ ← bump
  match String.ofList name with
  | "start" => return some .wordBoundaryStart
  | "end" => return some .wordBoundaryEnd
  | "start-half" => return some .wordBoundaryStartHalf
  | "end-half" => return some .wordBoundaryEndHalf
  | _ => fail ⟨startContents, stop⟩ .specialWordBoundaryUnrecognized

/-- Reads an escape, from its backslash. -/
def parseEscape : ParserM Primitive := do
  let start ← pos
  if !(← bump) then fail ⟨start, ← pos⟩ .escapeUnexpectedEof
  let c ← current
  if c.isDigit then fail ⟨start, (← spanChar).stop⟩ .unsupportedBackreference
  if c == 'x' || c == 'u' || c == 'U' then
    let lit ← parseHex
    return .literal { lit with span := ⟨start, lit.span.stop⟩ }
  if c == 'p' || c == 'P' then
    let cls ← parseUnicodeClass
    return .unicode { cls with span := ⟨start, cls.span.stop⟩ }
  if "dswDSW".toList.contains c then
    let cls ← parsePerlClass
    return .perl { cls with span := ⟨start, cls.span.stop⟩ }
  let _ ← bump
  let span : Span := ⟨start, ← pos⟩
  if isMeta c then return .literal ⟨span, .metaChar, c⟩
  if isEscapable c then return .literal ⟨span, .superfluous, c⟩
  match c with
  | 'a' => return .literal ⟨span, .special, '\x07'⟩
  | 'f' => return .literal ⟨span, .special, '\x0c'⟩
  | 't' => return .literal ⟨span, .special, '\t'⟩
  | 'n' => return .literal ⟨span, .special, '\n'⟩
  | 'r' => return .literal ⟨span, .special, '\r'⟩
  | 'v' => return .literal ⟨span, .special, '\x0b'⟩
  | 'A' => return .assertion span .startText
  | 'z' => return .assertion span .endText
  | 'b' =>
    if (← current?) == some '{' then
      match ← maybeSpecialWordBoundary start with
      | some kind => return .assertion ⟨start, ← pos⟩ kind
      | none => return .assertion span .wordBoundary
    else return .assertion span .wordBoundary
  | 'B' => return .assertion span .notWordBoundary
  | '<' => return .assertion span .wordBoundaryStartAngle
  | '>' => return .assertion span .wordBoundaryEndAngle
  | _ => fail span .escapeUnrecognized

/-- Reads a primitive at the cursor. -/
def parsePrimitive : ParserM Primitive := do
  let c ← current
  if c == '\\' then parseEscape
  else
    let span ← spanChar
    let _ ← bump
    if c == '.' then return .dot span
    else if c == '^' then return .assertion span .startLine
    else if c == '$' then return .assertion span .endLine
    else return .literal ⟨span, .verbatim, c⟩

/-! ## Repetitions -/

/-- A repeated item must exist and be neither empty nor a flag directive. -/
def repeatable? (concat : Concat) : Option Ast :=
  match concat.asts.getLast? with
  | some (.empty _) => none
  | some (.flags _ _) => none
  | other => other

/-- Reads `?`, `*` or `+` after an item. -/
def parseUncountedRepetition (concat : Concat) (kind : RepetitionKind) : ParserM Concat := do
  let opStart ← pos
  match repeatable? concat with
  | none => fail (← here) .repetitionMissing
  | some ast =>
    let more ← bump
    let greedy ← if more && (← current) == '?' then do let _ ← bump; pure false else pure true
    let stop ← pos
    return { concat with asts := concat.asts.dropLast }.push
      (.repetition ⟨ast.span.start, stop⟩ ⟨opStart, stop⟩ kind greedy ast)

/-- Skips white space (Unicode White_Space, whatever the flags). -/
def skipWhiteSpace (moveWithSpace : Bool) : Nat → ParserM Unit
  | 0 => return
  | fuel + 1 => do
    match ← current? with
    | some c =>
      if Blank.isWhiteSpace c then
        if moveWithSpace then let _ ← bumpAndBumpSpace else let _ ← bump
        skipWhiteSpace moveWithSpace fuel
    | none => return

/-- Reads decimal digits. -/
def decimalDigits : Nat → List Char → ParserM (List Char)
  | 0, acc => return acc
  | fuel + 1, acc => do
    match ← current? with
    | some c =>
      if c.isDigit then
        let _ ← bumpAndBumpSpace
        decimalDigits fuel (acc ++ [c])
      else return acc
    | none => return acc

/-- Reads a decimal count, with white space around it. The cursor moves even when it fails, so
the failure is returned rather than raised. -/
def parseDecimal : ParserM (Except Error Nat) := do
  let fuel := (← get).rest.length + 1
  skipWhiteSpace false fuel
  let start ← pos
  let digits ← decimalDigits fuel []
  let span : Span := ⟨start, ← pos⟩
  skipWhiteSpace true fuel
  let pattern := (← get).pattern
  if digits.isEmpty then return .error ⟨pattern, .repetitionCountDecimalEmpty, span⟩
  let n := numeral 10 digits
  if n > 0xFFFFFFFF then return .error ⟨pattern, .decimalInvalid, span⟩
  return .ok n

/-- Raises a held failure. -/
def orFail {α : Type} : Except Error α → ParserM α
  | .ok a => return a
  | .error e => throw e

/-- Reads `{m}`, `{m,}` or `{m,n}` after an item. -/
def parseCountedRepetition (concat : Concat) : ParserM Concat := do
  let start ← pos
  match repeatable? concat with
  | none => fail (← here) .repetitionMissing
  | some ast =>
    if !(← bumpAndBumpSpace) then fail ⟨start, ← pos⟩ .repetitionCountUnclosed
    let countStart ← parseDecimal
    if ← isEof then fail ⟨start, ← pos⟩ .repetitionCountUnclosed
    let range ← if (← current) == ',' then do
        if !(← bumpAndBumpSpace) then fail ⟨start, ← pos⟩ .repetitionCountUnclosed
        if (← current) != '}' then
          let m ← orFail countStart
          let n ← orFail (← parseDecimal)
          pure (RepetitionRange.bounded m n)
        else pure (RepetitionRange.atLeast (← orFail countStart))
      else pure (RepetitionRange.exactly (← orFail countStart))
    if (← isEof) || (← current) != '}' then fail ⟨start, ← pos⟩ .repetitionCountUnclosed
    let more ← bumpAndBumpSpace
    let greedy ← if more && (← current) == '?' then do let _ ← bump; pure false else pure true
    let opSpan : Span := ⟨start, ← pos⟩
    match range with
    | .bounded m n => if m > n then fail opSpan .repetitionCountInvalid
    | _ => pure ()
    return { concat with asts := concat.asts.dropLast }.push
      (.repetition ⟨ast.span.start, ← pos⟩ opSpan (.range range) greedy ast)

/-! ## Groups -/

/-- The flag a character names. -/
def flagOf? : Char → Option Flag
  | 'i' => some .caseInsensitive
  | 'm' => some .multiLine
  | 's' => some .dotMatchesNewLine
  | 'U' => some .swapGreed
  | 'u' => some .unicode
  | 'R' => some .crlf
  | 'x' => some .ignoreWhitespace
  | _ => none

/-- Reads flag items up to `:` or `)`. -/
def flagItems : Nat → List FlagsItem → Option Span → ParserM (List FlagsItem × Option Span)
  | 0, items, neg => return (items, neg)
  | fuel + 1, items, neg => do
    let c ← current
    if c == ':' || c == ')' then return (items, neg)
    let span ← spanChar
    let (items, neg) ← if c == '-' then do
        match items.find? (fun i => i.kind == .negation) with
        | some orig => fail span (.flagRepeatedNegation orig.span)
        | none => pure (items ++ [⟨span, .negation⟩], some span)
      else do
        match flagOf? c with
        | none => fail span .flagUnrecognized
        | some f =>
          match items.find? (fun i => i.kind == .flag f) with
          | some orig => fail span (.flagDuplicate orig.span)
          | none => pure (items ++ [⟨span, .flag f⟩], none)
    if !(← bump) then fail (← here) .flagUnexpectedEof
    flagItems fuel items neg

/-- Reads the flags of a group, up to `:` or `)`. -/
def parseFlags : ParserM Flags := do
  let start ← pos
  let (items, neg) ← flagItems ((← get).rest.length + 1) [] none
  if let some s := neg then fail s .flagDanglingNegation
  return ⟨⟨start, ← pos⟩, items⟩

/-- Reads the characters of a capture name. -/
def nameChars (start : Position) : Nat → List Char → ParserM (List Char)
  | 0, acc => return acc
  | fuel + 1, acc => do
    let c ← current
    if c == '>' then return acc
    if !isCaptureChar c ((← pos) == start) then fail (← spanChar) .groupNameInvalid
    if !(← bump) then return acc ++ [c]
    nameChars start fuel (acc ++ [c])

/-- Reads a capture name after `<`, through `>`. -/
def parseCaptureName : ParserM String := do
  if ← isEof then fail (← here) .groupNameUnexpectedEof
  let start ← pos
  let chars ← nameChars start ((← get).rest.length + 1) []
  let stop ← pos
  if ← isEof then fail (← here) .groupNameUnexpectedEof
  let _ ← bump
  if chars.isEmpty then fail ⟨start, start⟩ .groupNameEmpty
  let name := String.ofList chars
  let span : Span := ⟨start, stop⟩
  match (← get).captureNames.lookup name with
  | some orig => fail span (.groupNameDuplicate orig)
  | none =>
    modify fun s => { s with captureNames := (name, span) :: s.captureNames }
    return name

/-- What an opening parenthesis starts: a flag directive or a group. -/
inductive Opened where
  | directive (span : Span) (flags : Flags)
  | group (openSpan : Span) (kind : GroupKind)

/-- Takes the next capture index. -/
def nextCaptureIndex : ParserM Nat := do
  modify fun s => { s with captureIndex := s.captureIndex + 1 }
  return (← get).captureIndex

/-- Moves past a look-around opener, if one follows. -/
def bumpLookAround : ParserM Bool := do
  if ← bumpIf "?=" then return true
  if ← bumpIf "?!" then return true
  if ← bumpIf "?<=" then return true
  bumpIf "?<!"

/-- Reads what follows an opening parenthesis. -/
def parseGroup : ParserM Opened := do
  let openSpan ← spanChar
  let _ ← bump
  bumpSpace
  if ← bumpLookAround then fail ⟨openSpan.start, (← here).stop⟩ .unsupportedLookAround
  let innerSpan ← here
  let named ← if ← bumpIf "?P<" then pure true else bumpIf "?<"
  if named then
    let i ← nextCaptureIndex
    let name ← parseCaptureName
    return .group openSpan (.captureName i name)
  else if ← bumpIf "?" then
    if ← isEof then fail openSpan .groupUnclosed
    let flags ← parseFlags
    let charEnd ← current
    let _ ← bump
    if charEnd == ')' then
      if flags.items.isEmpty then fail innerSpan .repetitionMissing
      return .directive ⟨openSpan.start, ← pos⟩ flags
    else return .group openSpan (.nonCapturing flags)
  else
    let i ← nextCaptureIndex
    return .group openSpan (.captureIndex i)

/-- The flags a group kind sets. -/
def GroupKind.flags? : GroupKind → Option Flags
  | .nonCapturing f => some f
  | _ => none

/-- Opens a group, or applies a flag directive to the current group. -/
def pushGroup (concat : Concat) : ParserM Concat := do
  match ← parseGroup with
  | .directive span flags =>
    if let some v := flags.state .ignoreWhitespace then
      modify fun s => { s with ignoreWs := v }
    return concat.push (.flags span flags)
  | .group openSpan kind =>
    let old := (← get).ignoreWs
    let new := ((GroupKind.flags? kind).bind fun f => f.state .ignoreWhitespace).getD old
    modify fun s => { s with groups := .group concat kind openSpan old :: s.groups, ignoreWs := new }
    return ⟨← here, []⟩

/-- Closes the innermost group at `)`. -/
def popGroup (groupConcat : Concat) : ParserM Concat := do
  let (prior, kind, openSpan, ignoreWs, alt, rest) ← match (← get).groups with
    | .group prior kind openSpan iw :: rest => pure (prior, kind, openSpan, iw, none, rest)
    | .alternation altSpan asts :: .group prior kind openSpan iw :: rest =>
      pure (prior, kind, openSpan, iw, some (altSpan, asts), rest)
    | _ => fail (← spanChar) .groupUnopened
  modify fun s => { s with groups := rest, ignoreWs := ignoreWs }
  let stop ← pos
  let groupConcat := { groupConcat with span := ⟨groupConcat.span.start, stop⟩ }
  let _ ← bump
  let inner := match alt with
    | some (altSpan, asts) => Ast.alternation ⟨altSpan.start, stop⟩ (asts ++ [groupConcat.toAst])
    | none => groupConcat.toAst
  return prior.push (.group ⟨openSpan.start, ← pos⟩ kind inner)

/-- Ends a branch of an alternation at `|`. -/
def pushAlternate (concat : Concat) : ParserM Concat := do
  let stop ← pos
  let concat := { concat with span := ⟨concat.span.start, stop⟩ }
  match (← get).groups with
  | .alternation span asts :: rest =>
    modify fun s => { s with groups := .alternation span (asts ++ [concat.toAst]) :: rest }
  | _ =>
    modify fun s => { s with groups := .alternation ⟨concat.span.start, stop⟩ [concat.toAst] :: s.groups }
  let _ ← bump
  return ⟨← here, []⟩

/-- Ends the pattern: every group must be closed. -/
def popGroupEnd (concat : Concat) : ParserM Ast := do
  let stop ← pos
  let concat := { concat with span := ⟨concat.span.start, stop⟩ }
  match (← get).groups with
  | [] => return concat.toAst
  | .alternation span asts :: rest =>
    match rest with
    | .group _ _ openSpan _ :: _ => fail openSpan .groupUnclosed
    | _ => return .alternation ⟨span.start, stop⟩ (asts ++ [concat.toAst])
  | .group _ _ openSpan _ :: _ => fail openSpan .groupUnclosed

/-! ## Classes -/

/-- The error for a class left open: at the innermost open bracket. -/
def unclosedClass {α : Type} : ParserM α := do
  let opened := (← get).classes.findSome? fun
    | .opened _ span _ => some span
    | .op _ _ => none
  fail (opened.getD default) .classUnclosed

/-- Tries to read `[:name:]` or `[:^name:]` at a `[` inside a class. -/
def maybeAsciiClass : ParserM (Option AsciiClass) := do
  let saved ← get
  let start ← pos
  let restore : ParserM (Option AsciiClass) := do set saved; return none
  if !(← bump) then return ← restore
  if (← current) != ':' then return ← restore
  if !(← bump) then return ← restore
  let negated ← if (← current) == '^' then pure true else pure false
  if negated then
    if !(← bump) then return ← restore
  let s ← get
  let name := s.rest.takeWhile (· != ':')
  if name.length == s.rest.length then return ← restore
  set { s with rest := s.rest.drop name.length, pos := name.foldl Position.advance s.pos }
  if !(← bumpIf ":]") then return ← restore
  match AsciiKind.ofName? (String.ofList name) with
  | none => restore
  | some kind => return some ⟨⟨start, ← pos⟩, negated, kind⟩

/-- Reads the start of a bracketed class: `[`, an optional `^`, and leading `-` or `]` taken as
literals. Gives the span of the opener and the union of those literals. -/
def parseClassOpen : ParserM (Span × Bool × Union) := do
  let start ← pos
  if !(← bumpAndBumpSpace) then fail ⟨start, ← pos⟩ .classUnclosed
  let negated ← if (← current) != '^' then pure false else do
    if !(← bumpAndBumpSpace) then fail ⟨start, ← pos⟩ .classUnclosed
    pure true
  let rec dashes : Nat → Union → ParserM Union
    | 0, u => return u
    | fuel + 1, u => do
      if (← current) != '-' then return u
      let u := u.push (.literal ⟨← spanChar, .verbatim, '-'⟩)
      if !(← bumpAndBumpSpace) then fail ⟨start, start⟩ .classUnclosed
      dashes fuel u
  let union ← dashes ((← get).rest.length + 1) ⟨← here, []⟩
  let union ← if union.items.isEmpty && (← current) == ']' then do
      let u := union.push (.literal ⟨← spanChar, .verbatim, ']'⟩)
      if !(← bumpAndBumpSpace) then fail ⟨start, ← pos⟩ .classUnclosed
      pure u
    else pure union
  return (⟨start, ← pos⟩, negated, union)

/-- Opens a bracket inside `parent`. -/
def pushClassOpen (parent : Union) : ParserM Union := do
  let (span, negated, union) ← parseClassOpen
  modify fun s => { s with classes := .opened parent span negated :: s.classes }
  return union

/-- Joins a set to a pending operator, if one waits. -/
def popClassOp (rhs : ClassSet) : ParserM ClassSet := do
  match (← get).classes with
  | .op kind lhs :: rest =>
    modify fun s => { s with classes := rest }
    return .binaryOp ⟨lhs.span.start, rhs.span.stop⟩ kind lhs rhs
  | _ => return rhs

/-- Starts an operator, with the set read so far as its left side. -/
def pushClassOp (kind : ClassSetOp) (union : Union) : ParserM Union := do
  let lhs ← popClassOp (.item union.toItem)
  modify fun s => { s with classes := .op kind lhs :: s.classes }
  return ⟨← here, []⟩

/-- The outcome of `]`: the enclosing union goes on, or the outermost class is done. -/
inductive Closed where
  | nested (union : Union)
  | done (span : Span) (negated : Bool) (set : ClassSet)

/-- Closes the innermost bracket at `]`. -/
def popClass (union : Union) : ParserM Closed := do
  let set ← popClassOp (.item union.toItem)
  match (← get).classes with
  | .opened parent setSpan negated :: rest =>
    modify fun s => { s with classes := rest }
    let _ ← bump
    let span : Span := ⟨setSpan.start, ← pos⟩
    if rest.isEmpty then return .done span negated set
    else return .nested (parent.push (.bracketed span negated set))
  | _ => unclosedClass

/-- Reads one item of a class: an escape or a character. -/
def parseClassItem : ParserM Primitive := do
  let c ← current
  if c == '\\' then parseEscape
  else
    let span ← spanChar
    let _ ← bump
    return .literal ⟨span, .verbatim, c⟩

/-- Reads an item of a class, or a range of two literals. -/
def parseClassRange : ParserM ClassSetItem := do
  let first ← parseClassItem
  bumpSpace
  if ← isEof then unclosedClass
  let next ← peekSpace
  if (← current) != '-' || next == some ']' || next == some '-' then
    return ← first.toClassItem
  if !(← bumpAndBumpSpace) then unclosedClass
  let last ← parseClassItem
  let span : Span := ⟨first.span.start, last.span.stop⟩
  let lo ← first.toClassLiteral
  let hi ← last.toClassLiteral
  if lo.c > hi.c then fail span .classRangeInvalid
  return .range span lo hi

/-- Reads a bracketed class, from its `[`, through its matching `]`. -/
def classLoop : Nat → Union → ParserM (Span × Bool × ClassSet)
  | 0, _ => unclosedClass
  | fuel + 1, union => do
    bumpSpace
    if ← isEof then unclosedClass
    let c ← current
    let next ← peek
    if c == '[' then
      if !(← get).classes.isEmpty then
        match ← maybeAsciiClass with
        | some cls => return ← classLoop fuel (union.push (.ascii cls))
        | none => pure ()
      classLoop fuel (← pushClassOpen union)
    else if c == ']' then
      match ← popClass union with
      | .nested u => classLoop fuel u
      | .done span negated set => return (span, negated, set)
    else if c == '&' && next == some '&' then
      let _ ← bumpIf "&&"
      classLoop fuel (← pushClassOp .intersection union)
    else if c == '-' && next == some '-' then
      let _ ← bumpIf "--"
      classLoop fuel (← pushClassOp .difference union)
    else if c == '~' && next == some '~' then
      let _ ← bumpIf "~~"
      classLoop fuel (← pushClassOp .symmetricDifference union)
    else
      classLoop fuel (union.push (← parseClassRange))

/-! ## The pattern -/

/-- Reads items until the end of the pattern. -/
def mainLoop : Nat → Concat → ParserM Ast
  | 0, concat => popGroupEnd concat
  | fuel + 1, concat => do
    bumpSpace
    match ← current? with
    | none => popGroupEnd concat
    | some '(' => mainLoop fuel (← pushGroup concat)
    | some ')' => mainLoop fuel (← popGroup concat)
    | some '|' => mainLoop fuel (← pushAlternate concat)
    | some '[' =>
      let (span, negated, set) ← classLoop ((← get).rest.length + 1) ⟨← here, []⟩
      mainLoop fuel (concat.push (.bracketed span negated set))
    | some '?' => mainLoop fuel (← parseUncountedRepetition concat .zeroOrOne)
    | some '*' => mainLoop fuel (← parseUncountedRepetition concat .zeroOrMore)
    | some '+' => mainLoop fuel (← parseUncountedRepetition concat .oneOrMore)
    | some '{' => mainLoop fuel (← parseCountedRepetition concat)
    | some _ => mainLoop fuel (concat.push (← parsePrimitive).toAst)

end Parse

/-! ## Nesting -/

mutual

/-- The first node of a class set nested deeper than `limit`, at depth `d` outside it. -/
def ClassSet.tooDeep? (limit : Nat) (d : Nat) : ClassSet → Option Span
  | .item i => ClassSetItem.tooDeep? limit d i
  | .binaryOp s _ l r =>
    if d + 1 > limit then some s
    else (ClassSet.tooDeep? limit (d + 1) l).orElse fun _ => ClassSet.tooDeep? limit (d + 1) r

/-- The first node of a class item nested deeper than `limit`. -/
def ClassSetItem.tooDeep? (limit : Nat) (d : Nat) : ClassSetItem → Option Span
  | .bracketed s _ set => if d + 1 > limit then some s else ClassSet.tooDeep? limit (d + 1) set
  | .union s items => if d + 1 > limit then some s else ClassSetItem.listTooDeep? limit (d + 1) items
  | _ => none

/-- The first node of a list of class items nested deeper than `limit`. -/
def ClassSetItem.listTooDeep? (limit : Nat) (d : Nat) : List ClassSetItem → Option Span
  | [] => none
  | i :: rest => (ClassSetItem.tooDeep? limit d i).orElse fun _ => ClassSetItem.listTooDeep? limit d rest

end

mutual

/-- The first node nested deeper than `limit`: groups, repetitions, alternations, sequences and
classes each count one level. -/
def Ast.tooDeep? (limit : Nat) (d : Nat) : Ast → Option Span
  | .bracketed s _ set => if d + 1 > limit then some s else ClassSet.tooDeep? limit (d + 1) set
  | .repetition s _ _ _ a => if d + 1 > limit then some s else Ast.tooDeep? limit (d + 1) a
  | .group s _ a => if d + 1 > limit then some s else Ast.tooDeep? limit (d + 1) a
  | .alternation s asts => if d + 1 > limit then some s else Ast.listTooDeep? limit (d + 1) asts
  | .concat s asts => if d + 1 > limit then some s else Ast.listTooDeep? limit (d + 1) asts
  | _ => none

/-- The first node of a list nested deeper than `limit`. -/
def Ast.listTooDeep? (limit : Nat) (d : Nat) : List Ast → Option Span
  | [] => none
  | a :: rest => (Ast.tooDeep? limit d a).orElse fun _ => Ast.listTooDeep? limit d rest

end

/-- The deepest nesting a pattern may have. -/
def nestLimit : Nat := 250

/-- Reads a pattern into its syntax tree, or the first error in it. -/
def parse (pattern : String) : Except Error Ast := do
  let start : Parse.State := { pattern, rest := pattern.toList, pos := Position.origin }
  let (ast, _) ← (Parse.mainLoop (pattern.length + 1) ⟨Span.at Position.origin, []⟩).run start
  match ast.tooDeep? nestLimit 0 with
  | some span => throw ⟨pattern, .nestLimitExceeded nestLimit, span⟩
  | none => pure ast

end JsonProbe.Regex
