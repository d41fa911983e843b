/-!
# The syntax tree of a regular expression

Every node carries the span of the pattern it was read from, so that errors can point at it.
Positions count bytes (`offset`), lines and characters within a line (`column`), the last two
from 1.

The tree keeps what a later stage needs: flags as written, the form of each literal (an escaped
byte `\xNN` differs from the character it names when Unicode is off), classes as written, and
repetitions with their operators.
-/

set_option autoImplicit false

namespace JsonProbe.Regex

/-- A point in the pattern. -/
structure Position where
  offset : Nat
  line : Nat
  column : Nat
  deriving DecidableEq, Repr, Inhabited

/-- The position after a character. A line feed starts a new line. -/
def Position.advance (p : Position) (c : Char) : Position :=
  if c == '\n' then ⟨p.offset + c.utf8Size, p.line + 1, 1⟩
  else ⟨p.offset + c.utf8Size, p.line, p.column + 1⟩

/-- The start of a pattern. -/
def Position.origin : Position := ⟨0, 1, 1⟩

/-- A stretch of the pattern, from `start` up to `stop`. -/
structure Span where
  start : Position
  stop : Position
  deriving DecidableEq, Repr, Inhabited

/-- The empty span at a position. -/
def Span.at (p : Position) : Span := ⟨p, p⟩

/-- A flag that changes how the rest of a group is read or matched. -/
inductive Flag where
  | caseInsensitive
  | multiLine
  | dotMatchesNewLine
  | swapGreed
  | unicode
  | crlf
  | ignoreWhitespace
  deriving DecidableEq, Repr

/-- An item of a flag group: a flag, or the `-` that negates the flags after it. -/
inductive FlagsItemKind where
  | negation
  | flag (f : Flag)
  deriving DecidableEq, Repr

/-- An item of a flag group with its span. -/
structure FlagsItem where
  span : Span
  kind : FlagsItemKind
  deriving DecidableEq, Repr

/-- A flag group as written, such as `i-s` in `(?i-s)`. -/
structure Flags where
  span : Span
  items : List FlagsItem
  deriving DecidableEq, Repr

/-- The state a flag group gives a flag: `some true` if set, `some false` if cleared. -/
def Flags.state (fs : Flags) (f : Flag) : Option Bool :=
  let rec go : Bool → List FlagsItem → Option Bool
    | _, [] => none
    | negated, item :: rest =>
      match item.kind with
      | .negation => go true rest
      | .flag g => if g == f then some !negated else go negated rest
  go false fs.items

/-- The width of a hexadecimal escape: `\x`, `\u` or `\U`. -/
inductive HexWidth where
  | x
  | short
  | long
  deriving DecidableEq, Repr

/-- How a literal was written. -/
inductive LiteralKind where
  /-- The character itself. -/
  | verbatim
  /-- An escaped meta character such as `\*`. -/
  | metaChar
  /-- An escaped character that needs no escape, such as `\%`. -/
  | superfluous
  /-- A hexadecimal escape with a fixed number of digits. -/
  | hexFixed (w : HexWidth)
  /-- A hexadecimal escape in braces. -/
  | hexBrace (w : HexWidth)
  /-- One of `\a \f \t \n \r \v`. -/
  | special
  deriving DecidableEq, Repr

/-- A literal character with its span. -/
structure Literal where
  span : Span
  kind : LiteralKind
  c : Char
  deriving DecidableEq, Repr

/-- The byte a literal names when Unicode is off: only `\xNN` names a byte. -/
def Literal.byte? (lit : Literal) : Option Nat :=
  match lit.kind with
  | .hexFixed .x => if lit.c.toNat ≤ 0xFF then some lit.c.toNat else none
  | _ => none

/-- An assertion that matches an empty string at some positions. -/
inductive AssertionKind where
  | startLine
  | endLine
  | startText
  | endText
  | wordBoundary
  | notWordBoundary
  | wordBoundaryStart
  | wordBoundaryEnd
  | wordBoundaryStartAngle
  | wordBoundaryEndAngle
  | wordBoundaryStartHalf
  | wordBoundaryEndHalf
  deriving DecidableEq, Repr

/-- The three classes of `\d`, `\s` and `\w`. -/
inductive PerlKind where
  | digit
  | space
  | word
  deriving DecidableEq, Repr

/-- The classes `[:name:]`. -/
inductive AsciiKind where
  | alnum
  | alpha
  | ascii
  | blank
  | cntrl
  | digit
  | graph
  | lower
  | print
  | punct
  | space
  | upper
  | word
  | xdigit
  deriving DecidableEq, Repr

/-- The class of an ASCII class name. -/
def AsciiKind.ofName? : String → Option AsciiKind
  | "alnum" => some .alnum
  | "alpha" => some .alpha
  | "ascii" => some .ascii
  | "blank" => some .blank
  | "cntrl" => some .cntrl
  | "digit" => some .digit
  | "graph" => some .graph
  | "lower" => some .lower
  | "print" => some .print
  | "punct" => some .punct
  | "space" => some .space
  | "upper" => some .upper
  | "word" => some .word
  | "xdigit" => some .xdigit
  | _ => none

/-- How a property value is joined to its name in `\p{name=value}`. -/
inductive PropertyOp where
  | equal
  | colon
  | notEqual
  deriving DecidableEq, Repr

/-- What a `\p` class names. -/
inductive UnicodeClassKind where
  | oneLetter (c : Char)
  | named (name : String)
  | namedValue (op : PropertyOp) (name value : String)
  deriving DecidableEq, Repr

/-- A `\p` or `\P` class. -/
structure UnicodeClass where
  span : Span
  negated : Bool
  kind : UnicodeClassKind
  deriving DecidableEq, Repr

/-- Whether the class stands for the complement of what it names: `\P`, or `!=`, but not
both. -/
def UnicodeClass.isNegated (u : UnicodeClass) : Bool :=
  match u.kind with
  | .namedValue .notEqual _ _ => !u.negated
  | _ => u.negated

/-- A `\d`, `\s`, `\w` class or its negation. -/
structure PerlClass where
  span : Span
  negated : Bool
  kind : PerlKind
  deriving DecidableEq, Repr

/-- A `[:name:]` class or its negation `[:^name:]`. -/
structure AsciiClass where
  span : Span
  negated : Bool
  kind : AsciiKind
  deriving DecidableEq, Repr

/-- The operators between class sets. -/
inductive ClassSetOp where
  | intersection
  | difference
  | symmetricDifference
  deriving DecidableEq, Repr

mutual

/-- The contents of a bracketed class: an item, or two sets joined by an operator. -/
inductive ClassSet where
  | item (i : ClassSetItem)
  | binaryOp (span : Span) (op : ClassSetOp) (lhs rhs : ClassSet)

/-- An item inside a bracketed class. -/
inductive ClassSetItem where
  | empty (span : Span)
  | literal (lit : Literal)
  | range (span : Span) (first last : Literal)
  | ascii (cls : AsciiClass)
  | unicode (cls : UnicodeClass)
  | perl (cls : PerlClass)
  | bracketed (span : Span) (negated : Bool) (set : ClassSet)
  | union (span : Span) (items : List ClassSetItem)

end

/-- The span of a class set. -/
def ClassSet.span : ClassSet → Span
  | .item (.empty s) => s
  | .item (.literal lit) => lit.span
  | .item (.range s _ _) => s
  | .item (.ascii c) => c.span
  | .item (.unicode c) => c.span
  | .item (.perl c) => c.span
  | .item (.bracketed s _ _) => s
  | .item (.union s _) => s
  | .binaryOp s _ _ _ => s

/-- How many times a repetition allows. -/
inductive RepetitionRange where
  | exactly (n : Nat)
  | atLeast (n : Nat)
  | bounded (m n : Nat)
  deriving DecidableEq, Repr

/-- A repetition operator. -/
inductive RepetitionKind where
  | zeroOrOne
  | zeroOrMore
  | oneOrMore
  | range (r : RepetitionRange)
  deriving DecidableEq, Repr

/-- What kind of group a parenthesis opens. -/
inductive GroupKind where
  | captureIndex (index : Nat)
  | captureName (index : Nat) (name : String)
  | nonCapturing (flags : Flags)

/-- A regular expression as written. -/
inductive Ast where
  | empty (span : Span)
  | flags (span : Span) (flags : Flags)
  | literal (lit : Literal)
  | dot (span : Span)
  | assertion (span : Span) (kind : AssertionKind)
  | unicodeClass (cls : UnicodeClass)
  | perlClass (cls : PerlClass)
  | bracketed (span : Span) (negated : Bool) (set : ClassSet)
  | repetition (span : Span) (opSpan : Span) (kind : RepetitionKind) (greedy : Bool) (ast : Ast)
  | group (span : Span) (kind : GroupKind) (ast : Ast)
  | alternation (span : Span) (asts : List Ast)
  | concat (span : Span) (asts : List Ast)

instance : Inhabited Ast := ⟨.empty default⟩

/-- The span of an expression. -/
def Ast.span : Ast → Span
  | .empty s => s
  | .flags s _ => s
  | .literal lit => lit.span
  | .dot s => s
  | .assertion s _ => s
  | .unicodeClass c => c.span
  | .perlClass c => c.span
  | .bracketed s _ _ => s
  | .repetition s _ _ _ _ => s
  | .group s _ _ => s
  | .alternation s _ => s
  | .concat s _ => s

end JsonProbe.Regex
