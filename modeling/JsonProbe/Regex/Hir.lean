import JsonProbe.Regex.Syntax
import JsonProbe.Regex.Error
import JsonProbe.Regex.Hir.Basic
import JsonProbe.Regex.Unicode.Class
/-!
# The meaning of a pattern

A pattern's syntax tree is given its meaning as an expression over sets of characters, empty-width
assertions, repetition, sequence and choice. The flags decide the meaning:

* `i` adds to each literal and class every character simple case folding makes equal to a member
  (only ASCII letters when Unicode is off);
* `m` makes `^` and `$` match at line ends, and `R` makes those line ends CRLF-aware and keeps `.`
  from matching a carriage return;
* `s` lets `.` match a line feed;
* `u` (on by default) makes classes, `\b` and case folding Unicode-aware. With it off, anything that
  could match a byte outside ASCII is refused, since the text is always valid UTF-8: `.`, `\xNN`
  above `7F` and negated ASCII classes. `\B` stays allowed: it matches no character, and a match
  is only ever found between characters.

A flag directive holds from where it stands to the end of its group, across alternation branches;
a group restores the flags it found. Errors are reported in the order the tree is walked.
-/

set_option autoImplicit false

namespace JsonProbe.Regex

/-- The flags in force while a pattern is translated. -/
structure FlagSet where
  caseInsensitive : Bool := false
  multiLine : Bool := false
  dotMatchesNewLine : Bool := false
  swapGreed : Bool := false
  unicode : Bool := true
  crlf : Bool := false
  deriving DecidableEq, Repr

/-- The flags after a flag group is applied. -/
def FlagSet.apply (f : FlagSet) (fs : Flags) : FlagSet :=
  let step (acc : FlagSet × Bool) (item : FlagsItem) : FlagSet × Bool :=
    let (f, on) := acc
    match item.kind with
    | .negation => (f, false)
    | .flag .caseInsensitive => ({ f with caseInsensitive := on }, on)
    | .flag .multiLine => ({ f with multiLine := on }, on)
    | .flag .dotMatchesNewLine => ({ f with dotMatchesNewLine := on }, on)
    | .flag .swapGreed => ({ f with swapGreed := on }, on)
    | .flag .unicode => ({ f with unicode := on }, on)
    | .flag .crlf => ({ f with crlf := on }, on)
    | .flag .ignoreWhitespace => (f, on)
  (fs.items.foldl step (f, true)).1

namespace Translate

/-- The ranges of an ASCII class. -/
def asciiRanges : AsciiKind → List (Nat × Nat)
  | .alnum => [(0x30, 0x39), (0x41, 0x5A), (0x61, 0x7A)]
  | .alpha => [(0x41, 0x5A), (0x61, 0x7A)]
  | .ascii => [(0x00, 0x7F)]
  | .blank => [(0x09, 0x09), (0x20, 0x20)]
  | .cntrl => [(0x00, 0x1F), (0x7F, 0x7F)]
  | .digit => [(0x30, 0x39)]
  | .graph => [(0x21, 0x7E)]
  | .lower => [(0x61, 0x7A)]
  | .print => [(0x20, 0x7E)]
  | .punct => [(0x21, 0x2F), (0x3A, 0x40), (0x5B, 0x60), (0x7B, 0x7E)]
  | .space => [(0x09, 0x0D), (0x20, 0x20)]
  | .upper => [(0x41, 0x5A)]
  | .word => [(0x30, 0x39), (0x41, 0x5A), (0x5F, 0x5F), (0x61, 0x7A)]
  | .xdigit => [(0x30, 0x39), (0x41, 0x46), (0x61, 0x66)]

/-- The translation of a pattern fails with an error at a span. -/
abbrev Result (α : Type) := Except (ErrorKind × Span) α

/-- Folds and negates a class, in Unicode mode. -/
def unicodeFoldNegate (f : FlagSet) (negated : Bool) (s : CharSet) : CharSet :=
  let s := if f.caseInsensitive then Unicode.caseFold s else s
  if negated then s.complement else s

/-- Folds and negates a class of bytes; the result must be ASCII. -/
def bytesFoldNegate (f : FlagSet) (span : Span) (negated : Bool) (s : CharSet) : Result CharSet :=
  let s := if f.caseInsensitive then s.foldAscii else s
  let s := if negated then s.complementUpTo 0xFF else s
  if s.isAscii then .ok s else .error (.invalidUtf8, span)

/-- The class of a `\p` escape. -/
def unicodeClass (f : FlagSet) (u : UnicodeClass) : Result CharSet := do
  if !f.unicode then throw (.unicodeNotAllowed, u.span)
  let found := match u.kind with
    | .oneLetter c => Unicode.binaryClass (String.singleton c)
    | .named name => Unicode.binaryClass name
    | .namedValue _ name value => Unicode.valueClass name value
  match found with
  | .ok s => pure (unicodeFoldNegate f u.isNegated s)
  | .error .propertyNotFound => throw (.unicodePropertyNotFound, u.span)
  | .error .propertyValueNotFound => throw (.unicodePropertyValueNotFound, u.span)

/-- The class of `\d`, `\s` or `\w`. -/
def perlClass (f : FlagSet) (p : PerlClass) : Result CharSet :=
  if f.unicode then
    let s := match p.kind with
      | .digit => Unicode.perlDigit
      | .space => Unicode.perlSpace
      | .word => Unicode.perlWord
    .ok (if p.negated then s.complement else s)
  else
    let kind : AsciiKind := match p.kind with
      | .digit => .digit
      | .space => .space
      | .word => .word
    let s := CharSet.ofRanges (asciiRanges kind)
    let s := if p.negated then s.complementUpTo 0xFF else s
    if s.isAscii then .ok s else .error (.invalidUtf8, p.span)

/-- The class of `[:name:]`. -/
def asciiClass (f : FlagSet) (a : AsciiClass) : Result CharSet :=
  let s := CharSet.ofRanges (asciiRanges a.kind)
  if f.unicode then .ok (unicodeFoldNegate f a.negated s)
  else bytesFoldNegate f a.span a.negated s

/-- The character of a literal inside a class of bytes: ASCII only. -/
def classByte (lit : Literal) : Result Nat :=
  match lit.byte? with
  | some b => if b ≤ 0x7F then .ok b else .error (.invalidUtf8, lit.span)
  | none => if lit.c.toNat ≤ 0x7F then .ok lit.c.toNat else .error (.unicodeNotAllowed, lit.span)

/-- The code point of a class literal under the flags. -/
def classPoint (f : FlagSet) (lit : Literal) : Result Nat :=
  if f.unicode then .ok lit.c.toNat else classByte lit

mutual

/-- The characters of a class set. -/
def classSet (f : FlagSet) : ClassSet → Result CharSet
  | .item i => do
    -- an item joins the empty set of its enclosing class, which sorts and merges it
    pure (CharSet.empty.union (← classItem f i))
  | .binaryOp _ op lhs rhs => do
    let l ← classSet f lhs
    let r ← classSet f rhs
    let fold (s : CharSet) : CharSet :=
      if !f.caseInsensitive then s else if f.unicode then Unicode.caseFold s else s.foldAscii
    let (l, r) := (fold l, fold r)
    -- the result joins the empty set of the enclosing class, which sorts and merges it
    pure <| CharSet.empty.union <| match op with
      | .intersection => l.inter r
      | .difference => l.diff r
      | .symmetricDifference => l.symmDiff r

/-- The characters of a class item. -/
def classItem (f : FlagSet) : ClassSetItem → Result CharSet
  | .empty _ => pure CharSet.empty
  | .literal lit => do pure (CharSet.single (← classPoint f lit))
  | .range _ lo hi => do
    let a ← classPoint f lo
    let b ← classPoint f hi
    pure (CharSet.range a b)
  | .ascii a => asciiClass f a
  | .unicode u => unicodeClass f u
  | .perl p => perlClass f p
  | .bracketed span negated set => do
    let s ← classSet f set
    if f.unicode then pure (unicodeFoldNegate f negated s) else bytesFoldNegate f span negated s
  | .union _ items => classItems f CharSet.empty items

/-- The characters of the items of a union, each joined in turn to those before it. -/
def classItems (f : FlagSet) (acc : CharSet) : List ClassSetItem → Result CharSet
  | [] => pure acc
  | i :: rest => do
    let s ← classItem f i
    classItems f (acc.union s) rest

end

/-- A literal under the flags. -/
def literal (f : FlagSet) (lit : Literal) : Result Hir := do
  if !f.unicode then
    match lit.byte? with
    | some b => if b > 0x7F then throw (.invalidUtf8, lit.span)
    | none => pure ()
  let c := lit.c.toNat
  if !f.caseInsensitive then return .literal [lit.c]
  if f.unicode then
    if Unicode.hasFold c then return Hir.ofSet (Unicode.caseFold (CharSet.single c)) false
    else return .literal [lit.c]
  else return Hir.ofSet (CharSet.single c).foldAscii true

/-- The dot under the flags. -/
def dot (f : FlagSet) (span : Span) : Result Hir :=
  if !f.unicode then .error (.invalidUtf8, span)
  else if f.dotMatchesNewLine then .ok (Hir.ofSet (CharSet.range 0 CharSet.maxCodePoint) false)
  else if f.crlf then
    .ok (Hir.ofSet (CharSet.ofRanges [(0, 0x09), (0x0B, 0x0C), (0x0E, CharSet.maxCodePoint)]) false)
  else .ok (Hir.ofSet (CharSet.ofRanges [(0, 0x09), (0x0B, CharSet.maxCodePoint)]) false)

/-- An assertion under the flags. -/
def assertion (f : FlagSet) : AssertionKind → Result Hir
  | .startLine =>
    .ok (.look (if f.multiLine then (if f.crlf then .crlfStart else .lineStart) else .textStart))
  | .endLine =>
    .ok (.look (if f.multiLine then (if f.crlf then .crlfEnd else .lineEnd) else .textEnd))
  | .startText => .ok (.look .textStart)
  | .endText => .ok (.look .textEnd)
  | .wordBoundary => .ok (.look (if f.unicode then .wordUnicode else .wordAscii))
  | .notWordBoundary =>
    .ok (.look (if f.unicode then .wordUnicodeNegate else .wordAsciiNegate))
  | .wordBoundaryStart => .ok (.look (if f.unicode then .wordStartUnicode else .wordStartAscii))
  | .wordBoundaryEnd => .ok (.look (if f.unicode then .wordEndUnicode else .wordEndAscii))
  | .wordBoundaryStartAngle =>
    .ok (.look (if f.unicode then .wordStartUnicode else .wordStartAscii))
  | .wordBoundaryEndAngle => .ok (.look (if f.unicode then .wordEndUnicode else .wordEndAscii))
  | .wordBoundaryStartHalf =>
    .ok (.look (if f.unicode then .wordStartHalfUnicode else .wordStartHalfAscii))
  | .wordBoundaryEndHalf =>
    .ok (.look (if f.unicode then .wordEndHalfUnicode else .wordEndHalfAscii))

/-- The bounds of a repetition. -/
def bounds : RepetitionKind → Nat × Option Nat
  | .zeroOrOne => (0, some 1)
  | .zeroOrMore => (0, none)
  | .oneOrMore => (1, none)
  | .range (.exactly n) => (n, some n)
  | .range (.atLeast n) => (n, none)
  | .range (.bounded m n) => (m, some n)

mutual

/-- Translates an expression under the flags; gives the flags in force after it. -/
def ast (f : FlagSet) : Ast → Result (Hir × FlagSet)
  | .empty _ => pure (.empty, f)
  | .flags _ fs => pure (.empty, f.apply fs)
  | .literal lit => do pure (← literal f lit, f)
  | .dot span => do pure (← dot f span, f)
  | .assertion _ kind => do pure (← assertion f kind, f)
  | .unicodeClass u => do pure (Hir.ofSet (← unicodeClass f u) false, f)
  | .perlClass p => do pure (Hir.ofSet (← perlClass f p) !f.unicode, f)
  | .bracketed span negated set => do
    let s ← classSet f set
    let s ←
      if f.unicode then pure (unicodeFoldNegate f negated s) else bytesFoldNegate f span negated s
    pure (Hir.ofSet s !f.unicode, f)
  | .repetition _ _ kind greedy a => do
    let (h, f') ← ast f a
    let (lo, hi) := bounds kind
    pure (Hir.repetition lo hi (if f.swapGreed then !greedy else greedy) h, f')
  | .group _ kind a => do
    let inner := match kind with
      | .nonCapturing fs => f.apply fs
      | _ => f
    let (h, _) ← ast inner a
    match kind with
    | .captureIndex i => pure (.capture i h, f)
    | .captureName i _ => pure (.capture i h, f)
    | .nonCapturing _ => pure (h, f)
  | .alternation _ asts => do
    let (hs, f') ← list f asts
    pure (Hir.alternation hs, f')
  | .concat _ asts => do
    let (hs, f') ← list f asts
    pure (Hir.sequence hs, f')

/-- Translates expressions in turn, each under the flags the one before leaves. -/
def list (f : FlagSet) : List Ast → Result (List Hir × FlagSet)
  | [] => pure ([], f)
  | a :: rest => do
    let (h, f') ← ast f a
    let (hs, f'') ← list f' rest
    pure (h :: hs, f'')

end

end Translate

/-- The meaning of a pattern's syntax tree, or the first error in it. -/
def Ast.toHir (pattern : String) (a : Ast) : Except Error Hir :=
  match Translate.ast {} a with
  | .ok (h, _) => .ok h
  | .error (kind, span) => .error ⟨pattern, kind, span⟩

end JsonProbe.Regex
