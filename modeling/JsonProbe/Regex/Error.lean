import JsonProbe.Regex.Syntax
/-!
# Errors of a regular expression and their report

An error names its kind and the span of the pattern at fault; a few kinds also name an earlier
span (the first of two duplicate flags or group names). The report quotes the pattern and puts
carets under the spans:

* a pattern of one line is quoted indented by four spaces, with a line of carets under it;
* a pattern of several lines is quoted between two rules of 79 tildes, each line numbered, and
  spans that run over several lines are described in words after the quote.

Either way the report ends with `error: ` and the message of the kind.
-/

set_option autoImplicit false

namespace JsonProbe.Regex

/-- What is wrong with a pattern. The first group of kinds is found while reading the pattern,
the last four while giving it a meaning. -/
inductive ErrorKind where
  | classEscapeInvalid
  | classRangeInvalid
  | classRangeLiteral
  | classUnclosed
  | decimalEmpty
  | decimalInvalid
  | escapeHexEmpty
  | escapeHexInvalid
  | escapeHexInvalidDigit
  | escapeUnexpectedEof
  | escapeUnrecognized
  | flagDanglingNegation
  | flagDuplicate (first : Span)
  | flagRepeatedNegation (first : Span)
  | flagUnexpectedEof
  | flagUnrecognized
  | groupNameDuplicate (first : Span)
  | groupNameEmpty
  | groupNameInvalid
  | groupNameUnexpectedEof
  | groupUnclosed
  | groupUnopened
  | nestLimitExceeded (limit : Nat)
  | repetitionCountInvalid
  | repetitionCountDecimalEmpty
  | repetitionCountUnclosed
  | repetitionMissing
  | specialWordBoundaryUnclosed
  | specialWordBoundaryUnrecognized
  | specialWordOrRepetitionUnexpectedEof
  | unicodeClassInvalid
  | unsupportedBackreference
  | unsupportedLookAround
  | unicodeNotAllowed
  | invalidUtf8
  | unicodePropertyNotFound
  | unicodePropertyValueNotFound
  deriving DecidableEq, Repr

namespace ErrorKind

/-- The message of an error kind. -/
def message : ErrorKind → String
  | .classEscapeInvalid => "invalid escape sequence found in character class"
  | .classRangeInvalid => "invalid character class range, the start must be <= the end"
  | .classRangeLiteral => "invalid range boundary, must be a literal"
  | .classUnclosed => "unclosed character class"
  | .decimalEmpty => "decimal literal empty"
  | .decimalInvalid => "decimal literal invalid"
  | .escapeHexEmpty => "hexadecimal literal empty"
  | .escapeHexInvalid => "hexadecimal literal is not a Unicode scalar value"
  | .escapeHexInvalidDigit => "invalid hexadecimal digit"
  | .escapeUnexpectedEof => "incomplete escape sequence, reached end of pattern prematurely"
  | .escapeUnrecognized => "unrecognized escape sequence"
  | .flagDanglingNegation => "dangling flag negation operator"
  | .flagDuplicate _ => "duplicate flag"
  | .flagRepeatedNegation _ => "flag negation operator repeated"
  | .flagUnexpectedEof => "expected flag but got end of regex"
  | .flagUnrecognized => "unrecognized flag"
  | .groupNameDuplicate _ => "duplicate capture group name"
  | .groupNameEmpty => "empty capture group name"
  | .groupNameInvalid => "invalid capture group character"
  | .groupNameUnexpectedEof => "unclosed capture group name"
  | .groupUnclosed => "unclosed group"
  | .groupUnopened => "unopened group"
  | .nestLimitExceeded limit =>
    "exceed the maximum number of nested parentheses/brackets (" ++ toString limit ++ ")"
  | .repetitionCountInvalid => "invalid repetition count range, the start must be <= the end"
  | .repetitionCountDecimalEmpty => "repetition quantifier expects a valid decimal"
  | .repetitionCountUnclosed => "unclosed counted repetition"
  | .repetitionMissing => "repetition operator missing expression"
  | .specialWordBoundaryUnclosed =>
    "special word boundary assertion is either unclosed or contains an invalid character"
  | .specialWordBoundaryUnrecognized =>
    "unrecognized special word boundary assertion, valid choices are: start, end, start-half or end-half"
  | .specialWordOrRepetitionUnexpectedEof =>
    "found either the beginning of a special word boundary or a bounded repetition on a \\b with an opening brace, but no closing brace"
  | .unicodeClassInvalid => "invalid Unicode character class"
  | .unsupportedBackreference => "backreferences are not supported"
  | .unsupportedLookAround => "look-around, including look-ahead and look-behind, is not supported"
  | .unicodeNotAllowed => "Unicode not allowed here"
  | .invalidUtf8 => "pattern can match invalid UTF-8"
  | .unicodePropertyNotFound => "Unicode property not found"
  | .unicodePropertyValueNotFound => "Unicode property value not found"

/-- The earlier span a kind refers to, if any. -/
def auxSpan? : ErrorKind → Option Span
  | .flagDuplicate s => some s
  | .flagRepeatedNegation s => some s
  | .groupNameDuplicate s => some s
  | _ => none

end ErrorKind

/-- An error in a pattern: the pattern, the kind, and the span at fault. -/
structure Error where
  pattern : String
  kind : ErrorKind
  span : Span
  deriving DecidableEq, Repr

namespace Report

/-- The lines of a text: split at line feeds, a carriage return before a line feed dropped, and no
empty last line after a final line feed. -/
def lines (cs : List Char) : List (List Char) :=
  let pieces := cs.splitOn '\n'
  let pieces := if cs.getLast? == some '\n' then pieces.dropLast else pieces
  let n := pieces.length
  let strip (i : Nat) (l : List Char) : List Char :=
    if i + 1 < n || cs.getLast? == some '\n' then
      if l.getLast? == some '\r' then l.dropLast else l
    else l
  if cs.isEmpty then [] else (pieces.zipIdx.map fun (l, i) => strip i l)

/-- Spans in report order: by start offset, then end offset. -/
def sortSpans (spans : List Span) : List Span :=
  spans.mergeSort fun a b =>
    a.start.offset < b.start.offset ||
      (a.start.offset == b.start.offset && a.stop.offset ≤ b.stop.offset)

/-- The caret line under one line of the pattern, after `pad` spaces. -/
def carets (pad : Nat) (spans : List Span) : String :=
  let step (acc : List Char × Nat) (s : Span) : List Char × Nat :=
    let (out, pos) := acc
    let gap := s.start.column - 1 - pos
    let width := max 1 (s.stop.column - s.start.column)
    (out ++ List.replicate gap ' ' ++ List.replicate width '^', pos + gap + width)
  String.ofList (List.replicate pad ' ' ++ (spans.foldl step ([], 0)).1)

/-- A rule of 79 tildes. -/
def rule : String := String.ofList (List.replicate 79 '~')

/-- A line number, right-aligned to `width` digits. -/
def lineNumber (width n : Nat) : String :=
  let digits := toString n
  String.ofList (List.replicate (width - digits.length) ' ') ++ digits

end Report

open Report in
/-- The report of an error, as it is printed. -/
def Error.render (e : Error) : String :=
  let cs := e.pattern.toList
  let ls := lines cs
  let lineCount := ls.length + (if cs.getLast? == some '\n' then 1 else 0)
  let width := if lineCount ≤ 1 then 0 else (toString lineCount).length
  let pad := if width == 0 then 4 else 2 + width
  let spans := e.span :: (e.kind.auxSpan?).toList
  let oneLine := sortSpans (spans.filter fun s => s.start.line == s.stop.line)
  let multiLine := sortSpans (spans.filter fun s => s.start.line != s.stop.line)
  let quoteLine (l : List Char) (i : Nat) : String :=
    let head := if width == 0 then "    " else lineNumber width (i + 1) ++ ": "
    let here := oneLine.filter fun s => s.start.line == i + 1
    head ++ String.ofList l ++ "\n" ++ (if here.isEmpty then "" else carets pad here ++ "\n")
  let quoted := String.join (ls.zipIdx.map fun (l, i) => quoteLine l i)
  if cs.contains '\n' then
    let notes := multiLine.map fun s =>
      "on line " ++ toString s.start.line ++ " (column " ++ toString s.start.column ++
        ") through line " ++ toString s.stop.line ++ " (column " ++ toString (s.stop.column - 1) ++ ")"
    "regex parse error:\n" ++ rule ++ "\n" ++ quoted ++ rule ++ "\n" ++
      (if notes.isEmpty then "" else "\n".intercalate notes ++ "\n") ++
      "error: " ++ e.kind.message
  else
    "regex parse error:\n" ++ quoted ++ "error: " ++ e.kind.message

end JsonProbe.Regex
