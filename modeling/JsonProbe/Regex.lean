import JsonProbe.Regex.Parse
import JsonProbe.Regex.Hir
import JsonProbe.Regex.Automaton
import JsonProbe.Regex.Size
import JsonProbe.Regex.Prefixes
/-!
# Regular expressions

A pattern is read into a syntax tree, given its meaning under its flags, and compiled to an
automaton; `Regex.isMatch` tells whether the pattern matches anywhere in a text. A pattern that
cannot be read or has no meaning gives its report; one whose automaton over bytes would pass the
size limit, read forward or backward (see `Regex.Size`), is refused with the limit, unless
searching for it is the same as searching for its literal prefixes (see `literalSearch?`), which
needs no automaton.
-/

set_option autoImplicit false

namespace JsonProbe

/-- How a compiled expression finds a match. -/
inductive Regex.Matcher where
  /-- A match is an occurrence of any of the literals, given as their UTF-8 bytes. -/
  | literals (needles : List (List Nat))
  /-- A match is a match of the automaton. `emptyInside` tells that the expression can match
  the empty string inside the encoding of a character, `unicodeWord` that it holds a Unicode word
  boundary. -/
  | automaton (a : Regex.Automaton) (emptyInside unicodeWord : Bool)

/-- A compiled regular expression. -/
structure Regex where
  pattern : String
  matcher : Regex.Matcher

namespace Regex

/-- The size limit of a compiled expression, in bytes, as its refusal states it. -/
def sizeLimit : Nat := 10485760

/-- Why a pattern gives no expression. -/
inductive CompileError where
  /-- The pattern cannot be read, or has no meaning. -/
  | invalid (e : Error)
  /-- The compiled expression would exceed the size limit. -/
  | tooBig (limit : Nat)
  deriving Repr

/-- The message of a compile error. -/
def CompileError.message : CompileError → String
  | .invalid e => e.render
  | .tooBig limit => "Compiled regex exceeds size limit of " ++ toString limit ++ " bytes."

/-- Compiles a pattern. -/
def compile (pattern : String) : Except CompileError Regex :=
  match parse pattern >>= Ast.toHir pattern with
  | .error e => .error (.invalid e)
  | .ok hir =>
    match literalSearch? hir with
    | some needles => .ok ⟨pattern, .literals needles⟩
    | none =>
      if Size.fits sizeLimit hir then
        .ok ⟨pattern, .automaton (Automaton.ofHir hir) hir.matchesEmptyInside hir.hasUnicodeWord⟩
      else .error (.tooBig sizeLimit)

/-- Whether a byte string occurs in another. -/
def occursIn (needle : List Nat) : List Nat → Bool
  | [] => needle.isEmpty
  | b :: rest => needle.isPrefixOf (b :: rest) || occursIn needle rest

/-- Whether the expression matches somewhere in the text.

A search reports the match that ends first. An empty match inside the encoding of a character is
not reported: the search starts again one byte further on, and so passes over every match that
began before it. When the expression can match the empty string inside a character, the matches
found are thus those that read ASCII characters alone. A text of at most 128 bytes searched for an
expression with a Unicode word boundary is the exception: it is searched by trying each start in
turn, which finds every match. -/
def isMatch (r : Regex) (text : String) : Bool :=
  match r.matcher with
  | .literals needles =>
    let bytes := (Utf8.encodeList text.toList).map UInt8.toNat
    needles.any fun n => occursIn n bytes
  | .automaton a emptyInside unicodeWord =>
    if emptyInside && !(unicodeWord && text.utf8ByteSize ≤ 128) then a.isMatchReadingAscii text
    else a.isMatch text

end Regex

end JsonProbe
