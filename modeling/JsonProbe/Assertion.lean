import JsonProbe.Json.Reader
import JsonProbe.Path.Compile
import JsonProbe.Path.Resolve
import JsonProbe.Text.Utf8
import JsonProbe.Text.Blank
/-!
# Assertions about a document

Six assertions read a document from its bytes, compile a path, and look at what the path leads
to: that it is null, that its scalar text matches a regular expression, that it is an array of a
given length, its scalar text, the scalar texts of its elements, and that its last key is absent.

Each first reads the document and then compiles the path; the pattern of a match is compiled
before either. A failed assertion quotes the document: its bytes read lossily as UTF-8, with
White_Space trimmed from both ends.

Patterns are matched by any engine (`RegexEngine`); the command line uses the one of
`JsonProbe.Regex`.
-/

set_option autoImplicit false

namespace JsonProbe

/-- An assertion that does not hold. Each carries the rendered path and the quoted document. -/
inductive Violation where
  /-- The value is not null; `found` names its kind. -/
  | notNull (path found json : String)
  /-- The scalar text does not match the pattern. -/
  | mismatch (path pattern value json : String)
  /-- The array has another length. -/
  | wrongLength (path : String) (expected actual : Nat) (json : String)
  /-- The key that should be absent is there. -/
  | keyPresent (path json : String)
  deriving DecidableEq, Repr

/-- The message of a violated assertion. -/
def Violation.message : Violation → String
  | .notNull path found json =>
    "Match error: expected null at '" ++ path ++ "', got " ++ found ++ ". JSON: " ++ json
  | .mismatch path pattern value json =>
    "Match error: values mismatch at '" ++ path ++ "', pattern: '" ++ pattern ++ "' value: '" ++
      value ++ "'. JSON: " ++ json
  | .wrongLength path expected actual json =>
    "Match error: expected an array of length " ++ toString expected ++ " at '" ++ path ++
      "', got " ++ toString actual ++ ". JSON: " ++ json
  | .keyPresent path json =>
    "Match error: expected '" ++ path ++ "' to be missing, but it is present. JSON: " ++ json

/-- What the assertions ask of a regular-expression engine: to compile a pattern, or to give the
message saying why it cannot, and to tell whether a compiled expression matches somewhere in a
text. -/
class RegexEngine where
  Compiled : Type
  compile : String → Except String Compiled
  isMatch : Compiled → String → Bool

/-- Why an assertion failed. -/
inductive ProbeError where
  | parse (e : ParseError)
  | pathSyntax (e : PathSyntaxError)
  | shape (e : ShapeError)
  | lookup (e : LookupError)
  | violation (e : Violation)
  | pattern (pattern message : String)

/-- The message of a failed assertion. -/
def ProbeError.message : ProbeError → String
  | .parse e => e.message
  | .pathSyntax e => e.message
  | .shape e => e.message
  | .lookup e => e.message
  | .violation e => e.message
  | .pattern p m => "Failed to compile regexp '" ++ p ++ "': " ++ m

/-- A failed walk as a failed assertion. -/
def ResolveError.toProbe : ResolveError → ProbeError
  | .shape e => .shape e
  | .lookup e => .lookup e

/-- The document as failures quote it: read lossily, White_Space trimmed. -/
def document (bs : List UInt8) : String :=
  String.ofList (Blank.trim (Utf8.decodeLossy bs))

namespace Assertion

/-- Reads the document, then compiles the path. -/
def load (bs : List UInt8) (path : String) : Except ProbeError (Term × Path) := do
  let root ← (Term.parse bs).mapError .parse
  let segments ← (Path.compile path).mapError .pathSyntax
  pure (root, segments)

/-- Walks the document along the path. -/
def walk (root : Term) (p : Path) : Except ProbeError Term :=
  (p.resolve root).mapError ResolveError.toProbe

/-- The scalar text at the end of the path. -/
def scalarAt (root : Term) (p : Path) : Except ProbeError String := do
  let found ← walk root p
  match found.scalarText? with
  | some text => pure text
  | none => throw (.shape ⟨p.render, .scalar, found.typeName⟩)

/-- The elements of the array at the end of the path. -/
def arrayAt (root : Term) (p : Path) : Except ProbeError (List Term) := do
  match ← walk root p with
  | .array items => pure items
  | other => throw (.shape ⟨p.render, .array, other.typeName⟩)

/-- The value at the path is null. -/
def isNull (bs : List UInt8) (path : String) : Except ProbeError Unit := do
  let (root, p) ← load bs path
  match ← walk root p with
  | .null => pure ()
  | other => throw (.violation (.notNull p.render other.typeName (document bs)))

/-- The scalar text at the path matches the pattern somewhere. -/
def matchesPattern [RegexEngine] (bs : List UInt8) (path pattern : String) :
    Except ProbeError Unit := do
  let re ← (RegexEngine.compile pattern).mapError (.pattern pattern)
  let (root, p) ← load bs path
  let value ← scalarAt root p
  if !RegexEngine.isMatch re value then
    throw (.violation (.mismatch p.render pattern value (document bs)))

/-- The value at the path is an array of the given length. -/
def hasLength (bs : List UInt8) (path : String) (length : Nat) : Except ProbeError Unit := do
  let (root, p) ← load bs path
  let items ← arrayAt root p
  if items.length != length then
    throw (.violation (.wrongLength p.render length items.length (document bs)))

/-- The scalar text at the path. -/
def read (bs : List UInt8) (path : String) : Except ProbeError String := do
  let (root, p) ← load bs path
  scalarAt root p

/-- The scalar texts of the elements of the array at the path. The first element that is not a
scalar is reported at its own index. -/
def readArray (bs : List UInt8) (path : String) : Except ProbeError (List String) := do
  let (root, p) ← load bs path
  let items ← arrayAt root p
  items.zipIdx.mapM fun (item, i) =>
    match item.scalarText? with
    | some text => pure text
    | none => throw (.shape ⟨Path.render (p ++ [Segment.ofIndex i]), .scalar, item.typeName⟩)

/-- The last segment of the path leads nowhere because its key is missing. The empty path holds
only of a null document. A failure before the last step is reported as it is. -/
def keyIsMissing (bs : List UInt8) (path : String) : Except ProbeError Unit := do
  let (root, p) ← load bs path
  let present : ProbeError := .violation (.keyPresent p.render (document bs))
  match p.getLast? with
  | none =>
    match root with
    | .null => pure ()
    | _ => throw present
  | some last =>
    let parents := p.dropLast
    let parent ← walk root parents
    match Path.step parents last parent with
    | .ok _ => throw present
    | .error (.lookup (.missingKey _ _ _)) => pure ()
    | .error e => throw e.toProbe

end Assertion

end JsonProbe
