import JsonProbe.Path.Segment
/-!
# Reading a path expression

A path expression is read after one leading point is dropped. What remains is either empty, the
root, or pieces separated by points. A piece is

* a run of ASCII digits: an index, whose value saturates at `2^64 - 1`;
* a non-empty text without `[`: a key;
* a key (possibly empty) followed by `[digits]`: a key and an index.

The first bad piece, from the left, is reported: an empty piece as an empty segment of the whole
path, and a piece with a `[` that is not of the bracket form as an invalid index.
-/

set_option autoImplicit false

namespace JsonProbe

/-- Why a path expression could not be read. Both carry the whole expression. -/
inductive PathSyntaxError where
  /-- A piece between two points, or at an end, is empty. -/
  | emptyKey (path : String)
  /-- A piece with `[` that is not `key[digits]`. -/
  | invalidIndex (path : String) (segment : String)
  deriving DecidableEq, Repr

/-- The message of a path syntax error. -/
def PathSyntaxError.message : PathSyntaxError → String
  | .emptyKey path => "Path syntax error in '" ++ path ++ "': empty segment"
  | .invalidIndex path segment =>
    "Path syntax error in '" ++ path ++ "': invalid array index in segment '" ++ segment ++ "'"

namespace Path

/-- The largest index a path can hold, 2^64 - 1; larger numerals saturate to it. -/
def indexLimit : Nat := 18446744073709551615

/-- The index a non-empty run of ASCII digits denotes, saturated at `indexLimit`. -/
def index? (cs : List Char) : Option Nat :=
  if cs.isEmpty || !cs.all Char.isDigit then none
  else some (min (cs.foldl (fun n c => 10 * n + (c.toNat - 48)) 0) indexLimit)

/-- Reads one piece of the path `path`. The key of a bracketed piece ends at its first `[`. -/
def segment (path : String) (piece : List Char) : Except PathSyntaxError Segment :=
  match piece.span (· != '[') with
  | (_, []) =>
    if piece.isEmpty then .error (.emptyKey path)
    else match index? piece with
      | some i => .ok (Segment.ofIndex i)
      | none => .ok (Segment.ofKey (String.ofList piece))
  | (key, _ :: bracketed) =>
    match bracketed.reverse with
    | ']' :: inner =>
      match index? inner.reverse with
      | some i => .ok ⟨String.ofList key, some i⟩
      | none => .error (.invalidIndex path (String.ofList piece))
    | _ => .error (.invalidIndex path (String.ofList piece))

/-- Reads a path expression. -/
def compile (path : String) : Except PathSyntaxError Path :=
  let rest := match path.toList with
    | '.' :: more => more
    | all => all
  if rest.isEmpty then .ok []
  else (rest.splitOn '.').mapM (segment path)

end Path

end JsonProbe
