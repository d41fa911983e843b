import JsonProbe.Path.Segment
import JsonProbe.Json.Term
/-!
# Walking a value along a path

Each segment is one step: its key, if any, is looked up in an object, and then its index, if
any, in the array found. A step that fails says where it failed, as the path walked so far:

* a key step reports the path before the segment;
* an index step reports the path up to and including the segment's key, without its index.

A value of the wrong kind is a shape error; a missing key or an index past the end is a lookup
error, which lists the object's keys or the array's length.
-/

set_option autoImplicit false

namespace JsonProbe

/-- The kind of value a step or an assertion needs. -/
inductive Shape where
  | object
  | array
  | scalar
  deriving DecidableEq, Repr

/-- The word messages use for a shape. -/
def Shape.describe : Shape → String
  | .object => "object"
  | .array => "array"
  | .scalar => "scalar"

/-- A value of the wrong kind was found at `path`. -/
structure ShapeError where
  path : String
  expected : Shape
  found : String
  deriving DecidableEq, Repr

/-- The message of a shape error. -/
def ShapeError.message (e : ShapeError) : String :=
  "Shape error: expected " ++ e.expected.describe ++ " at '" ++ e.path ++ "', found " ++ e.found

/-- A key or index that is not there. -/
inductive LookupError where
  /-- The object at `path` has no member `key`; `available` are its keys in order. -/
  | missingKey (key : String) (path : String) (available : List String)
  /-- The array at `path` has `length` elements, not more than `index`. -/
  | indexOutOfBounds (index : Nat) (length : Nat) (path : String)
  deriving DecidableEq, Repr

/-- The message of a lookup error. -/
def LookupError.message : LookupError → String
  | .missingKey key path available =>
    "Path error: missing key '" ++ key ++ "' at '" ++ path ++ "', available keys: [" ++
      ", ".intercalate available ++ "]"
  | .indexOutOfBounds index length path =>
    "Path error: index " ++ toString index ++ " out of bounds at '" ++ path ++
      "', array length is " ++ toString length

/-- Why walking a path failed. -/
inductive ResolveError where
  | shape (e : ShapeError)
  | lookup (e : LookupError)
  deriving DecidableEq, Repr

namespace Path

/-- One step from `current` along segment `s`. `before` is the path walked before `s`, for
messages. -/
def step (before : Path) (s : Segment) (current : Term) : Except ResolveError Term := do
  let found ← if s.key.isEmpty then pure current else
    match current with
    | .object members =>
      match Term.member? members s.key with
      | some v => pure v
      | none => throw (.lookup (.missingKey s.key (Path.render before) (members.map Prod.fst)))
    | other => throw (.shape ⟨Path.render before, .object, other.typeName⟩)
  match s.index with
  | none => pure found
  | some i =>
    let here := Path.render (before ++ [Segment.ofKey s.key])
    match found with
    | .array items =>
      match items[i]? with
      | some v => pure v
      | none => throw (.lookup (.indexOutOfBounds i items.length here))
    | other => throw (.shape ⟨here, .array, other.typeName⟩)

/-- Walks `t` along the segments `rest`, after the segments `before` have been walked. -/
def resolveFrom (before : Path) : Path → Term → Except ResolveError Term
  | [], t => pure t
  | s :: rest, t => do
    let next ← step before s t
    resolveFrom (before ++ [s]) rest next

/-- Walks a value along a path from its root. -/
def resolve (p : Path) (root : Term) : Except ResolveError Term :=
  resolveFrom [] p root

end Path

end JsonProbe
