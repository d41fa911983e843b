/-!
# Path segments

A path is a list of segments. A segment names a key of an object, an index into an array, or
both: the key first, then the index into the value found there. A segment with an empty key and an
index is a bare index.

A path is written segment by segment: a point before each non-empty key, the key, and the index
in brackets. The empty path, and any path of segments with neither, is written `.`.
-/

set_option autoImplicit false

namespace JsonProbe

/-- One step of a path: a key (empty for none) and an optional array index. -/
structure Segment where
  key : String
  index : Option Nat := none
  deriving DecidableEq, Repr

namespace Segment

/-- A segment that names a key only. -/
def ofKey (key : String) : Segment := ⟨key, none⟩

/-- A segment that is an array index only. -/
def ofIndex (index : Nat) : Segment := ⟨"", some index⟩

/-- A segment as written inside a path, without the point before its key. -/
def display (s : Segment) : String :=
  s.key ++ match s.index with
    | some i => "[" ++ toString i ++ "]"
    | none => ""

/-- A segment as written inside a path: a point before a non-empty key. -/
def written (s : Segment) : String :=
  (if s.key.isEmpty then "" else ".") ++ s.display

end Segment

/-- A path: the segments walked from the root, in order. -/
abbrev Path := List Segment

/-- A path as written. The empty writing becomes `.`, the root. -/
def Path.render (p : Path) : String :=
  let text := String.join (p.map Segment.written)
  if text.isEmpty then "." else text

end JsonProbe
