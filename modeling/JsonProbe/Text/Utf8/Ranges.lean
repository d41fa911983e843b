import JsonProbe.Text.Utf8
/-!
# UTF-8 byte ranges of a range of code points

The encodings of a range of code points are the byte strings matched by a short list of sequences
of byte ranges, one range per byte. `Utf8.rangeSequences` gives that list in ascending order of
code points, cutting the range where the surrogate gap lies, where the encoding length changes,
and where a continuation byte would otherwise wrap around, until each piece is the set of
encodings between the encodings of its two ends, byte by byte.
-/

set_option autoImplicit false

namespace JsonProbe.Utf8

/-- What is done with the first range of the work list. -/
inductive RangeStep where
  /-- The range is cut in two parts, to be worked on in order. -/
  | cut (first second : Nat × Nat)
  /-- The range is empty. -/
  | drop
  /-- The range is one sequence of byte ranges. -/
  | emit (seq : List (Nat × Nat))

/-- The largest code points whose encodings have one, two and three bytes. -/
def lengthEnds : List Nat := [0x7F, 0x7FF, 0xFFFF]

/-- The first boundary of encoding length strictly inside a range. -/
def lengthCut (lo hi : Nat) : Option Nat :=
  lengthEnds.findSome? fun m => if lo ≤ m && m < hi then some m else none

/-- The spans of the trailing bits that one, two and three continuation bytes carry:
`2 ^ 6`, `2 ^ 12` and `2 ^ 18`. -/
def continuationSpans : List Nat := [0x40, 0x1000, 0x40000]

/-- The first cut that keeps the trailing bits of a range of one encoding length from wrapping:
a range whose ends differ above the bits of a span `w` must start at a multiple of `w` and end
just below one. -/
def alignCut (lo hi : Nat) : Option ((Nat × Nat) × (Nat × Nat)) :=
  continuationSpans.findSome? fun w =>
    if lo / w == hi / w then none
    else if lo % w != 0 then some ((lo, lo - lo % w + w - 1), (lo - lo % w + w, hi))
    else if hi % w != w - 1 then some ((lo, hi - hi % w - 1), (hi - hi % w, hi))
    else none

/-- The step for a range of code points. -/
def rangeStep (lo hi : Nat) : RangeStep :=
  if lo < 0xE000 && 0xD7FF < hi then .cut (lo, 0xD7FF) (0xE000, hi)
  else if hi < lo then .drop
  else match lengthCut lo hi with
    | some m => .cut (lo, m) (m + 1, hi)
    | none =>
      if hi ≤ 0x7F then .emit [(lo, hi)]
      else match alignCut lo hi with
        | some (a, b) => .cut a b
        | none =>
          .emit (((encode (Char.ofNat lo)).map UInt8.toNat).zip
            ((encode (Char.ofNat hi)).map UInt8.toNat))

/-- Works through a list of ranges, first range first, collecting the sequences in reverse. -/
def rangeSequencesAux :
    Nat → List (Nat × Nat) → List (List (Nat × Nat)) → List (List (Nat × Nat))
  | 0, _, out => out.reverse
  | _, [], out => out.reverse
  | fuel + 1, (lo, hi) :: rest, out =>
    match rangeStep lo hi with
    | .cut a b => rangeSequencesAux fuel (a :: b :: rest) out
    | .drop => rangeSequencesAux fuel rest out
    | .emit seq => rangeSequencesAux fuel rest (seq :: out)

/-- The sequences of byte ranges whose strings are the encodings of the code points from `lo` to
`hi`. A range splits into at most five parts at the surrogate gap and the length boundaries, and
each part into at most seven sequences, one cut or one sequence per step, so 128 steps are
enough. -/
def rangeSequences (lo hi : Nat) : List (List (Nat × Nat)) :=
  rangeSequencesAux 128 [(lo, hi)] []

end JsonProbe.Utf8
