/-!
# Sets of characters

A set of characters is kept as inclusive ranges of code points, sorted and disjoint. A range may
run across the surrogate gap (U+D800 to U+DFFF); its members are then the characters on either
side. Sets are built from any list of ranges by sorting and merging the ranges that overlap or
touch as numbers, so U+D7FF and U+E000 stay apart; complement and difference, on the other hand,
step over the gap when they look for the next or previous character, and their results may span
it. The shape of a set thus depends on how it was built, and it counts: it decides how large a set
is taken to be, and whether two sets are the same.

Tables of Unicode properties are written as range text: ranges separated by spaces, each a
hexadecimal code point or two joined by `-`.
-/

set_option autoImplicit false

namespace JsonProbe.Regex

/-- A set of characters, as sorted, disjoint inclusive ranges of code points. -/
structure CharSet where
  ranges : List (Nat × Nat)
  deriving DecidableEq, Repr, Inhabited

namespace CharSet

/-- The largest code point. -/
def maxCodePoint : Nat := 0x10FFFF

/-- The set with no code point. -/
def empty : CharSet := ⟨[]⟩

/-- Merges sorted ranges that overlap or touch. -/
def merge : List (Nat × Nat) → List (Nat × Nat)
  | [] => []
  | [r] => [r]
  | (lo, hi) :: (lo', hi') :: rest =>
    if lo' ≤ hi + 1 then merge ((lo, max hi hi') :: rest)
    else (lo, hi) :: merge ((lo', hi') :: rest)
termination_by rs => rs.length

/-- The set of code points in any of the ranges. Empty ranges are dropped. -/
def ofRanges (rs : List (Nat × Nat)) : CharSet :=
  ⟨merge ((rs.filter fun r => r.1 ≤ r.2).mergeSort fun a b => a.1 ≤ b.1)⟩

/-- The set of one code point. -/
def single (c : Nat) : CharSet := ⟨[(c, c)]⟩

/-- The set of the code points from `lo` to `hi`. -/
def range (lo hi : Nat) : CharSet := ofRanges [(lo, hi)]

/-- Whether a code point is in the set. -/
def contains (s : CharSet) (c : Nat) : Bool :=
  s.ranges.any fun r => r.1 ≤ c && c ≤ r.2

/-- Every code point of either set. A set joined with nothing or with itself keeps its ranges as
they are; otherwise the ranges of both are sorted and merged. -/
def union (a b : CharSet) : CharSet :=
  if b.ranges.isEmpty || a.ranges == b.ranges then a else ofRanges (a.ranges ++ b.ranges)

/-- The character after `c`: the surrogate gap is stepped over. -/
def succ (c : Nat) : Nat := if c == 0xD7FF then 0xE000 else c + 1

/-- The character before `c`: the surrogate gap is stepped over. -/
def pred (c : Nat) : Nat := if c == 0xE000 then 0xD7FF else c - 1

/-- The range between two bounds, whichever comes first. -/
def between (a b : Nat) : Nat × Nat := if a ≤ b then (a, b) else (b, a)

/-- The gaps between neighbouring ranges, each from the character after one range to the
character before the next. Between a range ending at U+D7FF and one starting at U+E000 there is
no character, and the bounds, taken in order, give the range of those two characters. -/
def innerGaps : List (Nat × Nat) → List (Nat × Nat)
  | a :: b :: rest => between (succ a.2) (pred b.1) :: innerGaps (b :: rest)
  | _ => []

/-- The code points up to `top` that are not in the set: the gap before the first range, the
gaps between ranges and the gap after the last. The empty set gives the whole range. -/
def complementUpTo (top : Nat) (s : CharSet) : CharSet :=
  match s.ranges, s.ranges.getLast? with
  | r :: rest, some last =>
    ⟨(if 0 < r.1 then [(0, pred r.1)] else []) ++ innerGaps (r :: rest) ++
      (if last.2 < top then [(succ last.2, top)] else [])⟩
  | _, _ => ⟨[(0, top)]⟩

/-- The characters that are not in the set. -/
def complement (s : CharSet) : CharSet := complementUpTo maxCodePoint s

/-- The ranges in which ranges of two ordered lists meet, found by walking both lists in step. -/
def meet : List (Nat × Nat) → List (Nat × Nat) → List (Nat × Nat)
  | a :: as, b :: bs =>
    let lo := max a.1 b.1
    let hi := min a.2 b.2
    (if lo ≤ hi then [(lo, hi)] else []) ++
      (if a.2 < b.2 then meet as (b :: bs) else meet (a :: as) bs)
  | _, _ => []

/-- The code points of both sets. -/
def inter (a b : CharSet) : CharSet := ⟨meet a.ranges b.ranges⟩

/-- What is left of range `a` once range `b` is taken out: none, one or two ranges, the lower
first. -/
def rangeMinus (a b : Nat × Nat) : List (Nat × Nat) :=
  if b.1 ≤ a.1 && a.2 ≤ b.2 then []
  else if max a.1 b.1 > min a.2 b.2 then [a]
  else
    (if a.1 < b.1 then [between a.1 (pred b.1)] else []) ++
      (if b.2 < a.2 then [between (succ b.2) a.2] else [])

/-- Takes out of range `r` the ranges of `bs` that meet it, in order: the finished pieces below
them, what is left of `r` (none if nothing), and the ranges of `bs` that may still meet later
ranges. A range of `bs` that reaches past `r` is kept for them. -/
def minusRun (r : Nat × Nat) : List (Nat × Nat) →
    List (Nat × Nat) × Option (Nat × Nat) × List (Nat × Nat)
  | [] => ([], some r, [])
  | b :: bs =>
    if max r.1 b.1 > min r.2 b.2 then ([], some r, b :: bs)
    else
      match rangeMinus r b with
      | [] => ([], none, b :: bs)
      | [r'] => if r.2 < b.2 then ([], some r', b :: bs) else minusRun r' bs
      | r₁ :: r₂ :: _ =>
        if r.2 < b.2 then ([r₁], some r₂, b :: bs)
        else
          let (done, left, rest) := minusRun r₂ bs
          (r₁ :: done, left, rest)

/-- The ranges of the first ordered list with those of the second taken out. -/
def minus : List (Nat × Nat) → List (Nat × Nat) → List (Nat × Nat)
  | [], _ => []
  | as, [] => as
  | a :: as, b :: bs =>
    if b.2 < a.1 then minus (a :: as) bs
    else if a.2 < b.1 then a :: minus as (b :: bs)
    else
      let (done, left, rest) := minusRun a (b :: bs)
      done ++ left.toList ++ minus as rest
termination_by as bs => (as.length, bs.length)

/-- The code points of `a` that are not in `b`. -/
def diff (a b : CharSet) : CharSet :=
  if a.ranges.isEmpty || b.ranges.isEmpty then a else ⟨minus a.ranges b.ranges⟩

/-- The code points of exactly one of the sets: those of either, less those of both. -/
def symmDiff (a b : CharSet) : CharSet := diff (union a b) (inter a b)

/-- Whether every code point of the set is ASCII. -/
def isAscii (s : CharSet) : Bool := s.ranges.all fun r => r.2 ≤ 0x7F

/-- Adds the other letter of each ASCII letter in the set. -/
def foldAscii (s : CharSet) : CharSet :=
  let upper := inter s (range 0x41 0x5A)
  let lower := inter s (range 0x61 0x7A)
  union s (ofRanges (upper.ranges.map (fun r => (r.1 + 32, r.2 + 32)) ++
    lower.ranges.map (fun r => (r.1 - 32, r.2 - 32))))

/-- Adds every member of each orbit that meets the set. -/
def foldWith (orbits : List (List Nat)) (s : CharSet) : CharSet :=
  union s (ofRanges ((orbits.filter fun o => o.any s.contains).flatMap fun o => o.map fun c => (c, c)))

/-- The value of a hexadecimal digit. -/
def hexDigit (c : Char) : Nat :=
  if c.isDigit then c.toNat - 48
  else if 'A' ≤ c && c ≤ 'F' then c.toNat - 55
  else if 'a' ≤ c && c ≤ 'f' then c.toNat - 87
  else 0

/-- The value of a hexadecimal numeral. -/
def hexValue (cs : List Char) : Nat :=
  cs.foldl (fun n c => 16 * n + hexDigit c) 0

/-- One range of range text: `LO` or `LO-HI`. -/
def parseRange (cs : List Char) : Nat × Nat :=
  match cs.splitOn '-' with
  | [lo, hi] => (hexValue lo, hexValue hi)
  | _ => (hexValue cs, hexValue cs)

/-- The set a range text describes. -/
def ofText (text : String) : CharSet :=
  ofRanges (((text.toList.splitOn ' ').filter fun w => !w.isEmpty).map parseRange)

end CharSet

end JsonProbe.Regex
