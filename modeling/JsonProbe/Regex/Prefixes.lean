import JsonProbe.Regex.Hir.Basic
import JsonProbe.Text.Utf8
/-!
# Literal prefixes of an expression

`Prefixes.ofHir` gives literals that every match of an expression begins with, in order of
preference, each marked exact when a match may be that literal and nothing more. The set is
given up (`any`) where it would pass fixed bounds: a set of more than 10 characters, more than
250 literals, a literal cut at 100 bytes, more than 10 copies of a repeated part.
`Prefixes.optimize` then shapes the set for a fast search: a literal that an earlier one begins
with is dropped, a long common start stands for the whole set, a large set is cut to short
prefixes, and a set with an empty literal, or with a single very common byte, is given up.

An expression without assertions and capture groups whose optimized prefixes are exact is
equivalent to searching for those literals (`literalSearch?`), as is a choice of at least 3000
literals; no automaton is compiled for such an expression, so the size limit does not apply.
-/

set_option autoImplicit false

namespace JsonProbe.Regex

/-- A literal that matches begin with, as a search looks for it: its bytes, and whether a match
may be exactly these bytes rather than only begin with them. -/
structure Needle where
  bytes : List Nat
  exact : Bool
  deriving DecidableEq

namespace Needle

/-- The literal, no longer exact. -/
def inexact (l : Needle) : Needle := { l with exact := false }

/-- The literal cut to its first `n` bytes; a literal that loses bytes is no longer exact. -/
def keepFirst (n : Nat) (l : Needle) : Needle :=
  if l.bytes.length ≤ n then l else ⟨l.bytes.take n, false⟩

/-- The rank of each byte by how often it occurs in typical text, from 0 (rarest) to 255. -/
def byteRank : Array Nat := #[
    55, 52, 51, 50, 49, 48, 47, 46, 45, 103, 242, 66, 67, 229, 44, 43,
    42, 41, 40, 39, 38, 37, 36, 35, 34, 33, 56, 32, 31, 30, 29, 28,
    255, 148, 164, 149, 136, 160, 155, 173, 221, 222, 134, 122, 232, 202, 215, 224,
    208, 220, 204, 187, 183, 179, 177, 168, 178, 200, 226, 195, 154, 184, 174, 126,
    120, 191, 157, 194, 170, 189, 162, 161, 150, 193, 142, 137, 171, 176, 185, 167,
    186, 112, 175, 192, 188, 156, 140, 143, 123, 133, 128, 147, 138, 146, 114, 223,
    151, 249, 216, 238, 236, 253, 227, 218, 230, 247, 135, 180, 241, 233, 246, 244,
    231, 139, 245, 243, 251, 235, 201, 196, 240, 214, 152, 182, 205, 181, 127, 27,
    212, 211, 210, 213, 228, 197, 169, 159, 131, 172, 105, 80, 98, 96, 97, 81,
    207, 145, 116, 115, 144, 130, 153, 121, 107, 132, 109, 110, 124, 111, 82, 108,
    118, 141, 113, 129, 119, 125, 165, 117, 92, 106, 83, 72, 99, 93, 65, 79,
    166, 237, 163, 199, 190, 225, 209, 203, 198, 217, 219, 206, 234, 248, 158, 239,
    255, 255, 255, 255, 255, 255, 255, 255, 255, 255, 255, 255, 255, 255, 255, 255,
    255, 255, 255, 255, 255, 255, 255, 255, 255, 255, 255, 255, 255, 255, 255, 255,
    255, 255, 255, 255, 255, 255, 255, 255, 255, 255, 255, 255, 255, 255, 255, 255,
    255, 255, 255, 255, 255, 255, 255, 255, 255, 255, 255, 255, 255, 255, 255, 255]

/-- The rank of a byte; bytes past the table are taken as the most common. -/
def rank (b : Nat) : Nat := byteRank.getD b 255

/-- Whether a literal would make a search stop almost everywhere: it is empty, or it is one
very common byte. -/
def isPoisonous (l : Needle) : Bool :=
  match l.bytes with
  | [] => true
  | [b] => 250 ≤ rank b
  | _ => false

end Needle

/-- Merges neighbouring literals of the same bytes into one, exact only if both were. -/
def mergeRuns : List Needle → List Needle
  | a :: b :: rest =>
    if a.bytes == b.bytes then mergeRuns (⟨a.bytes, a.exact && b.exact⟩ :: rest)
    else a :: mergeRuns (b :: rest)
  | ls => ls
termination_by ls => ls.length

/-- Drops each literal that begins with an earlier kept one: a search that prefers earlier
literals never reports it. -/
def preferred (ls : List Needle) : List Needle :=
  (ls.foldl (fun kept l =>
    if kept.any fun k => k.bytes.isPrefixOf l.bytes then kept else l :: kept) []).reverse

/-- The longest common start of two byte strings. -/
def commonStart : List Nat → List Nat → List Nat
  | a :: as, b :: bs => if a == b then a :: commonStart as bs else []
  | _, _ => []

/-- The longest start shared by all the literals; none for no literals. -/
def sharedStart : List Needle → Option (List Nat)
  | [] => none
  | l :: rest => some (rest.foldl (fun acc m => commonStart acc m.bytes) l.bytes)

/-- The literals that every match begins with, in order of preference, or `any` when they are
not tracked. -/
inductive Prefixes where
  | finite (lits : List Needle)
  | any
  deriving DecidableEq

namespace Prefixes

/-- The most characters a set may have to be spelt out. -/
def classLimit : Nat := 10

/-- The most copies of a repeated part that are spelt out. -/
def repeatLimit : Nat := 10

/-- The most bytes kept of a literal. -/
def literalLimit : Nat := 100

/-- The most literals a set may have. -/
def totalLimit : Nat := 250

/-- No literals: nothing matches. -/
def nothing : Prefixes := .finite []

/-- The empty literal, exact: the empty string matches. -/
def emptyString : Prefixes := .finite [⟨[], true⟩]

/-- The number of literals, none for `any`. -/
def count? : Prefixes → Option Nat
  | .finite ls => some ls.length
  | .any => none

/-- The length of the shortest literal, none for `any` or no literals. -/
def minLength? : Prefixes → Option Nat
  | .finite ls => (ls.map (·.bytes.length)).min?
  | .any => none

/-- Whether the set is finite and its literals are all exact. -/
def isExact : Prefixes → Bool
  | .finite ls => ls.all (·.exact)
  | .any => false

/-- Whether nothing can follow the literals: the set is `any` or none of them is exact. -/
def isInexact : Prefixes → Bool
  | .finite ls => ls.all (!·.exact)
  | .any => true

/-- Every literal, no longer exact. -/
def makeInexact : Prefixes → Prefixes
  | .finite ls => .finite (ls.map Needle.inexact)
  | .any => .any

/-- Every literal cut to its first `n` bytes. -/
def keepFirst (n : Nat) : Prefixes → Prefixes
  | .finite ls => .finite (ls.map (Needle.keepFirst n))
  | .any => .any

/-- The set with neighbouring equal literals merged. -/
def merged : Prefixes → Prefixes
  | .finite ls => .finite (mergeRuns ls)
  | .any => .any

/-- The literals of one set, then those of the other, merged; `any` if either is. -/
def join : Prefixes → Prefixes → Prefixes
  | .finite a, .finite b => .finite (mergeRuns (a ++ b))
  | _, _ => .any

/-- Each exact literal of the first set followed by each literal of the second, exact if that
one is; inexact literals of the first set stay as they are. Followed by `any`, a set with the
empty literal becomes `any` and every other set inexact. -/
def follow : Prefixes → Prefixes → Prefixes
  | s, .any => if s.minLength? == some 0 then .any else s.makeInexact
  | .any, _ => .any
  | .finite a, .finite b =>
    .finite (mergeRuns (a.flatMap fun x =>
      if x.exact then b.map fun y => ⟨x.bytes ++ y.bytes, y.exact⟩ else [x]))

/-- Whether two sets together would pass the bound on literals, with `combine` giving the count
of their combination. -/
def passes (combine : Nat → Nat → Nat) (a b : Prefixes) : Bool :=
  match a.count?, b.count? with
  | some m, some n => totalLimit < combine m n
  | _, _ => false

/-- The prefixes of a sequence of two parts, within the bounds: a second part whose product with
the first has too many literals counts as `any`. -/
def andThen (a b : Prefixes) : Prefixes :=
  let b := if passes (· * ·) a b then .any else b
  (a.follow b).keepFirst literalLimit

/-- The prefixes of a choice of two parts, within the bounds: when there are too many literals,
both sets are cut to four bytes, and if that is not enough the second counts as `any`. -/
def orElse (a b : Prefixes) : Prefixes :=
  if passes (· + ·) a b then
    let a := (a.keepFirst 4).merged
    let b := (b.keepFirst 4).merged
    a.join (if passes (· + ·) a b then .any else b)
  else a.join b

/-- The characters of a set, as exact literals of their encodings; `any` for a set of more than
`classLimit` code points, counted over its ranges as numbers, so that a range across the
surrogate gap counts the gap too. -/
def ofSet (s : CharSet) : Prefixes :=
  let size := s.ranges.foldl (fun n r => n + (r.2 + 1 - r.1)) 0
  if classLimit < size then .any
  else .finite (s.ranges.flatMap fun r =>
    (List.range (r.2 + 1 - r.1)).map fun i =>
      ⟨(Utf8.encode (Char.ofNat (r.1 + i))).map UInt8.toNat, true⟩)

/-- Up to `n` copies of a part's prefixes after `acc`, stopping once nothing can follow. -/
def copies (part : Prefixes) : Nat → Prefixes → Prefixes
  | 0, acc => acc
  | n + 1, acc => if acc.isInexact then acc else copies part n (acc.andThen part)

/-- The prefixes of a repetition, from those of its body. An optional part keeps its exactness
only when it appears at most once; a lazy one prefers the empty string. Otherwise up to
`repeatLimit` copies are spelt out, and the result is exact only for a fixed count within it. -/
def repetition (min : Nat) (max : Option Nat) (greedy : Bool) (body : Prefixes) : Prefixes :=
  if min == 0 then
    let body := if max == some 1 then body else body.makeInexact
    if greedy then body.orElse emptyString else emptyString.orElse body
  else
    let seq := copies body (Nat.min min repeatLimit) emptyString
    if max == some min && min ≤ repeatLimit then seq else seq.makeInexact

mutual

/-- The prefixes of an expression. Assertions are read as the empty string. -/
def ofHir : Hir → Prefixes
  | .empty => emptyString
  | .look _ => emptyString
  | .literal cs =>
    (Prefixes.finite [⟨(Utf8.encodeList cs).map UInt8.toNat, true⟩]).keepFirst literalLimit
  | .chars s _ => ofSet s
  | .rep min max greedy h => repetition min max greedy (ofHir h)
  | .capture _ h => ofHir h
  | .concat hs => ofSequence emptyString hs
  | .alt hs => ofChoice nothing hs

/-- The prefixes of the parts of a sequence after `acc`, stopping once nothing can follow. -/
def ofSequence (acc : Prefixes) : List Hir → Prefixes
  | [] => acc
  | h :: rest => if acc.isInexact then acc else ofSequence (acc.andThen (ofHir h)) rest

/-- The prefixes of the branches of a choice after `acc`, stopping at `any`. -/
def ofChoice (acc : Prefixes) : List Hir → Prefixes
  | [] => acc
  | h :: rest =>
    match acc with
    | .any => .any
    | .finite _ => ofChoice (acc.orElse (ofHir h)) rest

end

/-- Shortens a set of many literals for a faster search: while it has more literals than a step's
bound, cut them to the step's length and drop those that begin with an earlier one. -/
def shorten (ls : List Needle) : List (Nat × Nat) → List Needle
  | [] => ls
  | (keep, bound) :: steps =>
    if ls.length ≤ bound then ls else shorten (preferred (ls.map (Needle.keepFirst keep))) steps

/-- The steps of `shorten`: a length to cut to, and the number of literals above which to cut. -/
def shortenSteps : List (Nat × Nat) := [(5, 10), (4, 10), (3, 64), (2, 64), (1, 10)]

/-- The second half of `optimize`, once a common start has been used: shortens the set, gives it
up if a literal is poisonous, and goes back to the exact set it had if that was exact and the
result is given up, has a literal of at most two bytes, or has more than 64 literals. -/
def settle (ls : List Needle) : Prefixes :=
  let short := shorten ls shortenSteps
  let result : Prefixes := if short.any Needle.isPoisonous then .any else .finite short
  if ls.all (·.exact) then
    match result with
    | .any => .finite ls
    | .finite rs =>
      match (rs.map (·.bytes.length)).min? with
      | none => .finite ls
      | some m => if m ≤ 2 || 64 < rs.length then .finite ls else result
  else result

/-- The prefixes shaped for a fast search. A set with the empty literal is given up. A short
common start of several literals whose first byte is rare stands for them as one byte; a longer
common start stands for them when it has more than four bytes, or when the set is not already a
small exact one. -/
def optimize : Prefixes → Prefixes
  | .any => .any
  | .finite ls =>
    if (ls.map (·.bytes.length)).min? == some 0 then .any
    else
      let origLen := ls.length
      let ls := preferred ls
      match sharedStart ls with
      | none => settle ls
      | some fix =>
        let rare := Needle.rank (fix.headD 0) < 200
        if 1 < origLen && 1 ≤ fix.length && fix.length ≤ 3 && rare then
          .finite (mergeRuns (ls.map (Needle.keepFirst 1)))
        else
          let isFast := ls.all (·.exact) && ls.length ≤ 16
          if 4 < fix.length || (1 < fix.length && !isFast) then
            settle (mergeRuns (ls.map (Needle.keepFirst fix.length)))
          else settle ls

end Prefixes

/-- The literals of the branches of a choice of at least 3000 literals. -/
def manyLiterals? : Hir → Option (List (List Nat))
  | .alt hs =>
    if hs.length < 3000 then none
    else hs.mapM fun
      | .literal cs => some ((Utf8.encodeList cs).map UInt8.toNat)
      | _ => none
  | _ => none

/-- The literals that an expression is searched for as, when matching it is the same as finding
the first of them: it has no assertion and no capture group, and its optimized prefixes are exact,
not empty and without the empty literal; or it is a choice of at least 3000 literals. -/
def literalSearch? (h : Hir) : Option (List (List Nat)) :=
  if !h.isPlain then none
  else
    match (Prefixes.ofHir h).optimize with
    | .finite ls@(_ :: _) =>
      if ls.all fun l => l.exact && !l.bytes.isEmpty then some (ls.map (·.bytes))
      else manyLiterals? h
    | _ => manyLiterals? h

end JsonProbe.Regex
