import JsonProbe.Regex.CharSet
/-!
# Expressions and their normal form

The meaning of a pattern is an expression over literals, sets of characters, empty-width
assertions, repetition, capture groups, sequence and choice. Expressions are built only through
the constructors of this module, which keep them in a normal form:

* a literal is never empty, and a set that is empty or holds one character is the failing
  expression or that character's literal;
* a sequence holds at least two parts, none of them a sequence or the empty string, and no two
  neighbouring literals;
* a choice holds at least two branches, none of them a choice; branches that are all single
  characters or all sets become one set, and a run of parts that every branch begins with is
  taken out in front of the choice;
* a repetition of something that only matches the empty string repeats at most once, and a
  repetition exactly once, or exactly never, is its body or the empty string.

The normal form decides the shape of the compiled automaton, and thus whether it fits the size
limit, so it is kept exactly even where it does not change what matches.
-/

set_option autoImplicit false

namespace JsonProbe.Regex

/-- An empty-width assertion about the characters around a position. -/
inductive Look where
  | textStart
  | textEnd
  | lineStart
  | lineEnd
  | crlfStart
  | crlfEnd
  | wordUnicode
  | wordUnicodeNegate
  | wordAscii
  | wordAsciiNegate
  | wordStartUnicode
  | wordEndUnicode
  | wordStartAscii
  | wordEndAscii
  | wordStartHalfUnicode
  | wordEndHalfUnicode
  | wordStartHalfAscii
  | wordEndHalfAscii
  deriving DecidableEq, Repr

/-- The meaning of a pattern. -/
inductive Hir where
  /-- The empty string. -/
  | empty
  /-- The characters in turn. -/
  | literal (cs : List Char)
  /-- One character of the set; `bytes` marks a set read with Unicode off. -/
  | chars (set : CharSet) (bytes : Bool)
  /-- The empty string, where the assertion holds. -/
  | look (l : Look)
  /-- At least `min` and at most `max` (unbounded if none) repetitions. -/
  | rep (min : Nat) (max : Option Nat) (greedy : Bool) (h : Hir)
  /-- The capture group of the given index. -/
  | capture (index : Nat) (h : Hir)
  /-- Each part in turn. -/
  | concat (hs : List Hir)
  /-- Any one of the branches. -/
  | alt (hs : List Hir)
  deriving Inhabited

/-- The number of bytes in the UTF-8 encoding of a code point. -/
def utf8Length (c : Nat) : Nat :=
  if c < 0x80 then 1 else if c < 0x800 then 2 else if c < 0x10000 then 3 else 4

/-- The length, in bytes, of the shortest character of a set; none for the empty set. -/
def CharSet.minLength (s : CharSet) : Option Nat :=
  s.ranges.head?.map fun r => utf8Length r.1

/-- The length, in bytes, of the longest character of a set; none for the empty set. -/
def CharSet.maxLength (s : CharSet) : Option Nat :=
  s.ranges.getLast?.map fun r => utf8Length r.2

/-- Whether an assertion holds inside the encoding of a character, where both neighbouring bytes
are non-ASCII and so neither is an ASCII word byte nor a line end: only the ASCII assertions
"not a boundary", "start half" and "end half" do. -/
def Look.holdsInside (l : Look) : Bool :=
  l == .wordAsciiNegate || l == .wordStartHalfAscii || l == .wordEndHalfAscii

/-- Whether an assertion is a Unicode word boundary of some kind. -/
def Look.isUnicodeWord (l : Look) : Bool :=
  l == .wordUnicode || l == .wordUnicodeNegate || l == .wordStartUnicode ||
    l == .wordEndUnicode || l == .wordStartHalfUnicode || l == .wordEndHalfUnicode

namespace Hir

mutual

/-- Whether two expressions are the same, node for node. -/
def beq : Hir → Hir → Bool
  | .empty, .empty => true
  | .literal a, .literal b => a == b
  | .chars s x, .chars t y => s == t && x == y
  | .look a, .look b => a == b
  | .rep a b c h, .rep a' b' c' h' => a == a' && b == b' && c == c' && beq h h'
  | .capture i h, .capture j h' => i == j && beq h h'
  | .concat hs, .concat hs' => beqList hs hs'
  | .alt hs, .alt hs' => beqList hs hs'
  | _, _ => false

/-- Whether two lists of expressions are the same, member for member. -/
def beqList : List Hir → List Hir → Bool
  | [], [] => true
  | h :: hs, h' :: hs' => beq h h' && beqList hs hs'
  | _, _ => false

end

instance : BEq Hir := ⟨beq⟩

/-- The expression that matches nothing: the empty set, as a set of bytes. -/
def fail : Hir := .chars CharSet.empty true

/-- The number of bytes in the UTF-8 encoding of characters. -/
def literalLength (cs : List Char) : Nat :=
  cs.foldl (fun n c => n + utf8Length c.toNat) 0

/-- The sum of two lengths, unknown if either is. -/
def addLength (a b : Option Nat) : Option Nat :=
  match a, b with
  | some a, some b => some (a + b)
  | _, _ => none

mutual

/-- The length, in bytes, of the shortest match; none if nothing matches. -/
def minLen : Hir → Option Nat
  | .empty => some 0
  | .literal cs => some (literalLength cs)
  | .chars s _ => s.minLength
  | .look _ => some 0
  | .rep min _ _ h => (minLen h).map (· * min)
  | .capture _ h => minLen h
  | .concat hs => minLenConcat hs
  | .alt hs => minLenAlt hs

/-- The shortest match of a sequence: the sum of its parts'. -/
def minLenConcat : List Hir → Option Nat
  | [] => some 0
  | h :: rest => addLength (minLen h) (minLenConcat rest)

/-- The shortest match of a choice: the least of its branches', unknown if any branch's is. -/
def minLenAlt : List Hir → Option Nat
  | [] => none
  | [h] => minLen h
  | h :: rest =>
    match minLen h, minLenAlt rest with
    | some a, some b => some (Nat.min a b)
    | _, _ => none

end

mutual

/-- The length, in bytes, of the longest match; none if unbounded or if nothing matches. -/
def maxLen : Hir → Option Nat
  | .empty => some 0
  | .literal cs => some (literalLength cs)
  | .chars s _ => s.maxLength
  | .look _ => some 0
  | .rep _ max _ h =>
    match max, maxLen h with
    | some n, some m => some (m * n)
    | _, _ => none
  | .capture _ h => maxLen h
  | .concat hs => maxLenConcat hs
  | .alt hs => maxLenAlt hs

/-- The longest match of a sequence: the sum of its parts'. -/
def maxLenConcat : List Hir → Option Nat
  | [] => some 0
  | h :: rest => addLength (maxLen h) (maxLenConcat rest)

/-- The longest match of a choice: the greatest of its branches', unknown if any branch's is. -/
def maxLenAlt : List Hir → Option Nat
  | [] => none
  | [h] => maxLen h
  | h :: rest =>
    match maxLen h, maxLenAlt rest with
    | some a, some b => some (Nat.max a b)
    | _, _ => none

end

/-- Whether an expression only ever matches the empty string. -/
def matchesEmptyOnly (h : Hir) : Bool := h.maxLen == some 0

mutual

/-- Whether every match must begin with the assertion, before any character is read. -/
def beginsWith (l : Look) : Hir → Bool
  | .look l' => l' == l
  | .rep min _ _ h => 0 < min && beginsWith l h
  | .capture _ h => beginsWith l h
  | .concat hs => beginsWithConcat l hs
  | .alt hs => beginsWithAlt l hs
  | _ => false

/-- Whether a sequence begins with the assertion: some part does, and every part before it only
matches the empty string. -/
def beginsWithConcat (l : Look) : List Hir → Bool
  | [] => false
  | h :: rest => beginsWith l h || (h.matchesEmptyOnly && beginsWithConcat l rest)

/-- Whether every branch of a choice begins with the assertion. -/
def beginsWithAlt (l : Look) : List Hir → Bool
  | [] => false
  | [h] => beginsWith l h
  | h :: rest => beginsWith l h && beginsWithAlt l rest

end

mutual

/-- Whether every match must end with the assertion, after the last character is read. -/
def endsWith (l : Look) : Hir → Bool
  | .look l' => l' == l
  | .rep min _ _ h => 0 < min && endsWith l h
  | .capture _ h => endsWith l h
  | .concat hs => endsWithConcat l hs
  | .alt hs => endsWithAlt l hs
  | _ => false

/-- Whether a sequence ends with the assertion: some part does, and every part after it only
matches the empty string. -/
def endsWithConcat (l : Look) : List Hir → Bool
  | [] => false
  | h :: rest => endsWithConcat l rest || (endsWith l h && rest.all matchesEmptyOnly)

/-- Whether every branch of a choice ends with the assertion. -/
def endsWithAlt (l : Look) : List Hir → Bool
  | [] => false
  | [h] => endsWith l h
  | h :: rest => endsWith l h && endsWithAlt l rest

end

mutual

/-- Whether an expression holds no assertion and no capture group, at any depth. -/
def isPlain : Hir → Bool
  | .look _ => false
  | .capture _ _ => false
  | .rep _ _ _ h => isPlain h
  | .concat hs => isPlainList hs
  | .alt hs => isPlainList hs
  | _ => true

/-- Whether every expression of a list is plain. -/
def isPlainList : List Hir → Bool
  | [] => true
  | h :: rest => isPlain h && isPlainList rest

end

mutual

/-- Whether an expression can match the empty string inside the encoding of a character. -/
def matchesEmptyInside : Hir → Bool
  | .empty => true
  | .literal cs => cs.isEmpty
  | .chars _ _ => false
  | .look l => l.holdsInside
  | .rep min _ _ h => min == 0 || matchesEmptyInside h
  | .capture _ h => matchesEmptyInside h
  | .concat hs => matchesEmptyInsideAll hs
  | .alt hs => matchesEmptyInsideAny hs

/-- Whether every expression of a list can match the empty string inside a character. -/
def matchesEmptyInsideAll : List Hir → Bool
  | [] => true
  | h :: rest => matchesEmptyInside h && matchesEmptyInsideAll rest

/-- Whether some expression of a list can match the empty string inside a character. -/
def matchesEmptyInsideAny : List Hir → Bool
  | [] => false
  | h :: rest => matchesEmptyInside h || matchesEmptyInsideAny rest

end

mutual

/-- Whether an expression holds a Unicode word boundary, at any depth. -/
def hasUnicodeWord : Hir → Bool
  | .look l => l.isUnicodeWord
  | .rep _ _ _ h => hasUnicodeWord h
  | .capture _ h => hasUnicodeWord h
  | .concat hs => hasUnicodeWordList hs
  | .alt hs => hasUnicodeWordList hs
  | _ => false

/-- Whether some expression of a list holds a Unicode word boundary. -/
def hasUnicodeWordList : List Hir → Bool
  | [] => false
  | h :: rest => hasUnicodeWord h || hasUnicodeWordList rest

end

/-- The expression of a set of characters: the empty set fails, and a set of one character is
that character's literal. -/
def ofSet (s : CharSet) (bytes : Bool) : Hir :=
  match s.ranges with
  | [] => fail
  | [(lo, hi)] => if lo == hi then .literal [Char.ofNat lo] else .chars s bytes
  | _ => .chars s bytes

/-- A repetition of an expression. A body that only matches the empty string is repeated at most
once, since repeating it again changes nothing; repeating exactly once is the body itself, and
exactly never the empty string. -/
def repetition (min : Nat) (max : Option Nat) (greedy : Bool) (h : Hir) : Hir :=
  let (min, max) :=
    if h.matchesEmptyOnly then (Nat.min min 1, some (Nat.min (max.getD 1) 1)) else (min, max)
  if min == 0 && max == some 0 then .empty
  else if min == 1 && max == some 1 then h
  else .rep min max greedy h

/-- Parts of a sequence with neighbouring literals joined; `pending` holds the characters of the
literal being joined, last first. -/
def joinLiterals (pending : List Char) : List Hir → List Hir
  | [] => if pending.isEmpty then [] else [.literal pending.reverse]
  | .literal cs :: rest => joinLiterals (cs.reverse ++ pending) rest
  | h :: rest =>
    if pending.isEmpty then h :: joinLiterals [] rest
    else .literal pending.reverse :: h :: joinLiterals [] rest

/-- The parts of one part of a sequence, as the normal form keeps them: a sequence gives its own
parts, and the empty string none. -/
def concatParts : Hir → List Hir
  | .concat hs => hs
  | .empty => []
  | h => [h]

/-- A sequence of expressions in normal form. -/
def sequence (hs : List Hir) : Hir :=
  match joinLiterals [] (hs.flatMap concatParts) with
  | [] => .empty
  | [h] => h
  | parts => .concat parts

/-- The branches of one branch of a choice: a choice gives its own branches. -/
def altBranches : Hir → List Hir
  | .alt hs => hs
  | h => [h]

/-- The characters of branches that are all literals of one character. -/
def singleChars : List Hir → Option (List Nat)
  | [] => some []
  | .literal [c] :: rest => (singleChars rest).map (c.toNat :: ·)
  | _ => none

/-- The union of branches that are all sets. -/
def setUnion : List Hir → Option CharSet
  | [] => some CharSet.empty
  | .chars s _ :: rest => (setUnion rest).map s.union
  | _ => none

/-- The parts of branches that are all sequences. -/
def concatsOf : List Hir → Option (List (List Hir))
  | [] => some []
  | .concat hs :: rest => (concatsOf rest).map (hs :: ·)
  | _ => none

/-- How many leading parts two sequences share. -/
def sharedLength : List Hir → List Hir → Nat
  | a :: as, b :: bs => if a == b then sharedLength as bs + 1 else 0
  | _, _ => 0

/-- The number of nodes of an expression, which bounds how often a choice can be refactored. -/
def size : Hir → Nat
  | .rep _ _ _ h => size h + 1
  | .capture _ h => size h + 1
  | .concat hs => sizes hs + 1
  | .alt hs => sizes hs + 1
  | _ => 1
where
  /-- The sizes of expressions, added. -/
  sizes : List Hir → Nat
    | [] => 0
    | h :: rest => size h + sizes rest

/-- A choice between expressions in normal form, given fuel for the refactorings of shared
prefixes; each refactoring leaves branches of fewer nodes, so their size is enough. -/
def alternationWith : Nat → List Hir → Hir
  | fuel, hs =>
    match hs.flatMap altBranches with
    | [] => fail
    | [h] => h
    | branches =>
      match singleChars branches, setUnion branches with
      | some cs, _ => ofSet (CharSet.ofRanges (cs.map fun c => (c, c))) false
      | none, some s => ofSet s false
      | none, none =>
        match fuel, concatsOf branches with
        | fuel + 1, some (first :: rest) =>
          let n := rest.foldl (fun n parts => Nat.min n (sharedLength first parts)) first.length
          if n == 0 then .alt branches
          else
            sequence (first.take n ++
              [alternationWith fuel ((first :: rest).map fun parts => sequence (parts.drop n))])
        | _, _ => .alt branches

/-- A choice between expressions in normal form. -/
def alternation (hs : List Hir) : Hir :=
  alternationWith (size.sizes hs) hs

end Hir

end JsonProbe.Regex
