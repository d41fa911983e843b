import JsonProbe.Regex.Hir.Basic
import JsonProbe.Regex.Size.Trie
/-!
# The size of a compiled expression

An expression compiles to an automaton over bytes in two directions: forward, with a pair of
states marking each capture group, and backward, without them and with sequences laid out last
part first. `Size.fits` tells whether both stay within a limit, counting states and held bytes as
`Builder` does, in the order the states are made, so that the shared states of character sets
come out exactly.

Each construct has a fixed layout:

* the empty string and an assertion are one state, a literal is one state per byte;
* a sequence links each part's exit to the next part;
* a choice is a split state with an alternative per branch and a common exit; a choice of
  literals only is a trie of their bytes;
* `x?` is a split, `x` and an exit; `x*` is a split looping through `x` when `x` always reads
  something, and otherwise `x`, a split back into it, a split around it and an exit; `x{n,}` is
  `n - 1` copies and a last copy with a split back into it; `x{n,m}` is `n` copies, an exit, and
  `m - n` copies each behind a split that may skip to the exit.

A search may start anywhere, so a lazy loop over any byte comes first, unless every match is
anchored at the end the search starts from: the start of the text forward, its end backward.
-/

set_option autoImplicit false

namespace JsonProbe.Regex.Size

/-- A compiled part: the builder after it, and whether its exit is a split state. -/
abbrev Part := Option (Builder × Bool)

/-- One state that does not split. -/
def single (b : Builder) : Part := (b.add 0).map (·, false)

/-- A set of bytes given by `ranges` ranges: an exit and a state holding a transition per range. -/
def byteSet (b : Builder) (ranges : Nat) : Part := do
  let b ← b.add 0
  let b ← b.add (transitionBytes * ranges)
  pure (b, false)

/-- Links the exit of the part before, if there is one. -/
def linkFrom (b : Builder) : Option Bool → Option Builder
  | some splitExit => b.link splitExit
  | none => some b

/-- `n` copies of a part in sequence, each linked from the one before; gives the exit of the last,
none if there are no copies. -/
def copies (step : Builder → Part) :
    Nat → Builder → Option Bool → Option (Builder × Option Bool)
  | 0, b, prev => some (b, prev)
  | n + 1, b, prev =>
    match step b with
    | none => none
    | some (b, exit) =>
      match linkFrom b prev with
      | none => none
      | some b => copies step n b (some exit)

/-- Exactly `n` copies of a part in sequence; no copies are the empty string. -/
def exactly (step : Builder → Part) (n : Nat) (b : Builder) : Part :=
  match copies step n b none with
  | none => none
  | some (b, some exit) => some (b, exit)
  | some (b, none) => single b

/-- `n` optional copies of a part: each a split state, linked from the part before, that goes on
to a copy or skips to the common exit. Gives the exit of the last copy. -/
def optionals (step : Builder → Part) : Nat → Builder → Bool → Part
  | 0, b, prev => some (b, prev)
  | n + 1, b, prev =>
    match b.add 0 with
    | none => none
    | some b =>
      match step b with
      | none => none
      | some (b, exit) =>
        match b.link prev >>= Builder.alternative >>= Builder.alternative with
        | none => none
        | some b => optionals step n b exit

/-- A repetition of a part at least `min` and at most `max` times; `reads` tells whether every
match of the part reads at least one byte. -/
def repetition (step : Builder → Part) (reads : Bool) (min : Nat) (max : Option Nat)
    (b : Builder) : Part :=
  match min, max with
  | 0, some 1 => do
    let b ← b.add 0
    let (b, exit) ← step b
    let b ← b.add 0
    let b ← b.alternative
    let b ← b.alternative
    let b ← b.link exit
    pure (b, false)
  | 0, none =>
    if reads then do
      let b ← b.add 0
      let (b, exit) ← step b
      let b ← b.alternative
      let b ← b.link exit
      pure (b, true)
    else do
      let (b, exit) ← step b
      let b ← b.add 0
      let b ← b.link exit
      let b ← b.alternative
      let b ← b.add 0
      let b ← b.add 0
      let b ← b.alternative
      let b ← b.alternative
      let b ← b.alternative
      pure (b, false)
  | 1, none => do
    let (b, exit) ← step b
    let b ← b.add 0
    let b ← b.link exit
    let b ← b.alternative
    pure (b, true)
  | n + 2, none => do
    let (b, first) ← exactly step (n + 1) b
    let (b, exit) ← step b
    let b ← b.add 0
    let b ← b.link first
    let b ← b.link exit
    let b ← b.alternative
    pure (b, true)
  | min, some max =>
    if min == max then exactly step min b
    else do
      let (b, first) ← exactly step min b
      let b ← b.add 0
      let (b, last) ← optionals step (max - min) b first
      let b ← b.link last
      pure (b, false)

/-- The characters of branches that are all literals. -/
def literalsOf : List Hir → Option (List (List Char))
  | [] => some []
  | .literal cs :: rest => (literalsOf rest).map (cs :: ·)
  | _ => none

/-- A choice of literals, read forward or backward, as a trie of their bytes. -/
def literalTrie (backward : Bool) (b : Builder) (literals : List (List Char)) : Part :=
  let bytes := literals.map fun cs =>
    let bs := (Utf8.encodeList cs).map UInt8.toNat
    if backward then bs.reverse else bs
  let (n, held) := trieCost (trieOf bytes)
  (b.addMany n held).map (·, false)

mutual

/-- Compiles an expression, forward or backward. -/
def part (backward : Bool) (b : Builder) : Hir → Part
  | .empty => single b
  | .literal cs =>
    if cs.isEmpty then single b else (b.addMany (Hir.literalLength cs) 0).map (·, false)
  | .chars s _ => (charSet backward s b).map (·, false)
  | .look _ => single b
  | .rep min max _ h =>
    let step : Builder → Part := match h with
      | .chars s _ => let compileSet := charSet backward s; fun b => (compileSet b).map (·, false)
      | _ => fun b => part backward b h
    repetition step (h.minLen.any (0 < ·)) min max b
  | .capture _ h =>
    if backward then part backward b h
    else do
      let b ← b.add 0
      let (b, exit) ← part backward b h
      let b ← b.add 0
      let b ← b.link exit
      pure (b, false)
  | .concat hs =>
    match (if backward then sequenceBackward b hs else sequenceForward b none hs) with
    | none => none
    | some (b, some exit) => some (b, exit)
    | some (b, none) => single b
  | .alt hs =>
    match literalsOf hs with
    | some literals@(_ :: _ :: _) => literalTrie backward b literals
    | _ => choice backward b hs

/-- The parts of a sequence compiled forward in turn, each linked from the one before. -/
def sequenceForward (b : Builder) (prev : Option Bool) :
    List Hir → Option (Builder × Option Bool)
  | [] => some (b, prev)
  | h :: rest =>
    match part false b h with
    | none => none
    | some (b, exit) =>
      match linkFrom b prev with
      | none => none
      | some b => sequenceForward b (some exit) rest

/-- The parts of a sequence compiled backward: the later parts first, then each part linked from
the one after it. Gives the exit of the first part. -/
def sequenceBackward (b : Builder) : List Hir → Option (Builder × Option Bool)
  | [] => some (b, none)
  | h :: rest =>
    match sequenceBackward b rest with
    | none => none
    | some (b, after) =>
      match part true b h with
      | none => none
      | some (b, exit) =>
        match linkFrom b after with
        | none => none
        | some b => some (b, some exit)

/-- The branches of a choice: the first two, then the split state and the common exit, then the
rest; each branch is an alternative of the split and links to the exit. A choice of no branches
is one state that never matches. -/
def choice (backward : Bool) (b : Builder) : List Hir → Part
  | [] => single b
  | [h] => part backward b h
  | h₁ :: h₂ :: rest => do
    let (b, e₁) ← part backward b h₁
    let (b, e₂) ← part backward b h₂
    let b ← b.add 0
    let b ← b.add 0
    let b ← b.alternative
    let b ← b.link e₁
    let b ← b.alternative
    let b ← b.link e₂
    let b ← branches backward b rest
    pure (b, false)

/-- The branches of a choice after the second, each an alternative of the split linked to the
common exit. -/
def branches (backward : Bool) (b : Builder) : List Hir → Option Builder
  | [] => some b
  | h :: rest =>
    match part backward b h with
    | none => none
    | some (b, exit) =>
      match b.alternative >>= (·.link exit) with
      | none => none
      | some b => branches backward b rest

end

/-- The size in bytes of the automaton of an expression read forward or backward, or none if it
passes the limit. The whole expression is capture group 0. -/
def sizeIn (backward : Bool) (limit : Nat) (h : Hir) : Option Nat := do
  let b := Builder.init limit
  let anchored := if backward then h.endsWith .textEnd else h.beginsWith .textStart
  let (b, lead) ← if anchored then single b else repetition (byteSet · 1) true 0 none b
  let (b, exit) ← part backward b (.capture 0 h)
  let b ← b.add 0
  let b ← b.link exit
  let b ← b.link lead
  pure b.size

/-- Whether the automata of an expression, read forward and backward, both fit the limit. -/
def fits (limit : Nat) (h : Hir) : Bool :=
  (sizeIn false limit h).isSome && (sizeIn true limit h).isSome

end JsonProbe.Regex.Size
