import JsonProbe.Regex.CharSet
import JsonProbe.Text.Utf8.Ranges
/-!
# Counting the states of a byte automaton

The size limit of a compiled expression is measured on the nondeterministic automaton over bytes
that the expression compiles to, once read forward and once backward. Every state takes
`stateBytes`; a state with several byte-range transitions also holds `transitionBytes` for each,
and a split state holds `alternativeBytes` for each alternative, alternatives being added one at a
time as parts are linked to it. A `Builder` counts states and held bytes as they are added and
refuses any step after which the total would pass the limit.

A set of characters outside ASCII becomes a small automaton over the UTF-8 encodings of its
members. Forward, the sequences of byte ranges are merged into a trie whose equal subtrees are
shared through a bounded cache; backward, each sequence is laid out from its last byte, sharing
equal tails through a second bounded cache. Both caches are arrays of slots addressed by an FNV-1a
hash of the key, and a new entry takes the slot of any older one, so that what is shared, and thus
the number of states, follows the hash exactly. A cache holds entries of the current set only.
-/

set_option autoImplicit false

namespace JsonProbe.Regex.Size

/-- The bytes every state takes. -/
def stateBytes : Nat := 32

/-- The bytes a state holds for each of its byte-range transitions, when it has a list of them. -/
def transitionBytes : Nat := 8

/-- The bytes a split state holds for each alternative. -/
def alternativeBytes : Nat := 4

/-- The number of slots of the cache of shared trie nodes. -/
def nodeSlots : Nat := 10000

/-- The number of slots of the cache of shared tails. -/
def tailSlots : Nat := 1000

/-- A transition on a range of bytes to a state. -/
structure Edge where
  lo : Nat
  hi : Nat
  next : Nat
  deriving DecidableEq

/-- An entry of a bounded cache: the set it was made for, its key and the state it names. -/
structure Entry (κ : Type) where
  generation : Nat
  key : κ
  state : Nat

/-- The FNV-1a hash of a list of words, each taken as a 64-bit number. -/
def fnv (words : List Nat) : UInt64 :=
  words.foldl (fun h w => (h ^^^ w.toUInt64) * 1099511628211) 14695981039346656037

/-- The slot of a key among `slots` slots. -/
def slotOf (words : List Nat) (slots : Nat) : Nat :=
  (fnv words % slots.toUInt64).toNat

/-- An automaton being counted: its states, the bytes its states hold, the limit on its total
size, and the caches of shared states with the number of the set being compiled. -/
structure Builder where
  states : Nat := 0
  held : Nat := 0
  limit : Nat
  generation : Nat := 0
  nodes : Array (Option (Entry (List Edge)))
  tails : Array (Option (Entry (Nat × Nat × Nat)))

namespace Builder

/-- An empty automaton under a limit, with empty caches. -/
def init (limit : Nat) : Builder :=
  { limit, nodes := Array.replicate nodeSlots none, tails := Array.replicate tailSlots none }

/-- The total size of the automaton, in bytes. -/
def size (b : Builder) : Nat := stateBytes * b.states + b.held

/-- The builder if its automaton is within the limit. -/
def checked (b : Builder) : Option Builder :=
  if b.size ≤ b.limit then some b else none

/-- Adds a state that holds `held` bytes; the new state's number is the old state count. -/
def add (b : Builder) (held : Nat) : Option Builder :=
  checked { b with states := b.states + 1, held := b.held + held }

/-- Adds `n` states that hold `held` bytes together. -/
def addMany (b : Builder) (n held : Nat) : Option Builder :=
  checked { b with states := b.states + n, held := b.held + held }

/-- Adds an alternative to a split state. -/
def alternative (b : Builder) : Option Builder :=
  checked { b with held := b.held + alternativeBytes }

/-- Links the exit of a part to a state; an exit that is a split state gains an alternative. -/
def link (b : Builder) (splitExit : Bool) : Option Builder :=
  if splitExit then b.alternative else some b

/-- Starts the compilation of a new set: older cache entries no longer count. -/
def nextSet (b : Builder) : Builder := { b with generation := b.generation + 1 }

/-- The state with the given transitions: a cached one if its slot holds the same transitions for
this set, otherwise a new one, which takes the slot. -/
def shareNode (b : Builder) (edges : List Edge) : Option (Builder × Nat) :=
  let slot := slotOf (edges.flatMap fun e => [e.lo, e.hi, e.next]) nodeSlots
  match b.nodes[slot]? with
  | some (some e) =>
    if e.generation == b.generation && e.key == edges then some (b, e.state)
    else freshNode b slot edges
  | _ => freshNode b slot edges
where
  /-- Adds the state and records it in its slot. -/
  freshNode (b : Builder) (slot : Nat) (edges : List Edge) : Option (Builder × Nat) :=
    let id := b.states
    (b.add (transitionBytes * edges.length)).map fun b =>
      ({ b with nodes := b.nodes.set! slot (some ⟨b.generation, edges, id⟩) }, id)

/-- The state reading the byte range `lo`..`hi` before the state `next`: a cached one if its slot
holds the same key for this set, otherwise a new one, which takes the slot. -/
def shareTail (b : Builder) (next lo hi : Nat) : Option (Builder × Nat) :=
  let slot := slotOf [next, lo, hi] tailSlots
  match b.tails[slot]? with
  | some (some e) =>
    if e.generation == b.generation && e.key == (next, lo, hi) then some (b, e.state)
    else freshTail b slot next lo hi
  | _ => freshTail b slot next lo hi
where
  /-- Adds the state and records it in its slot. -/
  freshTail (b : Builder) (slot next lo hi : Nat) : Option (Builder × Nat) :=
    let id := b.states
    (b.add 0).map fun b =>
      ({ b with tails := b.tails.set! slot (some ⟨b.generation, (next, lo, hi), id⟩) }, id)

end Builder

/-- A node of the trie of byte sequences while it is open: its finished transitions, last first,
and the byte range of the transition still being extended. -/
structure OpenNode where
  done : List Edge := []
  pending : Option (Nat × Nat) := none

/-- Finishes the pending transition of a node towards `next`. -/
def OpenNode.freeze (n : OpenNode) (next : Nat) : OpenNode :=
  match n.pending with
  | some (lo, hi) => ⟨⟨lo, hi, next⟩ :: n.done, none⟩
  | none => n

/-- The transitions of a frozen node, in order. -/
def OpenNode.edges (n : OpenNode) : List Edge := n.done.reverse

/-- Compiles the open nodes above the lowest `keep + 1`, innermost first, each leading to the one
compiled before it (the first to `next`), and freezes the lowest remaining node towards the last
one compiled. The open nodes are given innermost first. -/
def closeAbove (keep : Nat) :
    Builder → Nat → List OpenNode → Option (Builder × List OpenNode)
  | b, _, [] => some (b, [])
  | b, next, n :: rest =>
    if keep < rest.length then
      match b.shareNode (n.freeze next).edges with
      | none => none
      | some (b, id) => closeAbove keep b id rest
    else some (b, n.freeze next :: rest)

/-- Adds a sequence of byte ranges to the open trie whose final state is `target`: the open nodes
that already pend the sequence's leading ranges are kept, the rest are compiled, and the rest of
the sequence is opened. -/
def addSequence (b : Builder) (target : Nat) (stack : List OpenNode) (seq : List (Nat × Nat)) :
    Option (Builder × List OpenNode) :=
  let shared := ((stack.reverse.zip seq).takeWhile fun (n, r) => n.pending == some r).length
  match closeAbove shared b target stack with
  | none => none
  | some (b, top :: rest) =>
    match seq.drop shared with
    | [] => some (b, top :: rest)
    | r :: more =>
      let opened := more.reverse.map fun r' => ({ pending := some r' } : OpenNode)
      some (b, opened ++ { top with pending := some r } :: rest)
  | some (b, []) => some (b, [])

/-- Adds sequences in turn to the open trie. -/
def addSequences (target : Nat) : Builder → List OpenNode → List (List (Nat × Nat)) →
    Option (Builder × List OpenNode)
  | b, stack, [] => some (b, stack)
  | b, stack, seq :: rest =>
    match addSequence b target stack seq with
    | none => none
    | some (b, stack) => addSequences target b stack rest

/-- The sequences of byte ranges of a set of characters, in ascending order. -/
def sequencesOf (s : CharSet) : List (List (Nat × Nat)) :=
  s.ranges.flatMap fun r => Utf8.rangeSequences r.1 r.2

/-- A set of ASCII characters: one state with a transition per range, and its exit. -/
def asciiSet (b : Builder) (s : CharSet) : Option Builder := do
  let b ← b.add 0
  b.add (transitionBytes * s.ranges.length)

/-- A set of characters read forward, given its byte sequences: the exit state, then the trie of
the sequences with equal subtrees shared, its root compiled last. -/
def forwardSet (b : Builder) (seqs : List (List (Nat × Nat))) : Option Builder := do
  let target := b.states
  let b ← b.add 0
  let b := b.nextSet
  let (b, stack) ← addSequences target b [{}] seqs
  let (b, stack) ← closeAbove 0 b target stack
  match stack with
  | [root] => (b.shareNode root.edges).map (·.1)
  | _ => some b

/-- One byte sequence read backward from the exit state `stop`: its ranges from the first, each
a state before the state of the ranges before it, equal tails shared. -/
def tailChain (b : Builder) : Nat → List (Nat × Nat) → Option Builder
  | _, [] => some b
  | next, (lo, hi) :: rest =>
    match b.shareTail next lo hi with
    | none => none
    | some (b, id) => tailChain b id rest

/-- The byte sequences of a set read backward, each a chain from the exit state joined to the
entry split state. -/
def tailChains (b : Builder) (stop : Nat) : List (List (Nat × Nat)) → Option Builder
  | [] => some b
  | seq :: rest =>
    match tailChain b stop seq >>= Builder.alternative with
    | none => none
    | some b => tailChains b stop rest

/-- A set of characters read backward, given its byte sequences: an entry split state, an exit
state, and a chain of states per sequence. -/
def backwardSet (b : Builder) (seqs : List (List (Nat × Nat))) : Option Builder := do
  let b ← b.add 0
  let stop := b.states
  let b ← b.add 0
  tailChains b.nextSet stop seqs

/-- A set of characters, read forward or backward, with its byte sequences computed once for all
the copies the returned function compiles. Its exit never splits. -/
def charSet (backward : Bool) (s : CharSet) : Builder → Option Builder :=
  if s.isAscii then (asciiSet · s)
  else
    let seqs := sequencesOf s
    if backward then (backwardSet · seqs) else (forwardSet · seqs)

end JsonProbe.Regex.Size
