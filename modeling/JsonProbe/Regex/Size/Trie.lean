import JsonProbe.Regex.Size.Builder
/-!
# The trie of a choice of literals

A choice whose branches are all literals compiles to a trie of their bytes rather than to a split
over the branches. Each trie state keeps its transitions ordered by byte within the chunk that is
still open; when a literal ends at a state, the open chunk is closed there, so that the literals
before it keep their priority over longer ones added later.

Compiled, each trie state that has transitions becomes a split state over its chunks: a chunk
with one transition is one byte-range state, a chunk with several is one state holding them all,
and between two chunks the split may stop and match. One more state is the common exit.
-/

set_option autoImplicit false

namespace JsonProbe.Regex.Size

/-- A state of the trie: its transitions as bytes and target states, and the chunks closed at it,
each the start and end of a run of its transitions. -/
structure TrieState where
  edges : List (Nat × Nat) := []
  chunks : List (Nat × Nat) := []

namespace TrieState

/-- Where the open chunk starts: after the last closed one. -/
def openStart (s : TrieState) : Nat :=
  match s.chunks.getLast? with
  | some (_, stop) => stop
  | none => 0

/-- Inserts a transition into the open chunk, keeping it ordered by byte. -/
def insert (s : TrieState) (byte target : Nat) : TrieState :=
  { s with edges := s.edges.take s.openStart ++ ordered (s.edges.drop s.openStart) }
where
  /-- Inserts the transition into a list ordered by byte. -/
  ordered : List (Nat × Nat) → List (Nat × Nat)
    | [] => [(byte, target)]
    | (b, t) :: rest =>
      if byte < b then (byte, target) :: (b, t) :: rest else (b, t) :: ordered rest

/-- Records that a literal ends here by closing the open chunk; a state without transitions that
already matches is left as it is. -/
def markEnd (s : TrieState) : TrieState :=
  if s.edges.isEmpty && !s.chunks.isEmpty then s
  else { s with chunks := s.chunks ++ [(s.openStart, s.edges.length)] }

end TrieState

/-- Adds the rest of a literal's bytes to the trie from the state `src`. -/
def addBytes (trie : Array TrieState) (src : Nat) : List Nat → Array TrieState
  | [] => trie.modify src TrieState.markEnd
  | byte :: rest =>
    let s := trie.getD src {}
    match ((s.edges.drop s.openStart).find? fun e => e.1 == byte) with
    | some (_, next) => addBytes trie next rest
    | none =>
      let next := trie.size
      addBytes ((trie.push {}).modify src fun s => s.insert byte next) next rest

/-- The trie of literals, given as byte lists, added in order. -/
def trieOf (literals : List (List Nat)) : Array TrieState :=
  literals.foldl (fun trie bytes => addBytes trie 0 bytes) #[{}]

/-- The states of a trie state compiled, with the bytes they hold. -/
def TrieState.cost (s : TrieState) : Nat × Nat :=
  let sizes := (s.chunks ++ [(s.openStart, s.edges.length)]).map fun (a, e) => e - a
  let filled := sizes.filter (0 < ·)
  let lists := (filled.filter (2 ≤ ·)).foldl (· + ·) 0
  (filled.length + 1,
    transitionBytes * lists + alternativeBytes * (filled.length + s.chunks.length))

/-- The states of a compiled trie, with the bytes they hold: the exit, and the states of every trie
state with transitions. -/
def trieCost (trie : Array TrieState) : Nat × Nat :=
  trie.foldl (fun (n, held) s =>
    if s.edges.isEmpty then (n, held)
    else let (n', held') := s.cost; (n + n', held + held')) (1, 0)

end JsonProbe.Regex.Size
