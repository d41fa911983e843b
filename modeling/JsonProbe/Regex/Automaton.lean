import JsonProbe.Regex.Hir
/-!
# Matching by automaton

An expression is compiled to a nondeterministic automaton whose nodes read one character of a
set, split into two, assert something about the neighbouring characters, or accept. A search
keeps the set of nodes reachable at the current position, adding the start node at every position,
so that a match may begin anywhere; the text matches as soon as an accepting node is reachable.

Every set of nodes is closed under moves that read nothing, computed with a record of visited
nodes, so no node is expanded twice at one position. A search is thus bounded by the text's length
times the automaton's size.
-/

set_option autoImplicit false

namespace JsonProbe.Regex

/-- A node of the automaton. -/
inductive Node where
  /-- Reads one character of the set, then goes on at `next`. -/
  | read (set : CharSet) (next : Nat)
  /-- Goes on at both nodes. -/
  | split (first second : Nat)
  /-- Goes on at `next` if the assertion holds here. -/
  | look (l : Look) (next : Nat)
  /-- The whole expression has matched. -/
  | accept
  deriving Inhabited

/-- An automaton: its nodes and its start node. -/
structure Automaton where
  nodes : Array Node
  start : Nat

namespace Automaton

/-- Appends a node; gives its index. -/
def add (nodes : Array Node) (n : Node) : Array Node × Nat :=
  let id := nodes.size
  (nodes.push n, id)

/-- Compiles the characters of a literal, given last first, before `next`. -/
def literal (nodes : Array Node) (next : Nat) : List Char → Array Node × Nat
  | [] => (nodes, next)
  | c :: rest =>
    let (nodes, entry) := add nodes (.read (CharSet.single c.toNat) next)
    literal nodes entry rest

/-- Compiles `count` nested optional copies of an expression before `cur`, each of which may be
skipped to `next`; `step` compiles one copy before a given node. -/
def optionalCopies (step : Array Node → Nat → Array Node × Nat) (next : Nat) :
    Nat → Array Node → Nat → Array Node × Nat
  | 0, nodes, cur => (nodes, cur)
  | count + 1, nodes, cur =>
    let (nodes, entry) := step nodes cur
    let (nodes, opt) := add nodes (.split entry next)
    optionalCopies step next count nodes opt

/-- Compiles `count` copies of an expression before `cur`. -/
def copies (step : Array Node → Nat → Array Node × Nat) :
    Nat → Array Node → Nat → Array Node × Nat
  | 0, nodes, cur => (nodes, cur)
  | count + 1, nodes, cur =>
    let (nodes, entry) := step nodes cur
    copies step count nodes entry

mutual

/-- Compiles an expression followed by the node `next`; gives the entry node. -/
def compile (nodes : Array Node) (next : Nat) : Hir → Array Node × Nat
  | .empty => (nodes, next)
  | .literal cs => literal nodes next cs.reverse
  | .chars s _ => add nodes (.read s next)
  | .look l => add nodes (.look l next)
  | .capture _ h => compile nodes next h
  | .concat hs => compileSeq nodes next hs
  | .alt hs => compileAlt nodes next hs
  | .rep min max _ h =>
    -- the optional or unbounded tail first, then `min` copies before it
    let (nodes, tail) := match max with
      | none =>
        let (nodes, loop) := add nodes (.split next next)
        let (nodes, body) := compile nodes loop h
        (nodes.set! loop (.split body next), loop)
      | some max => optionalCopies (fun ns n => compile ns n h) next (max - min) nodes next
    copies (fun ns n => compile ns n h) min nodes tail

/-- Compiles a sequence: the later parts first, each earlier part before them. -/
def compileSeq (nodes : Array Node) (next : Nat) : List Hir → Array Node × Nat
  | [] => (nodes, next)
  | h :: rest =>
    let (nodes, restEntry) := compileSeq nodes next rest
    compile nodes restEntry h

/-- Compiles a choice of branches. -/
def compileAlt (nodes : Array Node) (next : Nat) : List Hir → Array Node × Nat
  | [] => add nodes (.read CharSet.empty next)
  | [h] => compile nodes next h
  | h :: rest =>
    let (nodes, first) := compile nodes next h
    let (nodes, others) := compileAlt nodes next rest
    add nodes (.split first others)

end

/-- The automaton of an expression. -/
def ofHir (h : Hir) : Automaton :=
  let (nodes, acceptNode) := add #[] .accept
  let (nodes, start) := compile nodes acceptNode h
  ⟨nodes, start⟩

end Automaton

/-- Whether a character is a word character, by Unicode or by ASCII. -/
def isWordChar (unicode : Bool) : Option Char → Bool
  | none => false
  | some c => if unicode then Unicode.perlWord.contains c.toNat
    else c.isAlphanum || c == '_'

/-- Whether an assertion holds between the characters `prev` and `next` (none at an end). -/
def Look.holds (l : Look) (prev next : Option Char) : Bool :=
  match l with
  | .textStart => prev.isNone
  | .textEnd => next.isNone
  | .lineStart => prev.isNone || prev == some '\n'
  | .lineEnd => next.isNone || next == some '\n'
  | .crlfStart => prev.isNone || prev == some '\n' || (prev == some '\r' && next != some '\n')
  | .crlfEnd => next.isNone || next == some '\r' || (next == some '\n' && prev != some '\r')
  | .wordUnicode => isWordChar true prev != isWordChar true next
  | .wordUnicodeNegate => isWordChar true prev == isWordChar true next
  | .wordAscii => isWordChar false prev != isWordChar false next
  | .wordAsciiNegate => isWordChar false prev == isWordChar false next
  | .wordStartUnicode => !isWordChar true prev && isWordChar true next
  | .wordEndUnicode => isWordChar true prev && !isWordChar true next
  | .wordStartAscii => !isWordChar false prev && isWordChar false next
  | .wordEndAscii => isWordChar false prev && !isWordChar false next
  | .wordStartHalfUnicode => !isWordChar true prev
  | .wordEndHalfUnicode => !isWordChar true next
  | .wordStartHalfAscii => !isWordChar false prev
  | .wordEndHalfAscii => !isWordChar false next

namespace Automaton

/-- The nodes reachable from `todo` without reading, between `prev` and `next`, added to the
reached nodes; `seen` marks nodes already reached. Each node is expanded once, so the automaton's
size bounds the work, given as fuel. -/
def closure (a : Automaton) (prev next : Option Char) :
    Nat → List Nat → Array Bool → List Nat → Array Bool × List Nat
  | 0, _, seen, reached => (seen, reached)
  | _ + 1, [], seen, reached => (seen, reached)
  | fuel + 1, i :: todo, seen, reached =>
    if seen.getD i true then closure a prev next (fuel + 1) todo seen reached
    else
      let seen := seen.set! i true
      match a.nodes[i]? with
      | some (.split x y) => closure a prev next fuel (x :: y :: todo) seen reached
      | some (.look l n) =>
        if l.holds prev next then closure a prev next fuel (n :: todo) seen reached
        else closure a prev next fuel todo seen reached
      | some _ => closure a prev next fuel todo seen (i :: reached)
      | none => closure a prev next fuel todo seen reached
termination_by fuel todo => (fuel, todo.length)

/-- Whether one of the nodes accepts. -/
def accepts (a : Automaton) (nodes : List Nat) : Bool :=
  nodes.any fun (i : Nat) => match (a.nodes[i]? : Option Node) with
    | some .accept => true
    | _ => false

/-- The nodes reached by reading `c` from the given nodes. -/
def advance (a : Automaton) (nodes : List Nat) (c : Char) : List Nat :=
  nodes.filterMap fun (i : Nat) => match (a.nodes[i]? : Option Node) with
    | some (.read s n) => if s.contains c.toNat then some n else none
    | _ => none

/-- Searches the rest of a text, `prev` being the character before it and `nodes` the nodes
entered at its start (before their closure). With `asciiOnly`, no node reads a character outside
ASCII, so only matches that read ASCII alone are found. -/
def search (a : Automaton) (asciiOnly : Bool) (prev : Option Char) (nodes : List Nat) :
    List Char → Bool
  | [] =>
    let (_, reached) := a.closure prev none (a.nodes.size + 1) (nodes ++ [a.start])
      (Array.replicate a.nodes.size false) []
    a.accepts reached
  | c :: rest =>
    let (_, reached) := a.closure prev (some c) (a.nodes.size + 1) (nodes ++ [a.start])
      (Array.replicate a.nodes.size false) []
    if a.accepts reached then true
    else
      let next := if asciiOnly && 0x80 ≤ c.toNat then [] else a.advance reached.reverse c
      search a asciiOnly (some c) next rest

/-- Whether the automaton matches somewhere in the text. -/
def isMatch (a : Automaton) (text : String) : Bool :=
  a.search false none [] text.toList

/-- Whether the automaton matches somewhere in the text reading ASCII characters only; its
assertions still see every character. -/
def isMatchReadingAscii (a : Automaton) (text : String) : Bool :=
  a.search true none [] text.toList

end Automaton

end JsonProbe.Regex
