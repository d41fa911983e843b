import JsonProbe.Json.Reader
import JsonProbe.Proofs.Json.Cursor.Bounds
/-!
# The recursive-descent parser

The parser as the program runs it over the cursor lexer: the lexer, the current token with the
offset where it began, and how many containers are open.  `parseTerm` reads a value;
`parseObject` and `parseArray` read a container from just after its opening bracket, and their
loops (`objectMembers`, `arrayItems`) one member or element at a time.

Each of them returns the parser it leaves together with the fact that it went on (`Past`): the
input left after the lexer's cursor (`remaining`), and whether the current token is one still to
be read (`pending`), have gone down lexicographically (`Below`).  That is the measure the mutual
recursion descends on; a loop that starts from the parser it was given calls only a function
ranked below it.

The program's call stack is modelled as `frames`: a `parseTerm` called with no frame left stops
(`Stop.stackExhausted`).
-/

set_option autoImplicit false

namespace JsonProbe

/-- Why the parser stops without a value: a reading error; a slice or an index outside the input,
which aborts the program; or a call of `parseTerm` with no stack frame left. -/
inductive Stop where
  | error (e : ParseError)
  | outOfRange
  | stackExhausted
  deriving Repr

/-- The parser: the lexer, the current token and the offset where it began, and how many
containers are open around it.  The lexer's cursor is within its input. -/
structure Parser where
  lexer : Lexer
  current : Token
  currentPosition : Nat
  depth : Nat
  within : lexer.position ≤ lexer.input.length

namespace Parser

open Lexer

/-- The parser after a call of the lexer: the token it read becomes the current one, at the
offset where the call noted it began. -/
def settle (depth : Nat) (o : Lexer.Outcome Token)
    (within : o.lexer.position ≤ o.lexer.input.length) : Except Stop Parser :=
  match o, within with
  | .ok t l, within => .ok ⟨l, t, l.tokenStart, depth, within⟩
  | .fault (.lex e) _, _ => .error (.error (.lex e))
  | .fault .outOfRange _, _ => .error .outOfRange

/-- The parser that has read the first token from `l`, with no container open. -/
def new (l : Lexer) (within : l.position ≤ l.input.length) : Except Stop Parser :=
  settle 0 l.nextToken (nextToken_ordered within).2.within

/-- Reads the next token. -/
def advance (p : Parser) : Except Stop Parser :=
  settle p.depth p.lexer.nextToken (nextToken_ordered p.within).2.within

/-! ## The measure -/

/-- The input left after the lexer's cursor. -/
def remaining (p : Parser) : Nat := p.lexer.input.length - p.lexer.position

/-- Whether the current token is one still to be read: every token but the end of input. -/
def pending (p : Parser) : Nat := if p.current = .eof then 0 else 1

/-- `q` has gone on from `p`: less input is left, or as much with the current token read. -/
def Below (q p : Parser) : Prop :=
  q.remaining < p.remaining ∨ (q.remaining = p.remaining ∧ q.pending < p.pending)

theorem Below.trans {p q r : Parser} (h : r.Below q) (h' : q.Below p) : r.Below p := by
  unfold Below at *
  omega

/-- A parser that has gone on from `p`. -/
abbrev Past (p : Parser) := { q : Parser // q.Below p }

/-- Going on from `p` to `q` and then from `q`. -/
def Past.trans {p : Parser} (q : p.Past) (r : q.1.Past) : p.Past := ⟨r.1, r.2.trans q.2⟩

theorem Below.lex {p q : Parser} (h : q.Below p) (a b : Nat) :
    Prod.Lex (· < ·) (Prod.Lex (· < ·) (· < ·)) (q.remaining, q.pending, a)
      (p.remaining, p.pending, b) := by
  rcases h with less | ⟨same, less⟩
  · exact Prod.Lex.left _ _ less
  · rw [same]
    exact Prod.Lex.right _ (Prod.Lex.left _ _ less)

theorem lex_rank (p : Parser) {a b : Nat} (h : a < b) :
    Prod.Lex (· < ·) (Prod.Lex (· < ·) (· < ·)) (p.remaining, p.pending, a)
      (p.remaining, p.pending, b) :=
  Prod.Lex.right _ (Prod.Lex.right _ h)

theorem settle_eq_ok {depth : Nat} {o : Lexer.Outcome Token} {within} {q : Parser}
    (settled : settle depth o within = .ok q) : o = .ok q.current q.lexer := by
  match o, within, settled with
  | .ok t l, _, settled => cases settled; rfl
  | .fault (.lex e) _, _, settled => cases settled
  | .fault .outOfRange _, _, settled => cases settled

/-- Reading a token past one that is not the end of input goes on: a token other than `eof`
moves the cursor, and `eof` keeps it or moves it and is not pending. -/
theorem advance_below {p q : Parser} (h : p.current ≠ .eof) (advanced : p.advance = .ok q) :
    q.Below p := by
  have read := settle_eq_ok advanced
  have forward := nextToken_forward p.lexer
  rw [read] at forward
  simp only [Outcome.lexer] at forward
  have input : q.lexer.input = p.lexer.input := forward.input.trans (input_atToken _)
  have started : p.lexer.position ≤ q.lexer.position := by
    have := forward.position
    rw [position_atToken] at this
    omega
  have within := q.within
  rw [input] at within
  unfold Below remaining pending
  rw [input, if_neg h]
  by_cases ended : q.current = .eof
  · rw [if_pos ended]
    omega
  · have moved := nextToken_advances read ended
    omega

/-! ## Reading -/

/-- Moves past the current token, which is not the end of input. -/
def next (p : Parser) (h : p.current ≠ .eof) : Except Stop p.Past :=
  match advanced : p.advance with
  | .ok q => .ok ⟨q, advance_below h advanced⟩
  | .error s => .error s

/-- The error for a current token that cannot stand where it is. -/
def unexpected (p : Parser) (expected : Expectation) : ParseError :=
  match p.current with
  | .eof => .unexpectedEnd expected p.currentPosition
  | t => .unexpectedToken expected t p.currentPosition

/-- Moves past the current token if it is `t`. -/
def expect (p : Parser) (t : Token) (expected : Expectation) (h : t ≠ .eof) :
    Except Stop p.Past :=
  if same : p.current = t then p.next (by rw [same]; exact h)
  else .error (.error (p.unexpected expected))

/-- Opens a container at the current token, if fewer than `maxDepth` are open. -/
def descend (p : Parser) (h : p.current ≠ .eof) : Except Stop p.Past :=
  if maxDepth ≤ p.depth then .error (.error (.tooDeep p.currentPosition))
  else next { p with depth := p.depth + 1 } h

/-- Closes the container the parser was in. -/
def ascend (p : Parser) : Parser := { p with depth := p.depth - 1 }

theorem Below.ascend {p q : Parser} (h : q.Below p) : q.ascend.Below p := h

mutual

/-- Reads a value from the current token on, with `frames` stack frames left. -/
def parseTerm (frames : Nat) (p : Parser) : Except Stop (Term × p.Past) :=
  match frames with
  | 0 => .error .stackExhausted
  | frames + 1 =>
    match h : p.current with
    | .lbrace => do
      let q ← p.descend (by rw [h]; nofun)
      let (t, r) ← parseObject frames q.1
      pure (t, q.trans ⟨r.1.ascend, r.2.ascend⟩)
    | .lbracket => do
      let q ← p.descend (by rw [h]; nofun)
      let (t, r) ← parseArray frames q.1
      pure (t, q.trans ⟨r.1.ascend, r.2.ascend⟩)
    | .string s => do
      let q ← p.next (by rw [h]; nofun)
      pure (.string s, q)
    | .number n => do
      let q ← p.next (by rw [h]; nofun)
      pure (.number n, q)
    | .boolean b => do
      let q ← p.next (by rw [h]; nofun)
      pure (.bool b, q)
    | .null => do
      let q ← p.next (by rw [h]; nofun)
      pure (.null, q)
    | .rbrace | .rbracket | .colon | .comma | .eof => .error (.error (p.unexpected .value))
termination_by (p.remaining, p.pending, 0)
decreasing_by
  · exact q.2.lex 2 0
  · exact q.2.lex 2 0

/-- Reads an object from just after its `{`. -/
def parseObject (frames : Nat) (p : Parser) : Except Stop (Term × p.Past) :=
  if h : p.current = .rbrace then do
    let q ← p.next (by rw [h]; nofun)
    pure (.object [], q)
  else objectMembers frames [] p
termination_by (p.remaining, p.pending, 2)
decreasing_by exact lex_rank p (by decide)

/-- Reads the members of an object from a key on; `members` holds those read before. -/
def objectMembers (frames : Nat) (members : List (String × Term)) (p : Parser) :
    Except Stop (Term × p.Past) :=
  match h : p.current with
  | .string key => do
    let q ← p.next (by rw [h]; nofun)
    let r ← q.1.expect .colon .colon (by decide)
    let (value, s) ← parseTerm frames r.1
    let members := Term.insertMember key value members
    if comma : s.1.current = .comma then do
      let u ← s.1.next (by rw [comma]; nofun)
      let (t, v) ← objectMembers frames members u.1
      pure (t, q.trans (r.trans (s.trans (u.trans v))))
    else do
      let u ← s.1.expect .rbrace .commaOrBrace (by decide)
      pure (.object members, q.trans (r.trans (s.trans u)))
  | _ => .error (.error (p.unexpected .key))
termination_by (p.remaining, p.pending, 1)
decreasing_by
  · exact (r.2.trans q.2).lex 0 1
  · exact (u.2.trans (s.2.trans (r.2.trans q.2))).lex 1 1

/-- Reads an array from just after its `[`. -/
def parseArray (frames : Nat) (p : Parser) : Except Stop (Term × p.Past) :=
  if h : p.current = .rbracket then do
    let q ← p.next (by rw [h]; nofun)
    pure (.array [], q)
  else arrayItems frames [] p
termination_by (p.remaining, p.pending, 2)
decreasing_by exact lex_rank p (by decide)

/-- Reads the elements of an array from an element on; `items` holds those read before. -/
def arrayItems (frames : Nat) (items : List Term) (p : Parser) : Except Stop (Term × p.Past) := do
  let (item, q) ← parseTerm frames p
  let items := items ++ [item]
  if comma : q.1.current = .comma then do
    let r ← q.1.next (by rw [comma]; nofun)
    let (t, s) ← arrayItems frames items r.1
    pure (t, q.trans (r.trans s))
  else do
    let r ← q.1.expect .rbracket .commaOrBracket (by decide)
    pure (.array items, q.trans r)
termination_by (p.remaining, p.pending, 1)
decreasing_by
  · exact lex_rank p (by decide)
  · exact (r.2.trans q.2).lex 1 1

end

/-- Reads a whole document: one value, then the end of input. -/
def parseDocument (frames : Nat) (p : Parser) : Except Stop Term := do
  let (t, q) ← parseTerm frames p
  if q.1.current = .eof then pure t
  else .error (.error (.trailing q.1.current q.1.currentPosition))

/-- Reads a document from its bytes, with `frames` stack frames for `parseTerm`. -/
def parse (frames : Nat) (bs : List UInt8) : Except Stop Term := do
  let p ← new (Lexer.new bs) (Nat.zero_le _)
  parseDocument frames p

end Parser

end JsonProbe
