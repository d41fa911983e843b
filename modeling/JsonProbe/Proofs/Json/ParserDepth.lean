import JsonProbe.Proofs.Json.Descent
import JsonProbe.Proofs.Json.Nesting
/-! # The depth the parser counts

While it reads a document the parser hands a parser to one of its functions at each call
(`Calls`).  At every such call the reader, run from its start over the lexemes of the document
before the current token, has as many containers open as the parser's `depth` says: their
opening brackets are the brackets among those lexemes not closed yet, and there are never more
than `maxDepth` of them.  A call of `parseTerm`, `parseObject` or `parseArray` that returns a
value gives back the depth it was handed (`parser_depth_counts_unclosed_brackets`). -/
set_option autoImplicit false

namespace JsonProbe.Parser

open Reader TokenStream

/-- The functions of the parser. -/
inductive Call where
  | term
  | object
  | members
  | array
  | items
  deriving DecidableEq, Repr

/-- The calls the parser makes while it reads the bytes `bs` with `frames` stack frames: the
function called, the stack frames it has left, and the parser it is handed. -/
inductive Calls (bs : List UInt8) (frames : Nat) : Call → Nat → Parser → Prop
  | start {p : Parser} {within : (Lexer.new bs).position ≤ (Lexer.new bs).input.length} :
      new (Lexer.new bs) within = .ok p → Calls bs frames .term frames p
  | object {f : Nat} {p : Parser} {q : p.Past} (h : p.current ≠ .eof) :
      Calls bs frames .term (f + 1) p → p.current = .lbrace → p.descend h = .ok q →
      Calls bs frames .object f q.1
  | array {f : Nat} {p : Parser} {q : p.Past} (h : p.current ≠ .eof) :
      Calls bs frames .term (f + 1) p → p.current = .lbracket → p.descend h = .ok q →
      Calls bs frames .array f q.1
  | members {f : Nat} {p : Parser} :
      Calls bs frames .object f p → p.current ≠ .rbrace → Calls bs frames .members f p
  | items {f : Nat} {p : Parser} :
      Calls bs frames .array f p → p.current ≠ .rbracket → Calls bs frames .items f p
  | value {f : Nat} {p : Parser} {key : String} {q : p.Past} {r : q.1.Past}
      (h : p.current ≠ .eof) :
      Calls bs frames .members f p → p.current = .string key → p.next h = .ok q →
      q.1.expect .colon .colon (by decide) = .ok r → Calls bs frames .term f r.1
  | nextMember {f : Nat} {p : Parser} {key : String} {q : p.Past} {r : q.1.Past} {v : Term}
      {s : r.1.Past} {u : s.1.Past} (h : p.current ≠ .eof) (h' : s.1.current ≠ .eof) :
      Calls bs frames .members f p → p.current = .string key → p.next h = .ok q →
      q.1.expect .colon .colon (by decide) = .ok r → parseTerm f r.1 = .ok (v, s) →
      s.1.current = .comma → s.1.next h' = .ok u → Calls bs frames .members f u.1
  | item {f : Nat} {p : Parser} : Calls bs frames .items f p → Calls bs frames .term f p
  | nextItem {f : Nat} {p : Parser} {v : Term} {q : p.Past} {r : q.1.Past}
      (h : q.1.current ≠ .eof) :
      Calls bs frames .items f p → parseTerm f p = .ok (v, q) → q.1.current = .comma →
      q.1.next h = .ok r → Calls bs frames .items f r.1

/-- The reader's state in the mode of the function `call`, inside as many containers as `p`
counts. -/
def Entered : Call → Parser → State → Prop
  | .term, p, τ => ∃ stack, τ = (.value, stack) ∧ p.depth = stack.length
  | .object, p, τ => ∃ stack, τ = (.objectOpen, stack) ∧ p.depth = stack.length + 1
  | .members, p, τ => ∃ members stack, τ = (.key members, stack) ∧ p.depth = stack.length + 1
  | .array, p, τ => ∃ stack, τ = (.arrayOpen, stack) ∧ p.depth = stack.length + 1
  | .items, p, τ => ∃ items stack, τ = (.value, .array items :: stack) ∧
      p.depth = stack.length + 1

/-- Where the reader stands at a call: from its start it has read the document up to the
parser's stream and reached `σ`, with the parser's depth open; `σ` reads the current token as
the called function's mode `τ` does; and the frames left and the depth add up to `frames`. -/
def Reached (bs : List UInt8) (frames : Nat) (call : Call) (f : Nat) (p : Parser) : Prop :=
  ∃ σ τ, Leads start (TokenStream.ofBytes bs) σ p.stream ∧ p.depth = openCount σ ∧
    Entered call p τ ∧
    (p.current ≠ .eof →
      step σ.1 σ.2 p.current p.currentPosition = step τ.1 τ.2 p.current p.currentPosition) ∧
    f + p.depth = frames

theorem Reached.exact {bs : List UInt8} {frames : Nat} {call : Call} {f : Nat} {p : Parser}
    {τ : State} (led : Leads start (TokenStream.ofBytes bs) τ p.stream)
    (entered : Entered call p τ) (depth : p.depth = openCount τ) (frames' : f + p.depth = frames) :
    Reached bs frames call f p :=
  ⟨τ, τ, led, depth, entered, fun _ => rfl, frames'⟩

theorem openCount_le_of_leads {S S' : TokenStream} {σ : State} (led : Leads start S σ S') :
    openCount σ ≤ maxDepth := by
  obtain ⟨consumed, -, advanced⟩ := led
  exact (nesting_of_advance advanced).2

theorem Follows.of_ok {p : Parser} {σ : State} {S : TokenStream} {stack : List Frame}
    {o : Except Stop (Term × p.Past)} {v : Term} {q : p.Past} (h : Follows p σ S stack o)
    (read : o = .ok (v, q)) : q.1.depth = p.depth ∧ Leads σ S (complete v stack) q.1.stream := by
  subst read
  exact h

/-! ## One token at a time -/

section Steps
variable {p : Parser} {σ τ : State}

theorem next_leads {h : p.current ≠ .eof} {q : p.Past} (moved : p.next h = .ok q)
    (stepped : step σ.1 σ.2 p.current p.currentPosition = .ok τ) :
    Leads σ p.stream τ q.1.stream ∧ q.1.depth = p.depth := by
  rcases next_follows h stepped with ⟨e, failed, -⟩ | ⟨q', moved', led, depth⟩
  · rw [moved] at failed
    cases failed
  · rw [moved] at moved'
    cases moved'
    exact ⟨led, depth⟩

theorem shallow_of_descend {h : p.current ≠ .eof} {q : p.Past} (descended : p.descend h = .ok q) :
    p.depth < maxDepth := by
  by_cases deep : maxDepth ≤ p.depth
  · rw [descend_of_deep h deep] at descended
    cases descended
  · omega

theorem descend_leads {h : p.current ≠ .eof} {q : p.Past} (descended : p.descend h = .ok q)
    (stepped : step σ.1 σ.2 p.current p.currentPosition = .ok τ) :
    Leads σ p.stream τ q.1.stream ∧ q.1.depth = p.depth + 1 := by
  rw [descend_of_shallow h (Nat.not_le.mpr (shallow_of_descend descended))] at descended
  exact next_leads (p := { p with depth := p.depth + 1 }) descended stepped

theorem expect_leads {t : Token} {expected : Expectation} {ht : t ≠ .eof} {q : p.Past}
    (moved : p.expect t expected ht = .ok q)
    (stepped : step σ.1 σ.2 t p.currentPosition = .ok τ) :
    Leads σ p.stream τ q.1.stream ∧ q.1.depth = p.depth := by
  unfold expect at moved
  by_cases same : p.current = t
  · rw [dif_pos same] at moved
    exact next_leads moved (by rw [same]; exact stepped)
  · rw [dif_neg same] at moved
    cases moved

theorem member_value_leads {members : List (String × Term)} {stack : List Frame} {key : String}
    {h : p.current ≠ .eof} {q : p.Past} {r : q.1.Past}
    (same : step σ.1 σ.2 p.current p.currentPosition =
      step (.key members) stack p.current p.currentPosition)
    (keyed : p.current = .string key) (moved : p.next h = .ok q)
    (expected : q.1.expect .colon .colon (by decide) = .ok r) :
    Leads σ p.stream (.value, .member members key :: stack) r.1.stream ∧ r.1.depth = p.depth := by
  obtain ⟨ledQ, depthQ⟩ := next_leads (τ := (.colon members key, stack)) moved
    (by rw [same, keyed]; rfl)
  obtain ⟨ledR, depthR⟩ := expect_leads (σ := (.colon members key, stack)) expected rfl
  exact ⟨ledQ.trans ledR, depthR.trans depthQ⟩

end Steps

/-! ## From call to call -/

section Reaching
variable {bs : List UInt8} {frames f : Nat} {p : Parser}

theorem Reached.opened {mode : Mode} {h : p.current ≠ .eof} {q : p.Past}
    (reached : Reached bs frames .term (f + 1) p) (descended : p.descend h = .ok q)
    (opens : ∀ stack : List Frame, stack.length < maxDepth →
      step .value stack p.current p.currentPosition = .ok (mode, stack)) :
    ∃ stack, Leads start (TokenStream.ofBytes bs) (mode, stack) q.1.stream ∧
      q.1.depth = stack.length + 1 ∧ f + q.1.depth = frames := by
  obtain ⟨σ, τ, led, depth, ⟨stack, rfl, depthT⟩, same, frames'⟩ := reached
  have shallow := shallow_of_descend descended
  obtain ⟨ledQ, deeper⟩ := descend_leads descended ((same h).trans (opens stack (by omega)))
  exact ⟨stack, led.trans ledQ, by omega, by omega⟩

theorem Reached.member_value {key : String} {h : p.current ≠ .eof} {q : p.Past} {r : q.1.Past}
    (reached : Reached bs frames .members f p) (keyed : p.current = .string key)
    (moved : p.next h = .ok q) (expected : q.1.expect .colon .colon (by decide) = .ok r) :
    ∃ members stack,
      Leads start (TokenStream.ofBytes bs) (.value, .member members key :: stack) r.1.stream ∧
      r.1.depth = stack.length + 1 ∧ f + r.1.depth = frames := by
  obtain ⟨σ, τ, led, depth, ⟨members, stack, rfl, depthT⟩, same, frames'⟩ := reached
  have same : step σ.1 σ.2 p.current p.currentPosition =
      step (.key members) stack p.current p.currentPosition := same h
  obtain ⟨ledR, depthR⟩ := member_value_leads same keyed moved expected
  exact ⟨members, stack, led.trans ledR, by omega, by omega⟩

theorem leads_after_term {S : TokenStream} {σ : State} (stack : List Frame) {v : Term}
    {q : p.Past} (led : Leads start S σ p.stream) (counted : p.depth = openCount σ)
    (depth : p.depth = stack.length)
    (same : p.current ≠ .eof →
      step σ.1 σ.2 p.current p.currentPosition = step .value stack p.current p.currentPosition)
    (room : maxDepth + 1 ≤ f + p.depth) (read : parseTerm f p = .ok (v, q)) :
    Leads start S (complete v stack) q.1.stream ∧ q.1.depth = p.depth := by
  have bounded : p.depth ≤ maxDepth := by
    rw [counted]
    exact openCount_le_of_leads led
  obtain ⟨depthQ, ledQ⟩ := (parseTerm_follows f p stack depth bounded room).of_ok read
  exact ⟨led.trans (leads_of_first ledQ (complete_ne_of_opening (.inl rfl)).symm same), depthQ⟩

end Reaching

/-! ## Every call -/

theorem Calls.reached {bs : List UInt8} {frames : Nat} (room : maxDepth + 1 ≤ frames)
    {call : Call} {f : Nat} {p : Parser} (called : Calls bs frames call f p) :
    Reached bs frames call f p := by
  induction called with
  | start started =>
    obtain ⟨stream, depth⟩ := start_eq bs started
    exact Reached.exact ⟨[], stream.symm, rfl⟩ ⟨[], rfl, depth⟩ depth (by omega)
  | @object f p q h _ opened descended ih =>
    obtain ⟨stack, led, depth, frames'⟩ :=
      ih.opened descended fun stack shallow => by rw [opened]; exact if_pos shallow
    exact Reached.exact led ⟨stack, rfl, depth⟩ depth frames'
  | @array f p q h _ opened descended ih =>
    obtain ⟨stack, led, depth, frames'⟩ :=
      ih.opened descended fun stack shallow => by rw [opened]; exact if_pos shallow
    exact Reached.exact led ⟨stack, rfl, depth⟩ depth frames'
  | members _ notClosed ih =>
    obtain ⟨σ, τ, led, depth, ⟨stack, rfl, depthT⟩, same, frames'⟩ := ih
    exact ⟨σ, (.key [], stack), led, depth, ⟨[], stack, rfl, depthT⟩,
      fun going => (same going).trans (step_objectOpen_of_ne notClosed), frames'⟩
  | items _ notClosed ih =>
    obtain ⟨σ, τ, led, depth, ⟨stack, rfl, depthT⟩, same, frames'⟩ := ih
    exact ⟨σ, (.value, .array [] :: stack), led, depth, ⟨[], stack, rfl, depthT⟩,
      fun going => (same going).trans (step_arrayOpen_of_ne notClosed), frames'⟩
  | @value f p key q r h _ keyed moved expected ih =>
    obtain ⟨members, stack, led, depth, frames'⟩ := ih.member_value keyed moved expected
    exact Reached.exact led ⟨_, rfl, depth⟩ depth frames'
  | @nextMember f p key q r v s u h h' _ keyed moved expected read comma moved' ih =>
    obtain ⟨members, stack, led, depth, frames'⟩ := ih.member_value keyed moved expected
    obtain ⟨ledS, depthS⟩ := leads_after_term (.member members key :: stack) led depth depth
      (fun _ => rfl) (by omega) read
    obtain ⟨ledU, depthU⟩ := next_leads (σ := complete v (.member members key :: stack))
      (τ := (.key (Term.insertMember key v members), stack)) moved' (by rw [comma]; rfl)
    exact Reached.exact (ledS.trans ledU) ⟨_, stack, rfl, by omega⟩
      (by show u.1.depth = stack.length + 1; omega) (by omega)
  | item _ ih =>
    obtain ⟨σ, τ, led, depth, ⟨items, stack, rfl, depthT⟩, same, frames'⟩ := ih
    exact ⟨σ, _, led, depth, ⟨.array items :: stack, rfl, by rw [List.length_cons]; exact depthT⟩,
      same, frames'⟩
  | @nextItem f p v q r h _ read comma moved ih =>
    obtain ⟨σ, τ, led, depth, ⟨items, stack, rfl, depthT⟩, same, frames'⟩ := ih
    obtain ⟨ledQ, depthQ⟩ := leads_after_term (.array items :: stack) led depth depthT same
      (by omega) read
    obtain ⟨ledR, depthR⟩ := next_leads (σ := (.nextItem (v :: items), stack))
      (τ := (.value, .array (v :: items) :: stack)) moved (by rw [comma]; rfl)
    exact Reached.exact (ledQ.trans ledR) ⟨v :: items, stack, rfl, by omega⟩
      (by show r.1.depth = stack.length + 1; omega) (by omega)

/-- At every call the parser makes while it reads a document with enough stack frames, its
depth is the number of brackets among the lexemes before its current token whose closing
bracket has not come yet, and at most `maxDepth`; a call of `parseTerm`, `parseObject` or
`parseArray` that returns a value leaves the depth as it found it. -/
theorem parser_depth_counts_unclosed_brackets {bs : List UInt8} {frames : Nat}
    (room : maxDepth + 1 ≤ frames) {call : Call} {f : Nat} {p : Parser}
    (called : Calls bs frames call f p) :
    (∃ consumed σ, TokenStream.ofBytes bs = prepend consumed p.stream ∧
      Reader.advance start consumed = .ok σ ∧ unclosed (consumed.map Lexeme.token) = some (openers σ) ∧
      p.depth = (openers σ).length) ∧
    p.depth ≤ maxDepth ∧
    (call = .term → ∀ v q, parseTerm f p = .ok (v, q) → q.1.depth = p.depth) ∧
    (call = .object → ∀ v q, parseObject f p = .ok (v, q) → q.1.depth = p.depth) ∧
    (call = .array → ∀ v q, parseArray f p = .ok (v, q) → q.1.depth = p.depth) := by
  obtain ⟨σ, τ, ⟨consumed, skipped, advanced⟩, depth, entered, -, frames'⟩ := called.reached room
  have bounded : p.depth ≤ maxDepth := depth ▸ (nesting_of_advance advanced).2
  refine ⟨⟨consumed, σ, skipped, advanced, unclosedFrom_advance advanced,
    depth.trans (length_openers σ).symm⟩, bounded, ?_, ?_, ?_⟩
  · rintro rfl v q read
    obtain ⟨stack, rfl, depthT⟩ := entered
    exact ((parseTerm_follows f p stack depthT bounded (by omega)).of_ok read).1
  · rintro rfl v q read
    obtain ⟨stack, rfl, depthT⟩ := entered
    exact ((parseObject_follows f p stack depthT bounded (by omega)).of_ok read).1
  · rintro rfl v q read
    obtain ⟨stack, rfl, depthT⟩ := entered
    exact ((parseArray_follows f p stack depthT bounded (by omega)).of_ok read).1

theorem empty_document_first_call :
    ∃ p, Calls [] (maxDepth + 1) .term (maxDepth + 1) p ∧ p.depth ≤ maxDepth := by
  have within : (Lexer.new []).position ≤ (Lexer.new []).input.length := Nat.le_refl 0
  have ended : (Lexer.new []).tokens = .eof 0 := by
    rw [Lexer.tokens, TokenStream.read]
    rfl
  rcases settle_cases 0 within (Lexer.nextToken_ordered within).2.within with
    ⟨e, -, failed⟩ | ⟨p, started, -, -⟩
  · rw [ended] at failed
    cases failed
  · have called : Calls [] (maxDepth + 1) .term (maxDepth + 1) p :=
      @Calls.start [] (maxDepth + 1) p within started
    exact ⟨p, called, (parser_depth_counts_unclosed_brackets (Nat.le_refl _) called).2.1⟩

end JsonProbe.Parser
