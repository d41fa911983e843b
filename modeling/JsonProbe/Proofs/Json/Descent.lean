import JsonProbe.Json.Parser
import JsonProbe.Proofs.Path.Walk
import JsonProbe.Proofs.Json.ReadErrors
/-! # The recursive-descent parser reads what the reader reads

The parser (`Parser.parseTerm` and the functions it calls) and the reader (`Reader.run`, a
pushdown machine over the token stream) read every document alike.  A parser holds a stream
(`stream`): its current token, then the tokens of the bytes after the lexer's cursor.  Each
function of the parser is held to the reader started in the mode the function stands for
(`Follows`): the reader fails where the parser fails, with the same error, or it reads the lexemes
the parser went past and reaches the state in which the value the parser read is complete
(`Reader.Leads`).

With `maxDepth + 1` stack frames the parser never runs out of them and never aborts; its answer
is the reader's (`parse_eq`). -/
set_option autoImplicit false

namespace JsonProbe

namespace TokenStream

/-- The stream that reads the lexemes `ls`, then goes on as `S`. -/
def prepend (ls : List Lexeme) (S : TokenStream) : TokenStream :=
  ls.foldr .cons S

@[simp] theorem prepend_nil (S : TokenStream) : prepend [] S = S := rfl

@[simp] theorem prepend_cons (l : Lexeme) (ls : List Lexeme) (S : TokenStream) :
    prepend (l :: ls) S = .cons l (prepend ls S) := rfl

theorem prepend_append (ls ls' : List Lexeme) (S : TokenStream) :
    prepend (ls ++ ls') S = prepend ls (prepend ls' S) :=
  List.foldr_append

end TokenStream

namespace Reader

open TokenStream

theorem run_failure (m : Mode) (s : List Frame) (e : LexError) :
    run m s (.failure e) = .error (.lex e) := by
  cases m <;> rfl

theorem run_cons_of_ok {m m' : Mode} {s s' : List Frame} {t : Token} {o : Nat}
    {rest : TokenStream} (stepped : step m s t o = .ok (m', s')) :
    run m s (.cons ⟨t, o⟩ rest) = run m' s' rest := by
  simp only [run, stepped]

theorem run_cons_of_error {m : Mode} {s : List Frame} {t : Token} {o : Nat} {rest : TokenStream}
    {e : ParseError} (refused : step m s t o = .error e) : run m s (.cons ⟨t, o⟩ rest) = .error e := by
  simp only [run, refused]

theorem run_cons_congr {m m' : Mode} {s s' : List Frame} {t : Token} {o : Nat}
    {rest : TokenStream} (same : step m s t o = step m' s' t o) :
    run m s (.cons ⟨t, o⟩ rest) = run m' s' (.cons ⟨t, o⟩ rest) := by
  simp only [run, same]

theorem run_eof (m : Mode) (s : List Frame) (o : Nat) (notDone : ∀ v, m ≠ .done v) :
    run m s (.eof o) = .error (.unexpectedEnd m.expectation o) := by
  cases m with
  | done v => exact absurd rfl (notDone v)
  | _ => rfl

theorem run_prepend {σ τ : State} {read : List Lexeme} (advanced : advance σ read = .ok τ)
    (S : TokenStream) : run σ.1 σ.2 (prepend read S) = run τ.1 τ.2 S := by
  induction read generalizing σ with
  | nil =>
    cases advanced
    rfl
  | cons l rest ih =>
    cases stepped : step σ.1 σ.2 l.token l.offset with
    | error e =>
      rw [advance, stepped] at advanced
      cases advanced
    | ok σ' =>
      rw [advance_cons_of_step stepped] at advanced
      rw [prepend_cons, run_cons_of_ok stepped]
      exact ih advanced

/-- From the state `σ` at the stream `S` the reader reaches the state `τ` at `S'`: `S` is some
lexemes followed by `S'`, and the reader goes over them from `σ` to `τ`. -/
def Leads (σ : State) (S : TokenStream) (τ : State) (S' : TokenStream) : Prop :=
  ∃ read, S = prepend read S' ∧ advance σ read = .ok τ

namespace Leads

variable {σ τ υ : State} {S S' S'' : TokenStream}

theorem single {x : Token} {o : Nat} (stepped : step σ.1 σ.2 x o = .ok τ) :
    Leads σ (.cons ⟨x, o⟩ S) τ S := by
  refine ⟨[⟨x, o⟩], rfl, ?_⟩
  rw [advance_cons_of_step stepped]
  rfl

theorem trans (h : Leads σ S τ S') (h' : Leads τ S' υ S'') : Leads σ S υ S'' := by
  obtain ⟨read, rfl, advanced⟩ := h
  obtain ⟨read', rfl, advanced'⟩ := h'
  refine ⟨read ++ read', (prepend_append read read' S'').symm, ?_⟩
  rw [advance_append, advanced, Path.ok_bind, advanced']

theorem run (h : Leads σ S τ S') : Reader.run σ.1 σ.2 S = Reader.run τ.1 τ.2 S' := by
  obtain ⟨read, rfl, advanced⟩ := h
  exact run_prepend advanced S'

end Leads

theorem step_objectOpen_of_ne {s : List Frame} {t : Token} {o : Nat} (h : t ≠ .rbrace) :
    step .objectOpen s t o = step (.key []) s t o := by
  cases t with
  | rbrace => exact absurd rfl h
  | _ => rfl

theorem step_arrayOpen_of_ne {s : List Frame} {t : Token} {o : Nat} (h : t ≠ .rbracket) :
    step .arrayOpen s t o = step .value (.array [] :: s) t o := by
  cases t with
  | rbracket => exact absurd rfl h
  | _ => rfl

theorem complete_ne_of_opening {t : Term} {stack s : List Frame} {m : Mode}
    (opening : m = .value ∨ m = .key []) : (m, s) ≠ complete t stack := by
  intro same
  rcases opening with rfl | rfl <;> rcases stack with _ | ⟨_ | _, _⟩ <;> cases same

theorem step_colon_refused {members : List (String × Term)} {key : String} {s : List Frame}
    {t : Token} {o : Nat} (h : t ≠ .colon) :
    step (.colon members key) s t o = .error (.unexpectedToken .colon t o) := by
  cases t with
  | colon => exact absurd rfl h
  | _ => rfl

theorem step_key_refused {members : List (String × Term)} {s : List Frame} {t : Token} {o : Nat}
    (h : ∀ key, t ≠ .string key) : step (.key members) s t o = .error (.unexpectedToken .key t o) := by
  cases t with
  | string key => exact absurd rfl (h key)
  | _ => rfl

theorem step_nextMember_refused {members : List (String × Term)} {s : List Frame} {t : Token}
    {o : Nat} (notBrace : t ≠ .rbrace) (notComma : t ≠ .comma) :
    step (.nextMember members) s t o = .error (.unexpectedToken .commaOrBrace t o) := by
  cases t with
  | rbrace => exact absurd rfl notBrace
  | comma => exact absurd rfl notComma
  | _ => rfl

theorem step_nextItem_refused {items : List Term} {s : List Frame} {t : Token} {o : Nat}
    (notBracket : t ≠ .rbracket) (notComma : t ≠ .comma) :
    step (.nextItem items) s t o = .error (.unexpectedToken .commaOrBracket t o) := by
  cases t with
  | rbracket => exact absurd rfl notBracket
  | comma => exact absurd rfl notComma
  | _ => rfl

end Reader

namespace Parser

open Reader Lexer TokenStream

/-! ## The stream a parser holds -/

/-- The token stream a parser holds: its current token, then the stream of the bytes after the
lexer's cursor; or the end of input. -/
def stream (p : Parser) : TokenStream :=
  if p.current = .eof then .eof p.currentPosition
  else .cons ⟨p.current, p.currentPosition⟩ p.lexer.tokens

theorem stream_of_eof {p : Parser} (h : p.current = .eof) : p.stream = .eof p.currentPosition :=
  if_pos h

theorem stream_of_ne {p : Parser} (h : p.current ≠ .eof) :
    p.stream = .cons ⟨p.current, p.currentPosition⟩ p.lexer.tokens :=
  if_neg h

theorem unexpected_of_eof {p : Parser} {expected : Expectation} (h : p.current = .eof) :
    p.unexpected expected = .unexpectedEnd expected p.currentPosition := by
  unfold unexpected
  rw [h]

theorem unexpected_of_ne {p : Parser} {expected : Expectation} (h : p.current ≠ .eof) :
    p.unexpected expected = .unexpectedToken expected p.current p.currentPosition := by
  unfold unexpected
  cases current : p.current with
  | eof => exact absurd current h
  | _ => rfl

/-! ## Reading a token -/

theorem settle_of_eq {depth : Nat} {o o' : Lexer.Outcome Token} (same : o = o')
    (within : o.lexer.position ≤ o.lexer.input.length) :
    settle depth o within = settle depth o' (same ▸ within) := by
  subst same
  rfl

theorem settle_cases (depth : Nat) {l : Lexer} (within : l.position ≤ l.input.length)
    (within' : l.nextToken.lexer.position ≤ l.nextToken.lexer.input.length) :
    (∃ e, settle depth l.nextToken within' = .error (.error (.lex e)) ∧ l.tokens = .failure e) ∨
    (∃ q, settle depth l.nextToken within' = .ok q ∧ q.stream = l.tokens ∧ q.depth = depth) := by
  rcases nextToken_tokens within with ⟨e, l', failed, rest⟩ | ⟨l', eof, rest⟩ |
    ⟨t, l', read, notEof, rest, -, -⟩
  · rw [settle_of_eq failed]
    exact .inl ⟨e, rfl, rest⟩
  · rw [settle_of_eq eof]
    refine .inr ⟨_, rfl, ?_, rfl⟩
    rw [stream_of_eof rfl, rest]
  · rw [settle_of_eq read]
    refine .inr ⟨_, rfl, ?_, rfl⟩
    rw [stream_of_ne notEof, rest]

theorem advance_cases (p : Parser) :
    (∃ e, p.advance = .error (.error (.lex e)) ∧ p.lexer.tokens = .failure e) ∨
    (∃ q, p.advance = .ok q ∧ q.stream = p.lexer.tokens ∧ q.depth = p.depth) :=
  settle_cases p.depth p.within _

theorem next_of_ok {p q : Parser} (h : p.current ≠ .eof) (advanced : p.advance = .ok q) :
    p.next h = .ok ⟨q, advance_below h advanced⟩ := by
  unfold next
  split
  · rename_i q' advanced'
    rw [advanced, Except.ok.injEq] at advanced'
    subst advanced'
    rfl
  · rename_i s advanced'
    rw [advanced] at advanced'
    cases advanced'

theorem next_of_error {p : Parser} {s : Stop} (h : p.current ≠ .eof)
    (failed : p.advance = .error s) : p.next h = .error s := by
  unfold next
  split
  · rename_i q' advanced'
    rw [failed] at advanced'
    cases advanced'
  · rename_i s' advanced'
    rw [failed, Except.error.injEq] at advanced'
    rw [advanced']

theorem next_cases {p : Parser} (h : p.current ≠ .eof) :
    (∃ e, p.next h = .error (.error (.lex e)) ∧ p.lexer.tokens = .failure e) ∨
    (∃ q, p.next h = .ok q ∧ q.1.stream = p.lexer.tokens ∧ q.1.depth = p.depth) := by
  rcases advance_cases p with ⟨e, failed, rest⟩ | ⟨q, advanced, rest, depth⟩
  · exact .inl ⟨e, next_of_error h failed, rest⟩
  · exact .inr ⟨_, next_of_ok h advanced, rest, depth⟩

theorem descend_of_deep {p : Parser} (h : p.current ≠ .eof) (deep : maxDepth ≤ p.depth) :
    p.descend h = .error (.error (.tooDeep p.currentPosition)) :=
  if_pos deep

theorem descend_of_shallow {p : Parser} (h : p.current ≠ .eof) (shallow : ¬ maxDepth ≤ p.depth) :
    p.descend h = ({ p with depth := p.depth + 1 }).next h :=
  if_neg shallow

/-! ## The reader over a parser's stream -/

/-- A computation of the parser fails with a reading error, and the reader fails with it. -/
def Fails {α : Type} (c : Except Stop α) (r : Except ParseError Term) : Prop :=
  ∃ e, c = .error (.error e) ∧ r = .error e

theorem next_follows {p : Parser} (h : p.current ≠ .eof) {σ τ : State}
    (stepped : step σ.1 σ.2 p.current p.currentPosition = .ok τ) :
    Fails (p.next h) (run σ.1 σ.2 p.stream) ∨
    (∃ q, p.next h = .ok q ∧ Leads σ p.stream τ q.1.stream ∧ q.1.depth = p.depth) := by
  rw [stream_of_ne h]
  rcases next_cases h with ⟨e, failed, rest⟩ | ⟨q, moved, rest, depth⟩
  · refine .inl ⟨_, failed, ?_⟩
    rw [run_cons_of_ok stepped, rest, run_failure]
  · refine .inr ⟨q, moved, ?_, depth⟩
    rw [← rest]
    exact Leads.single stepped

theorem run_refused {p : Parser} {m : Mode} {s : List Frame} (notDone : ∀ v, m ≠ .done v)
    (refused : p.current ≠ .eof → step m s p.current p.currentPosition =
      .error (.unexpectedToken m.expectation p.current p.currentPosition)) :
    run m s p.stream = .error (p.unexpected m.expectation) := by
  by_cases ended : p.current = .eof
  · rw [stream_of_eof ended, run_eof m s _ notDone, unexpected_of_eof ended]
  · rw [stream_of_ne ended, run_cons_of_error (refused ended), unexpected_of_ne ended]

theorem run_value_refused {p : Parser} {s : List Frame}
    (h : p.current = .rbrace ∨ p.current = .rbracket ∨ p.current = .colon ∨ p.current = .comma ∨
      p.current = .eof) :
    run .value s p.stream = .error (p.unexpected .value) := by
  refine run_refused (fun _ => nofun) (fun _ => ?_)
  rcases h with current | current | current | current | current <;> rw [current] <;> rfl

theorem leads_of_first {p : Parser} {σ τ υ : State} {S' : TokenStream}
    (h : Leads τ p.stream υ S') (moved : υ ≠ τ)
    (same : p.current ≠ .eof → step σ.1 σ.2 p.current p.currentPosition =
      step τ.1 τ.2 p.current p.currentPosition) : Leads σ p.stream υ S' := by
  obtain ⟨consumed, skipped, advanced⟩ := h
  refine ⟨consumed, skipped, ?_⟩
  cases consumed with
  | nil => exact absurd (Except.ok.inj advanced).symm moved
  | cons l rest =>
    have going : p.current ≠ .eof := by
      intro ended
      rw [stream_of_eof ended, prepend_cons] at skipped
      cases skipped
    rw [stream_of_ne going, prepend_cons, TokenStream.cons.injEq] at skipped
    rw [← skipped.1] at advanced ⊢
    simp only [Reader.advance] at advanced ⊢
    rw [same going]
    exact advanced

/-! ## Parsing in step with the reader -/

/-- The parser's answer `o` for a value read from `p` inside the containers `stack`, against the
reader started in the state `σ` at the stream `S`: both fail with the same error; or the parser
read `t` and stopped at `q`, at `p`'s depth, and the reader reaches the state that completes `t`
in `stack` at `q`'s stream.  A parser that aborts or runs out of stack frames follows nothing. -/
def Follows (p : Parser) (σ : State) (S : TokenStream) (stack : List Frame) :
    Except Stop (Term × p.Past) → Prop
  | .ok (t, q) => q.1.depth = p.depth ∧ Leads σ S (complete t stack) q.1.stream
  | .error (.error e) => run σ.1 σ.2 S = .error e
  | .error _ => False

section Follows
variable {p : Parser} {σ : State} {S : TokenStream} {stack : List Frame}

theorem follows_of_fails {α : Type} {c : Except Stop α} (failed : Fails c (run σ.1 σ.2 S))
    (k : α → Except Stop (Term × p.Past)) : Follows p σ S stack (c >>= k) := by
  obtain ⟨e, rfl, reader⟩ := failed
  exact reader

theorem Follows.cases {o : Except Stop (Term × p.Past)} (h : Follows p σ S stack o) :
    Fails o (run σ.1 σ.2 S) ∨ ∃ t q, o = .ok (t, q) ∧ q.1.depth = p.depth ∧
      Leads σ S (complete t stack) q.1.stream := by
  match o, h with
  | .ok (t, q), ⟨depth, led⟩ => exact .inr ⟨t, q, rfl, depth, led⟩
  | .error (.error e), reader => exact .inl ⟨e, rfl, reader⟩

theorem Follows.lead {τ : State} {S' : TokenStream} {o : Except Stop (Term × p.Past)}
    (led : Leads σ S τ S') (h : Follows p τ S' stack o) : Follows p σ S stack o := by
  match o, h with
  | .ok (t, q), ⟨depth, led'⟩ => exact ⟨depth, led.trans led'⟩
  | .error (.error e), reader => exact led.run.trans reader

theorem Follows.of_first {σ' : State} {o : Except Stop (Term × p.Past)}
    (h : Follows p σ' p.stream stack o)
    (same : p.current ≠ .eof → step σ.1 σ.2 p.current p.currentPosition =
      step σ'.1 σ'.2 p.current p.currentPosition)
    (ended : p.current = .eof → run σ.1 σ.2 p.stream = run σ'.1 σ'.2 p.stream)
    (fresh : ∀ t, σ' ≠ complete t stack) : Follows p σ p.stream stack o := by
  match o, h with
  | .ok (t, q), ⟨depth, led⟩ =>
    exact ⟨depth, leads_of_first led (fun moved => fresh t moved.symm) same⟩
  | .error (.error e), reader =>
    have reader : run σ'.1 σ'.2 p.stream = .error e := reader
    show run σ.1 σ.2 p.stream = .error e
    by_cases stopped : p.current = .eof
    · exact (ended stopped).trans reader
    · rw [stream_of_ne stopped] at reader ⊢
      rw [run_cons_congr (same stopped)]
      exact reader

theorem follows_token {v : Term} (h : p.current ≠ .eof)
    (stepped : step σ.1 σ.2 p.current p.currentPosition = .ok (complete v stack)) :
    Follows p σ p.stream stack (p.next h >>= fun q => pure (v, q)) := by
  rcases next_follows h stepped with failed | ⟨q, moved, led, depth⟩
  · exact follows_of_fails failed _
  · rw [moved, Path.ok_bind]
    exact ⟨depth, led⟩

theorem follows_closed (q : p.Past) {o : Except Stop (Term × q.1.Past)}
    (inner : Follows q.1 σ S stack o) (deeper : q.1.depth = p.depth + 1) :
    Follows p σ S stack (o >>= fun x => match x with
      | (t, u) => pure (t, q.trans ⟨u.1.ascend, u.2.ascend⟩)) := by
  rcases inner.cases with failed | ⟨t, u, rfl, depth, led⟩
  · exact follows_of_fails failed _
  · refine ⟨?_, led⟩
    show u.1.depth - 1 = p.depth
    omega

theorem follows_rest (q : p.Past) {o : Except Stop (Term × q.1.Past)}
    (rest : Follows q.1 σ S stack o) (depth : q.1.depth = p.depth) :
    Follows p σ S stack (o >>= fun x => match x with | (t, u) => pure (t, q.trans u)) := by
  rcases rest.cases with failed | ⟨t, u, rfl, depthU, led⟩
  · exact follows_of_fails failed _
  · exact ⟨depthU.trans depth, led⟩

theorem follows_last (q : p.Past) (v : Term) {c : Except Stop q.1.Past} (depth : q.1.depth = p.depth)
    (last : Fails c (run σ.1 σ.2 S) ∨ ∃ u, c = .ok u ∧
      Leads σ S (complete v stack) u.1.stream ∧ u.1.depth = q.1.depth) :
    Follows p σ S stack (c >>= fun u => pure (v, q.trans u)) := by
  rcases last with failed | ⟨u, moved, led, depthU⟩
  · exact follows_of_fails failed _
  · rw [moved, Path.ok_bind]
    exact ⟨depthU.trans depth, led⟩

end Follows

theorem descend_follows {p : Parser} {stack : List Frame} {m : Mode} (h : p.current ≠ .eof)
    (depth : p.depth = stack.length)
    (opens : step .value stack p.current p.currentPosition =
      if stack.length < maxDepth then .ok (m, stack) else .error (.tooDeep p.currentPosition)) :
    Fails (p.descend h) (run .value stack p.stream) ∨
    (∃ q, p.descend h = .ok q ∧ Leads (.value, stack) p.stream (m, stack) q.1.stream ∧
      q.1.depth = p.depth + 1 ∧ p.depth < maxDepth) := by
  by_cases deep : maxDepth ≤ p.depth
  · rw [if_neg (by omega)] at opens
    rw [descend_of_deep h deep, stream_of_ne h, run_cons_of_error opens]
    exact .inl ⟨_, rfl, rfl⟩
  · rw [if_pos (by omega)] at opens
    rcases next_follows (p := { p with depth := p.depth + 1 }) (σ := (.value, stack)) h opens with
      ⟨e, failed, reader⟩ | ⟨q, moved, led, deeper⟩
    · exact .inl ⟨e, (descend_of_shallow h deep).trans failed, reader⟩
    · exact .inr ⟨q, (descend_of_shallow h deep).trans moved, led, deeper, by omega⟩

theorem follows_descended {p : Parser} {stack : List Frame} {m : Mode} (h : p.current ≠ .eof)
    (depth : p.depth = stack.length)
    (opens : step .value stack p.current p.currentPosition =
      if stack.length < maxDepth then .ok (m, stack) else .error (.tooDeep p.currentPosition))
    (inside : (q : p.Past) → Except Stop (Term × q.1.Past))
    (follows : ∀ q : p.Past, q.1.depth = p.depth + 1 → p.depth < maxDepth →
      Follows q.1 (m, stack) q.1.stream stack (inside q)) :
    Follows p (.value, stack) p.stream stack (p.descend h >>= fun q => inside q >>= fun x =>
      match x with | (t, u) => pure (t, q.trans ⟨u.1.ascend, u.2.ascend⟩)) := by
  rcases descend_follows h depth opens with failed | ⟨q, descended, led, deeper, shallow⟩
  · exact follows_of_fails failed _
  · rw [descended, Path.ok_bind]
    exact (follows_closed q (follows q deeper shallow) deeper).lead led

theorem expect_follows {p : Parser} (t : Token) (expected : Expectation) (h : t ≠ .eof)
    {σ τ : State} (notDone : ∀ v, σ.1 ≠ .done v) (expectation : σ.1.expectation = expected)
    (stepped : p.current = t → step σ.1 σ.2 p.current p.currentPosition = .ok τ)
    (refused : p.current ≠ t → p.current ≠ .eof → step σ.1 σ.2 p.current p.currentPosition =
      .error (.unexpectedToken expected p.current p.currentPosition)) :
    Fails (p.expect t expected h) (run σ.1 σ.2 p.stream) ∨
    (∃ q, p.expect t expected h = .ok q ∧ Leads σ p.stream τ q.1.stream ∧
      q.1.depth = p.depth) := by
  unfold expect
  by_cases same : p.current = t
  · rw [dif_pos same]
    exact next_follows (by rw [same]; exact h) (stepped same)
  · rw [dif_neg same]
    refine .inl ⟨_, rfl, ?_⟩
    rw [← expectation]
    exact run_refused notDone (fun ended => expectation ▸ refused same ended)

/-! ## The parser follows the reader

Each function of the parser against the reader started in the mode it stands for, by the same
recursion as the functions themselves: the stack holds the containers around, `p.depth` counts
them (with the one being read, for a container's inside), and there are stack frames enough for
the deepest nesting the depth check lets through. -/

mutual

theorem parseTerm_follows (frames : Nat) (p : Parser) (stack : List Frame)
    (depth : p.depth = stack.length) (bounded : p.depth ≤ maxDepth)
    (room : maxDepth + 1 ≤ frames + p.depth) :
    Follows p (.value, stack) p.stream stack (parseTerm frames p) := by
  match frames with
  | 0 => exact absurd room (by omega)
  | frames + 1 =>
    rw [parseTerm]
    split
    · rename_i opened
      exact follows_descended (m := .objectOpen) _ depth (by rw [opened]; rfl)
        (fun q => parseObject frames q.1) fun q deeper shallow =>
          parseObject_follows frames q.1 stack (by omega) (by omega) (by omega)
    · rename_i opened
      exact follows_descended (m := .arrayOpen) _ depth (by rw [opened]; rfl)
        (fun q => parseArray frames q.1) fun q deeper shallow =>
          parseArray_follows frames q.1 stack (by omega) (by omega) (by omega)
    · rename_i text current
      exact follows_token (by rw [current]; nofun) (by rw [current]; rfl)
    · rename_i text current
      exact follows_token (by rw [current]; nofun) (by rw [current]; rfl)
    · rename_i b current
      exact follows_token (by rw [current]; nofun) (by rw [current]; rfl)
    · rename_i current
      exact follows_token (by rw [current]; nofun) (by rw [current]; rfl)
    all_goals
      rename_i current
      exact run_value_refused (by simp only [current, reduceCtorEq, or_true, true_or])
termination_by (p.remaining, p.pending, 0)
decreasing_by
  · exact q.2.lex 2 0
  · exact q.2.lex 2 0

theorem parseObject_follows (frames : Nat) (p : Parser) (stack : List Frame)
    (depth : p.depth = stack.length + 1) (bounded : p.depth ≤ maxDepth)
    (room : maxDepth + 1 ≤ frames + p.depth) :
    Follows p (.objectOpen, stack) p.stream stack (parseObject frames p) := by
  rw [parseObject]
  split
  · rename_i closed
    exact follows_token (by rw [closed]; nofun) (by rw [closed]; rfl)
  · rename_i notClosed
    exact (objectMembers_follows frames [] p stack depth bounded room).of_first
      (fun _ => step_objectOpen_of_ne notClosed) (fun ended => by rw [stream_of_eof ended]; rfl)
      (fun _ => complete_ne_of_opening (.inr rfl))
termination_by (p.remaining, p.pending, 2)
decreasing_by exact lex_rank p (by decide)

theorem objectMembers_follows (frames : Nat) (members : List (String × Term)) (p : Parser)
    (stack : List Frame) (depth : p.depth = stack.length + 1) (bounded : p.depth ≤ maxDepth)
    (room : maxDepth + 1 ≤ frames + p.depth) :
    Follows p (.key members, stack) p.stream stack (objectMembers frames members p) := by
  rw [objectMembers]
  split
  · rename_i key keyed
    rcases next_follows (σ := (.key members, stack)) (τ := (.colon members key, stack))
        (by rw [keyed]; nofun) (by rw [keyed]; rfl) with failed | ⟨q, moved, ledQ, depthQ⟩
    · exact follows_of_fails failed _
    rw [moved, Path.ok_bind]
    refine Follows.lead ledQ ?_
    rcases expect_follows .colon .colon (σ := (.colon members key, stack))
        (τ := (.value, .member members key :: stack)) (by decide)
        (fun _ => nofun) rfl (fun colon => by rw [colon]; rfl)
        (fun notColon _ => step_colon_refused notColon) with failed | ⟨r, expected, ledR, depthR⟩
    · exact follows_of_fails failed _
    rw [expected, Path.ok_bind]
    refine Follows.lead ledR ?_
    rcases (parseTerm_follows frames r.1 (.member members key :: stack)
        (by rw [List.length_cons]; omega) (by omega) (by omega)).cases with
      failed | ⟨value, s, read, depthS, ledS⟩
    · exact follows_of_fails failed _
    rw [read, Path.ok_bind]
    refine Follows.lead ledS ?_
    dsimp only
    split
    · rename_i comma
      rcases next_follows (σ := (.nextMember (Term.insertMember key value members), stack))
          (τ := (.key (Term.insertMember key value members), stack))
          (by rw [comma]; nofun) (by rw [comma]; rfl) with failed | ⟨u, moved, ledU, depthU⟩
      · exact follows_of_fails failed _
      rw [moved, Path.ok_bind]
      exact (follows_rest (q.trans (r.trans (s.trans u)))
        (objectMembers_follows frames _ u.1 stack (by omega) (by omega) (by omega))
        (by show u.1.depth = p.depth; omega)).lead ledU
    · rename_i notComma
      exact follows_last (q.trans (r.trans s)) _ (by show s.1.depth = p.depth; omega)
        (expect_follows .rbrace .commaOrBrace (by decide) (fun _ => nofun) rfl
          (fun closed => by rw [closed]; rfl)
          (fun notClosed _ => step_nextMember_refused notClosed notComma))
  · rename_i notKey
    exact run_refused (fun _ => nofun) (fun _ => step_key_refused notKey)
termination_by (p.remaining, p.pending, 1)
decreasing_by
  · exact (r.2.trans q.2).lex 0 1
  · exact (u.2.trans (s.2.trans (r.2.trans q.2))).lex 1 1

theorem parseArray_follows (frames : Nat) (p : Parser) (stack : List Frame)
    (depth : p.depth = stack.length + 1) (bounded : p.depth ≤ maxDepth)
    (room : maxDepth + 1 ≤ frames + p.depth) :
    Follows p (.arrayOpen, stack) p.stream stack (parseArray frames p) := by
  rw [parseArray]
  split
  · rename_i closed
    exact follows_token (by rw [closed]; nofun) (by rw [closed]; rfl)
  · rename_i notClosed
    exact (arrayItems_follows frames [] p stack depth bounded room).of_first
      (fun _ => step_arrayOpen_of_ne notClosed) (fun ended => by rw [stream_of_eof ended]; rfl)
      (fun _ => complete_ne_of_opening (.inl rfl))
termination_by (p.remaining, p.pending, 2)
decreasing_by exact lex_rank p (by decide)

theorem arrayItems_follows (frames : Nat) (items : List Term) (p : Parser) (stack : List Frame)
    (depth : p.depth = stack.length + 1) (bounded : p.depth ≤ maxDepth)
    (room : maxDepth + 1 ≤ frames + p.depth) :
    Follows p (.value, .array items.reverse :: stack) p.stream stack
      (arrayItems frames items p) := by
  rw [arrayItems]
  rcases (parseTerm_follows frames p (.array items.reverse :: stack)
      (by rw [List.length_cons]; omega) bounded room).cases with
    failed | ⟨item, q, read, depthQ, ledQ⟩
  · exact follows_of_fails failed _
  rw [read, Path.ok_bind]
  refine Follows.lead ledQ ?_
  dsimp only
  have gathered : (items ++ [item]).reverse = item :: items.reverse := by simp
  split
  · rename_i comma
    rcases next_follows (σ := (.nextItem (item :: items.reverse), stack))
        (τ := (.value, .array (item :: items.reverse) :: stack))
        (by rw [comma]; nofun) (by rw [comma]; rfl) with failed | ⟨r, moved, ledR, depthR⟩
    · exact follows_of_fails failed _
    rw [moved, Path.ok_bind]
    have rest := arrayItems_follows frames (items ++ [item]) r.1 stack (by omega) (by omega)
      (by omega)
    rw [gathered] at rest
    exact (follows_rest (q.trans r) rest (by show r.1.depth = p.depth; omega)).lead ledR
  · rename_i notComma
    exact follows_last q _ depthQ
      (expect_follows .rbracket .commaOrBracket (by decide) (fun _ => nofun) rfl
        (fun closed => by
          rw [closed]
          show Except.ok (complete (.array (item :: items.reverse).reverse) stack) = _
          rw [List.reverse_cons, List.reverse_reverse])
        (fun notClosed _ => step_nextItem_refused notClosed notComma))
termination_by (p.remaining, p.pending, 1)
decreasing_by
  · exact lex_rank p (by decide)
  · exact (r.2.trans q.2).lex 1 1

end

/-! ## At the end of input -/

section Ended
variable {frames : Nat} {p : Parser}

theorem parseTerm_of_eof (h : p.current = .eof) :
    parseTerm (frames + 1) p = .error (.error (.unexpectedEnd .value p.currentPosition)) := by
  rw [parseTerm]
  split <;> rename_i current <;> rw [h] at current <;> cases current
  rw [unexpected_of_eof h]

theorem objectMembers_of_eof {members : List (String × Term)} (h : p.current = .eof) :
    objectMembers frames members p = .error (.error (.unexpectedEnd .key p.currentPosition)) := by
  rw [objectMembers]
  split
  · rename_i key current
    rw [h] at current
    cases current
  · rw [unexpected_of_eof h]

theorem parseObject_of_eof (h : p.current = .eof) :
    parseObject frames p = .error (.error (.unexpectedEnd .key p.currentPosition)) := by
  rw [parseObject, dif_neg (by rw [h]; nofun)]
  exact objectMembers_of_eof h

theorem arrayItems_of_eof {items : List Term} (h : p.current = .eof) :
    arrayItems (frames + 1) items p = .error (.error (.unexpectedEnd .value p.currentPosition)) := by
  rw [arrayItems, parseTerm_of_eof h]
  rfl

theorem parseArray_of_eof (h : p.current = .eof) :
    parseArray (frames + 1) p = .error (.error (.unexpectedEnd .value p.currentPosition)) := by
  rw [parseArray, dif_neg (by rw [h]; nofun)]
  exact arrayItems_of_eof h

end Ended

/-! ## Whole documents -/

theorem start_eq (bs : List UInt8) {p : Parser} {within}
    (started : new (Lexer.new bs) within = .ok p) :
    p.stream = TokenStream.ofBytes bs ∧ p.depth = 0 := by
  have within' : (Lexer.new bs).position ≤ (Lexer.new bs).input.length := Nat.zero_le _
  rcases settle_cases 0 within' (nextToken_ordered within').2.within with
    ⟨e, failed, -⟩ | ⟨q, started', rest, depth⟩
  · have failed' : new (Lexer.new bs) within = .error (.error (.lex e)) := failed
    rw [failed'] at started
    cases started
  · have started'' : new (Lexer.new bs) within = .ok q := started'
    rw [started''] at started
    cases started
    exact ⟨rest, depth⟩

/-- With a stack frame for each container the depth check lets through and one more, the parser
reads every document as the reader does: it never runs out of frames and never aborts. -/
theorem parse_eq {frames : Nat} (room : maxDepth + 1 ≤ frames) (bs : List UInt8) :
    parse frames bs = (Term.parse bs).mapError .error := by
  have within : (Lexer.new bs).position ≤ (Lexer.new bs).input.length := Nat.zero_le _
  have whole : TokenStream.ofBytes bs = (Lexer.new bs).tokens := rfl
  unfold parse Term.parse
  rw [whole]
  rcases settle_cases 0 within (nextToken_ordered within).2.within with
    ⟨e, failed, rest⟩ | ⟨p, started, rest, depth⟩
  · have failed' : new (Lexer.new bs) within = .error (.error (.lex e)) := failed
    rw [failed', Path.error_bind, rest, run_failure]
    rfl
  · have started' : new (Lexer.new bs) within = .ok p := started
    rw [started', Path.ok_bind, ← rest]
    unfold parseDocument
    rcases (parseTerm_follows frames p [] depth (by omega) (by omega)).cases with
      ⟨e, failed, reader⟩ | ⟨t, q, read, -, led⟩
    · rw [failed, Path.error_bind, reader]
      rfl
    · have reader : run .value [] p.stream = run (complete t []).1 (complete t []).2 q.1.stream :=
        led.run
      rw [read, Path.ok_bind, reader]
      dsimp only
      by_cases ended : q.1.current = .eof
      · rw [if_pos ended, stream_of_eof ended]
        rfl
      · rw [if_neg ended, stream_of_ne ended]
        rfl

/-- Parsing ends on every input, with the reader's answer and within `maxDepth + 1` nested calls
of `parseTerm`.  The recursion descends on what is left of the input after the lexer's cursor and
on whether the current token is still to be read (`Below`): each function of the parser returns
at once or first moves past a token that is not the end of input, which lowers that measure; and
once the current token is the end of input, each of them returns at once. -/
theorem parse_terminates_within_depth (b : List UInt8) :
    (∀ frames, maxDepth + 1 ≤ frames → parse frames b = (Term.parse b).mapError .error) ∧
    (∀ p q : Parser, p.current ≠ .eof → p.advance = .ok q → q.Below p) ∧
    (∀ (frames : Nat) (p : Parser) (members : List (String × Term)) (items : List Term),
      p.current = .eof →
        parseTerm (frames + 1) p = .error (.error (.unexpectedEnd .value p.currentPosition)) ∧
        parseObject frames p = .error (.error (.unexpectedEnd .key p.currentPosition)) ∧
        objectMembers frames members p = .error (.error (.unexpectedEnd .key p.currentPosition)) ∧
        parseArray (frames + 1) p = .error (.error (.unexpectedEnd .value p.currentPosition)) ∧
        arrayItems (frames + 1) items p = .error (.error (.unexpectedEnd .value p.currentPosition))) :=
  ⟨fun _ room => parse_eq room b, fun _ _ h advanced => advance_below h advanced,
    fun _ _ _ _ h => ⟨parseTerm_of_eof h, parseObject_of_eof h, objectMembers_of_eof h,
      parseArray_of_eof h, arrayItems_of_eof h⟩⟩

/-- A parser holding the end of an empty input refuses a value there at once. -/
theorem parser_at_end_refuses_value :
    (⟨Lexer.new [], .eof, 0, 0, Nat.le_refl 0⟩ : Parser).current = .eof ∧
    parseTerm 1 ⟨Lexer.new [], .eof, 0, 0, Nat.le_refl 0⟩ =
      .error (.error (.unexpectedEnd .value 0)) :=
  ⟨rfl, ((parse_terminates_within_depth []).2.2 0 _ [] [] rfl).1⟩

end Parser

end JsonProbe
