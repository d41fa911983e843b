import JsonProbe.Proofs.Json.ReaderGrammar
import JsonProbe.Proofs.Json.Lexing
/-! # Where a read fails

The reader fails at the first token after which the tokens read no longer begin a document.
`Viable ts` says that `ts` begins some document (nested at most `maxDepth` deep, as every document
is) and `Complete ts` that it is one.  Reading a list of lexemes from a state is `advance`; the
state reached is the grammar state of the tokens read (`expects_advance`), and every state can
still be completed (`expects_inhabited`).  So a token is refused exactly when the tokens up to it
stop being viable (`viable_snoc_iff`).

Each error then says where and why (`Explains`, proved of every error in
`explains_of_parse_eq_error`):

* a lexical error is the first error of the token stream, and the tokens before it are viable;
* the end of input is unexpected when the tokens are viable but not a document, and it lies at
  the end of the bytes;
* an unexpected token is the first token that no document continues with, after tokens that are
  not yet a document, and it is not among the tokens the error's expectation names;
* a trailing token follows a whole document;
* a container is too deep when it opens while `maxDepth` containers are open.

None of them depends on any token after the one it is reported at. -/
set_option autoImplicit false
namespace JsonProbe.Reader

open Grammar

/-! ## Reading a list of lexemes -/

/-- The state reached by reading the lexemes `ls` from the state `σ`, or the first error. -/
def advance (σ : State) : List Lexeme → Except ParseError State
  | [] => .ok σ
  | l :: ls => step σ.1 σ.2 l.token l.offset >>= fun σ' => advance σ' ls

theorem advance_append (σ : State) (ls ls' : List Lexeme) :
    advance σ (ls ++ ls') = advance σ ls >>= fun σ' => advance σ' ls' := by
  induction ls generalizing σ with
  | nil => rfl
  | cons l ls ih =>
      simp only [List.cons_append, advance, ih, bind_assoc]

theorem advance_cons_of_step {σ σ' : State} {l : Lexeme} {ls : List Lexeme}
    (h : step σ.1 σ.2 l.token l.offset = .ok σ') : advance σ (l :: ls) = advance σ' ls := by
  simp only [advance, h]
  rfl

theorem expects_advance {σ σ' : State} {ls : List Lexeme} (h : advance σ ls = .ok σ')
    (c : List Token) (t : Term) :
    Expects σ'.1 σ'.2 c t ↔ Expects σ.1 σ.2 (ls.map Lexeme.token ++ c) t := by
  induction ls generalizing σ with
  | nil =>
      cases h
      rfl
  | cons l ls ih =>
      cases stepped : step σ.1 σ.2 l.token l.offset with
      | error e =>
          simp only [advance, stepped] at h
          cases h
      | ok σ₁ =>
          rw [advance_cons_of_step stepped] at h
          rw [ih h, List.map_cons, List.cons_append, expects_cons σ.1 σ.2 l.token _ t l.offset,
            stepped]
          simp

/-! ## Every state can be completed -/

theorem closes_inhabited (stack : List Frame) (v : Term) : ∃ c t, Closes stack v c t := by
  induction stack generalizing v with
  | nil => exact ⟨[], v, rfl, rfl⟩
  | cons f stack ih =>
      cases f with
      | array items =>
          obtain ⟨c, t, closes⟩ := ih (.array ((v :: items).reverse ++ []))
          exact ⟨.rbracket :: c, t, [], c, .inl ⟨rfl, rfl⟩, closes⟩
      | member acc k =>
          obtain ⟨c, t, closes⟩ := ih (.object (Term.addMembers (Term.insertMember k v acc) []))
          exact ⟨.rbrace :: c, t, [], c, .inl ⟨rfl, rfl⟩, closes⟩

theorem expects_inhabited (m : Mode) (stack : List Frame) : ∃ c t, Expects m stack c t := by
  cases m with
  | value =>
      obtain ⟨c, t, closes⟩ := closes_inhabited stack .null
      exact ⟨.null :: c, t, .null, c, .null, closes⟩
  | arrayOpen =>
      obtain ⟨c, t, closes⟩ := closes_inhabited stack (.array [])
      exact ⟨.rbracket :: c, t, [], c, .inl ⟨rfl, rfl⟩, closes⟩
  | objectOpen =>
      obtain ⟨c, t, closes⟩ := closes_inhabited stack (.object (Term.addMembers [] []))
      exact ⟨.rbrace :: c, t, [], c, .inl ⟨rfl, rfl⟩, closes⟩
  | key acc =>
      obtain ⟨c, t, closes⟩ :=
        closes_inhabited stack (.object (Term.addMembers acc [("", .null)]))
      exact ⟨.string "" :: .colon :: .null :: .rbrace :: c, t, [("", .null)], c,
        .last .null, closes⟩
  | colon acc k =>
      obtain ⟨c, t, closes⟩ :=
        closes_inhabited stack (.object (Term.addMembers (Term.insertMember k .null acc) []))
      exact ⟨.colon :: .null :: .rbrace :: c, t, _, .null, _, [], c, rfl, .null,
        .inl ⟨rfl, rfl⟩, closes⟩
  | nextItem items =>
      obtain ⟨c, t, closes⟩ := closes_inhabited stack (.array (items.reverse ++ []))
      exact ⟨.rbracket :: c, t, [], c, .inl ⟨rfl, rfl⟩, closes⟩
  | nextMember acc =>
      obtain ⟨c, t, closes⟩ := closes_inhabited stack (.object (Term.addMembers acc []))
      exact ⟨.rbrace :: c, t, [], c, .inl ⟨rfl, rfl⟩, closes⟩
  | done v => exact ⟨[], v, rfl, rfl⟩

/-! ## Viable prefixes -/

/-- The tokens `ts` begin some document. -/
def Viable (ts : List Token) : Prop :=
  ∃ c t, Document (ts ++ c) t

/-- The tokens `ts` are a whole document. -/
def Complete (ts : List Token) : Prop :=
  ∃ t, Document ts t

/-- The expectation `exp` names the grammar state after the tokens `ts`: it is the expectation
of a state whose completions are exactly the tokens that complete `ts` to a document. -/
def Names (exp : Expectation) (ts : List Token) : Prop :=
  ∃ m stack, (∀ c t, Expects m stack c t ↔ Document (ts ++ c) t) ∧ m.expectation = exp

/-- The reader's first state. -/
def start : State := (.value, [])

section Reached

variable {ls : List Lexeme} {σ : State}

theorem document_iff_advance (h : advance start ls = .ok σ) (c : List Token) (t : Term) :
    Document (ls.map Lexeme.token ++ c) t ↔ Expects σ.1 σ.2 c t := by
  rw [expects_advance h, ← expects_start_iff]
  rfl

theorem viable_of_advance (h : advance start ls = .ok σ) : Viable (ls.map Lexeme.token) := by
  obtain ⟨c, t, completes⟩ := expects_inhabited σ.1 σ.2
  exact ⟨c, t, (document_iff_advance h c t).mpr completes⟩

theorem viable_snoc_iff (h : advance start ls = .ok σ) (x : Token) (p : Nat) :
    Viable (ls.map Lexeme.token ++ [x]) ↔ ∃ σ', step σ.1 σ.2 x p = .ok σ' := by
  have unfold (c : List Token) (t : Term) :
      Document (ls.map Lexeme.token ++ [x] ++ c) t ↔
        ∃ σ', step σ.1 σ.2 x p = .ok σ' ∧ Expects σ'.1 σ'.2 c t := by
    rw [List.append_assoc, List.singleton_append, document_iff_advance h, expects_cons _ _ x c t p]
  constructor
  · rintro ⟨c, t, document⟩
    obtain ⟨σ', stepped, -⟩ := (unfold c t).mp document
    exact ⟨σ', stepped⟩
  · rintro ⟨σ', stepped⟩
    obtain ⟨c, t, completes⟩ := expects_inhabited σ'.1 σ'.2
    exact ⟨c, t, (unfold c t).mpr ⟨σ', stepped, completes⟩⟩

theorem complete_iff_done (h : advance start ls = .ok σ) :
    Complete (ls.map Lexeme.token) ↔ ∃ v, σ.1 = .done v := by
  have whole (t : Term) : Document (ls.map Lexeme.token) t ↔ σ.1 = .done t := by
    rw [← @expects_nil σ.1 σ.2 t, ← document_iff_advance h, List.append_nil]
  simp only [Complete, whole]

theorem not_complete_of_advance (h : advance start ls = .ok σ)
    (running : ∀ v, σ.1 ≠ .done v) :
    ¬ Complete (ls.map Lexeme.token) := by
  rw [complete_iff_done h]
  rintro ⟨v, done⟩
  exact running v done

theorem names_of_advance (h : advance start ls = .ok σ) :
    Names σ.1.expectation (ls.map Lexeme.token) :=
  ⟨σ.1, σ.2, fun c t => (document_iff_advance h c t).symm, rfl⟩

end Reached

/-! ## Open containers -/

/-- Whether a token opens a container. -/
def opens : Token → Bool
  | .lbracket | .lbrace => true
  | _ => false

/-- Whether a token closes a container. -/
def closes : Token → Bool
  | .rbracket | .rbrace => true
  | _ => false

/-- How many containers the tokens `ts` leave open: the openings less the closings. -/
def nesting (ts : List Token) : Int :=
  (ts.countP opens : Int) - ts.countP closes

/-- What one token does to the containers open. -/
def depthChange (x : Token) : Int :=
  (if opens x then 1 else 0) - (if closes x then 1 else 0)

theorem nesting_cons (x : Token) (ts : List Token) :
    nesting (x :: ts) = depthChange x + nesting ts := by
  simp only [nesting, depthChange, List.countP_cons]
  split <;> split <;> omega

/-- The containers open in a state: those on the stack, and the innermost one in the modes that
keep it off the stack. -/
def openCount : State → Nat
  | (.value, stack) => stack.length
  | (.done _, stack) => stack.length
  | (_, stack) => stack.length + 1

theorem openCount_complete (v : Term) (stack : List Frame) :
    openCount (complete v stack) = stack.length := by
  cases stack with
  | nil => rfl
  | cons f stack => cases f <;> rfl

theorem startValue_eq_ok {stack : List Frame} {x : Token} {p : Nat} {σ : State}
    (h : startValue stack x p = .ok σ) :
    openCount σ = stack.length + (if opens x then 1 else 0) ∧ closes x = false ∧
      (opens x = true → stack.length < maxDepth) := by
  cases x with
  | lbracket | lbrace =>
      simp only [startValue] at h
      split at h
      · cases h
        simp_all [openCount, opens, closes]
      · cases h
  | string _ | number _ | boolean _ | null =>
      cases h
      simp [openCount_complete, opens, closes]
  | rbrace | rbracket | colon | comma | eof => cases h

theorem step_arrayOpen {stack : List Frame} {x : Token} {p : Nat} (hx : x ≠ .rbracket) :
    step .arrayOpen stack x p = startValue (.array [] :: stack) x p := by
  cases x with
  | rbracket => exact absurd rfl hx
  | _ => rfl

theorem openCount_step {m : Mode} {stack : List Frame} {x : Token} {p : Nat} {σ : State}
    (h : step m stack x p = .ok σ) :
    (openCount σ : Int) = openCount (m, stack) + depthChange x ∧
      (opens x = true → openCount σ ≤ maxDepth) := by
  have starting {stack' : List Frame} (n : Nat) (started : startValue stack' x p = .ok σ)
      (before : n = stack'.length) :
      (openCount σ : Int) = n + depthChange x ∧
        (opens x = true → openCount σ ≤ maxDepth) := by
    obtain ⟨count, notClosing, fits⟩ := startValue_eq_ok started
    refine ⟨?_, fun opening => ?_⟩
    · rw [count, before, depthChange, notClosing]
      split <;> simp
    · rw [count, if_pos opening]
      exact fits opening
  have closing {v : Term} (n : Nat) (isClosing : closes x = true) (notOpening : opens x = false)
      (before : n = stack.length + 1) :
      (openCount (complete v stack) : Int) = n + depthChange x ∧
        (opens x = true → openCount (complete v stack) ≤ maxDepth) := by
    refine ⟨?_, fun opening => absurd opening (by simp [notOpening])⟩
    rw [openCount_complete, before, depthChange, isClosing, notOpening]
    simp only [Bool.false_eq_true, if_false, if_true]
    omega
  have within (n : Nat) (notClosing : closes x = false) (notOpening : opens x = false)
      (before : n = openCount σ) :
      (openCount σ : Int) = n + depthChange x ∧
        (opens x = true → openCount σ ≤ maxDepth) := by
    refine ⟨?_, fun opening => absurd opening (by simp [notOpening])⟩
    rw [before, depthChange, notClosing, notOpening]
    simp
  cases m with
  | value => exact starting _ h rfl
  | arrayOpen =>
      by_cases closed : x = .rbracket
      · subst closed
        cases h
        exact closing _ rfl rfl rfl
      · rw [step_arrayOpen closed] at h
        exact starting _ h rfl
  | objectOpen =>
      cases x with
      | rbrace =>
          cases h
          exact closing _ rfl rfl rfl
      | string k =>
          cases h
          exact within _ rfl rfl rfl
      | _ => cases h
  | key acc =>
      cases x with
      | string k =>
          cases h
          exact within _ rfl rfl rfl
      | _ => cases h
  | colon acc k =>
      cases x with
      | colon =>
          cases h
          exact within _ rfl rfl rfl
      | _ => cases h
  | nextItem items =>
      cases x with
      | comma =>
          cases h
          exact within _ rfl rfl rfl
      | rbracket =>
          cases h
          exact closing _ rfl rfl rfl
      | _ => cases h
  | nextMember acc =>
      cases x with
      | comma =>
          cases h
          exact within _ rfl rfl rfl
      | rbrace =>
          cases h
          exact closing _ rfl rfl rfl
      | _ => cases h
  | done v => cases h

theorem openCount_advance {σ σ' : State} {ls : List Lexeme} (h : advance σ ls = .ok σ')
    (bound : openCount σ ≤ maxDepth) :
    (openCount σ' : Int) = openCount σ + nesting (ls.map Lexeme.token) ∧
      openCount σ' ≤ maxDepth := by
  induction ls generalizing σ with
  | nil =>
      cases h
      simp [nesting, bound]
  | cons l ls ih =>
      cases stepped : step σ.1 σ.2 l.token l.offset with
      | error e =>
          simp only [advance, stepped] at h
          cases h
      | ok σ₁ =>
          rw [advance_cons_of_step stepped] at h
          obtain ⟨count, fits⟩ := openCount_step stepped
          have same : openCount (σ.1, σ.2) = openCount σ := rfl
          have bound₁ : openCount σ₁ ≤ maxDepth := by
            by_cases opening : opens l.token = true
            · exact fits opening
            · -- no container opened: no more open than before
              have noMore : depthChange l.token ≤ 0 := by
                simp only [depthChange, opening, Bool.false_eq_true, if_false]
                split <;> omega
              omega
          obtain ⟨count', fits'⟩ := ih h bound₁
          refine ⟨?_, fits'⟩
          rw [count', count, same, List.map_cons, nesting_cons]
          omega

theorem openCount_start : openCount start = 0 :=
  rfl

/-! ## Why a token is refused -/

/-- The tokens an expectation names: a value's first token, a string key, a colon, or a comma or
the closing bracket. -/
def admits : Expectation → Token → Bool
  | .value, x => startsValue x
  | .key, .string _ => true
  | .colon, .colon => true
  | .commaOrBrace, .comma | .commaOrBrace, .rbrace => true
  | .commaOrBracket, .comma | .commaOrBracket, .rbracket => true
  | _, _ => false

theorem startValue_eq_error {stack : List Frame} {x : Token} {p : Nat} {err : ParseError}
    (h : startValue stack x p = .error err) :
    (err = .unexpectedToken .value x p ∧ startsValue x = false) ∨
      (err = .tooDeep p ∧ opens x = true ∧ maxDepth ≤ stack.length) := by
  cases x with
  | lbracket | lbrace =>
      simp only [startValue] at h
      split at h
      · cases h
      · cases h
        exact Or.inr ⟨rfl, rfl, by omega⟩
  | string _ | number _ | boolean _ | null => cases h
  | rbrace | rbracket | colon | comma | eof =>
      cases h
      exact Or.inl ⟨rfl, rfl⟩

theorem step_eq_error {m : Mode} {stack : List Frame} {x : Token} {p : Nat} {err : ParseError}
    (h : step m stack x p = .error err) :
    (err = .unexpectedToken m.expectation x p ∧ admits m.expectation x = false ∧
        ∀ v, m ≠ .done v) ∨
      (∃ v, m = .done v ∧ err = .trailing x p) ∨
      (err = .tooDeep p ∧ opens x = true ∧ maxDepth ≤ openCount (m, stack) ∧
        (m = .value ∨ m = .arrayOpen)) := by
  cases m with
  | value =>
      rcases startValue_eq_error h with ⟨rfl, refused⟩ | ⟨rfl, opening, deep⟩
      · exact Or.inl ⟨rfl, refused, by simp⟩
      · exact Or.inr (Or.inr ⟨rfl, opening, deep, Or.inl rfl⟩)
  | arrayOpen =>
      by_cases closed : x = .rbracket
      · subst closed
        cases h
      · rw [step_arrayOpen closed] at h
        rcases startValue_eq_error h with ⟨rfl, refused⟩ | ⟨rfl, opening, deep⟩
        · exact Or.inl ⟨rfl, refused, by simp⟩
        · exact Or.inr (Or.inr ⟨rfl, opening, deep, Or.inr rfl⟩)
  | objectOpen =>
      cases x with
      | rbrace | string _ => cases h
      | _ =>
          cases h
          exact Or.inl ⟨rfl, rfl, by simp⟩
  | key acc =>
      cases x with
      | string _ => cases h
      | _ =>
          cases h
          exact Or.inl ⟨rfl, rfl, by simp⟩
  | colon acc k =>
      cases x with
      | colon => cases h
      | _ =>
          cases h
          exact Or.inl ⟨rfl, rfl, by simp⟩
  | nextItem items =>
      cases x with
      | comma | rbracket => cases h
      | _ =>
          cases h
          exact Or.inl ⟨rfl, rfl, by simp⟩
  | nextMember acc =>
      cases x with
      | comma | rbrace => cases h
      | _ =>
          cases h
          exact Or.inl ⟨rfl, rfl, by simp⟩
  | done v =>
      cases h
      exact Or.inr (Or.inl ⟨v, rfl, rfl⟩)

/-! ## Where a run stops -/

theorem run_eq_error {m : Mode} {stack : List Frame} {S : TokenStream} {err : ParseError}
    (h : run m stack S = .error err) :
    (∃ σ, advance (m, stack) S.lexemes = .ok σ ∧
      ((∃ e, S.ending = .error e ∧ err = .lex e) ∨
        (∃ p, S.ending = .ok p ∧ err = .unexpectedEnd σ.1.expectation p ∧
          ∀ v, σ.1 ≠ .done v))) ∨
    (∃ pre l post σ, S.lexemes = pre ++ l :: post ∧ advance (m, stack) pre = .ok σ ∧
      step σ.1 σ.2 l.token l.offset = .error err) := by
  induction S generalizing m stack with
  | eof n =>
      refine Or.inl ⟨(m, stack), rfl, Or.inr ⟨n, rfl, ?_⟩⟩
      cases m with
      | done v => cases h
      | _ =>
          cases h
          exact ⟨rfl, by simp⟩
  | failure e =>
      rw [run] at h
      cases h
      exact Or.inl ⟨(m, stack), rfl, Or.inl ⟨e, rfl, rfl⟩⟩
  | cons l rest ih =>
      obtain ⟨x, p⟩ := l
      cases stepped : step m stack x p with
      | error e =>
          simp only [run, stepped] at h
          cases h
          exact Or.inr ⟨[], ⟨x, p⟩, rest.lexemes, (m, stack), rfl, rfl, stepped⟩
      | ok σ =>
          obtain ⟨m', stack'⟩ := σ
          simp only [run, stepped] at h
          have advanced (ls : List Lexeme) :
              advance (m, stack) (⟨x, p⟩ :: ls) = advance (m', stack') ls :=
            advance_cons_of_step stepped
          rcases ih h with ⟨σ, reached, ends⟩ | ⟨pre, l, post, σ, split, reached, refused⟩
          · exact Or.inl ⟨σ, by rw [TokenStream.lexemes, advanced, reached], ends⟩
          · refine Or.inr ⟨⟨x, p⟩ :: pre, l, post, σ, ?_, by rw [advanced, reached],
              refused⟩
            rw [TokenStream.lexemes, split, List.cons_append]

theorem run_of_refused {m : Mode} {stack : List Frame} {S : TokenStream} {pre post : List Lexeme}
    {l : Lexeme} {σ : State} {err : ParseError} (split : S.lexemes = pre ++ l :: post)
    (reached : advance (m, stack) pre = .ok σ)
    (refused : step σ.1 σ.2 l.token l.offset = .error err) :
    run m stack S = .error err := by
  induction pre generalizing S m stack with
  | nil =>
      cases reached
      cases S with
      | eof n => cases split
      | failure e => cases split
      | cons l' rest =>
          rw [TokenStream.lexemes, List.nil_append, List.cons.injEq] at split
          obtain ⟨rfl, -⟩ := split
          simp only [run, refused]
  | cons l' pre ih =>
      cases S with
      | eof n => cases split
      | failure e => cases split
      | cons first rest =>
          rw [TokenStream.lexemes, List.cons_append, List.cons.injEq] at split
          obtain ⟨same, later⟩ := split
          rw [← same] at reached
          cases stepped : step m stack first.token first.offset with
          | error e =>
              simp only [advance, stepped] at reached
              cases reached
          | ok σ₁ =>
              rw [advance_cons_of_step stepped] at reached
              simp only [run, stepped]
              exact ih later reached

/-! ## What a reading error says -/

theorem nesting_of_advance {ls : List Lexeme} {σ : State} (h : advance start ls = .ok σ) :
    nesting (ls.map Lexeme.token) = openCount σ ∧ openCount σ ≤ maxDepth := by
  obtain ⟨count, fits⟩ := openCount_advance h (by rw [openCount_start]; exact Nat.zero_le _)
  rw [openCount_start] at count
  exact ⟨by omega, fits⟩

/-- The token `x` at offset `p` follows the lexemes `pre` of `b`, and it is where they stop
beginning a document: `pre` begins one, nested at most `maxDepth` deep, and `pre` followed by `x`
begins none.  The end of input is not such a token.  Whatever follows `x` plays no part: every
input whose lexemes begin with `pre` and `x` fails with `err`. -/
def RefusedAt (b : List UInt8) (pre : List Lexeme) (x : Token) (p : Nat) (err : ParseError) :
    Prop :=
  (∃ post, (TokenStream.ofBytes b).lexemes = pre ++ ⟨x, p⟩ :: post) ∧ x ≠ .eof ∧
    Viable (pre.map Lexeme.token) ∧ nesting (pre.map Lexeme.token) ≤ maxDepth ∧
    ¬ Viable (pre.map Lexeme.token ++ [x]) ∧
    ∀ b' post', (TokenStream.ofBytes b').lexemes = pre ++ ⟨x, p⟩ :: post' →
      Term.parse b' = .error err

/-- What a reading error says about the bytes `b`:

* a lexical error is the error the token stream ends with, after lexemes that begin a document;
* the end of input is unexpected when it comes, at the offset past the last byte, after lexemes
  that begin a document but are not one, and the expectation names their grammar state;
* an unexpected token is refused after lexemes that are not yet a document, and it is none of the
  tokens its expectation names, which is the grammar state of those lexemes;
* a trailing token follows lexemes that are a whole document;
* a container is too deep when it opens with `maxDepth` containers open. -/
def Explains (b : List UInt8) : ParseError → Prop
  | .lex e =>
      (TokenStream.ofBytes b).ending = .error e ∧
        Viable ((TokenStream.ofBytes b).lexemes.map Lexeme.token) ∧
        nesting ((TokenStream.ofBytes b).lexemes.map Lexeme.token) ≤ maxDepth
  | .unexpectedEnd exp p =>
      (TokenStream.ofBytes b).ending = .ok p ∧ p = b.length ∧
        Viable ((TokenStream.ofBytes b).lexemes.map Lexeme.token) ∧
        nesting ((TokenStream.ofBytes b).lexemes.map Lexeme.token) ≤ maxDepth ∧
        ¬ Complete ((TokenStream.ofBytes b).lexemes.map Lexeme.token) ∧
        Names exp ((TokenStream.ofBytes b).lexemes.map Lexeme.token)
  | .unexpectedToken exp x p =>
      ∃ pre, RefusedAt b pre x p (.unexpectedToken exp x p) ∧
        ¬ Complete (pre.map Lexeme.token) ∧ Names exp (pre.map Lexeme.token) ∧
        admits exp x = false
  | .trailing x p =>
      ∃ pre, RefusedAt b pre x p (.trailing x p) ∧ Complete (pre.map Lexeme.token)
  | .tooDeep p =>
      ∃ pre x, RefusedAt b pre x p (.tooDeep p) ∧ opens x = true ∧
        ¬ Complete (pre.map Lexeme.token) ∧ nesting (pre.map Lexeme.token) = maxDepth

theorem refusedAt_of_step {b : List UInt8} {pre post : List Lexeme} {l : Lexeme} {σ : State}
    {err : ParseError} (split : (TokenStream.ofBytes b).lexemes = pre ++ l :: post)
    (reached : advance start pre = .ok σ)
    (refused : step σ.1 σ.2 l.token l.offset = .error err) :
    RefusedAt b pre l.token l.offset err := by
  have read : l ∈ (TokenStream.ofBytes b).lexemes := by
    rw [split]
    exact List.mem_append_right pre List.mem_cons_self
  refine ⟨⟨post, split⟩, TokenStream.token_ne_eof_of_mem read, viable_of_advance reached, ?_,
    ?_, fun b' post' split' => run_of_refused split' reached refused⟩
  · obtain ⟨count, fits⟩ := nesting_of_advance reached
    omega
  · rw [viable_snoc_iff reached _ l.offset]
    rintro ⟨σ', stepped⟩
    rw [refused] at stepped
    cases stepped

/-- Every error the reader reports is explained by the bytes it reads: it is raised at the first
token after which the tokens no longer begin a document, for the reason its kind names, and
depends on nothing after that token. -/
theorem explains_of_parse_eq_error {b : List UInt8} {err : ParseError}
    (h : Term.parse b = .error err) : Explains b err := by
  rcases run_eq_error h with ⟨σ, reached, ⟨e, ends, rfl⟩ | ⟨p, ends, rfl, running⟩⟩ |
      ⟨pre, l, post, σ, split, reached, refused⟩
  · -- the stream failed after every lexeme was read
    obtain ⟨count, fits⟩ := nesting_of_advance reached
    simp only [Explains]
    exact ⟨ends, viable_of_advance reached, by omega⟩
  · -- the input ended before the document did
    obtain ⟨count, fits⟩ := nesting_of_advance reached
    have atEnd : p = b.length := by
      rw [TokenStream.ending_read ends, Nat.zero_add]
    simp only [Explains]
    exact ⟨ends, atEnd, viable_of_advance reached, by omega,
      not_complete_of_advance reached running, names_of_advance reached⟩
  · -- a lexeme was refused; its kind says why
    have refusedAt := refusedAt_of_step split reached refused
    rcases step_eq_error refused with ⟨rfl, notAdmitted, running⟩ | ⟨v, done, rfl⟩ |
        ⟨rfl, opening, deep, opened⟩
    · simp only [Explains]
      exact ⟨pre, refusedAt, not_complete_of_advance reached running, names_of_advance reached,
        notAdmitted⟩
    · simp only [Explains]
      exact ⟨pre, refusedAt, (complete_iff_done reached).mpr ⟨v, done⟩⟩
    · obtain ⟨count, fits⟩ := nesting_of_advance reached
      have same : openCount (σ.1, σ.2) = openCount σ := rfl
      have running : ∀ v, σ.1 ≠ .done v := by
        rcases opened with mode | mode <;> simp [mode]
      simp only [Explains]
      exact ⟨pre, l.token, refusedAt, opening, not_complete_of_advance reached running,
        by omega⟩

/-- The bytes `[,` fail at the comma, which cannot start the array's first element. -/
theorem explains_bracket_comma :
    Term.parse [0x5B, 0x2C] = .error (.unexpectedToken .value .comma 1) ∧
      Explains [0x5B, 0x2C] (.unexpectedToken .value .comma 1) := by
  have parsed : Term.parse [0x5B, 0x2C] = .error (.unexpectedToken .value .comma 1) := by
    have first := @TokenStream.read_of_scan 0 [0x5B, 0x2C] 0x5B [0x2C] .lbracket 0
      (by decide) (by decide)
    have second := @TokenStream.read_of_scan 1 [0x2C] 0x2C [] .comma 0 (by decide) (by decide)
    rw [Term.parse, TokenStream.ofBytes, first]
    show run .value [] (.cons ⟨.lbracket, 0⟩ (TokenStream.read 1 [0x2C])) = _
    rw [second]
    rfl
  exact ⟨parsed, explains_of_parse_eq_error parsed⟩

end JsonProbe.Reader
