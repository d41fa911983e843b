import JsonProbe.Proofs.Json.ReadErrors
/-! # The containers open while reading

The reader keeps the containers around the element it reads on its stack, and the innermost one
in its mode after `[` or `{` and between elements.  Their opening brackets, innermost first
(`openers`), are exactly the brackets among the tokens read whose closing bracket has not been
read yet, matched innermost first (`unclosed`).  So the count of open containers, `openCount`, is
the nesting depth of the tokens read; it never exceeds `maxDepth`, a closing bracket is taken only
inside an open container, and a whole value leaves the open containers as it found them.  A
bracket is refused as too deep exactly where it would open container number `maxDepth + 1`.

A state of the machine is the state of a recursive-descent reader at a point where it looks at a
token; the depth such a reader counts is `openCount`. -/
set_option autoImplicit false
namespace JsonProbe.Reader

open Grammar

/-! ## Matching brackets -/

/-- The brackets still open after one more token, innermost first: an opening bracket is pushed,
and a closing bracket pops the innermost open one if it is its match. -/
def bracketStep (pending : List Token) (x : Token) : Option (List Token) :=
  match x, pending with
  | .lbracket, _ => some (.lbracket :: pending)
  | .lbrace, _ => some (.lbrace :: pending)
  | .rbracket, .lbracket :: outer => some outer
  | .rbrace, .lbrace :: outer => some outer
  | .rbracket, _ => none
  | .rbrace, _ => none
  | _, _ => some pending

/-- The brackets left open by the tokens, after the brackets `pending`; `none` if a closing
bracket does not match. -/
def unclosedFrom (pending : List Token) : List Token → Option (List Token)
  | [] => some pending
  | x :: xs => (bracketStep pending x).bind fun pending' => unclosedFrom pending' xs

/-- The opening brackets among the tokens whose closing bracket is not among them, innermost
first; `none` if a closing bracket does not match. -/
def unclosed (ts : List Token) : Option (List Token) :=
  unclosedFrom [] ts

example : unclosed [.lbrace, .string "a", .colon, .lbracket, .null, .comma] =
    some [.lbracket, .lbrace] := by
  decide

@[simp] theorem unclosedFrom_nil (pending : List Token) : unclosedFrom pending [] = some pending :=
  rfl

theorem unclosedFrom_cons_of_step {pending pending' : List Token} {x : Token}
    (h : bracketStep pending x = some pending') (xs : List Token) :
    unclosedFrom pending (x :: xs) = unclosedFrom pending' xs := by
  simp only [unclosedFrom, h, Option.bind_some]

/-! ## The opening brackets of a state -/

/-- The bracket that opened a container. -/
def Frame.opener : Frame → Token
  | .array _ => .lbracket
  | .member _ _ => .lbrace

/-- The opening brackets of the containers open in a state, innermost first. -/
def openers : State → List Token
  | (.value, stack) => stack.map Frame.opener
  | (.done _, stack) => stack.map Frame.opener
  | (.arrayOpen, stack) => .lbracket :: stack.map Frame.opener
  | (.nextItem _, stack) => .lbracket :: stack.map Frame.opener
  | (.objectOpen, stack) => .lbrace :: stack.map Frame.opener
  | (.key _, stack) => .lbrace :: stack.map Frame.opener
  | (.colon _ _, stack) => .lbrace :: stack.map Frame.opener
  | (.nextMember _, stack) => .lbrace :: stack.map Frame.opener

theorem length_openers (σ : State) : (openers σ).length = openCount σ := by
  obtain ⟨m, stack⟩ := σ
  cases m <;> simp [openers, openCount]

theorem openers_complete (v : Term) (stack : List Frame) :
    openers (complete v stack) = stack.map Frame.opener := by
  cases stack with
  | nil => rfl
  | cons f stack => cases f <;> rfl

theorem startValue_openers {stack : List Frame} {x : Token} {p : Nat} {σ : State}
    (h : startValue stack x p = .ok σ) :
    bracketStep (stack.map Frame.opener) x = some (openers σ) := by
  cases x with
  | lbracket | lbrace =>
      simp only [startValue] at h
      split at h
      · cases h
        rfl
      · cases h
  | string _ | number _ | boolean _ | null =>
      cases h
      rw [openers_complete]
      rfl
  | rbrace | rbracket | colon | comma | eof => cases h

theorem step_openers {m : Mode} {stack : List Frame} {x : Token} {p : Nat} {σ : State}
    (h : step m stack x p = .ok σ) : bracketStep (openers (m, stack)) x = some (openers σ) := by
  have closing {v : Term} (opener : Token) (same : bracketStep (opener :: stack.map Frame.opener) x =
      some (stack.map Frame.opener)) : bracketStep (opener :: stack.map Frame.opener) x =
      some (openers (complete v stack)) := by
    rw [openers_complete, same]
  cases m with
  | value => exact startValue_openers h
  | arrayOpen =>
      by_cases closed : x = .rbracket
      · subst closed
        cases h
        exact closing _ rfl
      · rw [step_arrayOpen closed] at h
        exact startValue_openers h
  | objectOpen =>
      cases x with
      | rbrace =>
          cases h
          exact closing _ rfl
      | string k =>
          cases h
          rfl
      | _ => cases h
  | key acc =>
      cases x with
      | string k =>
          cases h
          rfl
      | _ => cases h
  | colon acc k =>
      cases x with
      | colon =>
          cases h
          rfl
      | _ => cases h
  | nextItem items =>
      cases x with
      | comma =>
          cases h
          rfl
      | rbracket =>
          cases h
          exact closing _ rfl
      | _ => cases h
  | nextMember acc =>
      cases x with
      | comma =>
          cases h
          rfl
      | rbrace =>
          cases h
          exact closing _ rfl
      | _ => cases h
  | done v => cases h

/-- Along any reading, the open brackets are those of the start and of the tokens read, matched
innermost first. -/
theorem unclosedFrom_advance {σ σ' : State} {ls : List Lexeme} (h : advance σ ls = .ok σ') :
    unclosedFrom (openers σ) (ls.map Lexeme.token) = some (openers σ') := by
  induction ls generalizing σ with
  | nil =>
      cases h
      rfl
  | cons l ls ih =>
      obtain ⟨m, stack⟩ := σ
      cases stepped : step m stack l.token l.offset with
      | error e =>
          simp only [advance, stepped] at h
          cases h
      | ok σ₁ =>
          rw [advance_cons_of_step stepped] at h
          rw [List.map_cons, unclosedFrom_cons_of_step (step_openers stepped)]
          exact ih h

/-! ## A value closes what it opens -/

-- By mutual recursion on the derivation: each element and member is balanced, and commas,
-- colons and keys leave the brackets alone.
mutual

theorem Value.unclosedFrom_eq {d : Nat} {ts : List Token} {v : Term} {rest : List Token}
    (h : Value d ts v rest) (pending : List Token) :
    unclosedFrom pending ts = unclosedFrom pending rest := by
  match h with
  | .null | .bool | .number | .string => rfl
  | .emptyArray | .emptyObject => rfl
  | .array items =>
      rw [unclosedFrom_cons_of_step rfl, Elements.unclosedFrom_eq items]
      rfl
  | .object members _ =>
      rw [unclosedFrom_cons_of_step rfl, Members.unclosedFrom_eq members]
      rfl

theorem Elements.unclosedFrom_eq {d : Nat} {ts : List Token} {vs : List Term} {rest : List Token}
    (h : Elements d ts vs rest) (pending : List Token) :
    unclosedFrom pending ts = unclosedFrom pending rest := by
  match h with
  | .last item => exact Value.unclosedFrom_eq item pending
  | .cons item others =>
      rw [Value.unclosedFrom_eq item, unclosedFrom_cons_of_step rfl,
        Elements.unclosedFrom_eq others]

theorem Members.unclosedFrom_eq {d : Nat} {ts : List Token} {ms : List (String × Term)}
    {rest : List Token} (h : Members d ts ms rest) (pending : List Token) :
    unclosedFrom pending ts = unclosedFrom pending rest := by
  match h with
  | .last value =>
      rw [unclosedFrom_cons_of_step rfl, unclosedFrom_cons_of_step rfl]
      exact Value.unclosedFrom_eq value pending
  | .cons value others =>
      rw [unclosedFrom_cons_of_step rfl, unclosedFrom_cons_of_step rfl,
        Value.unclosedFrom_eq value, unclosedFrom_cons_of_step rfl,
        Members.unclosedFrom_eq others]

end

theorem openers_advance_value {σ σ' : State} {ls : List Lexeme} {d : Nat} {v : Term}
    (h : advance σ ls = .ok σ') (whole : Value d (ls.map Lexeme.token) v []) :
    openers σ' = openers σ := by
  have read := unclosedFrom_advance h
  rw [Value.unclosedFrom_eq whole, unclosedFrom_nil, Option.some.injEq] at read
  exact read.symm

/-! ## Closing and opening -/

theorem openCount_pos_of_closes {m : Mode} {stack : List Frame} {x : Token} {p : Nat} {σ : State}
    (h : step m stack x p = .ok σ) (closing : closes x = true) : 0 < openCount (m, stack) := by
  have matched := step_openers h
  rw [← length_openers]
  cases x <;> simp only [closes, Bool.false_eq_true] at closing
  all_goals
    cases pending : openers (m, stack) with
    | nil => simp [pending, bracketStep] at matched
    | cons _ _ => simp

theorem step_eq_tooDeep_iff {m : Mode} {stack : List Frame} {x : Token} {p : Nat} :
    step m stack x p = .error (.tooDeep p) ↔
      opens x = true ∧ (m = .value ∨ m = .arrayOpen) ∧ maxDepth ≤ openCount (m, stack) := by
  constructor
  · intro h
    rcases step_eq_error h with ⟨same, -⟩ | ⟨v, -, same⟩ | ⟨-, opening, deep, mode⟩
    · cases same
    · cases same
    · exact ⟨opening, mode, deep⟩
  · rintro ⟨opening, mode, deep⟩
    -- both openings check the containers around the new one against `maxDepth`
    have full : ¬ (openCount (m, stack) < maxDepth) := Nat.not_lt.mpr deep
    cases x <;> simp only [opens, Bool.false_eq_true] at opening
    all_goals
      rcases mode with rfl | rfl
      · simp only [openCount] at full
        simp [step, startValue, full]
      · simp only [openCount] at full
        simp [step, startValue, full]

/-! ## The depth of a reading -/

/-- The containers open while reading are the depth a recursive-descent reader counts.  In every
state reached from the start, the open containers are the unclosed brackets of the tokens read,
and at most `maxDepth` of them; reading a whole value from any state leaves as many open as it
found; a closing bracket is read only while a container is open, so the count never goes below
zero; and a bracket is refused as too deep exactly where a value may start while `maxDepth`
containers are open, that is, where it would open one past the limit. -/
theorem depth_counts_unclosed_brackets :
    (∀ ls σ, advance start ls = .ok σ →
      unclosed (ls.map Lexeme.token) = some (openers σ) ∧ openCount σ = (openers σ).length ∧
        openCount σ ≤ maxDepth) ∧
    (∀ σ ls σ' d v, advance σ ls = .ok σ' → Value d (ls.map Lexeme.token) v [] →
      openCount σ' = openCount σ) ∧
    (∀ m stack x p σ, step m stack x p = .ok σ → closes x = true → 0 < openCount (m, stack)) ∧
    (∀ ls σ x p, advance start ls = .ok σ →
      (step σ.1 σ.2 x p = .error (.tooDeep p) ↔
        opens x = true ∧ (σ.1 = .value ∨ σ.1 = .arrayOpen) ∧ openCount σ = maxDepth)) := by
  refine ⟨fun ls σ reached => ?_, fun σ ls σ' d v read whole => ?_,
    fun m stack x p σ stepped closing => openCount_pos_of_closes stepped closing,
    fun ls σ x p reached => ?_⟩
  · exact ⟨unclosedFrom_advance reached, (length_openers σ).symm, (nesting_of_advance reached).2⟩
  · rw [← length_openers, ← length_openers, openers_advance_value read whole]
  · -- in a reached state at most `maxDepth` are open, so a refusal means exactly `maxDepth`
    have bound := (nesting_of_advance reached).2
    have same : openCount (σ.1, σ.2) = openCount σ := rfl
    rw [step_eq_tooDeep_iff, same]
    constructor
    · rintro ⟨opening, mode, deep⟩
      exact ⟨opening, mode, Nat.le_antisymm bound deep⟩
    · rintro ⟨opening, mode, full⟩
      exact ⟨opening, mode, full.ge⟩

end JsonProbe.Reader
