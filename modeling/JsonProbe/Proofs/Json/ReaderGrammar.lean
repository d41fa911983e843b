import JsonProbe.Proofs.Json.Grammar
/-! # The reader reads the token grammar

For each state of the reader, `Expects m stack c t` says which token lists `c` finish a document
from it, and what the document then denotes, in terms of the grammar alone: a value still to be
read, the rest of the innermost container, and `Closes stack`, the remaining elements and the
closing bracket of every container around it.  The one fact about the reader is `expects_cons`:
a token can be read in a state exactly when the grammar lets some completion begin with it, and
the state reached expects the rest of that completion.  From it, `run_eq_ok_iff`: the reader
accepts a token stream exactly when the stream ends without a lexical error and its tokens are a
document, which it denotes. -/
set_option autoImplicit false
namespace JsonProbe.Reader

open Grammar Term

/-- How many more containers may be opened inside the containers of `stack`. -/
def room (stack : List Frame) : Nat := maxDepth - stack.length

/-- The tokens `c` after a value `v`, completed inside the containers `stack`, finish a document
denoting `t`: each container takes its remaining elements and its closing bracket, and becomes
the value completed inside the container around it. -/
def Closes : List Frame → Term → List Token → Term → Prop
  | [], v, c, t => c = [] ∧ t = v
  | .array items :: stack, v, c, t =>
      ∃ vs rest, ElementsTail (room stack - 1) c vs rest ∧
        Closes stack (.array ((v :: items).reverse ++ vs)) rest t
  | .member acc k :: stack, v, c, t =>
      ∃ ms rest, MembersTail (room stack - 1) c ms rest ∧
        Closes stack (.object (addMembers (insertMember k v acc) ms)) rest t

/-- The tokens `c` finish, from mode `m` inside the containers `stack`, a document denoting `t`.
The innermost container of the modes after `[` and `{` and between elements is not on the stack,
so its elements may nest `room stack - 1` deep. -/
def Expects : Mode → List Frame → List Token → Term → Prop
  | .value, stack, c, t => ∃ v rest, Value (room stack) c v rest ∧ Closes stack v rest t
  | .arrayOpen, stack, c, t =>
      ∃ vs rest, ArrayBody (room stack - 1) c vs rest ∧ Closes stack (.array vs) rest t
  | .objectOpen, stack, c, t =>
      ∃ ms rest, ObjectBody (room stack - 1) c ms rest ∧
        Closes stack (.object (addMembers [] ms)) rest t
  | .key acc, stack, c, t =>
      ∃ ms rest, Members (room stack - 1) c ms (.rbrace :: rest) ∧
        Closes stack (.object (addMembers acc ms)) rest t
  | .colon acc k, stack, c, t =>
      ∃ more v after ms rest, c = .colon :: more ∧ Value (room stack - 1) more v after ∧
        MembersTail (room stack - 1) after ms rest ∧
        Closes stack (.object (addMembers (insertMember k v acc) ms)) rest t
  | .nextItem items, stack, c, t =>
      ∃ vs rest, ElementsTail (room stack - 1) c vs rest ∧
        Closes stack (.array (items.reverse ++ vs)) rest t
  | .nextMember acc, stack, c, t =>
      ∃ ms rest, MembersTail (room stack - 1) c ms rest ∧
        Closes stack (.object (addMembers acc ms)) rest t
  | .done v, _, c, t => c = [] ∧ t = v

theorem room_cons (f : Frame) (stack : List Frame) : room (f :: stack) = room stack - 1 := by
  simp only [room, List.length_cons]
  omega

theorem expects_complete (v : Term) (stack : List Frame) (c : List Token) (t : Term) :
    Expects (complete v stack).1 (complete v stack).2 c t ↔ Closes stack v c t := by
  cases stack with
  | nil => exact Iff.rfl
  | cons f stack => cases f <;> exact Iff.rfl

theorem expects_nil {m : Mode} {stack : List Frame} {t : Term} :
    Expects m stack [] t ↔ m = .done t := by
  cases m with
  | done v =>
      simp only [Expects, true_and, Mode.done.injEq]
      exact eq_comm
  | value => simp only [Expects, reduceCtorEq, iff_false]; rintro ⟨_, _, h, _⟩; exact h.ne_nil rfl
  | arrayOpen =>
      simp only [Expects, ArrayBody, reduceCtorEq, iff_false]
      rintro ⟨_, _, ⟨h, _⟩ | h, _⟩
      · cases h
      · exact h.ne_nil rfl
  | objectOpen =>
      simp only [Expects, ObjectBody, reduceCtorEq, iff_false]
      rintro ⟨_, _, ⟨h, _⟩ | h, _⟩
      · cases h
      · cases h
  | key acc => simp only [Expects, reduceCtorEq, iff_false]; rintro ⟨_, _, h, _⟩; cases h
  | colon acc k => simp [Expects]
  | nextItem items =>
      simp only [Expects, ElementsTail, reduceCtorEq, iff_false]
      rintro ⟨_, _, ⟨h, _⟩ | ⟨_, h, _⟩, _⟩ <;> cases h
  | nextMember acc =>
      simp only [Expects, MembersTail, reduceCtorEq, iff_false]
      rintro ⟨_, _, ⟨h, _⟩ | ⟨_, h, _⟩, _⟩ <;> cases h

/-! ## Reading one token -/

theorem expects_value_of_whole {stack : List Frame} {x : Token} {c : List Token} {t w : Term}
    (whole : ∀ {d : Nat} {v : Term} {rest : List Token}, Value d (x :: c) v rest ↔ v = w ∧ rest = c) :
    Expects .value stack (x :: c) t ↔ Closes stack w c t := by
  simp only [Expects, whole]
  constructor
  · rintro ⟨_, _, ⟨rfl, rfl⟩, closes⟩
    exact closes
  · intro closes
    exact ⟨w, c, ⟨rfl, rfl⟩, closes⟩

theorem expects_value_lbracket {stack : List Frame} {c : List Token} {t : Term} :
    Expects .value stack (.lbracket :: c) t ↔
      stack.length < maxDepth ∧ Expects .arrayOpen stack c t := by
  have fits : 0 < room stack ↔ stack.length < maxDepth := by simp only [room]; omega
  simp only [Expects, value_lbracket_iff, fits]
  constructor
  · rintro ⟨_, rest, ⟨open_, vs, body, rfl⟩, closes⟩
    exact ⟨open_, vs, rest, body, closes⟩
  · rintro ⟨open_, vs, rest, body, closes⟩
    exact ⟨_, rest, ⟨open_, vs, body, rfl⟩, closes⟩

theorem expects_value_lbrace {stack : List Frame} {c : List Token} {t : Term} :
    Expects .value stack (.lbrace :: c) t ↔
      stack.length < maxDepth ∧ Expects .objectOpen stack c t := by
  have fits : 0 < room stack ↔ stack.length < maxDepth := by simp only [room]; omega
  simp only [Expects, value_lbrace_iff, fits]
  constructor
  · rintro ⟨_, rest, ⟨open_, ms, obj, body, denotes, rfl⟩, closes⟩
    exact ⟨open_, ms, rest, body, denotes.eq_addMembers ▸ closes⟩
  · rintro ⟨open_, ms, rest, body, closes⟩
    exact ⟨_, rest, ⟨open_, ms, _, body, isObjectOf_addMembers ms, rfl⟩, closes⟩

theorem expects_value_cons {stack : List Frame} {x : Token} {c : List Token} {t : Term}
    {p : Nat} :
    Expects .value stack (x :: c) t ↔ ∃ σ, startValue stack x p = .ok σ ∧ Expects σ.1 σ.2 c t := by
  cases x with
  | null =>
      rw [expects_value_of_whole value_null_iff]
      simp [startValue, expects_complete]
  | boolean b =>
      rw [expects_value_of_whole value_boolean_iff]
      simp [startValue, expects_complete]
  | number n =>
      rw [expects_value_of_whole value_number_iff]
      simp [startValue, expects_complete]
  | string s =>
      rw [expects_value_of_whole value_string_iff]
      simp [startValue, expects_complete]
  | lbracket =>
      rw [expects_value_lbracket]
      by_cases fits : stack.length < maxDepth <;> simp [startValue, fits]
  | lbrace =>
      rw [expects_value_lbrace]
      by_cases fits : stack.length < maxDepth <;> simp [startValue, fits]
  | rbrace | rbracket | colon | comma | eof =>
      simp only [Expects, startValue, reduceCtorEq, false_and, exists_false, iff_false]
      rintro ⟨_, _, h, _⟩
      simpa [startsValue] using h.startsValue_head

theorem expects_arrayOpen_rbracket {stack : List Frame} {c : List Token} {t : Term} :
    Expects .arrayOpen stack (.rbracket :: c) t ↔ Closes stack (.array []) c t := by
  simp only [Expects, ArrayBody, List.cons.injEq, true_and]
  constructor
  · rintro ⟨vs, rest, ⟨rfl, rfl⟩ | items, closes⟩
    · exact closes
    · obtain ⟨_, _, _, value, _, _⟩ := elements_iff.mp items
      simpa [startsValue] using value.startsValue_head
  · intro closes
    exact ⟨[], c, .inl ⟨rfl, rfl⟩, closes⟩

theorem expects_arrayOpen_of_ne {stack : List Frame} {x : Token} {c : List Token} {t : Term}
    (hx : x ≠ .rbracket) :
    Expects .arrayOpen stack (x :: c) t ↔ Expects .value (.array [] :: stack) (x :: c) t := by
  simp only [Expects, Closes, ArrayBody, room_cons, elements_iff]
  constructor
  · rintro ⟨vs, rest, ⟨h, -⟩ | ⟨v, after, vs', value, tail, rfl⟩, closes⟩
    · exact absurd (List.cons.inj h).1 hx
    · exact ⟨v, after, value, vs', rest, tail, by simpa using closes⟩
  · rintro ⟨v, after, value, vs', rest, tail, closes⟩
    exact ⟨v :: vs', rest, .inr ⟨v, after, vs', value, tail, rfl⟩, by simpa using closes⟩

theorem expects_key_string {stack : List Frame} {acc : List (String × Term)} {k : String}
    {c : List Token} {t : Term} :
    (∃ ms rest, Members (room stack - 1) (.string k :: c) ms (.rbrace :: rest) ∧
        Closes stack (.object (addMembers acc ms)) rest t) ↔
      Expects (.colon acc k) stack c t := by
  simp only [Expects, members_string_iff]
  constructor
  · rintro ⟨_, rest, ⟨more, v, after, ms', rfl, value, tail, rfl⟩, closes⟩
    exact ⟨more, v, after, ms', rest, rfl, value, tail, closes⟩
  · rintro ⟨more, v, after, ms', rest, rfl, value, tail, closes⟩
    exact ⟨_, rest, ⟨more, v, after, ms', rfl, value, tail, rfl⟩, closes⟩

theorem not_members_of_ne_string {d : Nat} {x : Token} {c : List Token}
    {ms : List (String × Term)} {rest : List Token} (hx : ∀ k, x ≠ .string k) :
    ¬ Members d (x :: c) ms rest := fun h =>
  let ⟨k, hk⟩ := h.head_string
  hx k hk

theorem expects_objectOpen_cons {stack : List Frame} {x : Token} {c : List Token} {t : Term}
    {p : Nat} :
    Expects .objectOpen stack (x :: c) t ↔
      ∃ σ, step .objectOpen stack x p = .ok σ ∧ Expects σ.1 σ.2 c t := by
  cases x with
  | rbrace =>
      simp only [step, Except.ok.injEq, exists_eq_left', expects_complete]
      simp only [Expects, ObjectBody, List.cons.injEq, true_and]
      constructor
      · rintro ⟨ms, rest, ⟨rfl, rfl⟩ | members, closes⟩
        · exact closes
        · exact absurd members (not_members_of_ne_string (by simp))
      · intro closes
        exact ⟨[], c, .inl ⟨rfl, rfl⟩, closes⟩
  | string k =>
      simp only [step, Except.ok.injEq, exists_eq_left', ← expects_key_string]
      simp only [Expects, ObjectBody, List.cons.injEq, reduceCtorEq, false_and, false_or]
  | _ =>
      simp only [Expects, ObjectBody, step, List.cons.injEq, reduceCtorEq, false_and, false_or,
        exists_false, iff_false]
      rintro ⟨_, _, members, _⟩
      exact not_members_of_ne_string (by simp) members

theorem expects_key_cons {stack : List Frame} {acc : List (String × Term)} {x : Token}
    {c : List Token} {t : Term} {p : Nat} :
    Expects (.key acc) stack (x :: c) t ↔
      ∃ σ, step (.key acc) stack x p = .ok σ ∧ Expects σ.1 σ.2 c t := by
  cases x with
  | string k =>
      simp only [step, Except.ok.injEq, exists_eq_left', ← expects_key_string]
      rfl
  | _ =>
      simp only [Expects, step, reduceCtorEq, false_and, exists_false, iff_false]
      rintro ⟨_, _, members, _⟩
      exact not_members_of_ne_string (by simp) members

theorem expects_colon_cons {stack : List Frame} {acc : List (String × Term)} {k : String}
    {x : Token} {c : List Token} {t : Term} {p : Nat} :
    Expects (.colon acc k) stack (x :: c) t ↔
      ∃ σ, step (.colon acc k) stack x p = .ok σ ∧ Expects σ.1 σ.2 c t := by
  cases x with
  | colon =>
      simp only [step, Except.ok.injEq, exists_eq_left']
      simp only [Expects, Closes, room_cons, List.cons.injEq, true_and]
      constructor
      · rintro ⟨_, v, after, ms, rest, rfl, value, tail, closes⟩
        exact ⟨v, after, value, ms, rest, tail, closes⟩
      · rintro ⟨v, after, value, ms, rest, tail, closes⟩
        exact ⟨c, v, after, ms, rest, rfl, value, tail, closes⟩
  | _ => simp [Expects, step]

theorem expects_nextItem_cons {stack : List Frame} {items : List Term} {x : Token}
    {c : List Token} {t : Term} {p : Nat} :
    Expects (.nextItem items) stack (x :: c) t ↔
      ∃ σ, step (.nextItem items) stack x p = .ok σ ∧ Expects σ.1 σ.2 c t := by
  cases x with
  | rbracket =>
      simp only [step, Except.ok.injEq, exists_eq_left', expects_complete]
      simp only [Expects, ElementsTail, List.cons.injEq, true_and, reduceCtorEq, false_and,
        exists_false, or_false]
      constructor
      · rintro ⟨_, rest, ⟨rfl, rfl⟩, closes⟩
        simpa using closes
      · intro closes
        exact ⟨[], c, ⟨rfl, rfl⟩, by simpa using closes⟩
  | comma =>
      simp only [step, Except.ok.injEq, exists_eq_left']
      have more : ∀ {vs rest}, ElementsTail (room stack - 1) (.comma :: c) vs rest ↔
          Elements (room stack - 1) c vs (.rbracket :: rest) := by
        intro vs rest
        simp [ElementsTail]
      simp only [Expects, more, elements_iff, Closes, room_cons]
      constructor
      · rintro ⟨_, rest, ⟨v, after, vs', value, tail, rfl⟩, closes⟩
        exact ⟨v, after, value, vs', rest, tail, by simpa using closes⟩
      · rintro ⟨v, after, value, vs', rest, tail, closes⟩
        exact ⟨v :: vs', rest, ⟨v, after, vs', value, tail, rfl⟩, by simpa using closes⟩
  | _ => simp [Expects, ElementsTail, step]

theorem expects_nextMember_cons {stack : List Frame} {acc : List (String × Term)} {x : Token}
    {c : List Token} {t : Term} {p : Nat} :
    Expects (.nextMember acc) stack (x :: c) t ↔
      ∃ σ, step (.nextMember acc) stack x p = .ok σ ∧ Expects σ.1 σ.2 c t := by
  cases x with
  | rbrace =>
      simp only [step, Except.ok.injEq, exists_eq_left', expects_complete]
      simp only [Expects, MembersTail, List.cons.injEq, true_and, reduceCtorEq, false_and,
        exists_false, or_false]
      constructor
      · rintro ⟨_, rest, ⟨rfl, rfl⟩, closes⟩
        exact closes
      · intro closes
        exact ⟨[], c, ⟨rfl, rfl⟩, closes⟩
  | comma =>
      simp only [step, Except.ok.injEq, exists_eq_left']
      simp [Expects, MembersTail]
  | _ => simp [Expects, MembersTail, step]

theorem expects_cons (m : Mode) (stack : List Frame) (x : Token) (c : List Token) (t : Term)
    (p : Nat) :
    Expects m stack (x :: c) t ↔ ∃ σ, step m stack x p = .ok σ ∧ Expects σ.1 σ.2 c t := by
  cases m with
  | value => exact expects_value_cons
  | arrayOpen =>
      cases x with
      | rbracket =>
          simp only [step, Except.ok.injEq, exists_eq_left', expects_complete]
          exact expects_arrayOpen_rbracket
      | _ =>
          rw [expects_arrayOpen_of_ne (by simp)]
          exact expects_value_cons (p := p)
  | objectOpen => exact expects_objectOpen_cons
  | key acc => exact expects_key_cons
  | colon acc k => exact expects_colon_cons
  | nextItem items => exact expects_nextItem_cons
  | nextMember acc => exact expects_nextMember_cons
  | done v => simp [Expects, step]

/-! ## Reading a stream -/

theorem run_eq_ok_iff (m : Mode) (stack : List Frame) (S : TokenStream) (t : Term) :
    run m stack S = .ok t ↔
      (∃ n, S.ending = .ok n) ∧ Expects m stack (S.lexemes.map Lexeme.token) t := by
  induction S generalizing m stack with
  | eof n =>
      simp only [TokenStream.ending, TokenStream.lexemes, List.map_nil, expects_nil,
        Except.ok.injEq, exists_eq', true_and]
      cases m <;> simp [run]
  | failure e => simp [run, TokenStream.ending]
  | cons l rest ih =>
      obtain ⟨x, p⟩ := l
      simp only [TokenStream.ending, TokenStream.lexemes, List.map_cons,
        expects_cons m stack x _ t p, run]
      cases step m stack x p with
      | error e => simp
      | ok σ => simp [ih]

/-- A document is what the reader expects from its first state. -/
theorem expects_start_iff (ts : List Token) (t : Term) : Expects .value [] ts t ↔ Document ts t := by
  simp only [Expects, Closes, room, List.length_nil, Nat.sub_zero, Document]
  constructor
  · rintro ⟨v, rest, value, rfl, rfl⟩
    exact value
  · intro value
    exact ⟨t, [], value, rfl, rfl⟩

/-- The reader accepts a document's bytes exactly when their tokens end without a lexical error
and form a document, and it returns what the document denotes. -/
theorem parse_eq_ok_iff_tokens (b : List UInt8) (t : Term) :
    Term.parse b = .ok t ↔
      (∃ n, (TokenStream.ofBytes b).ending = .ok n) ∧
        Document ((TokenStream.ofBytes b).lexemes.map Lexeme.token) t := by
  rw [Term.parse, run_eq_ok_iff, expects_start_iff]

end JsonProbe.Reader
