import Mathlib.Data.List.TakeWhile
import JsonProbe.Proofs.Json.Cursor.Agreement
/-! # The cursor stays within its input

Each call of `nextToken` keeps the offsets of a lexer in order (`Ordered`): where the latest token
began, the cursor, the end of the input.  It never aborts on a slice or an index outside the
input, whatever it returns.  A token other than `eof` moves the cursor on; `eof` comes exactly when
only blanks are left, and leaves the cursor at the end of the input.

So the loop that calls `nextToken` until `eof` or an error needs one call per byte and one more
(`lexLoop_eq`), and what it reads is the token stream of the document.  Every lexer that calls of
`nextToken` reach from the start, failed calls included (`Reachable`), has its offsets in order
(`cursor_stays_within_input`). -/
set_option autoImplicit false
namespace JsonProbe.Lexer
open Token

/-! ## Readers keep the cursor within the input -/

theorem slice?_le {l : Lexer} {lo hi : Nat} {s : List UInt8} (sliced : l.slice? lo hi = some s) :
    hi ≤ l.input.length := by
  unfold slice? at sliced
  split at sliced
  · rename_i bounds
    exact bounds.2
  · cases sliced

section Escapes
variable {p : Nat} {l : Lexer}

theorem readHex4_within (within : l.position ≤ l.input.length) :
    (readHex4 p l).lexer.position ≤ l.input.length := by
  unfold readHex4
  split
  · rename_i a b c d sliced
    split
    · exact slice?_le sliced
    · rwa [invalidEscape_lexer]
  · rwa [invalidEscape_lexer]

theorem readUnicodeEscape_within (within : l.position ≤ l.input.length) :
    (readUnicodeEscape p l).lexer.position ≤ l.input.length := by
  have first := readHex4_within (p := p) within
  have same := (readHex4_forward p l).input
  unfold readUnicodeEscape
  split
  · rename_i f l' read
    rw [read] at first
    exact first
  · rename_i high l' read
    rw [read] at first same
    simp only [Outcome.lexer] at first same
    split
    · split
      · rename_i paired
        have second := readHex4_within (p := p) (l := l'.skip 2) (slice?_le paired)
        rw [input_skip, same] at second
        split
        · rename_i f l'' read'
          rw [read'] at second
          exact second
        · rename_i low l'' read'
          rw [read'] at second
          simp only [Outcome.lexer] at second
          split
          · rwa [scalar_lexer]
          · rwa [invalidEscape_lexer]
      · rwa [invalidEscape_lexer]
    · split
      · rwa [invalidEscape_lexer]
      · rwa [scalar_lexer]

theorem readEscape_within (within : l.position ≤ l.input.length) :
    (readEscape p l).lexer.position ≤ l.input.length := by
  unfold readEscape
  split
  · exact within
  · rename_i b current
    have inside : l.position < l.input.length := (List.getElem?_eq_some_iff.mp current).1
    split
    · exact readUnicodeEscape_within (l := l.skip 1) inside
    · split <;> exact inside

end Escapes

theorem readStringBody_within (start : Nat) (result : List UInt8) (l : Lexer)
    (within : l.position ≤ l.input.length) :
    (readStringBody start result l).lexer.position ≤ l.input.length := by
  induction result, l using readStringBody.induct with
  | case1 result l current =>
      rw [readStringBody_of_none current]
      exact within
  | case2 result l current inside =>
      rw [readStringBody_quote current]
      exact inside
  | case3 result l c l' read moved current inside _ ih =>
      have escaped := readEscape_within (p := l.position) (l := l.skip 1) inside
      rw [read] at escaped
      have same : l'.input = l.input := moved.input
      have rest := ih (by rw [same]; exact escaped)
      rw [readStringBody_escape_ok current read, ← same]
      exact rest
  | case4 result l φ l' read current inside _ =>
      have escaped := readEscape_within (p := l.position) (l := l.skip 1) inside
      rw [read] at escaped
      rw [readStringBody_escape_fault current read]
      exact escaped
  | case5 result l b current _ notQuote notBackslash control =>
      rw [readStringBody_control current notQuote notBackslash control]
      exact within
  | case6 result l b current inside notQuote notBackslash printable ih =>
      rw [readStringBody_raw current notQuote notBackslash printable]
      exact ih inside

/-- `l'` is `l` with the cursor moved forward, but not past the end of the input. -/
structure Stays (l l' : Lexer) : Prop extends Forward l l' where
  within : l'.position ≤ l.input.length

theorem stays_skip {l : Lexer} {n : Nat} (room : n ≤ l.input.length - l.position)
    (within : l.position ≤ l.input.length) : Stays l (l.skip n) :=
  ⟨forward_skip l n, by rw [position_skip]; omega⟩

theorem readString_stays {l : Lexer} (inside : l.position < l.input.length) :
    Stays l l.readString.lexer := by
  have moved := readStringBody_forward l.position [] (l.skip 1)
  have within := readStringBody_within l.position [] (l.skip 1) inside
  simp only [readString]
  split
  · rename_i f l' read
    rw [read] at moved within
    exact ⟨(forward_skip l 1).trans moved, within⟩
  · rename_i bytes l' read
    rw [read] at moved within
    split <;> exact ⟨(forward_skip l 1).trans moved, within⟩

theorem readNumber_stays {l : Lexer} (within : l.position ≤ l.input.length) :
    Stays l l.readNumber.lexer := by
  have text : (numberText l.ahead).1.length ≤ l.input.length - l.position := by
    rw [← length_ahead, numberText_fst]
    exact (NumberPart.longest_prefix .start l.ahead).length_le
  rw [readNumber_eq l within]
  split <;> exact stays_skip text within

theorem readIdentifier_stays {l : Lexer} (within : l.position ≤ l.input.length) :
    Stays l l.readIdentifier.lexer := by
  have word : (l.ahead.takeWhile isWordByte).length ≤ l.input.length - l.position := by
    rw [← length_ahead]
    exact (List.takeWhile_prefix isWordByte).length_le
  rcases known : ofWord? (l.ahead.takeWhile isWordByte) with _ | t
  · rw [readIdentifier_of_unknown within known]
    exact stays_skip word within
  · rw [readIdentifier_of_keyword within known]
    exact stays_skip word within

theorem Stays.ite {α : Type} {l : Lexer} {c : Prop} [Decidable c] {o o' : Outcome α}
    (pos : c → Stays l o.lexer) (neg : ¬c → Stays l o'.lexer) :
    Stays l (if c then o else o').lexer := by
  by_cases h : c
  · rw [if_pos h]
    exact pos h
  · rw [if_neg h]
    exact neg h

theorem readToken_stays {l : Lexer} {b : UInt8} (inside : l.position < l.input.length) :
    Stays l (l.readToken b).lexer := by
  have one : Stays l (l.skip 1) := stays_skip (by omega) inside.le
  unfold readToken
  iterate 6 refine Stays.ite (fun _ => one) (fun _ => ?_)
  refine Stays.ite (fun _ => readString_stays inside) (fun _ => ?_)
  refine Stays.ite (fun _ => readNumber_stays inside.le) (fun _ => ?_)
  refine Stays.ite (fun _ => readIdentifier_stays inside.le) (fun _ => ?_)
  split <;> exact ⟨Forward.refl l, inside.le⟩

/-! ## One call of `nextToken` -/

section AtToken
variable (l : Lexer)

theorem atToken_eq :
    l.atToken = { l.skip (l.ahead.takeWhile isBlank).length with
      tokenStart := l.position + (l.ahead.takeWhile isBlank).length } := by
  simp only [atToken, skipWhile_eq, position_skip]

@[simp] theorem input_atToken : l.atToken.input = l.input := by
  rw [atToken_eq]
  rfl

@[simp] theorem position_atToken :
    l.atToken.position = l.position + (l.ahead.takeWhile isBlank).length := by
  rw [atToken_eq]
  rfl

@[simp] theorem tokenStart_atToken : l.atToken.tokenStart = l.atToken.position := rfl

theorem ahead_atToken : l.atToken.ahead = l.ahead.dropWhile isBlank := by
  rw [ahead, input_atToken, position_atToken, ← List.drop_drop, ← ahead,
    TokenStream.drop_length_takeWhile]

theorem atToken_within (within : l.position ≤ l.input.length) :
    l.atToken.position ≤ l.input.length := by
  have blanks : (l.ahead.takeWhile isBlank).length ≤ l.input.length - l.position := by
    rw [← length_ahead]
    exact (List.takeWhile_prefix isBlank).length_le
  rw [position_atToken]
  omega

theorem currentByte_atToken_eq_none :
    l.atToken.currentByte = none ↔ ∀ x ∈ l.ahead, isBlank x = true := by
  rw [currentByte_eq_head?, List.head?_eq_none_iff, ahead_atToken, List.dropWhile_eq_nil_iff]

end AtToken

theorem nextToken_of_none {l : Lexer} (current : l.atToken.currentByte = none) :
    l.nextToken = .ok .eof l.atToken := by
  simp only [nextToken, current]

theorem nextToken_of_some {l : Lexer} {b : UInt8} (current : l.atToken.currentByte = some b) :
    l.nextToken = l.atToken.readToken b := by
  simp only [nextToken, current]

theorem nextToken_forward (l : Lexer) : Forward l.atToken l.nextToken.lexer := by
  cases current : l.atToken.currentByte with
  | none =>
      rw [nextToken_of_none current]
      exact Forward.refl _
  | some b =>
      rw [nextToken_of_some current]
      exact (readToken_stays (List.getElem?_eq_some_iff.mp current).1).toForward

theorem nextToken_within {l : Lexer} (within : l.position ≤ l.input.length) :
    l.nextToken.lexer.position ≤ l.input.length := by
  cases current : l.atToken.currentByte with
  | none =>
      rw [nextToken_of_none current]
      exact atToken_within l within
  | some b =>
      rw [nextToken_of_some current, ← input_atToken l]
      exact (readToken_stays (List.getElem?_eq_some_iff.mp current).1).within

/-- The offsets a lexer keeps are in order: where the latest token began, the cursor, and the end
of the input. -/
structure Ordered (l : Lexer) : Prop where
  start_le : l.tokenStart ≤ l.position
  within : l.position ≤ l.input.length

theorem nextToken_ordered {l : Lexer} (within : l.position ≤ l.input.length) :
    l.nextToken.lexer.input = l.input ∧ l.nextToken.lexer.Ordered := by
  have forward := nextToken_forward l
  refine ⟨by rw [forward.input, input_atToken], ?_, ?_⟩
  · rw [forward.tokenStart, tokenStart_atToken]
    exact forward.position
  · rw [forward.input, input_atToken]
    exact nextToken_within within

theorem nextToken_agrees {l : Lexer} {b : UInt8} {rest : List UInt8}
    (front : l.atToken.ahead = b :: rest) :
    Agrees id (l.atToken.position + 1) l.nextToken (scan l.atToken.position b rest) := by
  rw [nextToken_of_some (currentByte_of_ahead front)]
  exact readToken_agrees front

theorem scan_ne_eof {o : Nat} {b : UInt8} {rest : List UInt8} {t : Token} {k : Nat}
    (scanned : scan o b rest = .ok (t, k)) : t ≠ .eof := by
  obtain ⟨sp, -, -, -, spells⟩ := scan_sound scanned
  exact spells.token_ne_eof

theorem nextToken_ne_outOfRange (l l' : Lexer) : l.nextToken ≠ .fault .outOfRange l' := by
  intro aborted
  cases current : l.atToken.currentByte with
  | none =>
      rw [nextToken_of_none current] at aborted
      cases aborted
  | some b =>
      have agrees := nextToken_agrees (ahead_of_currentByte current)
      rw [aborted] at agrees
      obtain ⟨e, lexical, -⟩ := agrees.fault_left
      cases lexical

theorem nextToken_advances {l l' : Lexer} {t : Token} (read : l.nextToken = .ok t l')
    (notEof : t ≠ .eof) : l.position < l'.position := by
  cases current : l.atToken.currentByte with
  | none =>
      rw [nextToken_of_none current, Outcome.ok.injEq] at read
      exact absurd read.1.symm notEof
  | some b =>
      have agrees := nextToken_agrees (ahead_of_currentByte current)
      rw [read] at agrees
      obtain ⟨k, -, moved⟩ := agrees.ok_left
      rw [position_atToken] at moved
      omega

theorem nextToken_eof_iff (l : Lexer) :
    (∃ l', l.nextToken = .ok .eof l') ↔ ∀ x ∈ l.ahead, isBlank x = true := by
  rw [← currentByte_atToken_eq_none]
  constructor
  · rintro ⟨l', eof⟩
    cases current : l.atToken.currentByte with
    | none => rfl
    | some b =>
        have agrees := nextToken_agrees (ahead_of_currentByte current)
        rw [eof] at agrees
        obtain ⟨k, scanned, -⟩ := agrees.ok_left
        exact absurd rfl (scan_ne_eof scanned)
  · intro current
    exact ⟨l.atToken, nextToken_of_none current⟩

theorem nextToken_eof_position {l l' : Lexer} (within : l.position ≤ l.input.length)
    (eof : l.nextToken = .ok .eof l') : l'.position = l.input.length := by
  have blank := (nextToken_eof_iff l).mp ⟨l', eof⟩
  rw [nextToken_of_none ((currentByte_atToken_eq_none l).mpr blank), Outcome.ok.injEq] at eof
  rw [← eof.2, position_atToken, List.takeWhile_eq_self_iff.mpr blank, length_ahead]
  omega

/-! ## The stream ahead of the cursor -/

/-- The token stream of the bytes from the cursor on. -/
def tokens (l : Lexer) : TokenStream := TokenStream.read l.position l.ahead

/-- One call of `nextToken` reads the head of the token stream ahead of the cursor: its lexical
error; the end of input, where the stream ends; or its first token, with the rest of the stream
ahead of the lexer the call leaves. -/
theorem nextToken_tokens {l : Lexer} (within : l.position ≤ l.input.length) :
    (∃ e l', l.nextToken = .fault (.lex e) l' ∧ l.tokens = .failure e) ∨
    (∃ l', l.nextToken = .ok .eof l' ∧ l.tokens = .eof l'.tokenStart) ∨
    (∃ t l', l.nextToken = .ok t l' ∧ t ≠ .eof ∧ l.tokens = .cons ⟨t, l'.tokenStart⟩ l'.tokens ∧
      l'.input = l.input ∧ l'.position ≤ l.input.length) := by
  cases current : l.atToken.currentByte with
  | none =>
      have blank := (currentByte_atToken_eq_none l).mp current
      have rest : l.ahead.drop (l.ahead.takeWhile isBlank).length = [] := by
        rw [TokenStream.drop_length_takeWhile, List.dropWhile_eq_nil_iff]
        exact blank
      refine .inr (.inl ⟨l.atToken, nextToken_of_none current, ?_⟩)
      rw [tokens, TokenStream.read_of_blanks rest, tokenStart_atToken, position_atToken]
  | some b =>
      have front := ahead_of_currentByte current
      have split : l.ahead.drop (l.ahead.takeWhile isBlank).length =
          b :: (l.atToken.skip 1).ahead := by
        rw [TokenStream.drop_length_takeWhile, ← ahead_atToken, front]
      have agrees := nextToken_agrees front
      rcases scanned : scan l.atToken.position b (l.atToken.skip 1).ahead with e | ⟨t, k⟩
      · rw [scanned] at agrees
        obtain ⟨l', failed⟩ := agrees.of_error
        rw [position_atToken] at scanned
        exact .inl ⟨e, l', failed, TokenStream.read_of_failure split scanned⟩
      · rw [scanned] at agrees
        obtain ⟨t', l', read, same, moved⟩ := agrees.of_ok
        cases same
        have forward := nextToken_forward l
        have within' := nextToken_within within
        rw [read] at forward within'
        simp only [Outcome.lexer] at forward within'
        have input' : l'.input = l.input := by rw [forward.input, input_atToken]
        have ahead' : l'.ahead = (l.atToken.skip 1).ahead.drop k := by
          rw [ahead, input', moved, ahead_skip, List.drop_drop, ahead, input_atToken,
            List.drop_drop]
          congr 1
          omega
        refine .inr (.inr ⟨t', l', read, scan_ne_eof scanned, ?_, input', within'⟩)
        rw [tokens, tokens, ahead', forward.tokenStart, tokenStart_atToken, moved]
        rw [position_atToken] at scanned
        rw [TokenStream.read_of_scan split scanned, position_atToken]
        rfl

/-! ## The loop over `nextToken` -/

section Loop
variable {calls : Nat} {l l' : Lexer}

theorem lexLoop_of_eof (eof : l.nextToken = .ok .eof l') :
    lexLoop (calls + 1) l = some (.eof l'.tokenStart) := by
  rw [lexLoop, eof]

theorem lexLoop_of_token {t : Token} (read : l.nextToken = .ok t l') (notEof : t ≠ .eof) :
    lexLoop (calls + 1) l = (lexLoop calls l').map (.cons ⟨t, l'.tokenStart⟩) := by
  rw [lexLoop]
  split
  · rename_i l'' eof
    rw [read, Outcome.ok.injEq] at eof
    exact absurd eof.1 notEof
  · rename_i t' l'' _ read'
    rw [read, Outcome.ok.injEq] at read'
    obtain ⟨rfl, rfl⟩ := read'
    rfl
  · rename_i e l'' failed
    rw [read] at failed
    cases failed
  · rename_i l'' aborted
    rw [read] at aborted
    cases aborted

theorem lexLoop_of_error {e : LexError} (failed : l.nextToken = .fault (.lex e) l') :
    lexLoop (calls + 1) l = some (.failure e) := by
  rw [lexLoop, failed]

end Loop

/-- With room for one call per byte left and one more, the loop reads the token stream ahead of
the cursor: it ends at `eof` or at the first error before the calls run out. -/
theorem lexLoop_eq (calls : Nat) (l : Lexer) (within : l.position ≤ l.input.length)
    (room : l.input.length - l.position < calls) : lexLoop calls l = some l.tokens := by
  -- induction on the calls left; each token moves the cursor, so the room shrinks with them
  induction calls generalizing l with
  | zero => omega
  | succ calls ih =>
      rcases nextToken_tokens within with ⟨e, l', failed, rest⟩ | ⟨l', eof, rest⟩ |
        ⟨t, l', read, notEof, rest, input', within'⟩
      · rw [lexLoop_of_error failed, rest]
      · rw [lexLoop_of_eof eof, rest]
      · have advanced := nextToken_advances read notEof
        rw [lexLoop_of_token read notEof, ih l' (by rw [input']; exact within')
          (by rw [input']; omega), rest]
        rfl

/-! ## Every lexer the calls reach -/

/-- The lexers that calls of `nextToken` reach from the start of `input`, each call going on from
the lexer the previous one left, whether that one returned a token or failed. -/
inductive Reachable (input : List UInt8) : Lexer → Prop
  | new : Reachable input (Lexer.new input)
  | next {l : Lexer} : Reachable input l → Reachable input l.nextToken.lexer

theorem Reachable.ordered {input : List UInt8} {l : Lexer} (reached : Reachable input l) :
    l.input = input ∧ l.Ordered := by
  induction reached with
  | new => exact ⟨rfl, Nat.le_refl 0, Nat.zero_le _⟩
  | next _ ih =>
      obtain ⟨same, ordered⟩ := ih
      obtain ⟨kept, ordered'⟩ := nextToken_ordered ordered.within
      exact ⟨kept.trans same, ordered'⟩

/-- Over every input and every run of `nextToken` calls from its start, failed calls included,
the start of the latest token, the cursor and the end of the input stay in order before and after
each call; no call aborts on a slice or an index outside the input; every token but `eof` moves
the cursor on; `eof` comes exactly when only blanks are left and leaves the cursor at the end.
The loop that calls `nextToken` until `eof` or an error ends within one call per byte and one
more, with the token stream of the document. -/
theorem cursor_stays_within_input (b : List UInt8) :
    (∀ l, Reachable b l →
      (l.tokenStart ≤ l.position ∧ l.position ≤ b.length) ∧
      (l.nextToken.lexer.tokenStart ≤ l.nextToken.lexer.position ∧
        l.nextToken.lexer.position ≤ b.length) ∧
      (∀ l', l.nextToken ≠ .fault .outOfRange l') ∧
      (∀ t l', l.nextToken = .ok t l' → t ≠ .eof → l.position < l'.position) ∧
      ((∃ l', l.nextToken = .ok .eof l') ↔ ∀ x ∈ b.drop l.position, isBlank x = true) ∧
      (∀ l', l.nextToken = .ok .eof l' → l'.position = b.length)) ∧
    lexLoop (b.length + 1) (Lexer.new b) = some (TokenStream.ofBytes b) := by
  refine ⟨fun l reached => ?_, ?_⟩
  · obtain ⟨same, ordered⟩ := reached.ordered
    obtain ⟨same', after⟩ := (Reachable.next reached).ordered
    have within' := after.within
    rw [same'] at within'
    subst same
    exact ⟨⟨ordered.start_le, ordered.within⟩, ⟨after.start_le, within'⟩,
      nextToken_ne_outOfRange l, fun _ _ read notEof => nextToken_advances read notEof,
      nextToken_eof_iff l, fun _ eof => nextToken_eof_position ordered.within eof⟩
  · exact lexLoop_eq (b.length + 1) (Lexer.new b) (Nat.zero_le _) (Nat.lt_succ_of_le (Nat.sub_le _ _))

/-- On a string cut off right after its backslash, the first call fails, and the lexer it leaves
still has its offsets in order. -/
theorem cursor_within_after_cut_escape :
    Reachable [0x22, 0x5C] (Lexer.new [0x22, 0x5C]).nextToken.lexer ∧
      (Lexer.new [0x22, 0x5C]).nextToken.lexer.tokenStart ≤
        (Lexer.new [0x22, 0x5C]).nextToken.lexer.position ∧
      (Lexer.new [0x22, 0x5C]).nextToken.lexer.position ≤ [0x22, 0x5C].length :=
  ⟨.next .new, ((cursor_stays_within_input _).1 _ (.next .new)).1⟩

end JsonProbe.Lexer
