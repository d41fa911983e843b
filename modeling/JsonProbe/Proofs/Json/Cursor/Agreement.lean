import JsonProbe.Json.Lexer
import JsonProbe.Proofs.Json.LexErrors
/-! # The cursor lexer reads the tokens of the token scanner

The lexer that moves a cursor over its input (`Lexer`) and the token scanner that reads one token
off the front of a byte list (`Token.scan`) read the same tokens and fail with the same errors.
Each of the lexer's readers is held to the scanner's part for the same bytes, the bytes from the
cursor on (`ahead`):

* numbers and words, with the whole outcome fixed (`readNumber_eq`, `readIdentifier_of_keyword`,
  `readIdentifier_of_unknown`);
* escapes and strings, where a failure may leave the cursor in many places, by what the outcome
  shows a caller that reads on: the value with the cursor after it, or the error (`Agrees`,
  `readEscape_agrees`, `readString_agrees`).

Together they give `readToken_agrees`: from a byte under the cursor, the lexer reads what `scan`
reads and never aborts. -/
set_option autoImplicit false
namespace JsonProbe.Lexer
open Token

/-! ## The bytes ahead of the cursor -/

/-- The bytes from the cursor on. -/
def ahead (l : Lexer) : List UInt8 := l.input.drop l.position

theorem currentByte_eq_head? (l : Lexer) : l.currentByte = l.ahead.head? := by
  rw [currentByte, ahead, List.head?_drop]

theorem ahead_skip (l : Lexer) (n : Nat) : (l.skip n).ahead = l.ahead.drop n := by
  rw [ahead, ahead, skip, List.drop_drop, Nat.add_comm]

@[simp] theorem position_skip (l : Lexer) (n : Nat) : (l.skip n).position = l.position + n := rfl

@[simp] theorem input_skip (l : Lexer) (n : Nat) : (l.skip n).input = l.input := rfl

@[simp] theorem tokenStart_skip (l : Lexer) (n : Nat) : (l.skip n).tokenStart = l.tokenStart := rfl

theorem skip_skip (l : Lexer) (m n : Nat) : (l.skip m).skip n = l.skip (m + n) := by
  simp only [skip, Nat.add_assoc]

theorem ahead_eq_nil_iff (l : Lexer) : l.ahead = [] ↔ l.input.length ≤ l.position := by
  rw [ahead, List.drop_eq_nil_iff]

theorem position_lt_of_ahead {l : Lexer} {b : UInt8} {rest : List UInt8}
    (front : l.ahead = b :: rest) : l.position < l.input.length :=
  Nat.lt_of_not_le fun past => by rw [(ahead_eq_nil_iff l).mpr past] at front; cases front

theorem length_ahead (l : Lexer) : l.ahead.length = l.input.length - l.position := by
  rw [ahead, List.length_drop]

theorem slice?_ahead (l : Lexer) {n : Nat} (within : l.position + n ≤ l.input.length) :
    l.slice? l.position (l.position + n) = some (l.ahead.take n) := by
  rw [slice?, if_pos ⟨Nat.le_add_right _ _, within⟩, ahead, List.drop_take, Nat.add_sub_cancel_left]

theorem slice?_prefix {l : Lexer} {pre : List UInt8} (h : pre <+: l.ahead)
    (within : l.position ≤ l.input.length) :
    l.position + pre.length ≤ l.input.length ∧
      l.slice? l.position (l.position + pre.length) = some pre := by
  have fits : l.position + pre.length ≤ l.input.length := by
    have := h.length_le
    rw [length_ahead] at this
    omega
  refine ⟨fits, ?_⟩
  rw [slice?_ahead l fits]
  exact congrArg some (List.prefix_iff_eq_take.mp h).symm

theorem ahead_of_currentByte {l : Lexer} {b : UInt8} (current : l.currentByte = some b) :
    l.ahead = b :: (l.skip 1).ahead := by
  rw [currentByte_eq_head?] at current
  obtain ⟨tail, front⟩ := List.head?_eq_some_iff.mp current
  rw [ahead_skip, front, List.drop_one, List.tail_cons]

theorem ahead_of_currentByte_none {l : Lexer} (current : l.currentByte = none) : l.ahead = [] := by
  rwa [currentByte_eq_head?, List.head?_eq_none_iff] at current

theorem currentByte_of_ahead {l : Lexer} {b : UInt8} {rest : List UInt8}
    (front : l.ahead = b :: rest) : l.currentByte = some b := by
  rw [currentByte_eq_head?, front, List.head?_cons]

theorem skipWhile_of_taken {p : UInt8 → Bool} {l : Lexer} {b : UInt8}
    (current : l.currentByte = some b) (taken : p b = true) :
    l.skipWhile p = (l.skip 1).skipWhile p := by
  rw [skipWhile]
  split
  · rename_i b' current'
    rw [current, Option.some.injEq] at current'
    subst current'
    rw [if_pos taken]
  · rename_i none'
    rw [current] at none'
    cases none'

theorem skipWhile_of_stop {p : UInt8 → Bool} {l : Lexer} {b : UInt8}
    (current : l.currentByte = some b) (stopped : p b = false) : l.skipWhile p = l := by
  rw [skipWhile]
  split
  · rename_i b' current'
    rw [current, Option.some.injEq] at current'
    subst current'
    rw [if_neg (by simp [stopped])]
  · rfl

theorem skipWhile_of_none {p : UInt8 → Bool} {l : Lexer} (current : l.currentByte = none) :
    l.skipWhile p = l := by
  rw [skipWhile]
  split
  · rename_i b' current'
    rw [current] at current'
    cases current'
  · rfl

theorem skipWhile_eq (p : UInt8 → Bool) (l : Lexer) :
    l.skipWhile p = l.skip (l.ahead.takeWhile p).length := by
  induction l using skipWhile.induct p with
  | case1 l b current _ taken ih =>
      rw [skipWhile_of_taken current taken, ih, skip_skip, ahead_of_currentByte current,
        List.takeWhile_cons_of_pos taken, List.length_cons, Nat.add_comm]
  | case2 l b current _ stopped =>
      rw [skipWhile_of_stop current (by simpa using stopped), ahead_of_currentByte current,
        List.takeWhile_cons_of_neg stopped]
      rfl
  | case3 l current =>
      rw [skipWhile_of_none current, ahead_of_currentByte_none current]
      rfl

/-! ## Numbers -/

theorem readDigits_fst (l : Lexer) : l.readDigits.1 = l.skip (digits l.ahead).1.length := by
  rw [readDigits, skipWhile_eq, digits_eq_takeWhile]

theorem readDigits_snd (l : Lexer) : l.readDigits.2 = (digits l.ahead).1.length := by
  simp only [readDigits, skipWhile_eq, digits_eq_takeWhile, skip]
  omega

theorem ne_zero_length_eq (ds : List UInt8) : (ds.length != 0) = !ds.isEmpty := by
  cases ds <;> rfl

theorem readFraction_eq (l : Lexer) :
    readFraction l = (l.skip (fraction l.ahead).1.length, (fraction l.ahead).2) := by
  simp only [readFraction, currentByte_eq_head?]
  rcases front : l.ahead with _ | ⟨b, rest⟩
  · rw [if_neg (by simp), fraction_nil]
    rfl
  · by_cases point : b = 0x2E
    · subst point
      have after : (l.skip 1).ahead = rest := by rw [ahead_skip, front]; rfl
      rw [if_pos (by rfl), fraction_point, readDigits_fst, readDigits_snd, after, skip_skip,
        List.length_cons, Nat.add_comm, ne_zero_length_eq]
    · rw [if_neg (by simpa using point), fraction_of_ne rest point]
      rfl

theorem readExponent_eq (l : Lexer) :
    readExponent l = (l.skip (exponent l.ahead).1.length, (exponent l.ahead).2) := by
  simp only [readExponent, currentByte_eq_head?, ahead_skip]
  rcases front : l.ahead with _ | ⟨e, rest⟩
  · rw [if_neg (by simp), exponent_nil]
    rfl
  by_cases mark : e = 0x65 ∨ e = 0x45
  · rw [if_pos (by simpa using mark)]
    simp only [List.drop_one, List.tail_cons]
    rcases rest with _ | ⟨s, more⟩
    · -- a mark and nothing after it
      rw [if_neg (by simp), exponent_mark_nil mark, readDigits_fst, readDigits_snd, ahead_skip,
        front]
      rfl
    · by_cases sign : s = 0x2B ∨ s = 0x2D
      · have after : ((l.skip 1).skip 1).ahead = more := by
          rw [ahead_skip, ahead_skip, front]
          rfl
        rw [if_pos (by simpa using sign), exponent_signed more mark sign, readDigits_fst,
          readDigits_snd, after, skip_skip, skip_skip, ne_zero_length_eq]
        simp only [List.length_cons]
        congr 2
        omega
      · have after : (l.skip 1).ahead = s :: more := by
          rw [ahead_skip, front]
          rfl
        rw [if_neg (by simpa using sign), exponent_unsigned more mark (by simpa [not_or] using sign),
          readDigits_fst, readDigits_snd, after, skip_skip, ne_zero_length_eq]
        simp only [List.length_cons]
        congr 2
        omega
  · rw [if_neg (by simpa using mark),
      exponent_of_not_mark rest (by simpa [not_or] using mark)]
    rfl

theorem integerOk?_eq (l : Lexer) {intStart : Nat} {ds : List UInt8}
    (front : ds <+: l.input.drop intStart) :
    l.integerOk? intStart ds.length = some (integerOk ds) := by
  match ds, front with
  | [], _ => rfl
  | [_], _ => rfl
  | d :: e :: more, front =>
    have first : l.input[intStart]? = some d := by
      obtain ⟨t, whole⟩ := front
      rw [← List.head?_drop, ← whole]
      rfl
    simp only [integerOk?, List.length_cons, first]
    rw [if_neg (by omega), if_pos (by omega)]
    rfl

theorem drop_digits (bs : List UInt8) : bs.drop (digits bs).1.length = (digits bs).2 := by
  rw [digits_eq_takeWhile]
  exact TokenStream.drop_length_takeWhile isDigit bs

theorem slice?_skip (l : Lexer) (n lo hi : Nat) : (l.skip n).slice? lo hi = l.slice? lo hi := rfl

theorem readUnsigned_eq (s : Lexer) :
    s.readDigits.1.integerOk? s.position s.readDigits.2 = some (integerOk (digits s.ahead).1) ∧
      (readExponent (readFraction s.readDigits.1).1).1 = s.skip (unsignedText s.ahead).1.length ∧
      (integerOk (digits s.ahead).1 && (readFraction s.readDigits.1).2 &&
        (readExponent (readFraction s.readDigits.1).1).2) = (unsignedText s.ahead).2 := by
  have digitsFront : (digits s.ahead).1 <+: s.input.drop s.position := by
    rw [digits_eq_takeWhile]
    exact List.takeWhile_prefix isDigit
  refine ⟨?_, ?_, ?_⟩
  · rw [readDigits_snd, readDigits_fst]
    exact integerOk?_eq _ digitsFront
  · simp only [readExponent_eq, readFraction_eq, ahead_skip, readDigits_fst, drop_digits]
    rw [skip_skip, skip_skip, unsignedText, List.length_append, List.length_append, Nat.add_assoc]
  · simp only [readExponent_eq, readFraction_eq, ahead_skip, readDigits_fst, drop_digits,
      unsignedText]

theorem readNumber_eq (l : Lexer) (within : l.position ≤ l.input.length) :
    l.readNumber =
      if (numberText l.ahead).2 then
        .ok (.number (bytesText (numberText l.ahead).1)) (l.skip (numberText l.ahead).1.length)
      else
        .fault (.lex (.invalidNumber (bytesText (numberText l.ahead).1) l.position))
          (l.skip (numberText l.ahead).1.length) := by
  have text : (numberText l.ahead).1 <+: l.ahead := by
    rw [numberText_fst]
    exact NumberPart.longest_prefix .start l.ahead
  obtain ⟨-, sliced⟩ := slice?_prefix text within
  obtain ⟨sign, signedEq, textEq, flagEq⟩ : ∃ sign : List UInt8,
      (if l.currentByte = some 0x2D then l.skip 1 else l) = l.skip sign.length ∧
      (numberText l.ahead).1 = sign ++ (unsignedText (l.skip sign.length).ahead).1 ∧
      (numberText l.ahead).2 = (unsignedText (l.skip sign.length).ahead).2 := by
    rw [currentByte_eq_head?]
    rcases front : l.ahead with _ | ⟨b, rest⟩
    · have same : (l.skip ([] : List UInt8).length).ahead = [] := front
      exact ⟨[], by rw [if_neg (by simp)]; rfl, by rw [same]; rfl, by rw [same]; rfl⟩
    · by_cases minus : b = 0x2D
      · subst minus
        have after : (l.skip ([0x2D] : List UInt8).length).ahead = rest := by
          rw [ahead_skip, front]
          rfl
        refine ⟨[0x2D], by rw [if_pos (by rfl)]; rfl, ?_, ?_⟩
        · rw [after, numberText_minus]
          rfl
        · rw [after, numberText_minus]
      · have after : (l.skip ([] : List UInt8).length).ahead = b :: rest := front
        refine ⟨[], by rw [if_neg (by simpa using minus)]; rfl, ?_, ?_⟩
        · rw [after, numberText_of_ne rest minus, List.nil_append]
        · rw [after, numberText_of_ne rest minus]
  obtain ⟨intOk, ends, judged⟩ := readUnsigned_eq (l.skip sign.length)
  have atEnd : (l.skip sign.length).skip (unsignedText (l.skip sign.length).ahead).1.length =
      l.skip (numberText l.ahead).1.length := by
    rw [skip_skip, textEq, List.length_append]
  simp only [readNumber, signedEq, intOk]
  simp only [ends, atEnd, slice?_skip, position_skip, sliced, judged, ← flagEq]

/-! ## Words -/

theorem readIdentifier_of_keyword {l : Lexer} {t : Token} (within : l.position ≤ l.input.length)
    (keyword : ofWord? (l.ahead.takeWhile isWordByte) = some t) :
    l.readIdentifier = .ok t (l.skip (l.ahead.takeWhile isWordByte).length) := by
  obtain ⟨-, sliced⟩ := slice?_prefix (List.takeWhile_prefix isWordByte) within
  simp only [readIdentifier, skipWhile_eq, slice?_skip, position_skip, sliced, keyword]

theorem readIdentifier_of_unknown {l : Lexer} (within : l.position ≤ l.input.length)
    (unknown : ofWord? (l.ahead.takeWhile isWordByte) = none) :
    l.readIdentifier =
      .fault (.lex (.unknownIdentifier (bytesText (l.ahead.takeWhile isWordByte)) l.position))
        (l.skip (l.ahead.takeWhile isWordByte).length) := by
  obtain ⟨-, sliced⟩ := slice?_prefix (List.takeWhile_prefix isWordByte) within
  simp only [readIdentifier, skipWhile_eq, slice?_skip, position_skip, sliced, unknown]

/-! ## Escapes -/

/-- An outcome agrees with a scanner's result when both read the same value, `f` turning the
lexer's value into the scanner's, with the cursor where the scanner's count of bytes from `base`
ends; or when both fail with the same error.  An abort agrees with nothing. -/
def Agrees {α β : Type} (f : α → β) (base : Nat) : Outcome α → Except LexError (β × Nat) → Prop
  | .ok a l, .ok (b, k) => f a = b ∧ l.position = base + k
  | .fault (.lex e) _, .error e' => e = e'
  | _, _ => False

theorem Agrees.of_ok {α β : Type} {f : α → β} {base : Nat} {o : Outcome α} {b : β} {k : Nat}
    (h : Agrees f base o (.ok (b, k))) : ∃ a l, o = .ok a l ∧ f a = b ∧ l.position = base + k := by
  match o, h with
  | .ok a l, h => exact ⟨a, l, rfl, h⟩

theorem Agrees.of_error {α β : Type} {f : α → β} {base : Nat} {o : Outcome α} {e : LexError}
    (h : Agrees f base o (.error e)) : ∃ l, o = .fault (.lex e) l := by
  match o, h with
  | .fault (.lex e') l, h => exact ⟨l, by rw [show e' = e from h]⟩

theorem Agrees.ok_left {α β : Type} {f : α → β} {base : Nat} {a : α} {l : Lexer}
    {r : Except LexError (β × Nat)} (h : Agrees f base (.ok a l) r) :
    ∃ k, r = .ok (f a, k) ∧ l.position = base + k := by
  match r, h with
  | .ok (b, k), h => exact ⟨k, by rw [h.1], h.2⟩

theorem Agrees.fault_left {α β : Type} {f : α → β} {base : Nat} {φ : Fault} {l : Lexer}
    {r : Except LexError (β × Nat)} (h : Agrees f base (.fault φ l) r) :
    ∃ e, φ = .lex e ∧ r = .error e := by
  match φ, r, h with
  | .lex e, .error e', h => exact ⟨e, rfl, by rw [show e = e' from h]⟩

theorem Agrees.ite {α β : Type} {f : α → β} {base : Nat} {c : Prop} [Decidable c]
    {o o' : Outcome α} {r r' : Except LexError (β × Nat)}
    (pos : c → Agrees f base o r) (neg : ¬c → Agrees f base o' r') :
    Agrees f base (if c then o else o') (if c then r else r') := by
  by_cases h : c
  · simp only [if_pos h]
    exact pos h
  · simp only [if_neg h]
    exact neg h

theorem slice?_two_iff (l : Lexer) (x y : UInt8) :
    l.slice? l.position (l.position + 2) = some [x, y] ↔ ∃ r, l.ahead = x :: y :: r := by
  constructor
  · intro sliced
    rw [slice?] at sliced
    split at sliced
    · rename_i within
      rw [Option.some.injEq, List.drop_take, Nat.add_sub_cancel_left] at sliced
      have whole := List.take_append_drop 2 (l.input.drop l.position)
      rw [sliced] at whole
      exact ⟨_, whole.symm⟩
    · cases sliced
  · rintro ⟨r, front⟩
    have within : l.position + 2 ≤ l.input.length := by
      have := length_ahead l
      rw [front, List.length_cons, List.length_cons] at this
      omega
    rw [slice?_ahead l within, front]
    rfl

theorem hexValue?_lt {b : UInt8} {v : Nat} (h : hexValue? b = some v) : v < 16 := by
  unfold hexValue? at h
  split_ifs at h with decimal upper lower
  · simp only [isDigit, Bool.and_eq_true, decide_eq_true_eq, UInt8.le_iff_toNat_le] at decimal
    simp only [Option.some.injEq] at h
    simp at decimal
    omega
  · simp only [Bool.and_eq_true, decide_eq_true_eq, UInt8.le_iff_toNat_le] at upper
    simp only [Option.some.injEq] at h
    simp at upper
    omega
  · simp only [Bool.and_eq_true, decide_eq_true_eq, UInt8.le_iff_toNat_le] at lower
    simp only [Option.some.injEq] at h
    simp at lower
    omega

theorem quad?_lt {a b c d : UInt8} {n : Nat} (h : quad? a b c d = some n) : n < 0x10000 := by
  simp only [quad?, Option.bind_eq_bind, Option.bind_eq_some_iff, Option.pure_def,
    Option.some.injEq] at h
  obtain ⟨va, ha, vb, hb, vc, hc, vd, hd, rfl⟩ := h
  have := hexValue?_lt ha
  have := hexValue?_lt hb
  have := hexValue?_lt hc
  have := hexValue?_lt hd
  omega

theorem readHex4_of_quad {p : Nat} {l : Lexer} {a b c d : UInt8} {rest : List UInt8} {n : Nat}
    (front : l.ahead = a :: b :: c :: d :: rest) (hex : quad? a b c d = some n) :
    readHex4 p l = .ok n (l.skip 4) := by
  have within : l.position + 4 ≤ l.input.length := by
    have := length_ahead l
    rw [front] at this
    simp only [List.length_cons] at this
    omega
  rw [readHex4, slice?_ahead l within, front]
  simp only [List.take_succ_cons, List.take_zero, hex]

theorem readHex4_of_not_quad {p : Nat} {l : Lexer}
    (noQuad : ∀ a b c d rest, l.ahead = a :: b :: c :: d :: rest → quad? a b c d = none) :
    readHex4 p l = invalidEscape p l := by
  rw [readHex4]
  split
  · rename_i a b c d sliced
    rw [slice?] at sliced
    split at sliced
    · rw [Option.some.injEq, List.drop_take, Nat.add_sub_cancel_left] at sliced
      have whole := List.take_append_drop 4 (l.input.drop l.position)
      rw [sliced] at whole
      rw [noQuad a b c d _ whole.symm]
    · cases sliced
  · rfl

theorem invalidEscape_eq {α : Type} {p k : Nat} {l : Lexer} (at_ : l.position = p + k)
    (within : l.position ≤ l.input.length) :
    invalidEscape (α := α) p l =
      .fault (.lex (.invalidEscape (bytesText ((l.input.drop p).take k)) p)) l := by
  have bounds : p ≤ min l.position l.input.length ∧ min l.position l.input.length ≤ l.input.length :=
    ⟨by omega, Nat.min_le_right _ _⟩
  rw [invalidEscape, slice?, if_pos bounds, Nat.min_eq_left within, List.drop_take, at_,
    Nat.add_sub_cancel_left]

theorem scalar_of_valid {p code : Nat} {l : Lexer} (valid : code.isValidChar) :
    scalar p code l = .ok (Char.ofNat code) l := by
  rw [scalar, if_pos valid]

theorem readUnicodeEscape_of_ok {p : Nat} {l : Lexer} {ch : Char} {k : Nat}
    (h : unicodeEscape p l.ahead = .ok (ch, k)) : readUnicodeEscape p l = .ok ch (l.skip k) := by
  obtain ⟨a, b, c, d, rest, n, front, hex, single | pair⟩ := unicodeEscape_cases h
  · obtain ⟨notHigh, notLow, rfl, rfl⟩ := single
    have valid : n.isValidChar := by
      have := quad?_lt hex
      simp only [isHighSurrogate, isLowSurrogate, Bool.and_eq_false_iff, decide_eq_false_iff_not,
        not_le] at notHigh notLow
      simp only [Nat.isValidChar]
      omega
    rw [readUnicodeEscape, readHex4_of_quad front hex]
    simp only [notHigh, notLow, Bool.false_eq_true, if_false, scalar_of_valid valid]
  · obtain ⟨a', b', c', d', more, lo, rfl, hex', opens, closes, value, rfl⟩ := pair
    have valid : Nat.isValidChar (0x10000 + (n - 0xD800) * 0x400 + (lo - 0xDC00)) := by
      simp only [isHighSurrogate, isLowSurrogate, Bool.and_eq_true, decide_eq_true_eq] at opens closes
      simp only [Nat.isValidChar]
      omega
    have escaped : (l.skip 4).slice? (l.skip 4).position ((l.skip 4).position + 2) =
        some [0x5C, 0x75] :=
      (slice?_two_iff _ _ _).mpr ⟨_, by rw [ahead_skip, front]; rfl⟩
    have second : ((l.skip 4).skip 2).ahead = a' :: b' :: c' :: d' :: more := by
      rw [ahead_skip, ahead_skip, front]
      rfl
    rw [readUnicodeEscape, readHex4_of_quad front hex]
    simp only [opens, if_true]
    rw [if_pos escaped, readHex4_of_quad second hex']
    simp only [closes, if_true, scalar_of_valid valid, skip_skip, value]

theorem readUnicodeEscape_of_cut {p : Nat} {l : Lexer} {cut more : List UInt8}
    (quoted : l.input.drop p = 0x5C :: 0x75 :: l.ahead) (at_ : l.position = p + 2)
    (front : l.ahead = cut ++ more) (stop : UnicodeCut cut more) :
    readUnicodeEscape p l =
      .fault (.lex (.invalidEscape (bytesText (0x5C :: 0x75 :: cut)) p)) (l.skip cut.length) := by
  have refuse : ∀ (α : Type) (n : Nat), n ≤ cut.length →
      invalidEscape (α := α) p (l.skip n) =
        .fault (.lex (.invalidEscape (bytesText (0x5C :: 0x75 :: cut.take n)) p)) (l.skip n) := by
    intro α n short
    have room : l.position + cut.length ≤ l.input.length := by
      have := length_ahead l
      rw [front, List.length_append] at this
      have := List.length_drop (l := l.input) (i := p)
      rw [quoted] at this
      simp only [List.length_cons] at this
      omega
    rw [invalidEscape_eq (k := 2 + n) (by simp only [position_skip]; omega)
      (by simp only [position_skip, input_skip]; omega), input_skip, quoted, front,
      Nat.add_comm 2 n, List.take_succ_cons, List.take_succ_cons, List.take_append_of_le_length short]
  cases stop with
  | notHex noQuad =>
      have none := readHex4_of_not_quad (p := p) (l := l)
        fun a b c d r whole => noQuad a b c d r (by rw [← whole, front]; rfl)
      have refused := refuse Nat 0 (Nat.zero_le _)
      rw [show l.skip 0 = l from rfl] at refused
      rw [readUnicodeEscape, none, refused]
      rfl
  | @lowAlone a b c d n _ hex alone =>
      have notHigh : isHighSurrogate n = false := by
        simp only [isLowSurrogate, Bool.and_eq_true, decide_eq_true_eq] at alone
        simp only [isHighSurrogate, Bool.and_eq_false_iff, decide_eq_false_iff_not]
        omega
      rw [readUnicodeEscape, readHex4_of_quad front hex]
      simp only [notHigh, alone, Bool.false_eq_true, if_false, if_true]
      rw [refuse Char 4 (by simp)]
      rfl
  | @unpaired a b c d n _ hex opens noEscape =>
      have unescaped : ¬(l.skip 4).slice? (l.skip 4).position ((l.skip 4).position + 2) =
          some [0x5C, 0x75] := by
        rw [slice?_two_iff]
        rintro ⟨r, after⟩
        rw [ahead_skip, front] at after
        exact noEscape r after
      rw [readUnicodeEscape, readHex4_of_quad front hex]
      simp only [opens, if_true]
      rw [if_neg unescaped, refuse Char 4 (by simp)]
      rfl
  | @lowNotHex a b c d n _ hex opens noQuad =>
      have escaped : (l.skip 4).slice? (l.skip 4).position ((l.skip 4).position + 2) =
          some [0x5C, 0x75] :=
        (slice?_two_iff _ _ _).mpr ⟨_, by rw [ahead_skip, front]; rfl⟩
      have none := readHex4_of_not_quad (p := p) (l := (l.skip 4).skip 2)
        fun a' b' c' d' r whole => noQuad a' b' c' d' r (by
          rw [← whole, ahead_skip, ahead_skip, front]
          rfl)
      rw [readUnicodeEscape, readHex4_of_quad front hex]
      simp only [opens, if_true]
      rw [if_pos escaped, none, skip_skip, refuse Nat 6 (by simp)]
      rfl
  | @notLow a b c d a' b' c' d' n lo _ hex opens hex' notLow =>
      have escaped : (l.skip 4).slice? (l.skip 4).position ((l.skip 4).position + 2) =
          some [0x5C, 0x75] :=
        (slice?_two_iff _ _ _).mpr ⟨_, by rw [ahead_skip, front]; rfl⟩
      have second : ((l.skip 4).skip 2).ahead = a' :: b' :: c' :: d' :: more := by
        rw [ahead_skip, ahead_skip, front]
        rfl
      rw [readUnicodeEscape, readHex4_of_quad front hex]
      simp only [opens, if_true]
      rw [if_pos escaped, readHex4_of_quad second hex']
      simp only [notLow, Bool.false_eq_true, if_false]
      rw [skip_skip, skip_skip, refuse Char 10 (by simp)]
      rfl

theorem readUnicodeEscape_agrees {p : Nat} {l : Lexer}
    (quoted : l.input.drop p = 0x5C :: 0x75 :: l.ahead) (at_ : l.position = p + 2) :
    Agrees id l.position (readUnicodeEscape p l) (unicodeEscape p l.ahead) := by
  rcases read : unicodeEscape p l.ahead with e | ⟨ch, k⟩
  · obtain ⟨cut, more, front, stop, rfl⟩ := unicodeEscape_eq_error read
    rw [readUnicodeEscape_of_cut quoted at_ front stop]
    rfl
  · rw [readUnicodeEscape_of_ok read]
    exact ⟨rfl, rfl⟩

theorem readEscape_agrees {p : Nat} {l : Lexer} (quoted : l.input.drop p = 0x5C :: l.ahead)
    (at_ : l.position = p + 1) :
    Agrees Utf8.encode l.position (readEscape p l) (escape p l.ahead) := by
  rcases front : l.ahead with _ | ⟨e, rest⟩
  · rw [readEscape, currentByte_eq_head?, front]
    rfl
  have current := currentByte_of_ahead front
  have after : (l.skip 1).ahead = rest := by rw [ahead_skip, front]; rfl
  by_cases letterU : e = 0x75
  · subst letterU
    have inner := @readUnicodeEscape_agrees p (l.skip 1)
      (by rw [input_skip, quoted, front, after]) (by rw [position_skip, at_])
    rw [readEscape, current]
    simp only [if_true]
    rw [after] at inner
    rw [escape_unicode]
    rcases read : unicodeEscape p rest with err | ⟨ch, k⟩
    · rw [read] at inner
      obtain ⟨l', failed⟩ := inner.of_error
      rw [failed]
      rfl
    · rw [read] at inner
      obtain ⟨ch', l', done, same, moved⟩ := inner.of_ok
      rw [done]
      exact ⟨by rw [show ch' = ch from same], by rw [moved, position_skip, Nat.add_assoc, Nat.add_comm 1 k]⟩
  · rw [readEscape, current, escape_of_ne p rest letterU]
    simp only [letterU, if_false]
    rcases simpleEscape? e with _ | c
    · rfl
    · exact ⟨rfl, rfl⟩

/-! ## Strings -/

/-- The loop over a string's body agrees with the scanner's: where the loop ends at the closing
quote, the scanner reads what the loop gathered as UTF-8 there; where the loop fails, the scanner
fails alike.  An abort agrees with nothing. -/
def BodyAgrees (start : Nat) : Outcome (List UInt8) → Except LexError (String × Nat) → Prop
  | .ok bytes l, r =>
    r = match Utf8.decode? bytes with
      | some cs => .ok (String.ofList cs, l.position)
      | none => .error (.invalidUtf8 start)
  | .fault (.lex e) _, r => r = .error e
  | .fault .outOfRange _, _ => False

section Body
variable {start : Nat} {result : List UInt8} {l : Lexer}

theorem readStringBody_of_none (current : l.currentByte = none) :
    readStringBody start result l = .fault (.lex (.unterminatedString start)) l := by
  rw [readStringBody]
  split
  · rfl
  · rename_i b current'
    rw [current] at current'
    cases current'

theorem readStringBody_of_some {b : UInt8} (current : l.currentByte = some b) :
    readStringBody start result l =
      if b = 0x22 then .ok result (l.skip 1)
      else if b = 0x5C then
        (match e : readEscape l.position (l.skip 1) with
        | .ok c l' =>
          have _moved : Forward (l.skip 1) l' := by
            have := readEscape_forward l.position (l.skip 1)
            rwa [e] at this
          readStringBody start (result ++ Utf8.encode c) l'
        | .fault f l' => .fault f l')
      else if b < 0x20 then .fault (.lex (.controlCharacter b l.position)) l
      else readStringBody start (result ++ [b]) (l.skip 1) := by
  rw [readStringBody]
  split
  · rename_i none'
    rw [current] at none'
    cases none'
  · rename_i b' current'
    rw [current, Option.some.injEq] at current'
    subst current'
    rfl

theorem readStringBody_quote (current : l.currentByte = some 0x22) :
    readStringBody start result l = .ok result (l.skip 1) := by
  rw [readStringBody_of_some current, if_pos rfl]

theorem readStringBody_escape_ok {c : Char} {l' : Lexer} (current : l.currentByte = some 0x5C)
    (read : readEscape l.position (l.skip 1) = .ok c l') :
    readStringBody start result l = readStringBody start (result ++ Utf8.encode c) l' := by
  rw [readStringBody_of_some current, if_neg (by decide), if_pos rfl]
  split
  · rename_i c' l'' read'
    rw [read, Outcome.ok.injEq] at read'
    obtain ⟨rfl, rfl⟩ := read'
    rfl
  · rename_i f l'' read'
    rw [read] at read'
    cases read'

theorem readStringBody_escape_fault {φ : Fault} {l' : Lexer} (current : l.currentByte = some 0x5C)
    (read : readEscape l.position (l.skip 1) = .fault φ l') :
    readStringBody start result l = .fault φ l' := by
  rw [readStringBody_of_some current, if_neg (by decide), if_pos rfl]
  split
  · rename_i c' l'' read'
    rw [read] at read'
    cases read'
  · rename_i f l'' read'
    rw [read, Outcome.fault.injEq] at read'
    obtain ⟨rfl, rfl⟩ := read'
    rfl

theorem readStringBody_control {b : UInt8} (current : l.currentByte = some b) (notQuote : b ≠ 0x22)
    (notBackslash : b ≠ 0x5C) (control : b < 0x20) :
    readStringBody start result l = .fault (.lex (.controlCharacter b l.position)) l := by
  rw [readStringBody_of_some current, if_neg notQuote, if_neg notBackslash, if_pos control]

theorem readStringBody_raw {b : UInt8} (current : l.currentByte = some b) (notQuote : b ≠ 0x22)
    (notBackslash : b ≠ 0x5C) (printable : ¬b < 0x20) :
    readStringBody start result l = readStringBody start (result ++ [b]) (l.skip 1) := by
  rw [readStringBody_of_some current, if_neg notQuote, if_neg notBackslash, if_neg printable]

end Body

theorem readStringBody_agrees (start : Nat) (result : List UInt8) (l : Lexer) :
    BodyAgrees start (readStringBody start result l)
      (stringBody start l.position result.reverse l.ahead) := by
  induction result, l using readStringBody.induct with
  | case1 result l current =>
      rw [readStringBody_of_none current, ahead_of_currentByte_none current, stringBody_nil]
      rfl
  | case2 result l current _inside =>
      rw [readStringBody_quote current, ahead_of_currentByte current]
      show _ = _
      rcases decoded : Utf8.decode? result with _ | cs
      · rw [stringBody_quote_invalid start _ (by rw [List.reverse_reverse, decoded])]
      · rw [stringBody_quote start _ (by rw [List.reverse_reverse, decoded])]
        rfl
  | case3 result l c l' read moved current inside _ ih =>
      have front := ahead_of_currentByte current
      have escaped := @readEscape_agrees l.position (l.skip 1)
        (by rw [input_skip, ← ahead, front]) (position_skip l 1)
      rw [read] at escaped
      obtain ⟨k, gathered, at_⟩ := escaped.ok_left
      have rest : l'.ahead = (l.skip 1).ahead.drop k := by
        rw [ahead, moved.input, at_, ahead, input_skip, position_skip, List.drop_drop]
      rw [position_skip] at at_
      rw [readStringBody_escape_ok current read, front, stringBody_escape start gathered, ← at_,
        ← rest, ← List.reverse_append]
      exact ih
  | case4 result l φ l' read current inside _ =>
      have front := ahead_of_currentByte current
      have escaped := @readEscape_agrees l.position (l.skip 1)
        (by rw [input_skip, ← ahead, front]) (position_skip l 1)
      rw [read] at escaped
      obtain ⟨e, rfl, failed⟩ := escaped.fault_left
      rw [readStringBody_escape_fault current read, front]
      show _ = _
      rw [stringBody, if_neg (by decide), if_pos (by decide), failed]
  | case5 result l b current _ notQuote notBackslash control =>
      rw [readStringBody_control current notQuote notBackslash control, ahead_of_currentByte current]
      show _ = _
      rw [stringBody, if_neg (by simpa using notQuote), if_neg (by simpa using notBackslash),
        if_pos control]
  | case6 result l b current _ notQuote notBackslash printable ih =>
      have raw : IsRawByte b := ⟨notQuote, notBackslash, by
        rw [UInt8.lt_iff_toNat_lt] at printable
        simpa using printable⟩
      rw [readStringBody_raw current notQuote notBackslash printable, ahead_of_currentByte current,
        stringBody_raw start _ _ raw]
      rw [List.reverse_append] at ih
      exact ih

theorem readStringBody_forward (start : Nat) (result : List UInt8) (l : Lexer) :
    Forward l (readStringBody start result l).lexer := by
  induction result, l using readStringBody.induct with
  | case1 result l current =>
      rw [readStringBody_of_none current]
      exact Forward.refl l
  | case2 result l current _inside =>
      rw [readStringBody_quote current]
      exact forward_skip l 1
  | case3 result l c l' read moved current _inside _ ih =>
      rw [readStringBody_escape_ok current read]
      exact (forward_skip l 1).trans (moved.trans ih)
  | case4 result l φ l' read current _inside _ =>
      have escaped := readEscape_forward l.position (l.skip 1)
      rw [read] at escaped
      rw [readStringBody_escape_fault current read]
      exact (forward_skip l 1).trans escaped
  | case5 result l b current _ notQuote notBackslash control =>
      rw [readStringBody_control current notQuote notBackslash control]
      exact Forward.refl l
  | case6 result l b current _ notQuote notBackslash printable ih =>
      rw [readStringBody_raw current notQuote notBackslash printable]
      exact (forward_skip l 1).trans ih

theorem readString_agrees {l : Lexer} {rest : List UInt8} (front : l.ahead = 0x22 :: rest) :
    Agrees id (l.position + 1) l.readString (scan l.position 0x22 rest) := by
  have body := readStringBody_agrees l.position [] (l.skip 1)
  have moved := readStringBody_forward l.position [] (l.skip 1)
  rw [ahead_skip, front, List.reverse_nil, position_skip, List.drop_one, List.tail_cons] at body
  rw [scan_quote]
  simp only [readString]
  rcases read : readStringBody l.position [] (l.skip 1) with ⟨bytes, l'⟩ | ⟨_ | _, l'⟩
  · rw [read] at body moved
    have far : l.position + 1 ≤ l'.position := moved.position
    rcases decoded : Utf8.decode? bytes with _ | cs
    · simp only [BodyAgrees, decoded] at body
      simp only [body, decoded]
      rfl
    · simp only [BodyAgrees, decoded] at body
      simp only [body, decoded]
      refine ⟨rfl, ?_⟩
      show l'.position = l.position + 1 + (l'.position - l.position - 1)
      omega
  · rw [read] at body
    simp only [show stringBody _ _ _ _ = _ from body]
    rfl
  · rw [read] at body
    exact False.elim body

/-! ## Tokens -/

theorem numberText_length_pos {b : UInt8} (rest : List UInt8) (start : b = 0x2D ∨ isDigit b = true) :
    0 < (numberText (b :: rest)).1.length := by
  rcases start with rfl | digit
  · rw [numberText_minus, List.length_cons]
    exact Nat.succ_pos _
  · have notMinus : b ≠ 0x2D := by
      rintro rfl
      exact absurd digit (by decide)
    rw [numberText_of_ne rest notMinus, unsignedText, digits, List.takeWhile_cons_of_pos digit]
    simp

theorem headD_decodeLossy (b : UInt8) (rest : List UInt8) :
    (Utf8.decodeLossy (b :: rest)).headD '�' = Utf8.firstLossy b rest := by
  rw [Utf8.decodeLossy]
  split <;> rename_i stepped <;> simp [Utf8.firstLossy, stepped]

/-- From a byte under the cursor the lexer reads the token the scanner reads from it: the same
token with the cursor after it, or the same error; it never aborts. -/
theorem readToken_agrees {l : Lexer} {b : UInt8} {rest : List UInt8} (front : l.ahead = b :: rest) :
    Agrees id (l.position + 1) (l.readToken b) (scan l.position b rest) := by
  have within : l.position ≤ l.input.length := (position_lt_of_ahead front).le
  unfold readToken scan
  -- both test the same bytes in the same order, the six one-byte tokens first
  iterate 6 refine Agrees.ite (fun _ => ⟨rfl, rfl⟩) (fun _ => ?_)
  refine Agrees.ite (fun quote => ?_) (fun _ => ?_)
  · obtain rfl := eq_of_beq quote
    exact readString_agrees front
  refine Agrees.ite (fun number => ?_) (fun _ => ?_)
  · have positive := numberText_length_pos rest (by simpa using number)
    rw [readNumber_eq l within, front]
    rcases scanned : numberText (b :: rest) with ⟨text, _ | _⟩
    · rfl
    · rw [scanned] at positive
      dsimp only at positive
      refine ⟨rfl, ?_⟩
      show l.position + text.length = l.position + 1 + (text.length - 1)
      omega
  refine Agrees.ite (fun letter => ?_) (fun _ => ?_)
  · have wordByte : isWordByte b = true := by simp [isWordByte, letter]
    have positive : 0 < ((b :: rest).takeWhile isWordByte).length := by
      rw [List.takeWhile_cons_of_pos wordByte, List.length_cons]
      exact Nat.succ_pos _
    rcases word : ofWord? ((b :: rest).takeWhile isWordByte) with _ | t
    · rw [readIdentifier_of_unknown within (by rw [front, word]), front]
      simp only [word]
      rfl
    · rw [readIdentifier_of_keyword within (by rw [front, word]), front]
      simp only [word]
      refine ⟨rfl, ?_⟩
      show l.position + _ = l.position + 1 + (_ - 1)
      omega
  · have sliced : l.slice? l.position l.input.length = some l.ahead := by
      rw [slice?, if_pos ⟨within, le_refl _⟩, List.take_length]
      rfl
    rw [sliced, front]
    show LexError.unexpectedChar _ l.position = _
    rw [headD_decodeLossy]

end JsonProbe.Lexer
