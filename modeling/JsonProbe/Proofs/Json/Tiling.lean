import JsonProbe.Proofs.Json.Lexing
/-! # Tokens tile the document

Reading a document token by token cuts its bytes into runs of blanks and lexemes (`Tiles`).  Each
lexeme spells its token (`Lexes`): a structural byte, a string up to the quote that closes it, a
number that is the longest prefix in the shape the number scan takes (`NumberPart`, `LongestNumber`),
or a keyword that is a whole run of word bytes.  Each token is reported at the offset of its
lexeme's first byte.  The stream ends either at the offset just past the last byte, when what is
left is blank, or with an error at a byte that is not blank (`tiles_read`). -/
set_option autoImplicit false
namespace JsonProbe.Token
open Lexical Utf8

/-! ## The shape of a number -/

/-- Where the number scan is: before anything, in the integer digits, in the fraction, just after
the exponent's mark, or in the exponent's digits. -/
inductive NumberPart where
  | start
  | integer
  | fraction
  | mark
  | exponent
  deriving DecidableEq, Repr

namespace NumberPart

/-- The part after one more byte, if the shape `-? D* (. D*)? ([eE] [+-]? D*)?` takes it. Every
run of digits may be empty. -/
def step : NumberPart → UInt8 → Option NumberPart
  | start, b =>
    if b == 0x2D || isDigit b then some integer
    else if b == 0x2E then some fraction
    else if b == 0x65 || b == 0x45 then some mark
    else none
  | integer, b =>
    if isDigit b then some integer
    else if b == 0x2E then some fraction
    else if b == 0x65 || b == 0x45 then some mark
    else none
  | fraction, b =>
    if isDigit b then some fraction
    else if b == 0x65 || b == 0x45 then some mark
    else none
  | mark, b => if isDigit b || b == 0x2B || b == 0x2D then some exponent else none
  | exponent, b => if isDigit b then some exponent else none

/-- The part after the bytes, if the shape takes them all. -/
def run : NumberPart → List UInt8 → Option NumberPart
  | q, [] => some q
  | q, b :: bs => (q.step b).bind fun q' => run q' bs

/-- The longest prefix of the bytes that the shape takes. -/
def longest : NumberPart → List UInt8 → List UInt8
  | _, [] => []
  | q, b :: bs =>
    match q.step b with
    | some q' => b :: longest q' bs
    | none => []

theorem longest_prefix (q : NumberPart) (bs : List UInt8) : q.longest bs <+: bs := by
  induction bs generalizing q with
  | nil => exact List.nil_prefix
  | cons b bs ih =>
      rw [longest]
      split
      · exact List.cons_prefix_cons.mpr ⟨rfl, ih _⟩
      · exact List.nil_prefix

theorem run_longest (q : NumberPart) (bs : List UInt8) : (q.run (q.longest bs)).isSome := by
  induction bs generalizing q with
  | nil => rfl
  | cons b bs ih =>
      rw [longest]
      split
      · rename_i q' stepped
        simp only [run, stepped, Option.bind_some]
        exact ih q'
      · rfl

theorem length_le_longest (q : NumberPart) (bs m : List UInt8) (isPrefix : m <+: bs)
    (runs : (q.run m).isSome) : m.length ≤ (q.longest bs).length := by
  induction bs generalizing q m with
  | nil =>
      rw [List.prefix_nil.mp isPrefix]
      exact Nat.le_refl 0
  | cons b bs ih =>
      cases m with
      | nil => exact Nat.zero_le _
      | cons c m =>
          obtain ⟨rfl, rest⟩ := List.cons_prefix_cons.mp isPrefix
          cases stepped : q.step c with
          | none => simp [run, stepped] at runs
          | some q' =>
              simp only [run, stepped, Option.bind_some] at runs
              rw [longest, stepped, List.length_cons, List.length_cons]
              exact Nat.succ_le_succ (ih q' m rest runs)

theorem longest_of_stop {q : NumberPart} {bs : List UInt8}
    (stop : ∀ b ∈ bs.head?, q.step b = none) : q.longest bs = [] := by
  cases bs with
  | nil => rfl
  | cons b bs => rw [longest, stop b rfl]

theorem longest_cons_of_step {q q' : NumberPart} {b : UInt8} (stepped : q.step b = some q')
    (bs : List UInt8) : q.longest (b :: bs) = b :: q'.longest bs := by
  simp only [longest, stepped]

theorem longest_cons_of_stop {q : NumberPart} {b : UInt8} (stop : q.step b = none)
    (bs : List UInt8) : q.longest (b :: bs) = [] := by
  simp only [longest, stop]

theorem longest_congr {q q' : NumberPart} {b : UInt8} (same : q.step b = q'.step b)
    (bs : List UInt8) : q.longest (b :: bs) = q'.longest (b :: bs) := by
  simp only [longest, same]

theorem longest_digits_append {q : NumberPart} (stays : ∀ b, isDigit b = true → q.step b = some q) :
    ∀ {ds : List UInt8} (rest : List UInt8), (∀ b ∈ ds, isDigit b = true) →
      q.longest (ds ++ rest) = ds ++ q.longest rest
  | [], _, _ => rfl
  | d :: ds, rest, digits => by
      have later := longest_digits_append stays rest fun b mem =>
        digits b (List.mem_cons_of_mem d mem)
      simp only [List.cons_append, longest, stays d (digits d List.mem_cons_self), later]

theorem longest_eq_takeWhile_append {q : NumberPart}
    (stays : ∀ b, isDigit b = true → q.step b = some q) (bs : List UInt8) :
    q.longest bs = bs.takeWhile isDigit ++ q.longest (bs.dropWhile isDigit) := by
  conv_lhs => rw [← List.takeWhile_append_dropWhile (p := isDigit) (l := bs)]
  exact longest_digits_append stays _ fun b mem => List.mem_takeWhile_imp mem

theorem integer_stays (b : UInt8) (digit : isDigit b = true) : integer.step b = some integer := by
  simp [step, digit]

theorem fraction_stays (b : UInt8) (digit : isDigit b = true) : fraction.step b = some fraction := by
  simp [step, digit]

theorem exponent_stays (b : UInt8) (digit : isDigit b = true) : exponent.step b = some exponent := by
  simp [step, digit]

end NumberPart

/-! ## The number scan is greedy -/

theorem head_dropWhile_false {α : Type} (p : α → Bool) (l : List α) :
    ∀ x ∈ (l.dropWhile p).head?, p x = false := by
  intro x mem
  have stopped := List.head?_dropWhile_not p l
  rw [Option.mem_def.mp mem] at stopped
  exact stopped

theorem longest_exponent (bs : List UInt8) :
    NumberPart.exponent.longest bs = bs.takeWhile isDigit := by
  rw [NumberPart.longest_eq_takeWhile_append NumberPart.exponent_stays, NumberPart.longest_of_stop,
    List.append_nil]
  intro b mem
  simp [NumberPart.step, head_dropWhile_false isDigit bs b mem]

theorem exponent_fst_of_mark {e : UInt8} (isMark : e = 0x65 ∨ e = 0x45) (rest : List UInt8) :
    (exponent (e :: rest)).1 = e :: NumberPart.mark.longest rest := by
  cases rest with
  | nil =>
      rw [exponent_mark_nil isMark]
      rfl
  | cons s more =>
      by_cases sign : s = 0x2B ∨ s = 0x2D
      · have stepped : NumberPart.mark.step s = some .exponent := by
          rcases sign with rfl | rfl <;> rfl
        rw [exponent_signed more isMark sign, NumberPart.longest_cons_of_step stepped,
          longest_exponent, digits_eq_takeWhile]
      · -- without a sign, the mark's part takes what the exponent's digits take
        have unsigned := not_or.mp sign
        have same : NumberPart.mark.step s = NumberPart.exponent.step s := by
          simp [NumberPart.step, unsigned.1, unsigned.2]
        rw [exponent_unsigned more isMark unsigned, NumberPart.longest_congr same,
          longest_exponent, digits_eq_takeWhile]

theorem longest_fraction_of_stop {r : List UInt8} (stop : ∀ b ∈ r.head?, isDigit b = false) :
    NumberPart.fraction.longest r = (exponent r).1 := by
  cases r with
  | nil => rfl
  | cons b r =>
      have notDigit := stop b rfl
      by_cases isMark : b = 0x65 ∨ b = 0x45
      · have stepped : NumberPart.fraction.step b = some .mark := by
          rcases isMark with rfl | rfl <;> rfl
        rw [exponent_fst_of_mark isMark, NumberPart.longest_cons_of_step stepped]
      · have notMark := not_or.mp isMark
        have stopped : NumberPart.fraction.step b = none := by
          simp [NumberPart.step, notDigit, notMark.1, notMark.2]
        rw [exponent_of_not_mark r notMark, NumberPart.longest_cons_of_stop stopped]

theorem longest_integer_of_stop {r : List UInt8} (stop : ∀ b ∈ r.head?, isDigit b = false) :
    NumberPart.integer.longest r =
      (fraction r).1 ++ (exponent (r.drop (fraction r).1.length)).1 := by
  cases r with
  | nil => rfl
  | cons b r =>
      have notDigit := stop b rfl
      by_cases point : b = 0x2E
      · -- a fraction: its digits, then what follows them
        subst point
        rw [NumberPart.longest_cons_of_step (rfl : NumberPart.integer.step 0x2E = some .fraction),
          NumberPart.longest_eq_takeWhile_append NumberPart.fraction_stays,
          longest_fraction_of_stop (head_dropWhile_false isDigit r), fraction_point,
          digits_eq_takeWhile]
        simp only [List.cons_append, List.length_cons, List.drop_succ_cons,
          TokenStream.drop_length_takeWhile]
      · -- no fraction: past its digits, the integer part goes on as a fraction would
        have same : NumberPart.integer.step b = NumberPart.fraction.step b := by
          simp [NumberPart.step, notDigit, point]
        rw [fraction_of_ne r point, List.nil_append, List.length_nil, List.drop_zero,
          NumberPart.longest_congr same, longest_fraction_of_stop stop]

theorem longest_integer (bs : List UInt8) :
    NumberPart.integer.longest bs = (unsignedText bs).1 := by
  rw [NumberPart.longest_eq_takeWhile_append NumberPart.integer_stays,
    longest_integer_of_stop (head_dropWhile_false isDigit bs)]
  simp only [unsignedText, digits_eq_takeWhile, List.append_assoc]

theorem numberText_fst (bs : List UInt8) : (numberText bs).1 = NumberPart.start.longest bs := by
  cases bs with
  | nil => rfl
  | cons b rest =>
      by_cases minus : b = 0x2D
      · subst minus
        rw [numberText_minus,
          NumberPart.longest_cons_of_step (rfl : NumberPart.start.step 0x2D = some .integer),
          longest_integer]
      · have same : NumberPart.start.step b = NumberPart.integer.step b := by
          simp [NumberPart.step, minus]
        rw [numberText_of_ne rest minus, ← longest_integer, NumberPart.longest_congr same]

/-- Bytes in the shape of a number: the scan from the start takes them all. -/
def NumberShape (bs : List UInt8) : Prop :=
  (NumberPart.start.run bs).isSome = true

instance (bs : List UInt8) : Decidable (NumberShape bs) :=
  inferInstanceAs (Decidable ((NumberPart.start.run bs).isSome = true))

/-- `LongestNumber l after`: the bytes `l` are the longest prefix of `l ++ after` in the shape of a
number, so the greedy number scan takes `l` and no more. -/
def LongestNumber (l after : List UInt8) : Prop :=
  NumberShape l ∧ ∀ m, m <+: l ++ after → NumberShape m → m.length ≤ l.length

theorem longestNumber_longest (bs : List UInt8) :
    LongestNumber (NumberPart.start.longest bs) (bs.drop (NumberPart.start.longest bs).length) := by
  have whole : NumberPart.start.longest bs ++ bs.drop (NumberPart.start.longest bs).length = bs :=
    List.prefix_iff_eq_append.mp (NumberPart.longest_prefix .start bs)
  refine ⟨NumberPart.run_longest .start bs, fun m isPrefix shaped => ?_⟩
  rw [whole] at isPrefix
  exact NumberPart.length_le_longest .start bs m isPrefix shaped

example : NumberPart.start.longest [0x31, 0x2E, 0x35, 0x2E, 0x32] = [0x31, 0x2E, 0x35] := by
  decide

/-! ## Lexemes -/

/-- `Lexes l t after`: the bytes `l`, with `after` behind them, are one lexeme of the token `t`.
They spell it; a number is the longest prefix in the shape of a number, and a keyword is the whole
run of word bytes. -/
structure Lexes (l : List UInt8) (t : Token) (after : List UInt8) : Prop where
  spelled : ∃ sp, l = encodeList sp ∧ Spells sp t
  greedy : ∀ text, t = .number text → LongestNumber l after
  wholeWord : t = .null ∨ (∃ v, t = .boolean v) → StopsWord after

theorem numberStart_of_spells {sp : List Char} {text : String} (spells : Spells sp (.number text)) :
    ∃ c tail, encodeList sp = c :: tail ∧ (c = 0x2D ∨ isDigit c = true) := by
  cases spells with
  | number lit => exact numberLit_head lit

theorem keywordStart_of_spells {sp : List Char} {t : Token} (spells : Spells sp t)
    (keyword : t = .null ∨ ∃ v, t = .boolean v) :
    ∃ c tail, encodeList sp = c :: tail ∧ isLetter c = true := by
  cases spells with
  | «true» => exact ⟨_, _, encodeList_true, rfl⟩
  | «false» => exact ⟨_, _, encodeList_false, rfl⟩
  | null => exact ⟨_, _, encodeList_null, rfl⟩
  | _ => simp at keyword

theorem longestNumber_of_scan {o : Nat} {b : UInt8} {rest l after : List UInt8} {text : String}
    {k : Nat} (h : scan o b rest = .ok (.number text, k)) (start : b = 0x2D ∨ isDigit b = true)
    (front : b :: rest = l ++ after) (width : l.length = k + 1) : LongestNumber l after := by
  rw [scan_of_numberStart o rest start] at h
  split_ifs at h with valid
  simp only [Except.ok.injEq, Prod.mk.injEq, Token.number.injEq] at h
  obtain ⟨-, taken⟩ := h
  rw [numberText_fst] at taken
  have stepped : NumberPart.start.step b = some .integer := by
    rcases start with rfl | digit
    · rfl
    · simp [NumberPart.step, digit]
  have length : (NumberPart.start.longest (b :: rest)).length = l.length := by
    rw [NumberPart.longest_cons_of_step stepped, List.length_cons] at taken ⊢
    omega
  have whole := List.prefix_iff_eq_append.mp (NumberPart.longest_prefix .start (b :: rest))
  obtain ⟨rfl, rfl⟩ := List.append_inj (front.symm.trans whole.symm) length.symm
  exact longestNumber_longest (b :: rest)

theorem stopsWord_of_scan {o : Nat} {b : UInt8} {rest l after : List UInt8} {t : Token} {k : Nat}
    (h : scan o b rest = .ok (t, k)) (letter : isLetter b = true)
    (front : b :: rest = l ++ after) (width : l.length = k + 1) : StopsWord after := by
  rw [scan_of_letter o rest letter] at h
  split at h
  · simp only [Except.ok.injEq, Prod.mk.injEq] at h
    obtain ⟨-, taken⟩ := h
    have wordByte : isWordByte b = true := by simp [isWordByte, letter]
    have length : ((b :: rest).takeWhile isWordByte).length = l.length := by
      rw [List.takeWhile_cons_of_pos wordByte, List.length_cons] at taken ⊢
      omega
    have whole := List.takeWhile_append_dropWhile (p := isWordByte) (l := b :: rest)
    obtain ⟨-, rfl⟩ := List.append_inj (front.symm.trans whole.symm) length.symm
    exact head_dropWhile_false isWordByte (b :: rest)
  · cases h

theorem scan_lexes {o : Nat} {b : UInt8} {rest : List UInt8} {t : Token} {k : Nat}
    (h : scan o b rest = .ok (t, k)) :
    ∃ l after, b :: rest = l ++ after ∧ l.length = k + 1 ∧ Lexes l t after := by
  obtain ⟨sp, after, front, width, spells⟩ := scan_sound h
  refine ⟨encodeList sp, after, front, width, ⟨sp, rfl, spells⟩, ?_, ?_⟩
  · rintro text rfl
    obtain ⟨c, tail, bytes, start⟩ := numberStart_of_spells spells
    have first : b = c := by
      rw [bytes, List.cons_append, List.cons.injEq] at front
      exact front.1
    subst first
    exact longestNumber_of_scan h start front width
  · intro keyword
    obtain ⟨c, tail, bytes, letter⟩ := keywordStart_of_spells spells keyword
    have first : b = c := by
      rw [bytes, List.cons_append, List.cons.injEq] at front
      exact front.1
    subst first
    exact stopsWord_of_scan h letter front width

end JsonProbe.Token

namespace JsonProbe.TokenStream
open Token

/-! ## The tiling -/

/-- `Tiles o bs s`: the stream `s` cuts the bytes `bs`, the first of them at offset `o`, into runs
of blanks and lexemes, each token reported at the offset of its lexeme's first byte.  It ends at the
offset past the last byte when only blanks are left, or with an error at a byte that is not
blank. -/
inductive Tiles : Nat → List UInt8 → TokenStream → Prop where
  | eof {o : Nat} {ws : List UInt8} (blank : ∀ x ∈ ws, isBlank x = true) :
      Tiles o ws (.eof (o + ws.length))
  | failure {o : Nat} {ws rest : List UInt8} {b : UInt8} {e : LexError}
      (blank : ∀ x ∈ ws, isBlank x = true) (notBlank : isBlank b = false) :
      Tiles o (ws ++ b :: rest) (.failure e)
  | lexeme {o : Nat} {ws l after : List UInt8} {t : Token} {s : TokenStream}
      (blank : ∀ x ∈ ws, isBlank x = true) (lexes : Lexes l t after)
      (next : Tiles (o + ws.length + l.length) after s) :
      Tiles o (ws ++ l ++ after) (.cons ⟨t, o + ws.length⟩ s)

/-- Reading cuts the bytes as `Tiles` says: by induction on the reading, each step skipping blanks
and then ending, failing at a byte that is not blank, or taking one lexeme. -/
theorem tiles_read (o : Nat) (bs : List UInt8) : Tiles o bs (read o bs) := by
  induction o, bs using read.induct with
  | case1 o bs _ blanksOnly =>
      have whole : bs.takeWhile isBlank = bs := by
        conv_rhs => rw [← List.takeWhile_append_dropWhile (p := isBlank) (l := bs)]
        rw [← drop_length_takeWhile, blanksOnly, List.append_nil]
      rw [read_of_blanks blanksOnly]
      have tile : Tiles o (bs.takeWhile isBlank) _ :=
        Tiles.eof fun x mem => List.mem_takeWhile_imp mem
      rwa [whole] at tile ⊢
  | case2 o bs _ _ b rest next e failed =>
      rw [read_of_failure next failed]
      have notBlank : isBlank b = false :=
        head_dropWhile_false isBlank bs b (by rw [← drop_length_takeWhile, next]; rfl)
      have shape : bs = bs.takeWhile isBlank ++ b :: rest := by
        rw [← next, drop_length_takeWhile, List.takeWhile_append_dropWhile]
      rw [shape]
      exact Tiles.failure (fun x mem => List.mem_takeWhile_imp mem) notBlank
  | case3 o bs _ _ b rest next t k scanned _ ih =>
      rw [read_of_scan next scanned]
      obtain ⟨l, after, front, width, lexes⟩ := scan_lexes scanned
      have dropped := drop_of_front front width
      have shape : bs = bs.takeWhile isBlank ++ l ++ after := by
        rw [List.append_assoc, ← front, ← next, drop_length_takeWhile,
          List.takeWhile_append_dropWhile]
      have offset : o + (bs.takeWhile isBlank).length + 1 + k =
          o + (bs.takeWhile isBlank).length + l.length := by
        omega
      rw [dropped, offset] at ih ⊢
      have tile := Tiles.lexeme (o := o) (fun x mem => List.mem_takeWhile_imp mem) lexes ih
      rw [← shape] at tile
      exact tile

theorem Tiles.lexeme_at {o : Nat} {bs : List UInt8} {s : TokenStream} (h : Tiles o bs s) :
    ∀ lx ∈ s.lexemes, o ≤ lx.offset ∧
      ∃ l after, bs.drop (lx.offset - o) = l ++ after ∧ Lexes l lx.token after := by
  induction h with
  | eof => intro lx mem; cases mem
  | failure => intro lx mem; cases mem
  | @lexeme o ws l after t s blank lexes next ih =>
      intro lx mem
      rcases List.mem_cons.mp mem with rfl | later
      · -- the lexeme itself, after its blanks
        refine ⟨Nat.le_add_right o ws.length, l, after, ?_, lexes⟩
        rw [Nat.add_sub_cancel_left, List.append_assoc, List.drop_left]
      · -- a later lexeme, past this one
        obtain ⟨within, l', after', dropped, lexes'⟩ := ih lx later
        have skip : lx.offset - o =
            (ws ++ l).length + (lx.offset - (o + ws.length + l.length)) := by
          rw [List.length_append]
          omega
        refine ⟨by omega, l', after', ?_, lexes'⟩
        rw [skip, List.drop_length_add_append, dropped]

/-- Reading a document token by token tiles it with runs of blanks and lexemes, each token
reported at the offset of its lexeme's first byte.  When the end is reached, it is reported at the
length of the document, and reading on from there gives the end again. -/
theorem tokens_tile_document (bs : List UInt8) :
    Tiles 0 bs (ofBytes bs) ∧
      (∀ lx ∈ (ofBytes bs).lexemes,
        ∃ l after, bs.drop lx.offset = l ++ after ∧ Lexes l lx.token after) ∧
      (∀ n, (ofBytes bs).ending = .ok n → n = bs.length ∧ read n (bs.drop n) = .eof n) := by
  have tiles := tiles_read 0 bs
  refine ⟨tiles, fun lx mem => ?_, fun n ended => ?_⟩
  · obtain ⟨-, l, after, dropped, lexes⟩ := tiles.lexeme_at lx mem
    exact ⟨l, after, by rwa [Nat.sub_zero] at dropped, lexes⟩
  · have atEnd : n = bs.length := by
      rw [ending_read ended, Nat.zero_add]
    refine ⟨atEnd, ?_⟩
    rw [atEnd, List.drop_length, read_of_blanks rfl]
    rfl

end JsonProbe.TokenStream
