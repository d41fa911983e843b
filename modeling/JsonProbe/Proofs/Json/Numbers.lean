import JsonProbe.Proofs.Json.Tiling
/-! # The number scan

A token that starts with a minus or a digit is scanned as a number.  The scan takes the longest
prefix of the bytes of the form `-? D* ('.' D*)? ([eE] [+-]? D*)?` (`NumberForm`; it is the
language of the automaton `NumberPart`, `numberShape_iff`), and only then judges what it took:
the bytes are a token exactly when they spell a JSON number (`NumberLit`), and are otherwise
reported as a malformed number, with those bytes as its text, at the offset where it starts
(`number_token_is_judged_longest_prefix`).

The judgement looks at nothing but the bytes taken: scanning them again gives the same bytes and
the same verdict (`numberText_numberText`), because each part of the scan stops at a byte that
only the parts after it may begin with. -/
set_option autoImplicit false
namespace JsonProbe.Token
open Lexical Utf8

/-! ## The form of the bytes a number scan takes -/

/-- Digits only, possibly none. -/
def DigitRun (bs : List UInt8) : Prop :=
  ∀ x ∈ bs, isDigit x = true

/-- An optional sign and digits. -/
def SignedRun (bs : List UInt8) : Prop :=
  ∃ sign ds, bs = sign ++ ds ∧ (sign = [] ∨ sign = [0x2B] ∨ sign = [0x2D]) ∧ DigitRun ds

/-- Nothing, or a point and digits. -/
def FractionForm (bs : List UInt8) : Prop :=
  bs = [] ∨ ∃ ds, bs = 0x2E :: ds ∧ DigitRun ds

/-- Nothing, or `e` or `E`, an optional sign and digits. -/
def ExponentForm (bs : List UInt8) : Prop :=
  bs = [] ∨ ∃ e rest, bs = e :: rest ∧ (e = 0x65 ∨ e = 0x45) ∧ SignedRun rest

/-- Digits, a fraction and an exponent, each of which may be empty. -/
def UnsignedForm (bs : List UInt8) : Prop :=
  ∃ ds frac exp, bs = ds ++ frac ++ exp ∧ DigitRun ds ∧ FractionForm frac ∧ ExponentForm exp

/-- The bytes a number scan may take: `-? D* ('.' D*)? ([eE] [+-]? D*)?`. -/
def NumberForm (bs : List UInt8) : Prop :=
  ∃ minus body, bs = minus ++ body ∧ (minus = [] ∨ minus = [0x2D]) ∧ UnsignedForm body

theorem digitRun_cons {b : UInt8} {bs : List UInt8} :
    DigitRun (b :: bs) ↔ isDigit b = true ∧ DigitRun bs := by
  simp [DigitRun]

theorem not_isDigit_of_mark {b : UInt8} (h : b = 0x65 ∨ b = 0x45) : isDigit b = false := by
  rcases h with rfl | rfl <;> rfl

/-! Each form read one byte at a time: what its first byte may be, and what must follow. -/

theorem signedRun_cons {b : UInt8} {bs : List UInt8} :
    SignedRun (b :: bs) ↔ (isDigit b = true ∨ b = 0x2B ∨ b = 0x2D) ∧ DigitRun bs := by
  constructor
  · rintro ⟨sign, ds, split, signed, digits⟩
    rcases signed with rfl | rfl | rfl
    · rw [List.nil_append] at split
      subst split
      exact ⟨.inl (digitRun_cons.mp digits).1, (digitRun_cons.mp digits).2⟩
    · obtain ⟨rfl, rfl⟩ := List.cons.inj split
      exact ⟨.inr (.inl rfl), digits⟩
    · obtain ⟨rfl, rfl⟩ := List.cons.inj split
      exact ⟨.inr (.inr rfl), digits⟩
  · rintro ⟨digit | sign, digits⟩
    · exact ⟨[], b :: bs, rfl, .inl rfl, digitRun_cons.mpr ⟨digit, digits⟩⟩
    · refine ⟨[b], bs, rfl, ?_, digits⟩
      rcases sign with rfl | rfl
      · exact .inr (.inl rfl)
      · exact .inr (.inr rfl)

theorem exponentForm_cons {b : UInt8} {bs : List UInt8} :
    ExponentForm (b :: bs) ↔ (b = 0x65 ∨ b = 0x45) ∧ SignedRun bs := by
  simp [ExponentForm]

theorem digitsExponent_cons {b : UInt8} {bs : List UInt8} :
    (∃ ds exp, b :: bs = ds ++ exp ∧ DigitRun ds ∧ ExponentForm exp) ↔
      (isDigit b = true ∧ ∃ ds exp, bs = ds ++ exp ∧ DigitRun ds ∧ ExponentForm exp) ∨
        ExponentForm (b :: bs) := by
  constructor
  · rintro ⟨ds, exp, split, digits, expForm⟩
    cases ds with
    | nil =>
        rw [List.nil_append] at split
        subst split
        exact .inr expForm
    | cons d ds =>
        obtain ⟨rfl, rfl⟩ := List.cons.inj split
        exact .inl ⟨(digitRun_cons.mp digits).1, ds, exp, rfl, (digitRun_cons.mp digits).2, expForm⟩
  · rintro (⟨digit, ds, exp, rfl, digits, expForm⟩ | expForm)
    · exact ⟨b :: ds, exp, rfl, digitRun_cons.mpr ⟨digit, digits⟩, expForm⟩
    · exact ⟨[], b :: bs, rfl, by simp [DigitRun], expForm⟩

theorem unsignedForm_cons {b : UInt8} {bs : List UInt8} :
    UnsignedForm (b :: bs) ↔
      (isDigit b = true ∧ UnsignedForm bs) ∨
        (b = 0x2E ∧ ∃ ds exp, bs = ds ++ exp ∧ DigitRun ds ∧ ExponentForm exp) ∨
          ExponentForm (b :: bs) := by
  constructor
  · rintro ⟨ds, frac, exp, split, digits, fracForm, expForm⟩
    cases ds with
    | cons d ds =>
        obtain ⟨rfl, rfl⟩ := List.cons.inj split
        exact .inl ⟨(digitRun_cons.mp digits).1, ds, frac, exp, rfl, (digitRun_cons.mp digits).2,
          fracForm, expForm⟩
    | nil =>
        rcases fracForm with rfl | ⟨fs, rfl, fracDigits⟩
        · simp only [List.nil_append] at split
          subst split
          exact .inr (.inr expForm)
        · obtain ⟨rfl, rfl⟩ := List.cons.inj split
          exact .inr (.inl ⟨rfl, fs, exp, rfl, fracDigits, expForm⟩)
  · rintro (⟨digit, ds, frac, exp, rfl, digits, fracForm, expForm⟩ |
      ⟨rfl, ds, exp, rfl, digits, expForm⟩ | expForm)
    · exact ⟨b :: ds, frac, exp, rfl, digitRun_cons.mpr ⟨digit, digits⟩, fracForm, expForm⟩
    · exact ⟨[], 0x2E :: ds, exp, rfl, by simp [DigitRun], .inr ⟨ds, rfl, digits⟩, expForm⟩
    · exact ⟨[], [], b :: bs, rfl, by simp [DigitRun], .inl rfl, expForm⟩

namespace NumberPart

theorem run_cons (q : NumberPart) (b : UInt8) (bs : List UInt8) :
    q.run (b :: bs) = (q.step b).bind fun q' => q'.run bs := rfl

theorem run_exponent_iff (bs : List UInt8) : (exponent.run bs).isSome = true ↔ DigitRun bs := by
  induction bs with
  | nil => simp [run, DigitRun]
  | cons b bs ih =>
      rw [run_cons, digitRun_cons, ← ih]
      by_cases digit : isDigit b = true
      · simp [step, digit]
      · simp [step, digit]

theorem run_mark_iff (bs : List UInt8) : (mark.run bs).isSome = true ↔ SignedRun bs := by
  cases bs with
  | nil => exact ⟨fun _ => ⟨[], [], rfl, .inl rfl, by simp [DigitRun]⟩, fun _ => rfl⟩
  | cons b bs =>
      rw [run_cons, signedRun_cons]
      by_cases starts : isDigit b = true ∨ b = 0x2B ∨ b = 0x2D
      · have stepped : mark.step b = some exponent := by
          rcases starts with digit | rfl | rfl
          · simp [step, digit]
          · rfl
          · rfl
        rw [stepped, Option.bind_some, run_exponent_iff]
        simp [starts]
      · have stopped : mark.step b = none := by
          simp only [not_or] at starts
          simp [step, starts]
        rw [stopped]
        simp [starts]

theorem run_fraction_iff (bs : List UInt8) :
    (fraction.run bs).isSome = true ↔
      ∃ ds exp, bs = ds ++ exp ∧ DigitRun ds ∧ ExponentForm exp := by
  induction bs with
  | nil => exact ⟨fun _ => ⟨[], [], rfl, by simp [DigitRun], .inl rfl⟩, fun _ => rfl⟩
  | cons b bs ih =>
      rw [run_cons, digitsExponent_cons, exponentForm_cons]
      by_cases digit : isDigit b = true
      · -- a digit is no mark
        have notMark : ¬ (b = 0x65 ∨ b = 0x45) := fun isMark =>
          absurd digit (by rw [not_isDigit_of_mark isMark]; decide)
        rw [fraction_stays b digit, Option.bind_some, ih]
        simp [digit, notMark]
      · by_cases isMark : b = 0x65 ∨ b = 0x45
        · have stepped : fraction.step b = some mark := by
            rcases isMark with rfl | rfl <;> rfl
          rw [stepped, Option.bind_some, run_mark_iff]
          simp [digit, isMark]
        · have stopped : fraction.step b = none := by
            simp [step, digit, isMark]
          rw [stopped]
          simp [digit, isMark]

theorem run_integer_iff (bs : List UInt8) :
    (integer.run bs).isSome = true ↔ UnsignedForm bs := by
  induction bs with
  | nil =>
      exact ⟨fun _ => ⟨[], [], [], rfl, by simp [DigitRun], .inl rfl, .inl rfl⟩, fun _ => rfl⟩
  | cons b bs ih =>
      rw [run_cons, unsignedForm_cons, exponentForm_cons]
      by_cases digit : isDigit b = true
      · -- a digit is neither a point nor a mark
        have notPoint : b ≠ 0x2E := fun point => absurd digit (by rw [point]; decide)
        have notMark : ¬ (b = 0x65 ∨ b = 0x45) := fun isMark =>
          absurd digit (by rw [not_isDigit_of_mark isMark]; decide)
        rw [integer_stays b digit, Option.bind_some, ih]
        simp [digit, notPoint, notMark]
      · by_cases point : b = 0x2E
        · subst point
          rw [show integer.step 0x2E = some fraction from rfl, Option.bind_some, run_fraction_iff]
          simp [digit]
        · by_cases isMark : b = 0x65 ∨ b = 0x45
          · have stepped : integer.step b = some mark := by
              rcases isMark with rfl | rfl <;> rfl
            rw [stepped, Option.bind_some, run_mark_iff]
            simp [digit, point, isMark]
          · have stopped : integer.step b = none := by
              simp [step, digit, point, isMark]
            rw [stopped]
            simp [digit, point, isMark]

end NumberPart

theorem numberForm_cons {b : UInt8} {bs : List UInt8} :
    NumberForm (b :: bs) ↔ (b = 0x2D ∧ UnsignedForm bs) ∨ UnsignedForm (b :: bs) := by
  constructor
  · rintro ⟨minus, body, split, signed, unsigned⟩
    rcases signed with rfl | rfl
    · rw [List.nil_append] at split
      subst split
      exact .inr unsigned
    · obtain ⟨rfl, rfl⟩ := List.cons.inj split
      exact .inl ⟨rfl, unsigned⟩
  · rintro (⟨rfl, unsigned⟩ | unsigned)
    · exact ⟨[0x2D], bs, rfl, .inr rfl, unsigned⟩
    · exact ⟨[], b :: bs, rfl, .inl rfl, unsigned⟩

theorem not_unsignedForm_minus (bs : List UInt8) : ¬ UnsignedForm (0x2D :: bs) := by
  have notDigit : isDigit 0x2D = false := rfl
  rw [unsignedForm_cons, exponentForm_cons]
  simp [notDigit]

theorem numberShape_iff (bs : List UInt8) : NumberShape bs ↔ NumberForm bs := by
  cases bs with
  | nil => exact ⟨fun _ => ⟨[], [], rfl, .inl rfl, (NumberPart.run_integer_iff []).mp rfl⟩,
      fun _ => rfl⟩
  | cons b bs =>
      rw [NumberShape, NumberPart.run_cons, numberForm_cons]
      by_cases minus : b = 0x2D
      · subst minus
        rw [show NumberPart.start.step 0x2D = some .integer from rfl, Option.bind_some,
          NumberPart.run_integer_iff]
        simp [not_unsignedForm_minus]
      · -- without a minus, the start reads on as the integer's digits would
        have same : NumberPart.start.step b = NumberPart.integer.step b := by
          simp [NumberPart.step, minus]
        rw [same, ← NumberPart.run_cons, NumberPart.run_integer_iff]
        simp [minus]

/-! ## The verdict depends only on the bytes taken -/

theorem takeWhile_of_head_false {p : UInt8 → Bool} {l : List UInt8}
    (stop : ∀ x ∈ l.head?, p x = false) : l.takeWhile p = [] := by
  cases l with
  | nil => rfl
  | cons x l => exact List.takeWhile_cons_of_neg (by simp [stop x rfl])

theorem dropWhile_of_head_false {p : UInt8 → Bool} {l : List UInt8}
    (stop : ∀ x ∈ l.head?, p x = false) : l.dropWhile p = l := by
  cases l with
  | nil => rfl
  | cons x l => exact List.dropWhile_cons_of_neg (by simp [stop x rfl])

theorem takeWhile_takeWhile_self (p : UInt8 → Bool) (l : List UInt8) :
    (l.takeWhile p).takeWhile p = l.takeWhile p :=
  List.takeWhile_eq_self_iff.mpr fun _ mem => List.mem_takeWhile_imp mem

theorem mem_head?_append {l l' : List UInt8} {x : UInt8} (h : x ∈ (l ++ l').head?) :
    x ∈ l.head? ∨ (l = [] ∧ x ∈ l'.head?) := by
  cases l with
  | nil => exact .inr ⟨rfl, h⟩
  | cons y l => exact .inl h

theorem fraction_head (r : List UInt8) : ∀ x ∈ (fraction r).1.head?, x = 0x2E := by
  intro x mem
  cases r with
  | nil => cases mem
  | cons b rest =>
      by_cases point : b = 0x2E
      · subst point
        rw [fraction_point, List.head?_cons, Option.mem_some_iff] at mem
        exact mem.symm
      · rw [fraction_of_ne rest point] at mem
        cases mem

theorem exponent_head (bs : List UInt8) : ∀ x ∈ (exponent bs).1.head?, x = 0x65 ∨ x = 0x45 := by
  intro x mem
  cases bs with
  | nil => cases mem
  | cons e rest =>
      by_cases isMark : e = 0x65 ∨ e = 0x45
      · have starts : ∃ tail, (exponent (e :: rest)).1 = e :: tail := by
          cases rest with
          | nil => exact ⟨[], by rw [exponent_mark_nil isMark]⟩
          | cons s more =>
              by_cases sign : s = 0x2B ∨ s = 0x2D
              · exact ⟨_, by rw [exponent_signed more isMark sign]⟩
              · exact ⟨_, by rw [exponent_unsigned more isMark (not_or.mp sign)]⟩
        obtain ⟨tail, starts⟩ := starts
        rw [starts, List.head?_cons, Option.mem_some_iff] at mem
        rw [← mem]
        exact isMark
      · rw [exponent_of_not_mark rest (not_or.mp isMark)] at mem
        cases mem

theorem exponent_exponent (bs : List UInt8) : exponent (exponent bs).1 = exponent bs := by
  cases bs with
  | nil => rfl
  | cons e rest =>
      by_cases isMark : e = 0x65 ∨ e = 0x45
      · cases rest with
        | nil =>
            rw [exponent_mark_nil isMark]
            exact exponent_mark_nil isMark
        | cons s more =>
            by_cases sign : s = 0x2B ∨ s = 0x2D
            · rw [exponent_signed more isMark sign, exponent_signed _ isMark sign]
              simp only [digits_eq_takeWhile, takeWhile_takeWhile_self]
            · -- unsigned: the digits after the mark, if any, start with no sign
              rw [exponent_unsigned more isMark (not_or.mp sign), digits_eq_takeWhile]
              cases taken : (s :: more).takeWhile isDigit with
              | nil => exact exponent_mark_nil isMark
              | cons d ds =>
                  have digit : isDigit d = true :=
                    List.mem_takeWhile_imp (taken ▸ List.mem_cons_self)
                  have notSign : d ≠ 0x2B ∧ d ≠ 0x2D := by
                    constructor <;> (intro same; rw [same] at digit; exact absurd digit (by decide))
                  rw [exponent_unsigned ds isMark notSign, ← taken]
                  simp only [digits_eq_takeWhile, takeWhile_takeWhile_self]
      · rw [exponent_of_not_mark rest (not_or.mp isMark)]
        rfl

theorem fraction_append_exponent (r : List UInt8) :
    fraction ((fraction r).1 ++ (exponent (r.drop (fraction r).1.length)).1) = fraction r := by
  cases r with
  | nil => rfl
  | cons b rest =>
      by_cases point : b = 0x2E
      · subst point
        have stop : ∀ x ∈ (exponent (rest.dropWhile isDigit)).1.head?, isDigit x = false :=
          fun x mem => not_isDigit_of_mark (exponent_head _ x mem)
        rw [fraction_point, digits_eq_takeWhile]
        simp only [List.length_cons, List.drop_succ_cons, TokenStream.drop_length_takeWhile,
          List.cons_append]
        rw [fraction_point, digits_eq_takeWhile,
          List.takeWhile_append_of_pos (fun _ mem => List.mem_takeWhile_imp mem),
          takeWhile_of_head_false stop, List.append_nil]
      · rw [fraction_of_ne rest point, List.nil_append, List.length_nil, List.drop_zero]
        cases taken : (exponent (b :: rest)).1 with
        | nil => rfl
        | cons x tail =>
            have isMark := exponent_head (b :: rest) x (by rw [taken]; rfl)
            rw [fraction_of_ne tail (by rcases isMark with rfl | rfl <;> decide)]

theorem head_after_digits (r : List UInt8) :
    ∀ x ∈ ((fraction r).1 ++ (exponent (r.drop (fraction r).1.length)).1).head?,
      isDigit x = false := by
  intro x mem
  rcases mem_head?_append mem with first | ⟨-, second⟩
  · rw [fraction_head r x first]
    rfl
  · exact not_isDigit_of_mark (exponent_head _ x second)

theorem digits_append {ds rest : List UInt8} (digitsOnly : ∀ x ∈ ds, isDigit x = true)
    (stop : ∀ x ∈ rest.head?, isDigit x = false) : digits (ds ++ rest) = (ds, rest) := by
  rw [digits_eq_takeWhile, List.takeWhile_append_of_pos digitsOnly, takeWhile_of_head_false stop,
    List.append_nil, List.dropWhile_append_of_pos digitsOnly, dropWhile_of_head_false stop]

theorem unsignedText_unsignedText (body : List UInt8) :
    unsignedText (unsignedText body).1 = unsignedText body := by
  have digitsOnly : ∀ x ∈ (digits body).1, isDigit x = true :=
    fun _ mem => List.mem_takeWhile_imp mem
  simp only [unsignedText]
  rw [List.append_assoc (digits body).1,
    digits_append digitsOnly (head_after_digits (digits body).2), fraction_append_exponent,
    List.drop_left, exponent_exponent]
  simp only [List.append_assoc]

theorem unsignedText_head (body : List UInt8) :
    ∀ x ∈ (unsignedText body).1.head?, x ≠ 0x2D := by
  intro x mem
  simp only [unsignedText, digits_eq_takeWhile, List.append_assoc] at mem
  rcases mem_head?_append mem with first | ⟨-, later⟩
  · -- a digit
    have digit := List.mem_takeWhile_imp (List.mem_of_mem_head? first)
    intro same
    rw [same] at digit
    exact absurd digit (by decide)
  · have notDigit := head_after_digits (body.dropWhile isDigit) x later
    intro same
    rcases mem_head?_append later with second | ⟨-, third⟩
    · rw [fraction_head _ x second] at same
      cases same
    · rcases exponent_head _ x third with rfl | rfl <;> cases same

theorem numberText_of_head {bs : List UInt8} (h : ∀ x ∈ bs.head?, x ≠ 0x2D) :
    numberText bs = unsignedText bs := by
  cases bs with
  | nil => rfl
  | cons b rest => exact numberText_of_ne rest (h b rfl)

theorem numberText_numberText (bs : List UInt8) : numberText (numberText bs).1 = numberText bs := by
  cases bs with
  | nil => rfl
  | cons b rest =>
      by_cases minus : b = 0x2D
      · subst minus
        rw [numberText_minus, numberText_minus, unsignedText_unsignedText]
      · rw [numberText_of_ne rest minus, numberText_of_head (unsignedText_head _),
          unsignedText_unsignedText]

/-! ## The verdict is the number grammar -/

theorem encodeList_injective {cs ds : List Char} (h : encodeList cs = encodeList ds) : cs = ds :=
  Option.some.inj ((decode?_encodeList cs).symm.trans (h ▸ decode?_encodeList ds))

theorem step_ascii {q q' : NumberPart} {b : UInt8} (h : q.step b = some q') : b.toNat < 0x80 := by
  by_cases digit : isDigit b = true
  · exact toNat_lt_of_isDigit digit
  · -- besides digits, the parts take only a minus, a plus, a point and the two marks
    have others : b = 0x2D ∨ b = 0x2B ∨ b = 0x2E ∨ b = 0x65 ∨ b = 0x45 := by
      by_contra none
      obtain ⟨notMinus, notPlus, notPoint, notLower, notUpper⟩ := by simpa only [not_or] using none
      cases q <;> simp [NumberPart.step, digit, notMinus, notPlus, notPoint, notLower, notUpper] at h
    rcases others with rfl | rfl | rfl | rfl | rfl <;> decide

theorem longest_ascii (q : NumberPart) (bs : List UInt8) :
    ∀ x ∈ q.longest bs, x.toNat < 0x80 := by
  induction bs generalizing q with
  | nil => intro x mem; cases mem
  | cons b bs ih =>
      cases stepped : q.step b with
      | none =>
          rw [NumberPart.longest_cons_of_stop stepped]
          intro x mem
          cases mem
      | some q' =>
          rw [NumberPart.longest_cons_of_step stepped]
          intro x mem
          rcases List.mem_cons.mp mem with rfl | later
          · exact step_ascii stepped
          · exact ih q' x later

theorem numberText_snd_iff (bs : List UInt8) :
    (numberText bs).2 = true ↔ NumberLit ((numberText bs).1.map toChar) := by
  have ascii : ∀ x ∈ (numberText bs).1, x.toNat < 0x80 := by
    rw [numberText_fst]
    exact longest_ascii _ _
  have bytes := encodeList_map_toChar ascii
  constructor
  · intro ok
    obtain ⟨cs, -, -, text, lit⟩ :=
      numberText_sound (Prod.ext rfl ok : numberText bs = ((numberText bs).1, true))
    rw [encodeList_injective (bytes.trans text)]
    exact lit
  · intro lit
    -- the spelled number, scanned alone, is judged a number; the verdict is that of `bs`
    have alone := @numberText_encodeList_append _ [] lit (fun _ mem => by cases mem)
    rw [List.append_nil, bytes, numberText_numberText] at alone
    exact congrArg Prod.snd alone

/-! ## A number token -/

/-- Where a token starts with a minus or a digit, after blanks `ws` and at offset `o + ws.length`,
the scan takes the longest prefix of the form `-? D* ('.' D*)? ([eE] [+-]? D*)?`, the bytes of the
characters `cs`.  If they spell a JSON number, they are a number token with `cs` as its text, and
the next token is read from the bytes after them; otherwise reading fails there with a malformed
number whose text is `cs`, reported where it starts. -/
theorem number_token_is_judged_longest_prefix (o : Nat) {ws : List UInt8} {b : UInt8}
    (rest : List UInt8) (blank : ∀ x ∈ ws, isBlank x = true) (start : b = 0x2D ∨ isDigit b = true) :
    ∃ cs after, b :: rest = encodeList cs ++ after ∧ NumberForm (encodeList cs) ∧
      (∀ m, m <+: b :: rest → NumberForm m → m.length ≤ (encodeList cs).length) ∧
      (NumberLit cs → TokenStream.read o (ws ++ b :: rest) =
        .cons ⟨.number (String.ofList cs), o + ws.length⟩
          (TokenStream.read (o + ws.length + (encodeList cs).length) after)) ∧
      (¬ NumberLit cs → TokenStream.read o (ws ++ b :: rest) =
        .failure (.invalidNumber (String.ofList cs) (o + ws.length))) := by
  have ascii : ∀ x ∈ (numberText (b :: rest)).1, x.toNat < 0x80 := by
    rw [numberText_fst]
    exact longest_ascii _ _
  obtain ⟨cs, named⟩ : ∃ cs, cs = (numberText (b :: rest)).1.map toChar := ⟨_, rfl⟩
  have bytes : encodeList cs = (numberText (b :: rest)).1 := named ▸ encodeList_map_toChar ascii
  have verdict : (numberText (b :: rest)).2 = true ↔ NumberLit cs := named ▸ numberText_snd_iff _
  have stepped : NumberPart.start.step b = some .integer := by
    rcases start with rfl | digit
    · rfl
    · simp [NumberPart.step, digit]
  have taken : encodeList cs = b :: NumberPart.integer.longest rest := by
    rw [bytes, numberText_fst, NumberPart.longest_cons_of_step stepped]
  obtain ⟨after, split⟩ := NumberPart.longest_prefix .integer rest
  have notBlank := not_isBlank_of_numberStart start
  have scanned := scan_of_numberStart (o + ws.length) rest start
  rw [← bytes, bytesText_encodeList] at scanned
  refine ⟨cs, after, ?_, ?_, ?_, ?_, ?_⟩
  · rw [taken, List.cons_append, split]
  · rw [← numberShape_iff, bytes, numberText_fst]
    exact NumberPart.run_longest _ _
  · intro m isPrefix form
    rw [bytes, numberText_fst]
    exact NumberPart.length_le_longest .start (b :: rest) m isPrefix ((numberShape_iff m).mpr form)
  · intro lit
    rw [if_pos (verdict.mpr lit), taken] at scanned
    have dropped : rest.drop (NumberPart.integer.longest rest).length = after :=
      calc rest.drop (NumberPart.integer.longest rest).length
          = (NumberPart.integer.longest rest ++ after).drop
              (NumberPart.integer.longest rest).length := by rw [split]
        _ = after := List.drop_left
    rw [TokenStream.read_blanks_append o blank notBlank scanned, taken, List.length_cons,
      Nat.add_sub_cancel, dropped, Nat.add_assoc (o + ws.length), Nat.add_comm 1]
  · intro notLit
    have rejected : (numberText (b :: rest)).2 = false := by
      simpa using mt verdict.mp notLit
    rw [if_neg (by rw [rejected]; decide)] at scanned
    exact TokenStream.read_blanks_append_failure o blank notBlank scanned

/-- The bytes ` 01,` start a number token after one blank. -/
theorem leading_zero_number_is_judged :
    (∀ x ∈ ([0x20] : List UInt8), isBlank x = true) ∧ ((0x30 : UInt8) = 0x2D ∨ isDigit 0x30 = true) ∧
    ∃ cs after, [0x30, 0x31, 0x2C] = encodeList cs ++ after ∧ NumberForm (encodeList cs) ∧
      (∀ m, m <+: [0x30, 0x31, 0x2C] → NumberForm m → m.length ≤ (encodeList cs).length) ∧
      (NumberLit cs → TokenStream.read 0 ([0x20] ++ [0x30, 0x31, 0x2C]) =
        .cons ⟨.number (String.ofList cs), 0 + 1⟩
          (TokenStream.read (0 + 1 + (encodeList cs).length) after)) ∧
      (¬ NumberLit cs → TokenStream.read 0 ([0x20] ++ [0x30, 0x31, 0x2C]) =
        .failure (.invalidNumber (String.ofList cs) (0 + 1))) :=
  have blank : ∀ x ∈ ([0x20] : List UInt8), isBlank x = true := fun x mem => by
    rw [List.mem_singleton.mp mem]
    rfl
  ⟨blank, Or.inr rfl, number_token_is_judged_longest_prefix 0 [0x31, 0x2C] blank (Or.inr rfl)⟩

end JsonProbe.Token
