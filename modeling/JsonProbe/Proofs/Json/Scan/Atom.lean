import JsonProbe.Proofs.Json.Lexical
import Mathlib.Data.List.TakeWhile
/-! # Scanning numbers and words

The scanner reads a number greedily, as `-? digits ('.' digits)? ([eE] [+-]? digits)?` with every
run of digits possibly empty, and judges the result afterwards.  It accepts exactly the
spellings of numbers (`NumberLit`), provided that the byte after the number cannot continue it
(`numberText_encodeList_append`, `numberText_sound`): a digit, a point or an exponent letter would have been read too.  A word
is the longest run of letters, digits and underscores, and only `true`, `false` and `null` are
tokens (`ofWord?_sound`, `takeWhile_keyword`).

Numbers and words are ASCII, so their bytes are read here through `toChar`, the character with
the byte's code. -/
set_option autoImplicit false
namespace JsonProbe.Token
open Lexical Utf8

/-! ## ASCII bytes -/

/-- The character whose code is the byte: for an ASCII byte, the character it encodes. -/
def toChar (b : UInt8) : Char := Char.ofNat b.toNat

theorem toNat_toChar (b : UInt8) : (toChar b).toNat = b.toNat :=
  toNat_ofNat_char (by have := b.toNat_lt; omega)

theorem encode_toChar {b : UInt8} (h : b.toNat < 0x80) : encode (toChar b) = [b] := by
  rw [encode_one (by rw [toNat_toChar]; exact h), toNat_toChar, UInt8.ofNat_toNat]

theorem encodeList_map_toChar {bs : List UInt8} (h : ∀ b ∈ bs, b.toNat < 0x80) :
    encodeList (bs.map toChar) = bs := by
  induction bs with
  | nil => rfl
  | cons b bs ih =>
      rw [List.map_cons, encodeList_cons, encode_toChar (h b List.mem_cons_self),
        ih (fun x hx => h x (List.mem_cons_of_mem b hx))]
      rfl

theorem toChar_eq_iff {b : UInt8} {c : Char} (h : c.toNat < 0x80) :
    toChar b = c ↔ b = UInt8.ofNat c.toNat := by
  constructor
  · rintro rfl
    rw [toNat_toChar, UInt8.ofNat_toNat]
  · rintro rfl
    rw [toChar, toNat_ofNat_of_lt (by omega), Char.ofNat_toNat]

theorem isDigit_iff (b : UInt8) : isDigit b = true ↔ IsDigit (toChar b) := by
  have digit : IsDigit (toChar b) ↔ 0x30 ≤ b.toNat ∧ b.toNat ≤ 0x39 := by
    show '0'.toNat ≤ (toChar b).toNat ∧ (toChar b).toNat ≤ '9'.toNat ↔ _
    rw [toNat_toChar]
    rfl
  rw [digit]
  simp [isDigit, UInt8.le_iff_toNat_le]

theorem toNat_lt_of_isDigit {b : UInt8} (h : isDigit b = true) : b.toNat < 0x80 := by
  simp only [isDigit, Bool.and_eq_true, decide_eq_true_eq, UInt8.le_iff_toNat_le] at h
  simp at h
  omega

theorem isDigit_takeWhile {bs : List UInt8} : ∀ x ∈ bs.takeWhile isDigit, isDigit x = true :=
  fun _ hx => List.mem_takeWhile_imp hx

theorem encode_of_isDigit {c : Char} (h : IsDigit c) :
    encode c = [UInt8.ofNat c.toNat] ∧ isDigit (UInt8.ofNat c.toNat) = true := by
  have code : c.toNat < 0x80 := by
    have := h.2
    change c.toNat ≤ 57 at this
    omega
  refine ⟨encode_one code, ?_⟩
  rw [isDigit_iff, (toChar_eq_iff code).mpr rfl]
  exact h

theorem isDigit_encodeList {ds : List Char} (h : ∀ x ∈ ds, IsDigit x) :
    ∀ b ∈ encodeList ds, isDigit b = true := by
  induction ds with
  | nil => simp
  | cons d ds ih =>
      have first := encode_of_isDigit (h d List.mem_cons_self)
      intro b hb
      rw [encodeList_cons, first.1, List.singleton_append, List.mem_cons] at hb
      rcases hb with rfl | hb
      · exact first.2
      · exact ih (fun x hx => h x (List.mem_cons_of_mem d hx)) b hb

/-! ## The parts of a number -/

/-- Where the scan of a number stops: a byte that none of its parts could take. -/
def StopsNumber (more : List UInt8) : Prop :=
  ∀ b ∈ more.head?, isDigit b = false ∧ b ≠ 0x2E ∧ b ≠ 0x65 ∧ b ≠ 0x45

theorem digits_eq_takeWhile (bs : List UInt8) :
    digits bs = (bs.takeWhile isDigit, bs.dropWhile isDigit) := rfl

theorem digits_encodeList_append {ds : List Char} {more : List UInt8}
    (h : ∀ x ∈ ds, IsDigit x) (stop : ∀ b ∈ more.head?, isDigit b = false) :
    digits (encodeList ds ++ more) = (encodeList ds, more) := by
  have whole := isDigit_encodeList h
  have none : more.takeWhile isDigit = [] := by
    cases more with
    | nil => rfl
    | cons b more => exact List.takeWhile_cons_of_neg (by simp [stop b rfl])
  have all : more.dropWhile isDigit = more := by
    cases more with
    | nil => rfl
    | cons b more => exact List.dropWhile_cons_of_neg (by simp [stop b rfl])
  rw [digits_eq_takeWhile, List.takeWhile_append_of_pos whole, List.dropWhile_append_of_pos whole,
    none, all, List.append_nil]

theorem fraction_nil : fraction [] = ([], true) := rfl

theorem fraction_point (rest : List UInt8) :
    fraction (0x2E :: rest) = (0x2E :: (digits rest).1, !(digits rest).1.isEmpty) := rfl

theorem fraction_of_ne {b : UInt8} (rest : List UInt8) (h : b ≠ 0x2E) :
    fraction (b :: rest) = ([], true) := by
  simp only [fraction]
  split
  · rename_i same
    simp only [List.cons.injEq] at same
    exact absurd same.1 h
  · rfl

theorem fraction_sound {bs frac : List UInt8} (h : fraction bs = (frac, true)) :
    ∃ after, bs = frac ++ after ∧ (∀ x ∈ frac, x.toNat < 0x80) ∧ Fraction (frac.map toChar) := by
  cases bs with
  | nil =>
      rw [fraction_nil] at h
      cases h
      exact ⟨[], rfl, by simp, Fraction.none⟩
  | cons b rest =>
      by_cases point : b = 0x2E
      · subst point
        rw [fraction_point, Prod.mk.injEq] at h
        obtain ⟨rfl, nonempty⟩ := h
        refine ⟨rest.dropWhile isDigit, ?_, ?_, ?_⟩
        · rw [digits_eq_takeWhile, List.cons_append, List.takeWhile_append_dropWhile]
        · intro x hx
          rcases List.mem_cons.mp hx with rfl | hx
          · decide
          · exact toNat_lt_of_isDigit (isDigit_takeWhile x hx)
        · rw [List.map_cons]
          refine Fraction.point ?_ ?_
          · simpa [digits_eq_takeWhile] using nonempty
          · intro x hx
            obtain ⟨y, hy, rfl⟩ := List.mem_map.mp hx
            exact (isDigit_iff y).mp (isDigit_takeWhile y hy)
      · rw [fraction_of_ne rest point] at h
        cases h
        exact ⟨b :: rest, rfl, by simp, Fraction.none⟩

theorem fraction_encodeList_append {frac : List Char} {more : List UInt8} (h : Fraction frac)
    (stop : ∀ b ∈ more.head?, isDigit b = false ∧ b ≠ 0x2E) :
    fraction (encodeList frac ++ more) = (encodeList frac, true) := by
  cases h with
  | none =>
      cases more with
      | nil => rfl
      | cons b more => exact fraction_of_ne more (stop b rfl).2
  | point nonempty digits =>
      have point : encode '.' = [0x2E] := rfl
      rw [encodeList_cons, point, List.singleton_append, List.cons_append, fraction_point,
        digits_encodeList_append digits (fun b hb => (stop b hb).1)]
      simp [encodeList_eq_nil_iff, nonempty]

theorem exponent_nil : exponent [] = ([], true) := rfl

theorem exponent_of_not_mark {e : UInt8} (rest : List UInt8) (h : e ≠ 0x65 ∧ e ≠ 0x45) :
    exponent (e :: rest) = ([], true) := by
  simp only [exponent]
  rw [if_neg (by simp [h.1, h.2])]

theorem exponent_mark_nil {e : UInt8} (h : e = 0x65 ∨ e = 0x45) : exponent [e] = ([e], false) := by
  simp only [exponent]
  rw [if_pos (by rcases h with rfl | rfl <;> decide)]

theorem exponent_signed {e s : UInt8} (more : List UInt8) (mark : e = 0x65 ∨ e = 0x45)
    (sign : s = 0x2B ∨ s = 0x2D) :
    exponent (e :: s :: more) = (e :: s :: (digits more).1, !(digits more).1.isEmpty) := by
  simp only [exponent]
  rw [if_pos (by rcases mark with rfl | rfl <;> decide),
    if_pos (by rcases sign with rfl | rfl <;> decide)]

theorem exponent_unsigned {e s : UInt8} (more : List UInt8) (mark : e = 0x65 ∨ e = 0x45)
    (sign : s ≠ 0x2B ∧ s ≠ 0x2D) :
    exponent (e :: s :: more) =
      (e :: (digits (s :: more)).1, !(digits (s :: more)).1.isEmpty) := by
  simp only [exponent]
  rw [if_pos (by rcases mark with rfl | rfl <;> decide), if_neg (by simp [sign.1, sign.2])]

theorem isDigit_map_takeWhile (bs : List UInt8) :
    ∀ x ∈ (bs.takeWhile isDigit).map toChar, IsDigit x := by
  intro x hx
  obtain ⟨y, hy, rfl⟩ := List.mem_map.mp hx
  exact (isDigit_iff y).mp (isDigit_takeWhile y hy)

theorem exponent_sound {bs exp : List UInt8} (h : exponent bs = (exp, true)) :
    ∃ after, bs = exp ++ after ∧ (∀ x ∈ exp, x.toNat < 0x80) ∧ Exponent (exp.map toChar) := by
  cases bs with
  | nil =>
      rw [exponent_nil] at h
      cases h
      exact ⟨[], rfl, by simp, Exponent.none⟩
  | cons e rest =>
      by_cases mark : e = 0x65 ∨ e = 0x45
      · have letter : toChar e = 'e' ∨ toChar e = 'E' := by rcases mark with rfl | rfl <;> decide
        have markAscii : e.toNat < 0x80 := by rcases mark with rfl | rfl <;> decide
        cases rest with
        | nil =>
            rw [exponent_mark_nil mark] at h
            cases h
        | cons s more =>
            by_cases sign : s = 0x2B ∨ s = 0x2D
            · rw [exponent_signed more mark sign, Prod.mk.injEq] at h
              obtain ⟨rfl, nonempty⟩ := h
              have signChar : toChar s = '+' ∨ toChar s = '-' := by
                rcases sign with rfl | rfl <;> decide
              have signAscii : s.toNat < 0x80 := by rcases sign with rfl | rfl <;> decide
              refine ⟨more.dropWhile isDigit, by simp [digits_eq_takeWhile], ?_, ?_⟩
              · intro x hx
                simp only [List.mem_cons] at hx
                rcases hx with rfl | rfl | hx
                · exact markAscii
                · exact signAscii
                · exact toNat_lt_of_isDigit (isDigit_takeWhile x hx)
              · have spelled := @Exponent.mark _ [toChar s] _ letter
                  (by rcases signChar with same | same <;> simp [same])
                  (by simpa [digits_eq_takeWhile] using nonempty) (isDigit_map_takeWhile more)
                simpa [digits_eq_takeWhile] using spelled
            · rw [exponent_unsigned more mark (not_or.mp sign), Prod.mk.injEq] at h
              obtain ⟨rfl, nonempty⟩ := h
              refine ⟨(s :: more).dropWhile isDigit, ?_, ?_, ?_⟩
              · rw [digits_eq_takeWhile, List.cons_append, List.takeWhile_append_dropWhile]
              · intro x hx
                rcases List.mem_cons.mp hx with rfl | hx
                · exact markAscii
                · exact toNat_lt_of_isDigit (isDigit_takeWhile x hx)
              · have spelled := @Exponent.mark _ [] _ letter (Or.inl rfl)
                  (by simpa [digits_eq_takeWhile] using nonempty) (isDigit_map_takeWhile (s :: more))
                simpa [digits_eq_takeWhile] using spelled
      · rw [exponent_of_not_mark rest (not_or.mp mark)] at h
        cases h
        exact ⟨e :: rest, rfl, by simp, Exponent.none⟩

theorem exponent_encodeList_append {exp : List Char} {more : List UInt8} (h : Exponent exp)
    (stop : ∀ b ∈ more.head?, isDigit b = false ∧ b ≠ 0x65 ∧ b ≠ 0x45) :
    exponent (encodeList exp ++ more) = (encodeList exp, true) := by
  cases h with
  | none =>
      cases more with
      | nil => rfl
      | cons b more => exact exponent_of_not_mark more (stop b rfl).2
  | @mark e sign ds letter signed nonempty digits =>
      have markByte : ∃ m, encode e = [m] ∧ (m = 0x65 ∨ m = 0x45) := by
        rcases letter with rfl | rfl
        · exact ⟨0x65, rfl, Or.inl rfl⟩
        · exact ⟨0x45, rfl, Or.inr rfl⟩
      obtain ⟨m, markEnc, mark⟩ := markByte
      obtain ⟨d, ds', rfl⟩ := List.exists_cons_of_ne_nil nonempty
      obtain ⟨digitEnc, digitByte⟩ := encode_of_isDigit (digits d List.mem_cons_self)
      have run := digits_encodeList_append digits (fun b hb => (stop b hb).1)
      rw [encodeList_cons, digitEnc, List.singleton_append, List.cons_append] at run
      rcases signed with rfl | rfl | rfl
      · have notSign : UInt8.ofNat d.toNat ≠ 0x2B ∧ UInt8.ofNat d.toNat ≠ 0x2D := by
          constructor <;> (intro same; rw [same] at digitByte; exact absurd digitByte (by decide))
        simp only [encodeList_cons, markEnc, digitEnc, List.nil_append, List.cons_append]
        rw [exponent_unsigned _ mark notSign, run]
        rfl
      · have plus : encode '+' = [0x2B] := rfl
        simp only [encodeList_cons, markEnc, digitEnc, plus, List.cons_append, List.nil_append]
        rw [exponent_signed _ mark (Or.inl rfl), run]
        rfl
      · have minus : encode '-' = [0x2D] := rfl
        simp only [encodeList_cons, markEnc, digitEnc, minus, List.cons_append, List.nil_append]
        rw [exponent_signed _ mark (Or.inr rfl), run]
        rfl

/-! ## Numbers -/

theorem digit_one_to_nine {b : UInt8} (digit : isDigit b = true) (notZero : b ≠ 0x30) :
    '1' ≤ toChar b ∧ toChar b ≤ '9' := by
  have range : 0x30 ≤ b.toNat ∧ b.toNat ≤ 0x39 := by
    simpa [isDigit, UInt8.le_iff_toNat_le] using digit
  have notZero' : b.toNat ≠ 0x30 := fun same => notZero (UInt8.toNat_inj.mp same)
  show (49 : Nat) ≤ (toChar b).toNat ∧ (toChar b).toNat ≤ 57
  rw [toNat_toChar]
  omega

theorem integerPart_of_integerOk {int : List UInt8} (digits : ∀ x ∈ int, isDigit x = true)
    (ok : integerOk int = true) : IntegerPart (int.map toChar) := by
  match int, digits, ok with
  | [d], digits, _ =>
      by_cases zero : d = 0x30
      · subst zero
        exact IntegerPart.zero
      · exact IntegerPart.lead (digit_one_to_nine (digits d List.mem_cons_self) zero) (by simp)
  | d :: d' :: ds, digits, ok =>
      have notZero : d ≠ 0x30 := by simpa [integerOk] using ok
      exact IntegerPart.lead (digit_one_to_nine (digits d List.mem_cons_self) notZero)
        (fun x hx => by
          obtain ⟨y, hy, rfl⟩ := List.mem_map.mp hx
          exact (isDigit_iff y).mp (digits y (List.mem_cons_of_mem d hy)))

theorem integerOk_encodeList {int : List Char} (h : IntegerPart int) :
    integerOk (encodeList int) = true := by
  cases h with
  | zero => rfl
  | @lead d ds first digits =>
      have code : d.toNat < 0x80 := by
        have := first.2
        change d.toNat ≤ 57 at this
        omega
      rw [encodeList_cons, encode_one code, List.singleton_append]
      cases bytes : encodeList ds with
      | nil => rfl
      | cons b bs =>
          have notZero : UInt8.ofNat d.toNat ≠ 0x30 := by
            intro same
            have code := congrArg UInt8.toNat same
            rw [toNat_ofNat_of_lt (by omega)] at code
            simp only [UInt8.reduceToNat] at code
            have := first.1
            change 49 ≤ d.toNat at this
            omega
          simp [integerOk, notZero]

/-- The number scan after its optional minus: the digits, the fraction and the exponent, and
whether each part is acceptable. -/
def unsignedText (body : List UInt8) : List UInt8 × Bool :=
  ((digits body).1 ++ (fraction (digits body).2).1 ++
      (exponent ((digits body).2.drop (fraction (digits body).2).1.length)).1,
    integerOk (digits body).1 && (fraction (digits body).2).2 &&
      (exponent ((digits body).2.drop (fraction (digits body).2).1.length)).2)

theorem numberText_minus (rest : List UInt8) :
    numberText (0x2D :: rest) = (0x2D :: (unsignedText rest).1, (unsignedText rest).2) := by
  simp only [numberText, unsignedText, List.cons_append, List.nil_append]

theorem numberText_of_ne {b : UInt8} (rest : List UInt8) (h : b ≠ 0x2D) :
    numberText (b :: rest) = unsignedText (b :: rest) := by
  simp only [numberText]
  split
  · rename_i same
    simp only [List.cons.injEq] at same
    exact absurd same.1 h
  · rfl

theorem unsignedText_sound {body text : List UInt8} (h : unsignedText body = (text, true)) :
    ∃ after, body = text ++ after ∧ (∀ x ∈ text, x.toNat < 0x80) ∧
      ∃ int frac exp, text.map toChar = int ++ frac ++ exp ∧ IntegerPart int ∧ Fraction frac ∧
        Exponent exp := by
  simp only [unsignedText] at h
  generalize scanned : digits body = intPart at h
  obtain ⟨int, afterInt⟩ := intPart
  generalize fracScanned : fraction afterInt = fracPart at h
  obtain ⟨frac, fracOk⟩ := fracPart
  generalize expScanned : exponent (afterInt.drop frac.length) = expPart at h
  obtain ⟨exp, expOk⟩ := expPart
  simp only [Prod.mk.injEq, Bool.and_eq_true] at h
  obtain ⟨rfl, ⟨intOk, rfl⟩, rfl⟩ := h
  rw [digits_eq_takeWhile, Prod.mk.injEq] at scanned
  obtain ⟨rfl, rfl⟩ := scanned
  obtain ⟨afterFrac, fracFront, fracAscii, fracSpelled⟩ := fraction_sound fracScanned
  rw [fracFront, List.drop_left] at expScanned
  obtain ⟨afterExp, expFront, expAscii, expSpelled⟩ := exponent_sound expScanned
  refine ⟨afterExp, ?_, ?_, ?_⟩
  · conv_lhs => rw [← List.takeWhile_append_dropWhile (p := isDigit) (l := body), fracFront,
      expFront]
    simp only [List.append_assoc]
  · intro x hx
    simp only [List.mem_append] at hx
    rcases hx with (hx | hx) | hx
    · exact toNat_lt_of_isDigit (isDigit_takeWhile x hx)
    · exact fracAscii x hx
    · exact expAscii x hx
  · exact ⟨_, _, _, by simp only [List.map_append],
      integerPart_of_integerOk isDigit_takeWhile intOk, fracSpelled, expSpelled⟩

theorem stops_after_exponent {exp : List Char} {more : List UInt8} (h : Exponent exp)
    (stop : StopsNumber more) :
    ∀ b ∈ (encodeList exp ++ more).head?, isDigit b = false ∧ b ≠ 0x2E := by
  cases h with
  | none => exact fun b hb => ⟨(stop b hb).1, (stop b hb).2.1⟩
  | mark letter =>
      intro b hb
      rcases letter with rfl | rfl
      · have mark : encode 'e' = [0x65] := rfl
        simp only [encodeList_cons, mark, List.cons_append, List.nil_append, List.head?_cons,
          Option.mem_def, Option.some.injEq] at hb
        subst hb
        decide
      · have mark : encode 'E' = [0x45] := rfl
        simp only [encodeList_cons, mark, List.cons_append, List.nil_append, List.head?_cons,
          Option.mem_def, Option.some.injEq] at hb
        subst hb
        decide

theorem stops_after_fraction {frac exp : List Char} {more : List UInt8} (fracP : Fraction frac)
    (expP : Exponent exp) (stop : StopsNumber more) :
    ∀ b ∈ (encodeList frac ++ (encodeList exp ++ more)).head?, isDigit b = false := by
  cases fracP with
  | none => exact fun b hb => (stops_after_exponent expP stop b hb).1
  | point =>
      intro b hb
      have point : encode '.' = [0x2E] := rfl
      simp only [encodeList_cons, point, List.cons_append, List.nil_append, List.head?_cons,
        Option.mem_def, Option.some.injEq] at hb
      subst hb
      decide

theorem unsignedText_encodeList_append {int frac exp : List Char} {more : List UInt8}
    (intP : IntegerPart int) (fracP : Fraction frac) (expP : Exponent exp) (stop : StopsNumber more) :
    unsignedText (encodeList int ++ (encodeList frac ++ (encodeList exp ++ more))) =
      (encodeList int ++ encodeList frac ++ encodeList exp, true) := by
  have afterExp : ∀ b ∈ more.head?, isDigit b = false ∧ b ≠ 0x65 ∧ b ≠ 0x45 :=
    fun b hb => ⟨(stop b hb).1, (stop b hb).2.2⟩
  simp only [unsignedText]
  rw [digits_encodeList_append intP.digits (stops_after_fraction fracP expP stop),
    fraction_encodeList_append fracP (stops_after_exponent expP stop), List.drop_left,
    exponent_encodeList_append expP afterExp, integerOk_encodeList intP]
  rfl

theorem numberText_encodeList_append {cs : List Char} {more : List UInt8} (h : NumberLit cs)
    (stop : StopsNumber more) : numberText (encodeList cs ++ more) = (encodeList cs, true) := by
  obtain ⟨minus, int, frac, exp, rfl, minusShape, intP, fracP, expP⟩ := h
  have unsigned := unsignedText_encodeList_append intP fracP expP stop
  simp only [encodeList_append, List.append_assoc] at unsigned ⊢
  rcases minusShape with rfl | rfl
  · -- without a minus the number starts with a digit
    obtain ⟨d, ds, rfl⟩ := List.exists_cons_of_ne_nil intP.ne_nil
    obtain ⟨digitEnc, digitByte⟩ := encode_of_isDigit (intP.digits d List.mem_cons_self)
    have notMinus : UInt8.ofNat d.toNat ≠ 0x2D := by
      intro same
      rw [same] at digitByte
      exact absurd digitByte (by decide)
    simp only [encodeList_cons, digitEnc, List.cons_append, encodeList_nil,
      List.nil_append] at unsigned ⊢
    rw [numberText_of_ne _ notMinus, unsigned]
  · have minusEnc : encode '-' = [0x2D] := rfl
    simp only [encodeList_cons, minusEnc, encodeList_nil, List.nil_append, List.cons_append]
    rw [numberText_minus, unsigned]

theorem numberLit_head {cs : List Char} (h : NumberLit cs) :
    ∃ b tail, encodeList cs = b :: tail ∧ (b = 0x2D ∨ isDigit b = true) := by
  obtain ⟨minus, int, frac, exp, rfl, minusShape, intP, -, -⟩ := h
  rcases minusShape with rfl | rfl
  · obtain ⟨d, ds, rfl⟩ := List.exists_cons_of_ne_nil intP.ne_nil
    obtain ⟨digitEnc, digitByte⟩ := encode_of_isDigit (intP.digits d List.mem_cons_self)
    refine ⟨UInt8.ofNat d.toNat, encodeList ds ++ encodeList frac ++ encodeList exp, ?_,
      .inr digitByte⟩
    simp only [List.nil_append, encodeList_append, encodeList_cons, digitEnc, List.cons_append,
      List.append_assoc]
  · refine ⟨0x2D, encodeList int ++ encodeList frac ++ encodeList exp, ?_, .inl rfl⟩
    have minusEnc : encode '-' = [0x2D] := rfl
    simp only [encodeList_append, encodeList_cons, minusEnc, List.cons_append, List.nil_append,
      List.append_assoc]

theorem numberText_sound {bs text : List UInt8} (h : numberText bs = (text, true)) :
    ∃ cs after, bs = encodeList cs ++ after ∧ text = encodeList cs ∧ NumberLit cs := by
  have signed : ∃ minus body, bs = minus ++ body ∧ (minus = [] ∨ minus = [0x2D]) ∧
      ∃ unsigned, unsignedText body = (unsigned, true) ∧ text = minus ++ unsigned := by
    cases bs with
    | nil => exact ⟨[], [], rfl, Or.inl rfl, text, h, rfl⟩
    | cons b rest =>
        by_cases minus : b = 0x2D
        · subst minus
          rw [numberText_minus, Prod.mk.injEq] at h
          exact ⟨[0x2D], rest, rfl, Or.inr rfl, _, Prod.ext rfl h.2, h.1.symm⟩
        · rw [numberText_of_ne rest minus] at h
          exact ⟨[], b :: rest, rfl, Or.inl rfl, text, h, rfl⟩
  obtain ⟨minus, body, rfl, minusShape, unsigned, scanned, rfl⟩ := signed
  obtain ⟨after, rfl, ascii, int, frac, exp, chars, intP, fracP, expP⟩ := unsignedText_sound scanned
  have allAscii : ∀ x ∈ minus ++ unsigned, x.toNat < 0x80 := by
    intro x hx
    rcases List.mem_append.mp hx with hx | hx
    · rcases minusShape with rfl | rfl
      · cases hx
      · rw [List.mem_singleton.mp hx]
        decide
    · exact ascii x hx
  refine ⟨(minus ++ unsigned).map toChar, after, ?_, ?_, ?_⟩
  · rw [encodeList_map_toChar allAscii, List.append_assoc]
  · rw [encodeList_map_toChar allAscii]
  · refine ⟨minus.map toChar, int, frac, exp, ?_, ?_, intP, fracP, expP⟩
    · rw [List.map_append, chars]
      simp only [List.append_assoc]
    · rcases minusShape with rfl | rfl
      · exact Or.inl rfl
      · exact Or.inr rfl

/-! ## Words -/

/-- Where the scan of a word stops: a byte that is no letter, digit or underscore. -/
def StopsWord (more : List UInt8) : Prop :=
  ∀ b ∈ more.head?, isWordByte b = false

theorem encodeList_true : encodeList ['t', 'r', 'u', 'e'] = [0x74, 0x72, 0x75, 0x65] := rfl

theorem encodeList_false :
    encodeList ['f', 'a', 'l', 's', 'e'] = [0x66, 0x61, 0x6C, 0x73, 0x65] := rfl

theorem encodeList_null : encodeList ['n', 'u', 'l', 'l'] = [0x6E, 0x75, 0x6C, 0x6C] := rfl

theorem ofWord?_sound {word : List UInt8} {t : Token} (h : ofWord? word = some t) :
    ∃ sp, word = encodeList sp ∧ Spells sp t := by
  unfold ofWord? at h
  split_ifs at h with isTrue isFalse isNull <;> cases h
  · exact ⟨_, isTrue.trans encodeList_true.symm, Spells.true⟩
  · exact ⟨_, isFalse.trans encodeList_false.symm, Spells.false⟩
  · exact ⟨_, isNull.trans encodeList_null.symm, Spells.null⟩

theorem takeWhile_keyword {sp : List Char} {t : Token} (more : List UInt8)
    (keyword : (sp = ['t', 'r', 'u', 'e'] ∧ t = .boolean true) ∨
      (sp = ['f', 'a', 'l', 's', 'e'] ∧ t = .boolean false) ∨
      (sp = ['n', 'u', 'l', 'l'] ∧ t = .null))
    (stop : StopsWord more) :
    (encodeList sp ++ more).takeWhile isWordByte = encodeList sp ∧
      ofWord? (encodeList sp) = some t := by
  have none : more.takeWhile isWordByte = [] := by
    cases more with
    | nil => rfl
    | cons b more => exact List.takeWhile_cons_of_neg (by simp [stop b rfl])
  rcases keyword with ⟨rfl, rfl⟩ | ⟨rfl, rfl⟩ | ⟨rfl, rfl⟩
  · rw [encodeList_true, List.takeWhile_append_of_pos (by simp [isWordByte, isLetter]), none,
      List.append_nil]
    exact ⟨rfl, by decide⟩
  · rw [encodeList_false, List.takeWhile_append_of_pos (by simp [isWordByte, isLetter]), none,
      List.append_nil]
    exact ⟨rfl, by decide⟩
  · rw [encodeList_null, List.takeWhile_append_of_pos (by simp [isWordByte, isLetter]), none,
      List.append_nil]
    exact ⟨rfl, by decide⟩

end JsonProbe.Token
