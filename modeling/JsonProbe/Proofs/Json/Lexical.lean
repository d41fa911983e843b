import JsonProbe.Proofs.Json.Grammar
import JsonProbe.Proofs.Text.Utf8
/-! # JSON texts

The lexical grammar of RFC 8259 over characters, and what a JSON text is.  A text splits into
tokens with blanks around them (`Spelled`); blanks are space, tab, line feed and carriage return
only.  Each token has its spellings (`Spells`):

* a number is `[ - ] int [ frac ] [ exp ]`, where `int` is `0` or a digit `1`–`9` followed by
  digits, and a fraction or an exponent that is begun has at least one digit;
* a string is a quote, its body, and a quote.  In the body a character stands for itself unless
  it is a quote, a backslash or below U+0020; any character may be written by one of the eight
  one-letter escapes or by `\uXXXX`, and a character above U+FFFF by an escaped surrogate pair,
  high then low.  A surrogate has no other escape.

`JsonText b t` says that the bytes `b` are the UTF-8 encoding of such a text, whose tokens form
one value nested at most `maxDepth` deep, and that this value denotes `t`
(`Grammar.Document`). -/
set_option autoImplicit false
namespace JsonProbe.Lexical

/-- The four characters allowed between tokens. -/
def IsBlank (c : Char) : Prop :=
  c = ' ' ∨ c = '\t' ∨ c = '\n' ∨ c = '\r'

instance (c : Char) : Decidable (IsBlank c) :=
  inferInstanceAs (Decidable (_ ∨ _))

/-- A decimal digit. -/
def IsDigit (c : Char) : Prop :=
  '0' ≤ c ∧ c ≤ '9'

instance (c : Char) : Decidable (IsDigit c) :=
  inferInstanceAs (Decidable (_ ∧ _))

/-! ## Numbers -/

/-- The integer part of a number: `0`, or a digit `1`–`9` followed by digits. -/
inductive IntegerPart : List Char → Prop where
  | zero : IntegerPart ['0']
  | lead {d : Char} {ds : List Char} (first : '1' ≤ d ∧ d ≤ '9') (digits : ∀ x ∈ ds, IsDigit x) :
      IntegerPart (d :: ds)

/-- The fraction of a number: nothing, or a point followed by one or more digits. -/
inductive Fraction : List Char → Prop where
  | none : Fraction []
  | point {ds : List Char} (nonempty : ds ≠ []) (digits : ∀ x ∈ ds, IsDigit x) :
      Fraction ('.' :: ds)

/-- The exponent of a number: nothing, or `e` or `E`, an optional sign, and one or more
digits. -/
inductive Exponent : List Char → Prop where
  | none : Exponent []
  | mark {e : Char} {sign ds : List Char} (letter : e = 'e' ∨ e = 'E')
      (signed : sign = [] ∨ sign = ['+'] ∨ sign = ['-']) (nonempty : ds ≠ [])
      (digits : ∀ x ∈ ds, IsDigit x) : Exponent (e :: (sign ++ ds))

theorem IntegerPart.digits {int : List Char} (h : IntegerPart int) : ∀ x ∈ int, IsDigit x := by
  cases h with
  | zero => intro x hx; rw [List.mem_singleton.mp hx]; decide
  | lead first digits =>
      intro x hx
      rcases List.mem_cons.mp hx with rfl | hx
      · exact ⟨le_trans (by decide) first.1, first.2⟩
      · exact digits x hx

theorem IntegerPart.ne_nil {int : List Char} (h : IntegerPart int) : int ≠ [] := by
  cases h <;> simp

/-- A number: an optional minus, an integer part, a fraction and an exponent. -/
def NumberLit (cs : List Char) : Prop :=
  ∃ minus int frac exp, cs = minus ++ int ++ frac ++ exp ∧ (minus = [] ∨ minus = ['-']) ∧
    IntegerPart int ∧ Fraction frac ∧ Exponent exp

theorem NumberLit.ne_nil {cs : List Char} (h : NumberLit cs) : cs ≠ [] := by
  obtain ⟨minus, int, frac, exp, rfl, -, intP, -, -⟩ := h
  simp [intP.ne_nil]

/-! ## Strings -/

/-- The value of a hexadecimal digit of either case. -/
def hexDigit? (c : Char) : Option Nat :=
  if '0' ≤ c ∧ c ≤ '9' then some (c.toNat - '0'.toNat)
  else if 'A' ≤ c ∧ c ≤ 'F' then some (c.toNat - 'A'.toNat + 10)
  else if 'a' ≤ c ∧ c ≤ 'f' then some (c.toNat - 'a'.toNat + 10)
  else none

/-- Four hexadecimal digits and the code unit they spell, the most significant first. -/
inductive Hex4 : List Char → Nat → Prop where
  | mk {a b c d : Char} {va vb vc vd : Nat} (ha : hexDigit? a = some va)
      (hb : hexDigit? b = some vb) (hc : hexDigit? c = some vc) (hd : hexDigit? d = some vd) :
      Hex4 [a, b, c, d] (((va * 16 + vb) * 16 + vc) * 16 + vd)

theorem toNat_lt_of_hexDigit? {c : Char} {v : Nat} (h : hexDigit? c = some v) : c.toNat < 0x80 := by
  unfold hexDigit? at h
  split_ifs at h with decimal upper lower
  · exact lt_of_le_of_lt decimal.2 (by decide)
  · exact lt_of_le_of_lt upper.2 (by decide)
  · exact lt_of_le_of_lt lower.2 (by decide)

theorem Hex4.ascii {ds : List Char} {n : Nat} (h : Hex4 ds n) : ∀ c ∈ ds, c.toNat < 0x80 := by
  cases h with
  | mk ha hb hc hd =>
      intro x hx
      simp only [List.mem_cons, List.not_mem_nil, or_false] at hx
      rcases hx with rfl | rfl | rfl | rfl
      · exact toNat_lt_of_hexDigit? ha
      · exact toNat_lt_of_hexDigit? hb
      · exact toNat_lt_of_hexDigit? hc
      · exact toNat_lt_of_hexDigit? hd

/-- The character each one-letter escape stands for. -/
def escapeLetter? : Char → Option Char
  | '"' => some '"'
  | '\\' => some '\\'
  | '/' => some '/'
  | 'b' => some '\x08'
  | 'f' => some '\x0c'
  | 'n' => some '\n'
  | 'r' => some '\r'
  | 't' => some '\t'
  | _ => none

/-- A UTF-16 code unit that opens a surrogate pair. -/
def IsHighSurrogate (n : Nat) : Prop := 0xD800 ≤ n ∧ n ≤ 0xDBFF

/-- A UTF-16 code unit that closes a surrogate pair. -/
def IsLowSurrogate (n : Nat) : Prop := 0xDC00 ≤ n ∧ n ≤ 0xDFFF

/-- An escape after its backslash, and the character it stands for. -/
inductive EscapeSpelling : List Char → Char → Prop where
  | letter {e c : Char} (table : escapeLetter? e = some c) : EscapeSpelling [e] c
  | unicode {ds : List Char} {n : Nat} (hex : Hex4 ds n) (scalar : n < 0xD800 ∨ 0xDFFF < n) :
      EscapeSpelling ('u' :: ds) (Char.ofNat n)
  | pair {ds ds' : List Char} {hi lo : Nat} (high : Hex4 ds hi) (low : Hex4 ds' lo)
      (opens : IsHighSurrogate hi) (closes : IsLowSurrogate lo) :
      EscapeSpelling ('u' :: (ds ++ '\\' :: 'u' :: ds'))
        (Char.ofNat (0x10000 + (hi - 0xD800) * 0x400 + (lo - 0xDC00)))

/-- How a string's body may write one character: the character itself, unless it is a quote, a
backslash or a control character, or an escape. -/
inductive CharSpelling : List Char → Char → Prop where
  | raw {c : Char} (notQuote : c ≠ '"') (notBackslash : c ≠ '\\') (printable : 0x20 ≤ c.toNat) :
      CharSpelling [c] c
  | escape {sp : List Char} {c : Char} (escaped : EscapeSpelling sp c) : CharSpelling ('\\' :: sp) c

/-- `StringBody body content`: the body of a string literal and the characters it denotes. -/
inductive StringBody : List Char → List Char → Prop where
  | nil : StringBody [] []
  | cons {sp rest content : List Char} {c : Char} (first : CharSpelling sp c)
      (others : StringBody rest content) : StringBody (sp ++ rest) (c :: content)

theorem StringBody.raw_append {cs body content : List Char}
    (raw : ∀ c ∈ cs, c ≠ '"' ∧ c ≠ '\\' ∧ 0x20 ≤ c.toNat) (h : StringBody body content) :
    StringBody (cs ++ body) (cs ++ content) := by
  induction cs with
  | nil => exact h
  | cons c cs ih =>
      obtain ⟨notQuote, notBackslash, printable⟩ := raw c List.mem_cons_self
      exact @StringBody.cons [c] _ _ _ (CharSpelling.raw notQuote notBackslash printable)
        (ih (fun x hx => raw x (List.mem_cons_of_mem c hx)))

/-! ## Tokens and texts -/

/-- The spellings of each token.  A number keeps its spelling as its text; a string denotes the
characters of its body. -/
inductive Spells : List Char → Token → Prop where
  | lbrace : Spells ['{'] .lbrace
  | rbrace : Spells ['}'] .rbrace
  | lbracket : Spells ['['] .lbracket
  | rbracket : Spells [']'] .rbracket
  | colon : Spells [':'] .colon
  | comma : Spells [','] .comma
  | true : Spells ['t', 'r', 'u', 'e'] (.boolean true)
  | false : Spells ['f', 'a', 'l', 's', 'e'] (.boolean false)
  | null : Spells ['n', 'u', 'l', 'l'] .null
  | number {cs : List Char} (lit : NumberLit cs) : Spells cs (.number (String.ofList cs))
  | string {body content : List Char} (lit : StringBody body content) :
      Spells ('"' :: (body ++ ['"'])) (.string (String.ofList content))

theorem Spells.ne_nil {sp : List Char} {t : Token} (h : Spells sp t) : sp ≠ [] := by
  cases h with
  | number lit => exact lit.ne_nil
  | _ => simp

theorem Spells.token_ne_eof {sp : List Char} {t : Token} (h : Spells sp t) : t ≠ .eof := by
  cases h <;> simp

/-- `Spelled cs ts`: the characters `cs` are the tokens `ts`, each spelled, with blanks before,
between and after them. -/
inductive Spelled : List Char → List Token → Prop where
  | blanks {ws : List Char} (blank : ∀ c ∈ ws, IsBlank c) : Spelled ws []
  | token {ws sp rest : List Char} {t : Token} {ts : List Token} (blank : ∀ c ∈ ws, IsBlank c)
      (spells : Spells sp t) (others : Spelled rest ts) : Spelled (ws ++ sp ++ rest) (t :: ts)

/-- `JsonText b t`: the bytes `b` are the UTF-8 encoding of a JSON text denoting `t`. -/
def JsonText (b : List UInt8) (t : Term) : Prop :=
  ∃ cs ts, b = Utf8.encodeList cs ∧ Spelled cs ts ∧ Grammar.Document ts t

end JsonProbe.Lexical
