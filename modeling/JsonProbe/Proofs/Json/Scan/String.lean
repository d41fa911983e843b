import JsonProbe.Proofs.Json.Scan.Atom
/-! # Scanning strings

The string scanner gathers the bytes of a string's content, raw bytes as they are and each escape
as the UTF-8 encoding of the character it stands for, up to the closing quote, and then reads the
gathered bytes strictly as UTF-8.  It accepts exactly the string literals of `Lexical`:

* `stringBody_encodeList_append` runs the scanner over the encoding of a spelled body;
* `stringBody_sound` says what it read when it succeeds: raw bytes and escapes (`Gathered`)
  whose gathered bytes are well-formed, and `Gathered.exists_stringBody` turns that into a
  spelled body of characters.  Raw bytes and escaped encodings may only meet at character
  boundaries, since an encoding never starts with a continuation byte.

Escapes are read by `escape` (`escape_sound`, `escape_encodeList_append`); the hexadecimal
digits of `\u` by `quad?` (`quad?_eq_some_iff`). -/
set_option autoImplicit false
namespace JsonProbe.Token
open Lexical Utf8

/-! ## Hexadecimal digits -/

theorem byteRange_iff {b lo hi : UInt8} {clo chi : Char} (hlo : lo.toNat = clo.toNat)
    (hhi : hi.toNat = chi.toNat) : ((lo ≤ b && b ≤ hi) = true) ↔ clo ≤ toChar b ∧ toChar b ≤ chi := by
  show _ ↔ clo.toNat ≤ (toChar b).toNat ∧ (toChar b).toNat ≤ chi.toNat
  rw [toNat_toChar, ← hlo, ← hhi]
  simp [UInt8.le_iff_toNat_le]

theorem hexValue?_eq_hexDigit? (b : UInt8) : hexValue? b = hexDigit? (toChar b) := by
  have code := toNat_toChar b
  unfold hexValue? hexDigit?
  by_cases decimal : '0' ≤ toChar b ∧ toChar b ≤ '9'
  · rw [if_pos ((isDigit_iff b).mpr decimal), if_pos decimal, code]
    rfl
  · rw [if_neg (fun h => decimal ((isDigit_iff b).mp h)), if_neg decimal]
    by_cases upper : 'A' ≤ toChar b ∧ toChar b ≤ 'F'
    · have bounds : 0x41 ≤ b.toNat := by rw [← code]; exact upper.1
      rw [if_pos ((byteRange_iff rfl rfl).mpr upper), if_pos upper, code]
      congr 1
      show b.toNat - 55 = b.toNat - 65 + 10
      omega
    · rw [if_neg (fun h => upper ((byteRange_iff rfl rfl).mp h)), if_neg upper]
      by_cases lower : 'a' ≤ toChar b ∧ toChar b ≤ 'f'
      · have bounds : 0x61 ≤ b.toNat := by rw [← code]; exact lower.1
        rw [if_pos ((byteRange_iff rfl rfl).mpr lower), if_pos lower, code]
        congr 1
        show b.toNat - 87 = b.toNat - 97 + 10
        omega
      · rw [if_neg (fun h => lower ((byteRange_iff rfl rfl).mp h)), if_neg lower]

theorem toChar_ofNat {c : Char} (h : c.toNat < 0x80) : toChar (UInt8.ofNat c.toNat) = c :=
  (toChar_eq_iff h).mpr rfl

theorem quad?_eq_some_iff {a b c d : UInt8} {n : Nat} :
    quad? a b c d = some n ↔ Hex4 ([a, b, c, d].map toChar) n := by
  simp only [quad?, hexValue?_eq_hexDigit?, List.map_cons, List.map_nil]
  constructor
  · intro h
    simp only [Option.bind_eq_bind, Option.bind_eq_some_iff, Option.pure_def,
      Option.some.injEq] at h
    obtain ⟨va, ha, vb, hb, vc, hc, vd, hd, rfl⟩ := h
    exact Hex4.mk ha hb hc hd
  · intro h
    cases h with
    | mk ha hb hc hd => simp [ha, hb, hc, hd]

theorem exists_quad_of_hex4 {ds : List Char} {n : Nat} (h : Hex4 ds n) :
    ∃ a b c d, encodeList ds = [a, b, c, d] ∧ quad? a b c d = some n := by
  cases h with
  | @mk a b c d va vb vc vd ha hb hc hd =>
      have ascii := fun {x : Char} {v : Nat} (hx : hexDigit? x = some v) =>
        encode_one (toNat_lt_of_hexDigit? hx)
      refine ⟨UInt8.ofNat a.toNat, UInt8.ofNat b.toNat, UInt8.ofNat c.toNat, UInt8.ofNat d.toNat,
        by simp [ascii ha, ascii hb, ascii hc, ascii hd], ?_⟩
      rw [quad?_eq_some_iff]
      simp only [List.map_cons, List.map_nil, toChar_ofNat (toNat_lt_of_hexDigit? ha),
        toChar_ofNat (toNat_lt_of_hexDigit? hb), toChar_ofNat (toNat_lt_of_hexDigit? hc),
        toChar_ofNat (toNat_lt_of_hexDigit? hd)]
      exact Hex4.mk ha hb hc hd

theorem quad?_ascii {a b c d : UInt8} {n : Nat} (h : quad? a b c d = some n) :
    ∀ x ∈ [a, b, c, d], x.toNat < 0x80 := by
  intro x hx
  rw [← toNat_toChar]
  exact (quad?_eq_some_iff.mp h).ascii _ (List.mem_map_of_mem hx)

/-! ## Escapes -/

theorem simpleEscape?_sound {e : UInt8} {c : Char} (h : simpleEscape? e = some c) :
    e.toNat < 0x80 ∧ escapeLetter? (toChar e) = some c ∧ e ≠ 0x75 := by
  unfold simpleEscape? at h
  split at h <;> cases h <;> decide

theorem simpleEscape?_of_escapeLetter? {e c : Char} (h : escapeLetter? e = some c) :
    ∃ b, encode e = [b] ∧ simpleEscape? b = some c ∧ b ≠ 0x75 := by
  unfold escapeLetter? at h
  split at h <;> cases h <;> exact ⟨_, rfl, rfl, by decide⟩

theorem unicodeEscape_single (o : Nat) {a b c d : UInt8} (rest : List UInt8) {n : Nat}
    (hex : quad? a b c d = some n) (scalar : n < 0xD800 ∨ 0xDFFF < n) :
    unicodeEscape o (a :: b :: c :: d :: rest) = .ok (Char.ofNat n, 4) := by
  have notHigh : isHighSurrogate n = false := by simp [isHighSurrogate]; omega
  have notLow : isLowSurrogate n = false := by simp [isLowSurrogate]; omega
  simp only [unicodeEscape, hex, notHigh, notLow]
  rfl

theorem unicodeEscape_pair (o : Nat) {a b c d a' b' c' d' : UInt8} (rest : List UInt8)
    {hi lo : Nat} (hex : quad? a b c d = some hi) (hex' : quad? a' b' c' d' = some lo)
    (opens : IsHighSurrogate hi) (closes : IsLowSurrogate lo) :
    unicodeEscape o (a :: b :: c :: d :: 0x5C :: 0x75 :: a' :: b' :: c' :: d' :: rest) =
      .ok (Char.ofNat (0x10000 + (hi - 0xD800) * 0x400 + (lo - 0xDC00)), 10) := by
  have high : isHighSurrogate hi = true := by simp [isHighSurrogate]; exact opens
  have low : isLowSurrogate lo = true := by simp [isLowSurrogate]; exact closes
  simp only [unicodeEscape, hex, hex', high, low]
  rfl

theorem unicodeEscape_cases {o : Nat} {bs : List UInt8} {ch : Char} {k : Nat}
    (h : unicodeEscape o bs = .ok (ch, k)) :
    ∃ a b c d rest n, bs = a :: b :: c :: d :: rest ∧ quad? a b c d = some n ∧
      ((isHighSurrogate n = false ∧ isLowSurrogate n = false ∧ ch = Char.ofNat n ∧ k = 4) ∨
       (∃ a' b' c' d' more lo, rest = 0x5C :: 0x75 :: a' :: b' :: c' :: d' :: more ∧
          quad? a' b' c' d' = some lo ∧ isHighSurrogate n = true ∧ isLowSurrogate lo = true ∧
          ch = Char.ofNat (0x10000 + (n - 0xD800) * 0x400 + (lo - 0xDC00)) ∧ k = 10)) := by
  unfold unicodeEscape at h
  split at h
  · rename_i a b c d rest
    split at h
    · cases h
    · rename_i high hq
      split at h
      · rename_i opens
        split at h
        · rename_i a' b' c' d' more
          split at h
          · cases h
          · rename_i lo hq'
            split at h
            · rename_i closes
              simp only [Except.ok.injEq, Prod.mk.injEq] at h
              exact ⟨a, b, c, d, _, high, rfl, hq,
                .inr ⟨a', b', c', d', more, lo, rfl, hq', opens, closes, h.1.symm, h.2.symm⟩⟩
            · cases h
        · cases h
        · cases h
      · rename_i notHigh
        split at h
        · cases h
        · rename_i notLow
          simp only [Except.ok.injEq, Prod.mk.injEq] at h
          exact ⟨a, b, c, d, rest, high, rfl, hq,
            .inl ⟨by simpa using notHigh, by simpa using notLow, h.1.symm, h.2.symm⟩⟩
  · cases h

theorem unicodeEscape_sound {o : Nat} {bs : List UInt8} {ch : Char} {k : Nat}
    (h : unicodeEscape o bs = .ok (ch, k)) :
    ∃ sp after, bs = encodeList sp ++ after ∧ (encodeList sp).length = k ∧
      EscapeSpelling ('u' :: sp) ch := by
  obtain ⟨a, b, c, d, rest, n, rfl, hex, single | pair⟩ := unicodeEscape_cases h
  · obtain ⟨notHigh, notLow, value, width⟩ := single
    have scalar : n < 0xD800 ∨ 0xDFFF < n := by
      simp only [isHighSurrogate, isLowSurrogate, Bool.and_eq_false_iff, decide_eq_false_iff_not,
        not_le] at notHigh notLow
      omega
    refine ⟨[a, b, c, d].map toChar, rest, ?_, ?_, ?_⟩
    · rw [encodeList_map_toChar (quad?_ascii hex)]
      rfl
    · rw [encodeList_map_toChar (quad?_ascii hex), width]
      rfl
    · rw [value]
      exact EscapeSpelling.unicode (quad?_eq_some_iff.mp hex) scalar
  · obtain ⟨a', b', c', d', more, lo, rfl, hex', opens, closes, value, width⟩ := pair
    have bytes : encodeList ([a, b, c, d].map toChar ++ '\\' :: 'u' :: [a', b', c', d'].map toChar) =
        [a, b, c, d, 0x5C, 0x75, a', b', c', d'] := by
      rw [encodeList_append, encodeList_map_toChar (quad?_ascii hex), encodeList_cons,
        encodeList_cons, encodeList_map_toChar (quad?_ascii hex')]
      rfl
    refine ⟨[a, b, c, d].map toChar ++ '\\' :: 'u' :: [a', b', c', d'].map toChar, more, ?_, ?_, ?_⟩
    · rw [bytes]
      rfl
    · rw [bytes, width]
      rfl
    · rw [value]
      exact EscapeSpelling.pair (quad?_eq_some_iff.mp hex) (quad?_eq_some_iff.mp hex')
        (by simpa [isHighSurrogate, IsHighSurrogate] using opens)
        (by simpa [isLowSurrogate, IsLowSurrogate] using closes)

theorem unicodeEscape_encodeList_append (o : Nat) {sp : List Char} {ch : Char}
    (h : EscapeSpelling ('u' :: sp) ch) (more : List UInt8) :
    unicodeEscape o (encodeList sp ++ more) = .ok (ch, (encodeList sp).length) := by
  generalize spelled : 'u' :: sp = full at h
  cases h with
  | @letter e c table =>
      obtain ⟨rfl, rfl⟩ := List.cons.inj spelled
      simp [escapeLetter?] at table
  | @unicode ds n hex scalar =>
      obtain ⟨-, rfl⟩ := List.cons.inj spelled
      obtain ⟨a, b, c, d, bytes, quad⟩ := exists_quad_of_hex4 hex
      rw [bytes]
      exact unicodeEscape_single o more quad scalar
  | @pair ds ds' hi lo high low opens closes =>
      obtain ⟨-, rfl⟩ := List.cons.inj spelled
      obtain ⟨a, b, c, d, bytes, quad⟩ := exists_quad_of_hex4 high
      obtain ⟨a', b', c', d', bytes', quad'⟩ := exists_quad_of_hex4 low
      have backslash : encode '\\' = [0x5C] := rfl
      have letterU : encode 'u' = [0x75] := rfl
      rw [encodeList_append, encodeList_cons, encodeList_cons, bytes, bytes', backslash, letterU]
      exact unicodeEscape_pair o more quad quad' opens closes

theorem escape_unicode (o : Nat) (rest : List UInt8) :
    escape o (0x75 :: rest) =
      match unicodeEscape o rest with
      | .ok (c, k) => .ok (encode c, k + 1)
      | .error e => .error e := rfl

theorem escape_of_ne (o : Nat) {e : UInt8} (rest : List UInt8) (notU : e ≠ 0x75) :
    escape o (e :: rest) =
      match simpleEscape? e with
      | some c => .ok (encode c, 1)
      | none => .error (.invalidEscape ("\\" ++ String.singleton (Char.ofNat e.toNat)) o) := by
  unfold escape
  split
  · rename_i same
    cases same
  · rename_i same
    simp only [List.cons.injEq] at same
    exact absurd same.1 notU
  · rename_i _ e' tail' _ same
    obtain ⟨rfl, rfl⟩ := List.cons.inj same
    rfl

theorem escape_letter (o : Nat) {e : UInt8} {c : Char} (rest : List UInt8)
    (table : simpleEscape? e = some c) (notU : e ≠ 0x75) :
    escape o (e :: rest) = .ok (encode c, 1) := by
  rw [escape_of_ne o rest notU, table]

theorem escape_sound {o : Nat} {bs out : List UInt8} {k : Nat} (h : escape o bs = .ok (out, k)) :
    ∃ sp c after, bs = encodeList sp ++ after ∧ (encodeList sp).length = k ∧ out = encode c ∧
      EscapeSpelling sp c := by
  match bs, h with
  | [], h => cases h
  | e :: rest, h =>
      by_cases letterU : e = 0x75
      · subst letterU
        rw [escape_unicode] at h
        split at h
        · rename_i ch k' read
          simp only [Except.ok.injEq, Prod.mk.injEq] at h
          obtain ⟨sp, after, rfl, width, spelled⟩ := unicodeEscape_sound read
          refine ⟨'u' :: sp, ch, after, rfl, ?_, h.1.symm, spelled⟩
          rw [encodeList_cons, List.length_append, width, ← h.2, Nat.add_comm]
          rfl
        · cases h
      · cases table : simpleEscape? e with
        | none =>
            rw [escape_of_ne o rest letterU, table] at h
            cases h
        | some c =>
            rw [escape_letter o rest table letterU, Except.ok.injEq, Prod.mk.injEq] at h
            obtain ⟨ascii, letter, -⟩ := simpleEscape?_sound table
            refine ⟨[toChar e], c, rest, ?_, ?_, h.1.symm, EscapeSpelling.letter letter⟩
            · rw [encodeList_cons, encode_toChar ascii]
              rfl
            · rw [encodeList_cons, encode_toChar ascii, ← h.2]
              rfl

theorem escape_encodeList_append (o : Nat) {sp : List Char} {c : Char} (h : EscapeSpelling sp c)
    (more : List UInt8) : escape o (encodeList sp ++ more) = .ok (encode c, (encodeList sp).length) := by
  cases h with
  | letter table =>
      obtain ⟨b, bytes, simple, notU⟩ := simpleEscape?_of_escapeLetter? table
      rw [encodeList_cons, encodeList_nil, List.append_nil, bytes]
      exact escape_letter o more simple notU
  | unicode hex scalar =>
      have letterU : encode 'u' = [0x75] := rfl
      rw [encodeList_cons, letterU, List.singleton_append, List.cons_append, escape_unicode,
        unicodeEscape_encodeList_append o (EscapeSpelling.unicode hex scalar)]
      simp only [List.length_cons]
  | pair high low opens closes =>
      have letterU : encode 'u' = [0x75] := rfl
      rw [encodeList_cons, letterU, List.singleton_append, List.cons_append, escape_unicode,
        unicodeEscape_encodeList_append o (EscapeSpelling.pair high low opens closes)]
      simp only [List.length_cons]

/-! ## The body of a string -/

/-- A byte that a string's body holds as it is: no quote, no backslash, no control character. -/
def IsRawByte (b : UInt8) : Prop :=
  b ≠ 0x22 ∧ b ≠ 0x5C ∧ 0x20 ≤ b.toNat

section Body
variable (start : Nat)

theorem stringBody_nil (offset : Nat) (acc : List UInt8) :
    stringBody start offset acc [] = .error (.unterminatedString start) := by
  rw [stringBody]

theorem stringBody_quote {offset : Nat} {acc : List UInt8} {cs : List Char} (rest : List UInt8)
    (h : decode? acc.reverse = some cs) :
    stringBody start offset acc (0x22 :: rest) = .ok (String.ofList cs, offset + 1) := by
  rw [stringBody, if_pos (by decide), h]

theorem stringBody_quote_invalid {offset : Nat} {acc : List UInt8} (rest : List UInt8)
    (h : decode? acc.reverse = none) :
    stringBody start offset acc (0x22 :: rest) = .error (.invalidUtf8 start) := by
  rw [stringBody, if_pos (by decide), h]

theorem stringBody_escape {offset : Nat} {acc rest out : List UInt8} {k : Nat}
    (h : escape offset rest = .ok (out, k)) :
    stringBody start offset acc (0x5C :: rest) =
      stringBody start (offset + 1 + k) (out.reverse ++ acc) (rest.drop k) := by
  rw [stringBody, if_neg (by decide), if_pos (by decide), h]

theorem stringBody_raw {offset : Nat} {b : UInt8} (acc rest : List UInt8) (raw : IsRawByte b) :
    stringBody start offset acc (b :: rest) = stringBody start (offset + 1) (b :: acc) rest := by
  obtain ⟨notQuote, notBackslash, printable⟩ := raw
  rw [stringBody, if_neg (by simpa using notQuote), if_neg (by simpa using notBackslash),
    if_neg (by rw [UInt8.lt_iff_toNat_lt]; simp; omega)]

theorem stringBody_raw_append {bs : List UInt8} (raw : ∀ b ∈ bs, IsRawByte b) :
    ∀ (offset : Nat) (acc rest : List UInt8),
      stringBody start offset acc (bs ++ rest) =
        stringBody start (offset + bs.length) (bs.reverse ++ acc) rest := by
  induction bs with
  | nil => intro offset acc rest; rfl
  | cons b bs ih =>
      intro offset acc rest
      rw [List.cons_append, stringBody_raw start acc _ (raw b List.mem_cons_self),
        ih (fun x hx => raw x (List.mem_cons_of_mem b hx))]
      simp only [List.length_cons, List.reverse_cons, List.append_assoc, List.singleton_append]
      congr 1
      omega

theorem isRawByte_encode_iff (c : Char) :
    (∀ b ∈ encode c, IsRawByte b) ↔ c ≠ '"' ∧ c ≠ '\\' ∧ 0x20 ≤ c.toNat := by
  by_cases ascii : c.toNat < 0x80
  · have code := toNat_ofNat_of_lt (show c.toNat < 256 by omega)
    have quote : c ≠ '"' ↔ UInt8.ofNat c.toNat ≠ 0x22 := by
      rw [Ne, Ne, ← UInt8.toNat_inj, code, ← Char.toNat_inj]
      rfl
    have backslash : c ≠ '\\' ↔ UInt8.ofNat c.toNat ≠ 0x5C := by
      rw [Ne, Ne, ← UInt8.toNat_inj, code, ← Char.toNat_inj]
      rfl
    rw [encode_one ascii, List.forall_mem_singleton, IsRawByte, quote, backslash, code]
  · have wide := le_toNat_of_mem_encode (not_lt.mp ascii)
    have notAscii : ∀ {d : Char}, d.toNat < 0x80 → c ≠ d := fun small same => ascii (same ▸ small)
    refine ⟨fun _ => ⟨notAscii (by decide), notAscii (by decide), by omega⟩, fun _ b hb => ?_⟩
    have high := wide b hb
    refine ⟨?_, ?_, by omega⟩ <;> (intro same; rw [same] at high; exact absurd high (by decide))

theorem stringBody_encodeList_append {body content : List Char} (h : StringBody body content) :
    ∀ (offset : Nat) (acc rest : List UInt8),
      stringBody start offset acc (encodeList body ++ rest) =
        stringBody start (offset + (encodeList body).length) ((encodeList content).reverse ++ acc)
          rest := by
  induction h with
  | nil => intro offset acc rest; rfl
  | @cons sp others content c first _ ih =>
      intro offset acc rest
      cases first with
      | raw notQuote notBackslash printable =>
          have raw := (isRawByte_encode_iff c).mpr ⟨notQuote, notBackslash, printable⟩
          rw [encodeList_append, encodeList_cons, encodeList_nil, List.append_nil,
            List.append_assoc, stringBody_raw_append start raw, ih]
          simp only [encodeList_cons, List.length_append, List.reverse_append, List.append_assoc]
          congr 1
          omega
      | @escape sp' _ escaped =>
          have backslash : encode '\\' = [0x5C] := rfl
          rw [encodeList_append, encodeList_cons, backslash]
          simp only [List.cons_append, List.nil_append, List.append_assoc]
          rw [stringBody_escape start (escape_encodeList_append offset escaped _), List.drop_left, ih]
          simp only [encodeList_cons, List.length_append, List.length_cons, List.reverse_append,
            List.append_assoc]
          congr 1
          omega

theorem stringBody_complete {body content : List Char} (h : StringBody body content)
    (offset : Nat) (more : List UInt8) :
    stringBody start offset [] (encodeList body ++ 0x22 :: more) =
      .ok (String.ofList content, offset + (encodeList body).length + 1) := by
  rw [stringBody_encodeList_append start h, stringBody_quote start more]
  rw [List.append_nil, List.reverse_reverse, decode?_encodeList]

/-- `Gathered written gathered`: the bytes `written` in a string's body are raw bytes and escapes,
and the scanner gathers `gathered` from them: each raw byte as it is, each escape as the encoding
of the character it stands for. -/
inductive Gathered : List UInt8 → List UInt8 → Prop where
  | nil : Gathered [] []
  | raw {b : UInt8} {written gathered : List UInt8} (raw : IsRawByte b)
      (others : Gathered written gathered) : Gathered (b :: written) (b :: gathered)
  | escape {sp : List Char} {c : Char} {written gathered : List UInt8}
      (escaped : EscapeSpelling sp c) (others : Gathered written gathered) :
      Gathered (0x5C :: (encodeList sp ++ written)) (encode c ++ gathered)

theorem stringBody_sound {offset : Nat} {acc bs : List UInt8} {value : String} {finish : Nat}
    (h : stringBody start offset acc bs = .ok (value, finish)) :
    ∃ written gathered more cs, bs = written ++ 0x22 :: more ∧ Gathered written gathered ∧
      decode? (acc.reverse ++ gathered) = some cs ∧ value = String.ofList cs ∧
      finish = offset + written.length + 1 := by
  induction offset, acc, bs using stringBody.induct with
  | case1 offset acc =>
      rw [stringBody_nil] at h
      cases h
  | case2 offset acc b rest quote cs decoded =>
      rw [beq_iff_eq] at quote
      subst quote
      simp only [List.unattach_reverse, List.unattach_attach] at decoded
      rw [stringBody_quote start rest decoded, Except.ok.injEq, Prod.mk.injEq] at h
      exact ⟨[], [], rest, cs, rfl, Gathered.nil, by simpa using decoded, h.1.symm, h.2.symm⟩
  | case3 offset acc b rest quote invalid =>
      rw [beq_iff_eq] at quote
      subst quote
      simp only [List.unattach_reverse, List.unattach_attach] at invalid
      rw [stringBody_quote_invalid start rest invalid] at h
      cases h
  | case4 offset acc b rest notQuote backslash e failed =>
      rw [beq_iff_eq] at backslash
      subst backslash
      rw [stringBody, if_neg notQuote, if_pos (by decide), failed] at h
      cases h
  | case5 offset acc b rest notQuote backslash out k read ih =>
      rw [beq_iff_eq] at backslash
      subst backslash
      rw [stringBody_escape start read] at h
      obtain ⟨written, gathered, more, cs, after, spelled, decoded, rfl, rfl⟩ := ih h
      obtain ⟨sp, c, tail, rfl, width, rfl, escaped⟩ := escape_sound read
      rw [← width, List.drop_left] at after
      subst after
      refine ⟨0x5C :: (encodeList sp ++ written), encode c ++ gathered, more, cs, by simp,
        Gathered.escape escaped spelled, ?_, rfl, ?_⟩
      · simpa [List.reverse_append] using decoded
      · simp only [List.length_cons, List.length_append, width]
        omega
  | case6 offset acc b rest notQuote notBackslash control =>
      rw [stringBody, if_neg notQuote, if_neg notBackslash, if_pos control] at h
      cases h
  | case7 offset acc b rest notQuote notBackslash printable ih =>
      have raw : IsRawByte b := ⟨by simpa using notQuote, by simpa using notBackslash,
        by rw [UInt8.lt_iff_toNat_lt] at printable; simp at printable; omega⟩
      rw [stringBody_raw start acc rest raw] at h
      obtain ⟨written, gathered, more, cs, rfl, spelled, decoded, rfl, rfl⟩ := ih h
      refine ⟨b :: written, b :: gathered, more, cs, rfl, Gathered.raw raw spelled, ?_, rfl, ?_⟩
      · simpa using decoded
      · simp only [List.length_cons]
        omega

end Body

theorem Gathered.exists_stringBody {written gathered : List UInt8} (h : Gathered written gathered) :
    ∀ {pre : List UInt8} {cs : List Char}, (∀ b ∈ pre, IsRawByte b) →
      pre ++ gathered = encodeList cs → ∃ body, pre ++ written = encodeList body ∧ StringBody body cs := by
  induction h with
  | nil =>
      intro pre cs raw encoded
      rw [List.append_nil] at encoded
      subst encoded
      have rawChars : ∀ c ∈ cs, c ≠ '"' ∧ c ≠ '\\' ∧ 0x20 ≤ c.toNat := fun c hc =>
        (isRawByte_encode_iff c).mp fun b hb =>
          raw b (List.mem_flatMap.mpr ⟨c, hc, hb⟩)
      refine ⟨cs, by rw [List.append_nil], ?_⟩
      simpa using StringBody.raw_append rawChars StringBody.nil
  | @raw b written gathered isRaw _ ih =>
      intro pre cs raw encoded
      have rawMore : ∀ x ∈ pre ++ [b], IsRawByte x := by
        intro x hx
        rcases List.mem_append.mp hx with hx | hx
        · exact raw x hx
        · rw [List.mem_singleton.mp hx]
          exact isRaw
      obtain ⟨body, bytes, spelled⟩ := ih rawMore (by simpa using encoded)
      exact ⟨body, by simpa using bytes, spelled⟩
  | @escape sp c written gathered escaped _ ih =>
      intro pre cs raw encoded
      obtain ⟨cs₁, cs₂, rfl, rfl, after⟩ :=
        exists_encodeList_of_append encoded (head_encode_append_not_continuation c gathered)
      obtain ⟨cs₃, rfl, rest⟩ := encode_append_eq_encodeList after
      obtain ⟨body, bytes, spelled⟩ := @ih [] _ (by simp) (by rw [List.nil_append]; exact rest)
      have rawChars : ∀ x ∈ cs₁, x ≠ '"' ∧ x ≠ '\\' ∧ 0x20 ≤ x.toNat := fun x hx =>
        (isRawByte_encode_iff x).mp fun b hb => raw b (List.mem_flatMap.mpr ⟨x, hx, hb⟩)
      refine ⟨cs₁ ++ ('\\' :: sp ++ body), ?_, ?_⟩
      · rw [List.nil_append] at bytes
        have backslash : encode '\\' = [0x5C] := rfl
        simp only [encodeList_append, encodeList_cons, backslash, bytes, List.cons_append,
          List.nil_append]
      · exact StringBody.raw_append rawChars (StringBody.cons (CharSpelling.escape escaped) spelled)

end JsonProbe.Token
