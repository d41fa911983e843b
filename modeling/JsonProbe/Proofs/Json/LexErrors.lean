import JsonProbe.Proofs.Json.Tiling
/-! # Where a lexical error points

A lexical error is raised while one token is scanned, and it points into that token
(`ErrorSite`).  A malformed number, an unknown word and an unexpected character are reported at
the token's first byte, the first two with the bytes the scan took as their text.  In a string,
after a run of raw bytes and well-formed escapes (`Gathered`), the fault is the first byte that
cannot continue it: a control character, reported at its own offset; a backslash whose escape is
unknown, reported at the backslash, where a `\u` escape is quoted up to the byte the scan stopped
at, so that only hexadecimal quads it read are shown (`UnicodeCut`); or a backslash that ends the
input.  A string that runs out of bytes, or whose content is not UTF-8, is reported at its opening
quote; but a string cut off right after a backslash is reported at that backslash.

Each error thus lies within the bytes from the failing token on (`ErrorSite.offset_lt`), and the
failing token is the one a reading reaches (`lex_error_points_into_failing_token`). -/
set_option autoImplicit false
namespace JsonProbe.Token
open Lexical Utf8

/-! ## Escapes that fail -/

/-- `UnicodeCut cut more`: the bytes after a failed `\u` are `cut ++ more`, and the scan stopped
after `cut`.  Every quad in `cut` was read as four hexadecimal digits; what follows it cannot go
on: four bytes that are not all hexadecimal digits, a low surrogate alone, a high surrogate
without an escape after it, or with an escape that is not a low surrogate. -/
inductive UnicodeCut : List UInt8 → List UInt8 → Prop where
  | notHex {more : List UInt8}
      (noQuad : ∀ a b c d rest, more = a :: b :: c :: d :: rest → quad? a b c d = none) :
      UnicodeCut [] more
  | lowAlone {a b c d : UInt8} {n : Nat} {more : List UInt8} (hex : quad? a b c d = some n)
      (low : isLowSurrogate n = true) : UnicodeCut [a, b, c, d] more
  | unpaired {a b c d : UInt8} {n : Nat} {more : List UInt8} (hex : quad? a b c d = some n)
      (high : isHighSurrogate n = true) (noEscape : ∀ rest, more ≠ 0x5C :: 0x75 :: rest) :
      UnicodeCut [a, b, c, d] more
  | lowNotHex {a b c d : UInt8} {n : Nat} {more : List UInt8} (hex : quad? a b c d = some n)
      (high : isHighSurrogate n = true)
      (noQuad : ∀ a' b' c' d' rest, more = a' :: b' :: c' :: d' :: rest → quad? a' b' c' d' = none) :
      UnicodeCut [a, b, c, d, 0x5C, 0x75] more
  | notLow {a b c d a' b' c' d' : UInt8} {n lo : Nat} {more : List UInt8}
      (hex : quad? a b c d = some n) (high : isHighSurrogate n = true)
      (hex' : quad? a' b' c' d' = some lo) (notLow : isLowSurrogate lo = false) :
      UnicodeCut [a, b, c, d, 0x5C, 0x75, a', b', c', d'] more

theorem unicodeEscape_eq_error {o : Nat} {bs : List UInt8} {e : LexError}
    (h : unicodeEscape o bs = .error e) :
    ∃ cut more, bs = cut ++ more ∧ UnicodeCut cut more ∧
      e = .invalidEscape (bytesText (0x5C :: 0x75 :: cut)) o := by
  unfold unicodeEscape at h
  split at h
  · rename_i a b c d rest
    split at h
    · rename_i notHex
      cases h
      refine ⟨[], a :: b :: c :: d :: rest, rfl, .notHex fun a' b' c' d' r same => ?_, rfl⟩
      simp only [List.cons.injEq] at same
      obtain ⟨rfl, rfl, rfl, rfl, -⟩ := same
      exact notHex
    · rename_i high hex
      split at h
      · rename_i opens
        split at h
        · rename_i a' b' c' d' more
          split at h
          · rename_i notHex
            cases h
            refine ⟨[a, b, c, d, 0x5C, 0x75], a' :: b' :: c' :: d' :: more, rfl,
              .lowNotHex hex opens fun x y z w r same => ?_, rfl⟩
            simp only [List.cons.injEq] at same
            obtain ⟨rfl, rfl, rfl, rfl, -⟩ := same
            exact notHex
          · rename_i lo hex'
            split at h
            · cases h
            · rename_i closes
              cases h
              exact ⟨[a, b, c, d, 0x5C, 0x75, a', b', c', d'], more, rfl,
                .notLow hex opens hex' (by simpa using closes), rfl⟩
        · rename_i more short
          cases h
          refine ⟨[a, b, c, d, 0x5C, 0x75], more, rfl,
            .lowNotHex hex opens fun x y z w r same => ?_, rfl⟩
          subst same
          exact absurd rfl (short x y z w r)
        · rename_i noEscape
          cases h
          exact ⟨[a, b, c, d], rest, rfl,
            .unpaired hex opens fun r same => noEscape r same, rfl⟩
      · rename_i notHigh
        split at h
        · rename_i alone
          cases h
          exact ⟨[a, b, c, d], rest, rfl, .lowAlone hex alone, rfl⟩
        · cases h
  · rename_i short
    cases h
    refine ⟨[], bs, rfl, .notHex fun a b c d r same => absurd same (short a b c d r), rfl⟩

/-- A fault in a string's body at offset `p`, the bytes from `p` on being given: a control
character, a backslash before an escape the scanner does not know, or a backslash that ends the
input. -/
inductive StringFault (p : Nat) : List UInt8 → LexError → Prop where
  | control {byte : UInt8} {more : List UInt8} (below : byte < 0x20) :
      StringFault p (byte :: more) (.controlCharacter byte p)
  | letter {x : UInt8} {more : List UInt8} (notU : x ≠ 0x75) (unknown : simpleEscape? x = none) :
      StringFault p (0x5C :: x :: more)
        (.invalidEscape ("\\" ++ String.singleton (Char.ofNat x.toNat)) p)
  | unicode {cut more : List UInt8} (stopped : UnicodeCut cut more) :
      StringFault p (0x5C :: 0x75 :: (cut ++ more))
        (.invalidEscape (bytesText (0x5C :: 0x75 :: cut)) p)
  | endsInEscape : StringFault p [0x5C] (.unterminatedString p)

theorem StringFault.offset_eq {p : Nat} {rest : List UInt8} {e : LexError}
    (h : StringFault p rest e) : e.offset = p ∧ rest ≠ [] := by
  cases h <;> exact ⟨rfl, by simp⟩

theorem escape_eq_error {o : Nat} {bs : List UInt8} {e : LexError} (h : escape o bs = .error e) :
    StringFault o (0x5C :: bs) e := by
  match bs, h with
  | [], h =>
      cases h
      exact .endsInEscape
  | x :: more, h =>
      by_cases letterU : x = 0x75
      · subst letterU
        rw [escape_unicode] at h
        split at h
        · cases h
        · rename_i e' failed
          cases h
          obtain ⟨cut, rest, rfl, stopped, rfl⟩ := unicodeEscape_eq_error failed
          exact .unicode stopped
      · cases table : simpleEscape? x with
        | some c =>
            rw [escape_letter o more table letterU] at h
            cases h
        | none =>
            rw [escape_of_ne o more letterU, table] at h
            cases h
            exact .letter letterU table

/-! ## Strings that fail -/

theorem Gathered.append {pre g written gathered : List UInt8} (first : Gathered pre g)
    (others : Gathered written gathered) : Gathered (pre ++ written) (g ++ gathered) := by
  induction first with
  | nil => exact others
  | raw isRaw _ ih => exact Gathered.raw isRaw ih
  | escape escaped _ ih =>
      rw [List.cons_append, List.append_assoc, List.append_assoc]
      exact Gathered.escape escaped ih

/-- How the scan of a string's body, from offset `offset` with `acc` gathered, fails with `e`:
after raw bytes and escapes, the input ends, or the closing quote comes after content that is
not UTF-8, or a fault comes. -/
def BodyFails (start offset : Nat) (acc bs : List UInt8) (e : LexError) : Prop :=
  ∃ written gathered, Gathered written gathered ∧
    ((bs = written ∧ e = .unterminatedString start) ∨
      (∃ more, bs = written ++ 0x22 :: more ∧ decode? (acc.reverse ++ gathered) = none ∧
        e = .invalidUtf8 start) ∨
      (∃ rest, bs = written ++ rest ∧ StringFault (offset + written.length) rest e))

theorem BodyFails.prepend {start offset : Nat} {acc pre g bs : List UInt8} {e : LexError}
    (h : BodyFails start (offset + pre.length) (g.reverse ++ acc) bs e) (first : Gathered pre g) :
    BodyFails start offset acc (pre ++ bs) e := by
  obtain ⟨written, gathered, body, ends | ⟨more, rfl, broken, rfl⟩ | ⟨rest, rfl, fault⟩⟩ := h
  · obtain ⟨same, rfl⟩ := ends
    exact ⟨pre ++ written, g ++ gathered, first.append body, .inl ⟨by rw [same], rfl⟩⟩
  · refine ⟨pre ++ written, g ++ gathered, first.append body, .inr (.inl ⟨more, by simp, ?_, rfl⟩)⟩
    simpa [List.reverse_append] using broken
  · refine ⟨pre ++ written, g ++ gathered, first.append body, .inr (.inr ⟨rest, by simp, ?_⟩)⟩
    rwa [List.length_append, ← Nat.add_assoc]

section Body
variable (start : Nat)

theorem stringBody_eq_error {offset : Nat} {acc bs : List UInt8} {e : LexError}
    (h : stringBody start offset acc bs = .error e) : BodyFails start offset acc bs e := by
  induction offset, acc, bs using stringBody.induct with
  | case1 offset acc =>
      rw [stringBody_nil] at h
      cases h
      exact ⟨[], [], .nil, .inl ⟨rfl, rfl⟩⟩
  | case2 offset acc b rest quote cs decoded =>
      rw [beq_iff_eq] at quote
      subst quote
      simp only [List.unattach_reverse, List.unattach_attach] at decoded
      rw [stringBody_quote start rest decoded] at h
      cases h
  | case3 offset acc b rest quote invalid =>
      rw [beq_iff_eq] at quote
      subst quote
      simp only [List.unattach_reverse, List.unattach_attach] at invalid
      rw [stringBody_quote_invalid start rest invalid] at h
      cases h
      exact ⟨[], [], .nil, .inr (.inl ⟨rest, rfl, by simpa using invalid, rfl⟩)⟩
  | case4 offset acc b rest notQuote backslash e' failed =>
      rw [beq_iff_eq] at backslash
      subst backslash
      rw [stringBody, if_neg notQuote, if_pos (by decide), failed] at h
      cases h
      exact ⟨[], [], .nil, .inr (.inr ⟨0x5C :: rest, rfl, escape_eq_error failed⟩)⟩
  | case5 offset acc b rest notQuote backslash out k read ih =>
      rw [beq_iff_eq] at backslash
      subst backslash
      rw [stringBody_escape start read] at h
      obtain ⟨sp, c, tail, rfl, width, rfl, escaped⟩ := escape_sound read
      rw [← width, List.drop_left] at h ih
      have first : Gathered (0x5C :: encodeList sp) (encode c) := by
        simpa using Gathered.escape escaped Gathered.nil
      have later := ih h
      rw [show offset + 1 + (encodeList sp).length = offset + (0x5C :: encodeList sp).length by
        simp only [List.length_cons]; omega] at later
      simpa using later.prepend first
  | case6 offset acc b rest notQuote notBackslash control =>
      rw [stringBody, if_neg notQuote, if_neg notBackslash, if_pos control] at h
      cases h
      exact ⟨[], [], .nil, .inr (.inr ⟨b :: rest, rfl, .control control⟩)⟩
  | case7 offset acc b rest notQuote notBackslash printable ih =>
      have raw : IsRawByte b := ⟨by simpa using notQuote, by simpa using notBackslash,
        by rw [UInt8.lt_iff_toNat_lt] at printable; simp at printable; omega⟩
      rw [stringBody_raw start acc rest raw] at h
      have first : Gathered [b] [b] := Gathered.raw raw Gathered.nil
      exact (ih h).prepend first

end Body

/-! ## The failing token -/

/-- `ErrorSite st bs e`: the token whose bytes from its first byte, at offset `st`, on are `bs`
fails with `e`, and `e` points into it. -/
inductive ErrorSite (st : Nat) : List UInt8 → LexError → Prop where
  /-- A string runs out of bytes; it is reported at its opening quote. -/
  | unterminated {written gathered : List UInt8} (body : Gathered written gathered) :
      ErrorSite st (0x22 :: written) (.unterminatedString st)
  /-- A string's content is not UTF-8; it is reported at its opening quote. -/
  | invalidUtf8 {written gathered more : List UInt8} (body : Gathered written gathered)
      (broken : decode? gathered = none) :
      ErrorSite st (0x22 :: (written ++ 0x22 :: more)) (.invalidUtf8 st)
  /-- A string's body has a fault after a run of raw bytes and escapes. -/
  | inString {written gathered rest : List UInt8} {e : LexError}
      (body : Gathered written gathered) (fault : StringFault (st + 1 + written.length) rest e) :
      ErrorSite st (0x22 :: (written ++ rest)) e
  /-- The longest prefix in the shape of a number is no number; its bytes are the text. -/
  | invalidNumber {l after : List UInt8} (nonempty : l ≠ []) (longest : LongestNumber l after) :
      ErrorSite st (l ++ after) (.invalidNumber (bytesText l) st)
  /-- A whole word that is no keyword; its bytes are the text. -/
  | unknownIdentifier {word after : List UInt8} (nonempty : word ≠ [])
      (wordBytes : ∀ x ∈ word, isWordByte x = true) (stop : StopsWord after) :
      ErrorSite st (word ++ after) (.unknownIdentifier (bytesText word) st)
  /-- A byte that starts no token, shown as the first character read from it. -/
  | unexpectedChar {b : UInt8} {rest : List UInt8} :
      ErrorSite st (b :: rest) (.unexpectedChar (firstLossy b rest) st)

theorem ErrorSite.offset_lt {st : Nat} {bs : List UInt8} {e : LexError} (h : ErrorSite st bs e) :
    st ≤ e.offset ∧ e.offset < st + bs.length := by
  cases h with
  | unterminated => simp [LexError.offset]
  | invalidUtf8 => simp [LexError.offset]
  | @inString written gathered rest e _ fault =>
      obtain ⟨at_, nonempty⟩ := fault.offset_eq
      have : 0 < rest.length := List.length_pos_iff.mpr nonempty
      simp only [at_, List.length_cons, List.length_append]
      omega
  | invalidNumber nonempty =>
      have : 0 < _ := List.length_pos_iff.mpr nonempty
      simp only [LexError.offset, List.length_append]
      omega
  | unknownIdentifier nonempty =>
      have : 0 < _ := List.length_pos_iff.mpr nonempty
      simp only [LexError.offset, List.length_append]
      omega
  | unexpectedChar => simp [LexError.offset]

theorem scan_eq_error {st : Nat} {b : UInt8} {rest : List UInt8} {e : LexError}
    (h : scan st b rest = .error e) : ErrorSite st (b :: rest) e := by
  by_cases quote : b = 0x22
  · -- a string: the failure of its body
    subst quote
    rw [scan_quote] at h
    split at h
    · cases h
    · rename_i e' failed
      cases h
      obtain ⟨written, gathered, body, ends | ⟨more, rfl, broken, rfl⟩ | ⟨tail, rfl, fault⟩⟩ :=
        stringBody_eq_error st failed
      · obtain ⟨rfl, rfl⟩ := ends
        exact .unterminated body
      · exact .invalidUtf8 body (by simpa using broken)
      · exact .inString body fault
  by_cases number : b = 0x2D ∨ isDigit b = true
  · -- a number: the longest prefix in its shape, judged no number
    rw [scan_of_numberStart st rest number] at h
    generalize scanned : numberText (b :: rest) = result at h
    obtain ⟨text, ok⟩ := result
    cases ok
    · simp only [Bool.false_eq_true, if_false, Except.error.injEq] at h
      subst h
      have taken : text = NumberPart.start.longest (b :: rest) := by
        rw [← numberText_fst, scanned]
      have stepped : NumberPart.start.step b = some .integer := by
        rcases number with rfl | digit
        · rfl
        · simp [NumberPart.step, digit]
      have whole := List.prefix_iff_eq_append.mp (NumberPart.longest_prefix .start (b :: rest))
      have site := @ErrorSite.invalidNumber st _ _ (by simp [NumberPart.longest_cons_of_step stepped])
        (longestNumber_longest (b :: rest))
      rwa [whole, ← taken] at site
    · simp at h
  by_cases letter : isLetter b = true
  · -- a word: the whole run of word bytes, which is no keyword
    rw [scan_of_letter st rest letter] at h
    split at h
    · cases h
    · cases h
      have wordByte : isWordByte b = true := by simp [isWordByte, letter]
      have site := @ErrorSite.unknownIdentifier st ((b :: rest).takeWhile isWordByte)
        ((b :: rest).dropWhile isWordByte) (by simp [List.takeWhile_cons_of_pos wordByte])
        (fun _ mem => List.mem_takeWhile_imp mem) (head_dropWhile_false isWordByte (b :: rest))
      rwa [List.takeWhile_append_dropWhile] at site
  · -- no token starts with `b`, or a one-byte token, which cannot fail
    have notQuote : (b == 0x22) = false := beq_eq_false_iff_ne.mpr quote
    have notNumber : (b == 0x2D || isDigit b) = false := by
      simpa [not_or] using number
    have notLetter : isLetter b = false := by simpa using letter
    simp only [scan, notQuote, notNumber, notLetter, Bool.false_eq_true, if_false] at h
    split_ifs at h
    all_goals cases h
    exact .unexpectedChar

end JsonProbe.Token

namespace JsonProbe.TokenStream
open Token

theorem failing_token_of_read {o : Nat} {bs : List UInt8} {e : LexError}
    (h : (read o bs).ending = .error e) :
    ∃ st b rest, o ≤ st ∧ bs.drop (st - o) = b :: rest ∧ isBlank b = false ∧
      scan st b rest = .error e := by
  induction o, bs using read.induct with
  | case1 o bs _ blanksOnly =>
      rw [read_of_blanks blanksOnly] at h
      cases h
  | case2 o bs _ _ b rest next e' failed =>
      rw [read_of_failure next failed] at h
      cases h
      have notBlank : isBlank b = false :=
        head_dropWhile_false isBlank bs b (by rw [← drop_length_takeWhile, next]; rfl)
      exact ⟨_, b, rest, Nat.le_add_right _ _, by rwa [Nat.add_sub_cancel_left], notBlank, failed⟩
  | case3 o bs _ _ b rest next t k scanned _ ih =>
      rw [read_of_scan next scanned] at h
      obtain ⟨st, b', rest', after, dropped, notBlank, failed⟩ := ih h
      -- the failing token lies past this one, which takes `k + 1` bytes after the blanks
      refine ⟨st, b', rest', by omega, ?_, notBlank, failed⟩
      have skip : st - o = ((bs.takeWhile isBlank).length + 1 + k) +
          (st - (o + (bs.takeWhile isBlank).length + 1 + k)) := by omega
      have next' : bs.drop (bs.takeWhile isBlank).length = b :: rest := next
      have restEq : bs.drop ((bs.takeWhile isBlank).length + 1) = rest := by
        rw [← List.drop_drop, next']
        rfl
      rw [skip, ← List.drop_drop, ← List.drop_drop, restEq]
      exact dropped

/-- A lexical error points into the token that failed.  Reading from offset `o`, a reading that
ends with the error `e` fails at a token it reaches, starting at `st` with a byte that is no
blank; `e` describes the failure at its site, and lies at or after `st` and before the end of the
input. -/
theorem lex_error_points_into_failing_token {o : Nat} {bs : List UInt8} {e : LexError}
    (h : (read o bs).ending = .error e) :
    ∃ st b rest, o ≤ st ∧ bs.drop (st - o) = b :: rest ∧ isBlank b = false ∧
      scan st b rest = .error e ∧ ErrorSite st (b :: rest) e ∧ st ≤ e.offset ∧
      e.offset < o + bs.length := by
  obtain ⟨st, b, rest, after, dropped, notBlank, failed⟩ := failing_token_of_read h
  have site := scan_eq_error failed
  obtain ⟨within, before⟩ := site.offset_lt
  have left := congrArg List.length dropped
  rw [List.length_drop] at left
  exact ⟨st, b, rest, after, dropped, notBlank, failed, site, within, by omega⟩

/-- A raw line feed in a string is reported at its own offset. -/
theorem line_feed_in_string_points_at_itself :
    (read 0 [0x22, 0x0A]).ending = .error (.controlCharacter 0x0A 1) ∧
    ∃ (st : Nat) (b : UInt8) (rest : List UInt8), 0 ≤ st ∧
      ([0x22, 0x0A] : List UInt8).drop (st - 0) = b :: rest ∧ isBlank b = false ∧
      scan st b rest = .error (.controlCharacter 0x0A 1) ∧
      ErrorSite st (b :: rest) (.controlCharacter 0x0A 1) ∧
      st ≤ (LexError.controlCharacter 0x0A 1).offset ∧
      (LexError.controlCharacter 0x0A 1).offset < 0 + ([0x22, 0x0A] : List UInt8).length := by
  have scanned : scan 0 0x22 [0x0A] = .error (.controlCharacter 0x0A 1) := by
    rw [scan_quote, stringBody]
    rfl
  have ended : (read 0 [0x22, 0x0A]).ending = .error (.controlCharacter 0x0A 1) := by
    rw [read_of_failure (by decide) scanned]
    rfl
  exact ⟨ended, lex_error_points_into_failing_token ended⟩

/-- A string cut off right after a backslash is reported at the backslash, not at its opening
quote, although its message names where the string starts. -/
theorem unterminated_escape_reported_at_backslash :
    (ofBytes [0x22, 0x5C]).lexemes = [] ∧
      (ofBytes [0x22, 0x5C]).ending = .error (.unterminatedString 1) := by
  have scanned : scan 0 0x22 [0x5C] = .error (.unterminatedString 1) := by
    rw [scan_quote, stringBody]
    rfl
  rw [ofBytes, read_of_failure (by decide) scanned]
  exact ⟨rfl, rfl⟩

end JsonProbe.TokenStream
