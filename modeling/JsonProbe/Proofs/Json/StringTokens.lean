import JsonProbe.Proofs.Json.Numbers
/-! # String tokens

A string token is read off exactly a string literal of `Lexical` after blanks: the bytes of
`'"' :: (body ++ ['"'])` for a spelled body, read as the body's content, with the next token read
from the byte after the closing quote (`read_eq_string_iff`).

The scanner checks UTF-8 once, over the bytes it gathered: raw bytes as they are and escapes as
the encodings of their characters.  That single check is the check of each maximal run of raw
bytes between two escapes on its own (`Runs.isSome_decode?_iff`): an encoded character starts
with no continuation byte and is complete, so it can neither complete a broken run before it nor
be completed by the run after it. -/
set_option autoImplicit false
namespace JsonProbe.Utf8

theorem isSome_decode?_append_encode_append (xs : List UInt8) (c : Char) (ys : List UInt8) :
    (decode? (xs ++ encode c ++ ys)).isSome ↔ (decode? xs).isSome ∧ (decode? ys).isSome := by
  simp only [Option.isSome_iff_exists, decode?_eq_some_iff]
  constructor
  · rintro ⟨cs, encoded⟩
    rw [List.append_assoc] at encoded
    obtain ⟨cs₁, cs₂, -, before, after⟩ :=
      exists_encodeList_of_append encoded (head_encode_append_not_continuation c ys)
    obtain ⟨cs₃, -, rest⟩ := encode_append_eq_encodeList after
    exact ⟨⟨cs₁, before⟩, ⟨cs₃, rest⟩⟩
  · rintro ⟨⟨as, rfl⟩, ⟨bs, rfl⟩⟩
    exact ⟨as ++ c :: bs, by simp⟩

end JsonProbe.Utf8

namespace JsonProbe.Token
open Lexical Utf8

/-! ## Raw runs -/

/-- `Runs written gathered runs`: a string's body `written` is the runs of raw bytes `runs` with
an escape between each two of them, and the scanner gathers `gathered` from it.  A raw byte is
no backslash, so every run but the last ends where an escape begins: the runs are the maximal
ones. -/
inductive Runs : List UInt8 → List UInt8 → List (List UInt8) → Prop where
  | last {run : List UInt8} (raw : ∀ b ∈ run, IsRawByte b) : Runs run run [run]
  | escape {run written gathered : List UInt8} {runs : List (List UInt8)} {sp : List Char}
      {c : Char} (raw : ∀ b ∈ run, IsRawByte b) (escaped : EscapeSpelling sp c)
      (others : Runs written gathered runs) :
      Runs (run ++ 0x5C :: (encodeList sp ++ written)) (run ++ encode c ++ gathered) (run :: runs)

/-- The single check over the gathered bytes is the check of each raw run. -/
theorem Runs.isSome_decode?_iff {written gathered : List UInt8} {runs : List (List UInt8)}
    (h : Runs written gathered runs) :
    (decode? gathered).isSome ↔ ∀ run ∈ runs, (decode? run).isSome := by
  induction h with
  | last raw => rw [List.forall_mem_singleton]
  | escape raw escaped others ih =>
      rw [isSome_decode?_append_encode_append, ih, List.forall_mem_cons]

theorem Gathered.raw_append {run written gathered : List UInt8} (raw : ∀ b ∈ run, IsRawByte b)
    (h : Gathered written gathered) : Gathered (run ++ written) (run ++ gathered) := by
  induction run with
  | nil => exact h
  | cons b run ih =>
      exact Gathered.raw (raw b List.mem_cons_self)
        (ih fun x hx => raw x (List.mem_cons_of_mem b hx))

theorem Runs.gathered {written gathered : List UInt8} {runs : List (List UInt8)}
    (h : Runs written gathered runs) : Gathered written gathered := by
  induction h with
  | last raw => simpa using Gathered.raw_append raw Gathered.nil
  | escape raw escaped _ ih =>
      rw [List.append_assoc]
      exact Gathered.raw_append raw (Gathered.escape escaped ih)

theorem Runs.cons_raw {b : UInt8} {written gathered : List UInt8} {runs : List (List UInt8)}
    (isRaw : IsRawByte b) (h : Runs written gathered runs) :
    ∃ runs', Runs (b :: written) (b :: gathered) runs' := by
  cases h with
  | last raw => exact ⟨_, Runs.last (List.forall_mem_cons.mpr ⟨isRaw, raw⟩)⟩
  | escape raw escaped others =>
      exact ⟨_, Runs.escape (List.forall_mem_cons.mpr ⟨isRaw, raw⟩) escaped others⟩

theorem Gathered.exists_runs {written gathered : List UInt8} (h : Gathered written gathered) :
    ∃ runs, Runs written gathered runs := by
  have none : ∀ b ∈ ([] : List UInt8), IsRawByte b := fun _ mem => absurd mem List.not_mem_nil
  induction h with
  | nil => exact ⟨[[]], Runs.last none⟩
  | raw isRaw _ ih =>
      obtain ⟨runs, split⟩ := ih
      exact split.cons_raw isRaw
  | escape escaped _ ih =>
      obtain ⟨runs, split⟩ := ih
      exact ⟨[] :: runs, Runs.escape none escaped split⟩

theorem Gathered.stringBody_append (start : Nat) {written gathered : List UInt8}
    (h : Gathered written gathered) :
    ∀ (offset : Nat) (acc more : List UInt8),
      stringBody start offset acc (written ++ more) =
        stringBody start (offset + written.length) (gathered.reverse ++ acc) more := by
  induction h with
  | nil => intro offset acc more; rfl
  | @raw b written gathered isRaw _ ih =>
      intro offset acc more
      rw [List.cons_append, stringBody_raw start acc _ isRaw, ih]
      simp only [List.length_cons, List.reverse_cons, List.append_assoc, List.singleton_append]
      congr 1
      omega
  | @escape sp c written gathered escaped _ ih =>
      intro offset acc more
      rw [List.cons_append, List.append_assoc,
        stringBody_escape start (escape_encodeList_append offset escaped _), List.drop_left, ih]
      simp only [List.length_cons, List.length_append, List.reverse_append, List.append_assoc]
      congr 1
      omega

theorem scan_quote_ok_iff (o : Nat) (rest : List UInt8) :
    (∃ v k, scan o 0x22 rest = .ok (.string v, k)) ↔
      ∃ written gathered runs more, rest = written ++ 0x22 :: more ∧ Runs written gathered runs ∧
        ∀ run ∈ runs, (decode? run).isSome := by
  constructor
  · rintro ⟨v, k, scanned⟩
    rw [scan_quote] at scanned
    split at scanned
    · rename_i value finish read
      obtain ⟨written, gathered, more, cs, rfl, spelled, decoded, -, -⟩ := stringBody_sound o read
      obtain ⟨runs, split⟩ := spelled.exists_runs
      refine ⟨written, gathered, runs, more, rfl, split, split.isSome_decode?_iff.mp ?_⟩
      rw [List.reverse_nil, List.nil_append] at decoded
      rw [decoded]
      rfl
    · cases scanned
  · rintro ⟨written, gathered, runs, more, rfl, split, valid⟩
    obtain ⟨cs, decoded⟩ := Option.isSome_iff_exists.mp (split.isSome_decode?_iff.mpr valid)
    have read := split.gathered.stringBody_append o (o + 1) [] (0x22 :: more)
    rw [stringBody_quote o more (by simpa using decoded)] at read
    exact ⟨String.ofList cs, o + 1 + written.length + 1 - o - 1, by rw [scan_quote, read]⟩

/-! ## Surrogate pairs -/

theorem surrogate_pair_decodes {hi lo : Nat} (opens : IsHighSurrogate hi)
    (closes : IsLowSurrogate lo) :
    let ch := Char.ofNat (0x10000 + (hi - 0xD800) * 0x400 + (lo - 0xDC00))
    0xFFFF < ch.toNat ∧ hi = 0xD800 + (ch.toNat - 0x10000) / 0x400 ∧
      lo = 0xDC00 + (ch.toNat - 0x10000) % 0x400 := by
  obtain ⟨highFrom, highTo⟩ := opens
  obtain ⟨lowFrom, lowTo⟩ := closes
  intro ch
  -- the code lies in U+10000..U+10FFFF, so `Char.ofNat` keeps it
  have code : ch.toNat = 0x10000 + (hi - 0xD800) * 0x400 + (lo - 0xDC00) :=
    toNat_ofNat_char (.inr ⟨by omega, by omega⟩)
  rw [code]
  omega

end JsonProbe.Token

namespace JsonProbe.TokenStream
open Lexical Utf8 Token

theorem read_eq_cons {o : Nat} {bs : List UInt8} {t : Token} {p : Nat} {s : TokenStream}
    (h : read o bs = .cons ⟨t, p⟩ s) :
    ∃ ws b rest k, bs = ws ++ b :: rest ∧ (∀ x ∈ ws, isBlank x = true) ∧ p = o + ws.length ∧
      scan (o + ws.length) b rest = .ok (t, k) ∧ s = read (o + ws.length + 1 + k) (rest.drop k) := by
  have shape : bs = bs.takeWhile isBlank ++ bs.drop (bs.takeWhile isBlank).length := by
    rw [drop_length_takeWhile, List.takeWhile_append_dropWhile]
  have blank : ∀ x ∈ bs.takeWhile isBlank, isBlank x = true := fun x mem =>
    List.mem_takeWhile_imp mem
  rcases next : bs.drop (bs.takeWhile isBlank).length with _ | ⟨b, rest⟩
  · rw [read_of_blanks next] at h
    cases h
  · rcases scanned : scan (o + (bs.takeWhile isBlank).length) b rest with e | ⟨t', k⟩
    · rw [read_of_failure next scanned] at h
      cases h
    · rw [read_of_scan next scanned] at h
      cases h
      rw [next] at shape
      exact ⟨bs.takeWhile isBlank, b, rest, k, shape, blank, rfl, scanned, rfl⟩

theorem read_eq_string_iff {o : Nat} {bs : List UInt8} {v : String} {p : Nat} {s : TokenStream} :
    read o bs = .cons ⟨.string v, p⟩ s ↔
      ∃ ws body content r, bs = ws ++ encodeList ('"' :: (body ++ ['"'])) ++ r ∧
        (∀ x ∈ ws, isBlank x = true) ∧ StringBody body content ∧ v = String.ofList content ∧
        p = o + ws.length ∧ s = read (p + (encodeList ('"' :: (body ++ ['"']))).length) r := by
  constructor
  · intro h
    obtain ⟨ws, b, rest, k, rfl, blank, rfl, scanned, rfl⟩ := read_eq_cons h
    obtain ⟨sp, after, bytes, width, spells⟩ := scan_sound scanned
    cases spells with
    | @string body content lit =>
        have dropped := drop_of_front bytes width
        refine ⟨ws, body, content, after, by rw [List.append_assoc, ← bytes], blank, lit, rfl, rfl,
          ?_⟩
        rw [dropped, width]
        congr 1
        omega
  · rintro ⟨ws, body, content, r, rfl, blank, lit, rfl, rfl, rfl⟩
    have quote : encode '"' = [0x22] := rfl
    have bytes : ws ++ encodeList ('"' :: (body ++ ['"'])) ++ r =
        ws ++ 0x22 :: (encodeList body ++ 0x22 :: r) := by
      simp [quote]
    have width : (encodeList ('"' :: (body ++ ['"']))).length = (encodeList body).length + 2 := by
      simp [quote]
    have scanned : scan (o + ws.length) 0x22 (encodeList body ++ 0x22 :: r) =
        .ok (.string (String.ofList content), (encodeList body).length + 1) := by
      rw [scan_quote, stringBody_complete _ lit]
      dsimp only
      congr 2
      omega
    have dropped : (encodeList body ++ 0x22 :: r).drop ((encodeList body).length + 1) = r := by
      rw [← List.drop_drop, List.drop_left]
      rfl
    rw [bytes, read_blanks_append o blank rfl scanned, dropped, width]
    congr 2
    omega

/-- String literals are read as what they spell.  A string token is read off exactly blanks and
a string literal, as the literal's content, at its opening quote, and the stream goes on after its
closing quote.  A body up to its closing quote is accepted exactly when it is raw runs and spelled
escapes and each raw run on its own is well-formed UTF-8, which is what the single check over the
gathered bytes tests.  An escaped high and low surrogate are read as the character above U+FFFF
whose UTF-16 encoding they are. -/
theorem string_literals_read_as_their_content :
    (∀ o bs v p s, read o bs = .cons ⟨.string v, p⟩ s ↔
      ∃ ws body content r, bs = ws ++ encodeList ('"' :: (body ++ ['"'])) ++ r ∧
        (∀ x ∈ ws, isBlank x = true) ∧ StringBody body content ∧ v = String.ofList content ∧
        p = o + ws.length ∧ s = read (p + (encodeList ('"' :: (body ++ ['"']))).length) r) ∧
    (∀ o rest, (∃ v k, scan o 0x22 rest = .ok (.string v, k)) ↔
      ∃ written gathered runs more, rest = written ++ 0x22 :: more ∧ Runs written gathered runs ∧
        ∀ run ∈ runs, (decode? run).isSome) ∧
    (∀ written gathered runs, Runs written gathered runs →
      ((decode? gathered).isSome ↔ ∀ run ∈ runs, (decode? run).isSome)) ∧
    (∀ o a b c d a' b' c' d' more hi lo, quad? a b c d = some hi → quad? a' b' c' d' = some lo →
      IsHighSurrogate hi → IsLowSurrogate lo →
      ∃ ch, unicodeEscape o (a :: b :: c :: d :: 0x5C :: 0x75 :: a' :: b' :: c' :: d' :: more) =
          .ok (ch, 10) ∧
        0xFFFF < ch.toNat ∧ hi = 0xD800 + (ch.toNat - 0x10000) / 0x400 ∧
          lo = 0xDC00 + (ch.toNat - 0x10000) % 0x400) :=
  ⟨fun _ _ _ _ _ => read_eq_string_iff, scan_quote_ok_iff, fun _ _ _ split => split.isSome_decode?_iff,
    fun o _ _ _ _ _ _ _ _ more _ _ hex hex' opens closes =>
      ⟨_, unicodeEscape_pair o more hex hex' opens closes, surrogate_pair_decodes opens closes⟩⟩

end JsonProbe.TokenStream
