import JsonProbe.Text.Utf8
import Mathlib.Tactic.Ring
/-! # UTF-8: encoding and the strict reading

`encode` is the encoding Lean's own strings use (`encode_eq_utf8EncodeChar`), so a byte list is
well-formed UTF-8 in Lean's sense exactly when it is `encodeList` of some characters.  The strict
reading undoes the encoding and accepts nothing else: one step reads an encoded character off the
front of any bytes (`step_encode`), and whatever one step accepts as a character is that
character's encoding (`eq_encode_append_of_step`).  Hence `decode?_eq_some_iff`.

The last section records the shape of an encoding that a scanner of encoded text relies on: its
first byte is never a continuation byte `0x80`–`0xBF`, and all its other bytes are. -/
set_option autoImplicit false
namespace JsonProbe.Utf8

/-! ## Bytes and code points as numbers -/

theorem toNat_valid (c : Char) : c.toNat < 0xD800 ∨ (0xDFFF < c.toNat ∧ c.toNat < 0x110000) := by
  have := c.valid
  unfold UInt32.isValidChar Nat.isValidChar at this
  exact this

theorem toNat_ofNat_of_lt {x : Nat} (h : x < 256) : (UInt8.ofNat x).toNat = x := by
  simp; omega

theorem toNat_ofNat_char {n : Nat} (h : n < 0xD800 ∨ (0xDFFF < n ∧ n < 0x110000)) :
    (Char.ofNat n).toNat = n := by
  have valid : n.isValidChar := h
  rw [Char.ofNat, dif_pos valid]
  rfl

/-! ## The lead byte -/

section Lead
variable {b : UInt8}

theorem not_lt_of_toNat {k : UInt8} (h : k.toNat ≤ b.toNat) : ¬ b < k := by
  rw [UInt8.lt_iff_toNat_lt]; omega

theorem le_of_toNat {k : UInt8} (h : b.toNat ≤ k.toNat) : b ≤ k := UInt8.le_iff_toNat_le.mpr h

theorem not_le_of_toNat {k : UInt8} (h : k.toNat < b.toNat) : ¬ b ≤ k := by
  rw [UInt8.le_iff_toNat_le]; omega

theorem beq_of_toNat {k : UInt8} (h : b.toNat = k.toNat) : (b == k) = true := by
  rw [beq_iff_eq, ← UInt8.toNat_inj]; exact h

theorem not_beq_of_toNat {k : UInt8} (h : b.toNat ≠ k.toNat) : ¬ (b == k) = true := by
  rw [beq_iff_eq, ← UInt8.toNat_inj]; exact h

theorem leadShape_two (h : 0xC2 ≤ b.toNat ∧ b.toNat ≤ 0xDF) :
    leadShape b = some (1, 0x80, 0xBF, b.toNat - 0xC0) := by
  rw [leadShape, if_neg (not_lt_of_toNat (by simp; omega)), if_pos (le_of_toNat (by simp; omega))]

theorem leadShape_e0 (h : b.toNat = 0xE0) : leadShape b = some (2, 0xA0, 0xBF, 0) := by
  rw [leadShape, if_neg (not_lt_of_toNat (by simp; omega)),
    if_neg (not_le_of_toNat (by simp; omega)), if_pos (beq_of_toNat (by simp; omega))]

theorem leadShape_ed (h : b.toNat = 0xED) : leadShape b = some (2, 0x80, 0x9F, 0xD) := by
  rw [leadShape, if_neg (not_lt_of_toNat (by simp; omega)),
    if_neg (not_le_of_toNat (by simp; omega)), if_neg (not_beq_of_toNat (by simp; omega)),
    if_pos (beq_of_toNat (by simp; omega))]

theorem leadShape_three (h : 0xE1 ≤ b.toNat ∧ b.toNat ≤ 0xEF ∧ b.toNat ≠ 0xED) :
    leadShape b = some (2, 0x80, 0xBF, b.toNat - 0xE0) := by
  rw [leadShape, if_neg (not_lt_of_toNat (by simp; omega)),
    if_neg (not_le_of_toNat (by simp; omega)), if_neg (not_beq_of_toNat (by simp; omega)),
    if_neg (not_beq_of_toNat (by simp; omega)), if_pos (le_of_toNat (by simp; omega))]

theorem leadShape_f0 (h : b.toNat = 0xF0) : leadShape b = some (3, 0x90, 0xBF, 0) := by
  rw [leadShape, if_neg (not_lt_of_toNat (by simp; omega)),
    if_neg (not_le_of_toNat (by simp; omega)), if_neg (not_beq_of_toNat (by simp; omega)),
    if_neg (not_beq_of_toNat (by simp; omega)), if_neg (not_le_of_toNat (by simp; omega)),
    if_pos (beq_of_toNat (by simp; omega))]

theorem leadShape_four (h : 0xF1 ≤ b.toNat ∧ b.toNat ≤ 0xF3) :
    leadShape b = some (3, 0x80, 0xBF, b.toNat - 0xF0) := by
  rw [leadShape, if_neg (not_lt_of_toNat (by simp; omega)),
    if_neg (not_le_of_toNat (by simp; omega)), if_neg (not_beq_of_toNat (by simp; omega)),
    if_neg (not_beq_of_toNat (by simp; omega)), if_neg (not_le_of_toNat (by simp; omega)),
    if_neg (not_beq_of_toNat (by simp; omega)), if_pos (le_of_toNat (by simp; omega))]

theorem leadShape_f4 (h : b.toNat = 0xF4) : leadShape b = some (3, 0x80, 0x8F, 4) := by
  rw [leadShape, if_neg (not_lt_of_toNat (by simp; omega)),
    if_neg (not_le_of_toNat (by simp; omega)), if_neg (not_beq_of_toNat (by simp; omega)),
    if_neg (not_beq_of_toNat (by simp; omega)), if_neg (not_le_of_toNat (by simp; omega)),
    if_neg (not_beq_of_toNat (by simp; omega)), if_neg (not_le_of_toNat (by simp; omega)),
    if_pos (beq_of_toNat (by simp; omega))]

theorem leadShape_none (h : b.toNat < 0xC2 ∨ 0xF4 < b.toNat) : leadShape b = none := by
  rcases h with h | h
  · rw [leadShape, if_pos (UInt8.lt_iff_toNat_lt.mpr (by simp; omega))]
  · rw [leadShape, if_neg (not_lt_of_toNat (by simp; omega)),
      if_neg (not_le_of_toNat (by simp; omega)), if_neg (not_beq_of_toNat (by simp; omega)),
      if_neg (not_beq_of_toNat (by simp; omega)), if_neg (not_le_of_toNat (by simp; omega)),
      if_neg (not_beq_of_toNat (by simp; omega)), if_neg (not_le_of_toNat (by simp; omega)),
      if_neg (not_beq_of_toNat (by simp; omega))]

end Lead

/-! ## One step of the reading -/

theorem step_of_ascii {b : UInt8} (rest : List UInt8) (h : b.toNat < 0x80) :
    step b rest = .scalar (Char.ofNat b.toNat) rest := by
  rw [step, if_pos (UInt8.lt_iff_toNat_lt.mpr (by simp; omega))]

theorem step_of_lead {b : UInt8} {rest : List UInt8} {n : Nat} {lo hi : UInt8} {payload : Nat}
    (h : 0x80 ≤ b.toNat) (shape : leadShape b = some (n, lo, hi, payload)) :
    step b rest = continuation n lo hi payload rest := by
  rw [step, if_neg (not_lt_of_toNat (by simp; omega)), shape]

theorem continuation_cons {n : Nat} {lo hi b : UInt8} {acc : Nat} {rest : List UInt8}
    (h : lo.toNat ≤ b.toNat ∧ b.toNat ≤ hi.toNat) :
    continuation (n + 1) lo hi acc (b :: rest) =
      continuation n 0x80 0xBF (acc * 0x40 + (b.toNat - 0x80)) rest := by
  rw [continuation, if_pos ⟨UInt8.le_iff_toNat_le.mpr h.1, UInt8.le_iff_toNat_le.mpr h.2⟩]

theorem continuation_zero_eq_scalar {lo hi : UInt8} {acc : Nat} {rest rest' : List UInt8}
    {c : Char} (h : continuation 0 lo hi acc rest = .scalar c rest') :
    c = Char.ofNat acc ∧ rest' = rest := by
  rw [continuation] at h
  cases h
  exact ⟨rfl, rfl⟩

theorem continuation_succ_eq_scalar {n : Nat} {lo hi : UInt8} {acc : Nat}
    {rest rest' : List UInt8} {c : Char} (h : continuation (n + 1) lo hi acc rest = .scalar c rest') :
    ∃ b r, rest = b :: r ∧ lo.toNat ≤ b.toNat ∧ b.toNat ≤ hi.toNat ∧
      continuation n 0x80 0xBF (acc * 0x40 + (b.toNat - 0x80)) r = .scalar c rest' := by
  cases rest with
  | nil => simp [continuation] at h
  | cons b r =>
      by_cases inRange : lo.toNat ≤ b.toNat ∧ b.toNat ≤ hi.toNat
      · exact ⟨b, r, rfl, inRange.1, inRange.2, by rwa [continuation_cons inRange] at h⟩
      · rw [continuation, if_neg (by rwa [UInt8.le_iff_toNat_le, UInt8.le_iff_toNat_le])] at h
        cases h

/-! ## Encoding -/

theorem encode_one {c : Char} (h : c.toNat < 0x80) : encode c = [UInt8.ofNat c.toNat] := by
  simp [encode, h]

theorem encode_two {c : Char} (h : 0x80 ≤ c.toNat ∧ c.toNat < 0x800) :
    encode c = [UInt8.ofNat (0xC0 + c.toNat / 0x40), UInt8.ofNat (0x80 + c.toNat % 0x40)] := by
  simp only [encode, Nat.toUInt8_eq, if_neg (show ¬ c.toNat < 0x80 by omega), if_pos h.2]

theorem encode_three {c : Char} (h : 0x800 ≤ c.toNat ∧ c.toNat < 0x10000) :
    encode c = [UInt8.ofNat (0xE0 + c.toNat / 0x1000), UInt8.ofNat (0x80 + c.toNat / 0x40 % 0x40),
      UInt8.ofNat (0x80 + c.toNat % 0x40)] := by
  simp only [encode, Nat.toUInt8_eq, if_neg (show ¬ c.toNat < 0x80 by omega),
    if_neg (show ¬ c.toNat < 0x800 by omega), if_pos h.2]

theorem encode_four {c : Char} (h : 0x10000 ≤ c.toNat) :
    encode c = [UInt8.ofNat (0xF0 + c.toNat / 0x40000), UInt8.ofNat (0x80 + c.toNat / 0x1000 % 0x40),
      UInt8.ofNat (0x80 + c.toNat / 0x40 % 0x40), UInt8.ofNat (0x80 + c.toNat % 0x40)] := by
  simp only [encode, Nat.toUInt8_eq, if_neg (show ¬ c.toNat < 0x80 by omega),
    if_neg (show ¬ c.toNat < 0x800 by omega), if_neg (show ¬ c.toNat < 0x10000 by omega)]

/-- The encoding is the one Lean's strings use. -/
theorem encode_eq_utf8EncodeChar (c : Char) : encode c = String.utf8EncodeChar c := by
  have valid := toNat_valid c
  have hv : c.val.toNat = c.toNat := rfl
  simp only [encode, String.utf8EncodeChar, Nat.toUInt8_eq, hv]
  by_cases h1 : c.toNat < 0x80
  · simp [h1, show c.toNat ≤ 0x7f by omega]
  · by_cases h2 : c.toNat < 0x800
    · simp only [h1, h2, if_false, if_true, show ¬ c.toNat ≤ 0x7f by omega,
        show c.toNat ≤ 0x7ff by omega, List.cons.injEq, and_true]
      refine ⟨?_, ?_⟩ <;> congr 1 <;> omega
    · by_cases h3 : c.toNat < 0x10000
      · simp only [h1, h2, h3, if_false, if_true, show ¬ c.toNat ≤ 0x7f by omega,
          show ¬ c.toNat ≤ 0x7ff by omega, show c.toNat ≤ 0xffff by omega, List.cons.injEq,
          and_true]
        refine ⟨?_, ?_, ?_⟩ <;> congr 1 <;> omega
      · simp only [h1, h2, h3, if_false, show ¬ c.toNat ≤ 0x7f by omega,
          show ¬ c.toNat ≤ 0x7ff by omega, show ¬ c.toNat ≤ 0xffff by omega, List.cons.injEq,
          and_true]
        refine ⟨?_, ?_, ?_, ?_⟩ <;> congr 1 <;> omega

/-! ## Reading an encoding back -/

section Reading
variable {c : Char} (rest : List UInt8)

theorem ofNat_eq_of_toNat_eq {n : Nat} (h : n = c.toNat) : Char.ofNat n = c := by
  rw [h, Char.ofNat_toNat]

theorem step_encode_one (h : c.toNat < 0x80) :
    step (UInt8.ofNat c.toNat) rest = .scalar c rest := by
  have lead := toNat_ofNat_of_lt (show c.toNat < 256 by omega)
  rw [step_of_ascii rest (by omega), lead, Char.ofNat_toNat]

theorem step_encode_two (h : 0x80 ≤ c.toNat ∧ c.toNat < 0x800) :
    step (UInt8.ofNat (0xC0 + c.toNat / 0x40)) (UInt8.ofNat (0x80 + c.toNat % 0x40) :: rest) =
      .scalar c rest := by
  have lead := toNat_ofNat_of_lt (show 0xC0 + c.toNat / 0x40 < 256 by omega)
  have second := toNat_ofNat_of_lt (show 0x80 + c.toNat % 0x40 < 256 by omega)
  rw [step_of_lead (by omega) (leadShape_two (by omega)), continuation_cons (by simp; omega),
    continuation, lead, second, ofNat_eq_of_toNat_eq (c := c) (by omega)]

theorem leadShape_encode_three (h : 0x800 ≤ c.toNat ∧ c.toNat < 0x10000)
    (valid : c.toNat < 0xD800 ∨ 0xDFFF < c.toNat) :
    ∃ lo hi, leadShape (UInt8.ofNat (0xE0 + c.toNat / 0x1000)) = some (2, lo, hi, c.toNat / 0x1000) ∧
      lo.toNat ≤ 0x80 + c.toNat / 0x40 % 0x40 ∧ 0x80 + c.toNat / 0x40 % 0x40 ≤ hi.toNat := by
  have lead := toNat_ofNat_of_lt (show 0xE0 + c.toNat / 0x1000 < 256 by omega)
  by_cases e0 : c.toNat / 0x1000 = 0
  · refine ⟨0xA0, 0xBF, by rw [leadShape_e0 (by omega), e0], by simp; omega, by simp; omega⟩
  · by_cases ed : c.toNat / 0x1000 = 0xD
    · refine ⟨0x80, 0x9F, by rw [leadShape_ed (by omega), ed], by simp, by simp; omega⟩
    · refine ⟨0x80, 0xBF, ?_, by simp, by simp; omega⟩
      rw [leadShape_three (by omega), lead, Nat.add_sub_cancel_left]

theorem step_encode_three (h : 0x800 ≤ c.toNat ∧ c.toNat < 0x10000)
    (valid : c.toNat < 0xD800 ∨ 0xDFFF < c.toNat) :
    step (UInt8.ofNat (0xE0 + c.toNat / 0x1000))
      (UInt8.ofNat (0x80 + c.toNat / 0x40 % 0x40) :: UInt8.ofNat (0x80 + c.toNat % 0x40) :: rest) =
      .scalar c rest := by
  obtain ⟨lo, hi, shape, atLeast, atMost⟩ := leadShape_encode_three h valid
  have second := toNat_ofNat_of_lt (show 0x80 + c.toNat / 0x40 % 0x40 < 256 by omega)
  have third := toNat_ofNat_of_lt (show 0x80 + c.toNat % 0x40 < 256 by omega)
  rw [step_of_lead (by simp; omega) shape, continuation_cons (by omega),
    continuation_cons (by simp; omega), continuation, second, third,
    ofNat_eq_of_toNat_eq (c := c) (by omega)]

theorem leadShape_encode_four (h : 0x10000 ≤ c.toNat ∧ c.toNat < 0x110000) :
    ∃ lo hi, leadShape (UInt8.ofNat (0xF0 + c.toNat / 0x40000)) =
        some (3, lo, hi, c.toNat / 0x40000) ∧
      lo.toNat ≤ 0x80 + c.toNat / 0x1000 % 0x40 ∧ 0x80 + c.toNat / 0x1000 % 0x40 ≤ hi.toNat := by
  have lead := toNat_ofNat_of_lt (show 0xF0 + c.toNat / 0x40000 < 256 by omega)
  by_cases f0 : c.toNat / 0x40000 = 0
  · refine ⟨0x90, 0xBF, by rw [leadShape_f0 (by omega), f0], by simp; omega, by simp; omega⟩
  · by_cases f4 : c.toNat / 0x40000 = 4
    · refine ⟨0x80, 0x8F, by rw [leadShape_f4 (by omega), f4], by simp, by simp; omega⟩
    · refine ⟨0x80, 0xBF, ?_, by simp, by simp; omega⟩
      rw [leadShape_four (by omega), lead, Nat.add_sub_cancel_left]

theorem step_encode_four (h : 0x10000 ≤ c.toNat ∧ c.toNat < 0x110000) :
    step (UInt8.ofNat (0xF0 + c.toNat / 0x40000))
      (UInt8.ofNat (0x80 + c.toNat / 0x1000 % 0x40) :: UInt8.ofNat (0x80 + c.toNat / 0x40 % 0x40) ::
        UInt8.ofNat (0x80 + c.toNat % 0x40) :: rest) =
      .scalar c rest := by
  obtain ⟨lo, hi, shape, atLeast, atMost⟩ := leadShape_encode_four h
  have second := toNat_ofNat_of_lt (show 0x80 + c.toNat / 0x1000 % 0x40 < 256 by omega)
  have third := toNat_ofNat_of_lt (show 0x80 + c.toNat / 0x40 % 0x40 < 256 by omega)
  have fourth := toNat_ofNat_of_lt (show 0x80 + c.toNat % 0x40 < 256 by omega)
  rw [step_of_lead (by simp; omega) shape, continuation_cons (by omega),
    continuation_cons (by simp; omega), continuation_cons (by simp; omega), continuation,
    second, third, fourth, ofNat_eq_of_toNat_eq (c := c) (by omega)]

end Reading

theorem step_encode {c : Char} {b : UInt8} {tail : List UInt8} (h : encode c = b :: tail)
    (rest : List UInt8) : step b (tail ++ rest) = .scalar c rest := by
  have valid := toNat_valid c
  by_cases h1 : c.toNat < 0x80
  · rw [encode_one h1, List.cons.injEq] at h
    obtain ⟨rfl, rfl⟩ := h
    exact step_encode_one rest h1
  · by_cases h2 : c.toNat < 0x800
    · rw [encode_two ⟨by omega, h2⟩, List.cons.injEq] at h
      obtain ⟨rfl, rfl⟩ := h
      exact step_encode_two rest ⟨by omega, h2⟩
    · by_cases h3 : c.toNat < 0x10000
      · rw [encode_three ⟨by omega, h3⟩, List.cons.injEq] at h
        obtain ⟨rfl, rfl⟩ := h
        exact step_encode_three rest ⟨by omega, h3⟩ (by omega)
      · rw [encode_four (by omega), List.cons.injEq] at h
        obtain ⟨rfl, rfl⟩ := h
        exact step_encode_four rest ⟨by omega, by omega⟩

/-! ## Whatever one step accepts is an encoding -/

theorem eq_ofNat_of_toNat {b : UInt8} {x : Nat} (h : b.toNat = x) : b = UInt8.ofNat x := by
  rw [← h, UInt8.ofNat_toNat]

theorem step_of_leadShape_none {b : UInt8} {rest : List UInt8} (h : 0x80 ≤ b.toNat)
    (shape : leadShape b = none) : step b rest = .invalid rest := by
  rw [step, if_neg (not_lt_of_toNat (by simp; omega)), shape]

theorem encode_ofNat_two {b b2 : UInt8} (lead : 0xC2 ≤ b.toNat ∧ b.toNat ≤ 0xDF)
    (second : 0x80 ≤ b2.toNat ∧ b2.toNat ≤ 0xBF) :
    encode (Char.ofNat ((b.toNat - 0xC0) * 0x40 + (b2.toNat - 0x80))) = [b, b2] := by
  set v := (b.toNat - 0xC0) * 0x40 + (b2.toNat - 0x80) with hv
  have value : (Char.ofNat v).toNat = v := toNat_ofNat_char (by omega)
  rw [encode_two (c := Char.ofNat v) (by omega), value, List.cons.injEq, List.cons.injEq]
  exact ⟨(eq_ofNat_of_toNat (by omega)).symm, (eq_ofNat_of_toNat (by omega)).symm, rfl⟩

theorem encode_ofNat_three {b b2 b3 : UInt8} (lead : 0xE0 ≤ b.toNat ∧ b.toNat ≤ 0xEF)
    (second : 0x80 ≤ b2.toNat ∧ b2.toNat ≤ 0xBF) (third : 0x80 ≤ b3.toNat ∧ b3.toNat ≤ 0xBF)
    (valid : 0x800 ≤ ((b.toNat - 0xE0) * 0x40 + (b2.toNat - 0x80)) * 0x40 + (b3.toNat - 0x80) ∧
      (((b.toNat - 0xE0) * 0x40 + (b2.toNat - 0x80)) * 0x40 + (b3.toNat - 0x80) < 0xD800 ∨
        0xDFFF < ((b.toNat - 0xE0) * 0x40 + (b2.toNat - 0x80)) * 0x40 + (b3.toNat - 0x80))) :
    encode (Char.ofNat (((b.toNat - 0xE0) * 0x40 + (b2.toNat - 0x80)) * 0x40 + (b3.toNat - 0x80))) =
      [b, b2, b3] := by
  set v := ((b.toNat - 0xE0) * 0x40 + (b2.toNat - 0x80)) * 0x40 + (b3.toNat - 0x80) with hv
  have value : (Char.ofNat v).toNat = v := toNat_ofNat_char (by omega)
  rw [encode_three (c := Char.ofNat v) (by omega), value, List.cons.injEq, List.cons.injEq,
    List.cons.injEq]
  exact ⟨(eq_ofNat_of_toNat (by omega)).symm, (eq_ofNat_of_toNat (by omega)).symm,
    (eq_ofNat_of_toNat (by omega)).symm, rfl⟩

theorem encode_ofNat_four {b b2 b3 b4 : UInt8} (lead : 0xF0 ≤ b.toNat ∧ b.toNat ≤ 0xF4)
    (second : 0x80 ≤ b2.toNat ∧ b2.toNat ≤ 0xBF) (third : 0x80 ≤ b3.toNat ∧ b3.toNat ≤ 0xBF)
    (fourth : 0x80 ≤ b4.toNat ∧ b4.toNat ≤ 0xBF)
    (valid : 0x10000 ≤ (((b.toNat - 0xF0) * 0x40 + (b2.toNat - 0x80)) * 0x40 + (b3.toNat - 0x80)) *
        0x40 + (b4.toNat - 0x80) ∧
      (((b.toNat - 0xF0) * 0x40 + (b2.toNat - 0x80)) * 0x40 + (b3.toNat - 0x80)) * 0x40 +
        (b4.toNat - 0x80) < 0x110000) :
    encode (Char.ofNat ((((b.toNat - 0xF0) * 0x40 + (b2.toNat - 0x80)) * 0x40 +
      (b3.toNat - 0x80)) * 0x40 + (b4.toNat - 0x80))) = [b, b2, b3, b4] := by
  set v := (((b.toNat - 0xF0) * 0x40 + (b2.toNat - 0x80)) * 0x40 + (b3.toNat - 0x80)) * 0x40 +
    (b4.toNat - 0x80) with hv
  have value : (Char.ofNat v).toNat = v := toNat_ofNat_char (by omega)
  rw [encode_four (c := Char.ofNat v) (by omega), value, List.cons.injEq, List.cons.injEq,
    List.cons.injEq, List.cons.injEq]
  exact ⟨(eq_ofNat_of_toNat (by omega)).symm, (eq_ofNat_of_toNat (by omega)).symm,
    (eq_ofNat_of_toNat (by omega)).symm, (eq_ofNat_of_toNat (by omega)).symm, rfl⟩

theorem eq_encode_append_of_step {b : UInt8} {rest rest' : List UInt8} {c : Char}
    (h : step b rest = .scalar c rest') : b :: rest = encode c ++ rest' := by
  by_cases ascii : b.toNat < 0x80
  · rw [step_of_ascii rest ascii] at h
    cases h
    have value : (Char.ofNat b.toNat).toNat = b.toNat := toNat_ofNat_char (by omega)
    rw [encode_one (by omega), value, UInt8.ofNat_toNat]
    rfl
  · by_cases two : 0xC2 ≤ b.toNat ∧ b.toNat ≤ 0xDF
    · rw [step_of_lead (by omega) (leadShape_two two)] at h
      obtain ⟨b2, r, rfl, lo2, hi2, h⟩ := continuation_succ_eq_scalar h
      obtain ⟨value, after⟩ := continuation_zero_eq_scalar h
      rw [value, after]
      simp only [UInt8.reduceToNat] at lo2 hi2
      rw [encode_ofNat_two two ⟨lo2, hi2⟩]
      rfl
    · by_cases three : 0xE0 ≤ b.toNat ∧ b.toNat ≤ 0xEF
      · -- the three leads with different bounds on the second byte
        have shape : ∃ lo hi, leadShape b = some (2, lo, hi, b.toNat - 0xE0) ∧
            ∀ b2 : UInt8, lo.toNat ≤ b2.toNat → b2.toNat ≤ hi.toNat →
              0x80 ≤ b2.toNat ∧ b2.toNat ≤ 0xBF ∧
              0x800 ≤ ((b.toNat - 0xE0) * 0x40 + (b2.toNat - 0x80)) * 0x40 ∧
              (((b.toNat - 0xE0) * 0x40 + (b2.toNat - 0x80)) * 0x40 + 0x40 ≤ 0xD800 ∨
                0xDFFF < ((b.toNat - 0xE0) * 0x40 + (b2.toNat - 0x80)) * 0x40) := by
          by_cases e0 : b.toNat = 0xE0
          · exact ⟨0xA0, 0xBF, by rw [leadShape_e0 e0, e0], fun b2 lo hi => by simp at lo hi; omega⟩
          · by_cases ed : b.toNat = 0xED
            · exact ⟨0x80, 0x9F, by rw [leadShape_ed ed, ed],
                fun b2 lo hi => by simp at lo hi; omega⟩
            · exact ⟨0x80, 0xBF, leadShape_three ⟨by omega, by omega, ed⟩,
                fun b2 lo hi => by simp at lo hi; omega⟩
        obtain ⟨lo, hi, shape, bounds⟩ := shape
        rw [step_of_lead (by omega) shape] at h
        obtain ⟨b2, r, rfl, lo2, hi2, h⟩ := continuation_succ_eq_scalar h
        obtain ⟨b3, r, rfl, lo3, hi3, h⟩ := continuation_succ_eq_scalar h
        obtain ⟨value, after⟩ := continuation_zero_eq_scalar h
        rw [value, after]
        simp only [UInt8.reduceToNat] at lo3 hi3
        have second := bounds b2 lo2 hi2
        rw [encode_ofNat_three three (by omega) ⟨lo3, hi3⟩ (by omega)]
        rfl
      · by_cases four : 0xF0 ≤ b.toNat ∧ b.toNat ≤ 0xF4
        · have shape : ∃ lo hi, leadShape b = some (3, lo, hi, b.toNat - 0xF0) ∧
              ∀ b2 : UInt8, lo.toNat ≤ b2.toNat → b2.toNat ≤ hi.toNat →
                0x80 ≤ b2.toNat ∧ b2.toNat ≤ 0xBF ∧
                0x10000 ≤ ((b.toNat - 0xF0) * 0x40 + (b2.toNat - 0x80)) * 0x1000 ∧
                ((b.toNat - 0xF0) * 0x40 + (b2.toNat - 0x80)) * 0x1000 + 0x1000 ≤ 0x110000 := by
            by_cases f0 : b.toNat = 0xF0
            · exact ⟨0x90, 0xBF, by rw [leadShape_f0 f0, f0],
                fun b2 lo hi => by simp at lo hi; omega⟩
            · by_cases f4 : b.toNat = 0xF4
              · exact ⟨0x80, 0x8F, by rw [leadShape_f4 f4, f4],
                  fun b2 lo hi => by simp at lo hi; omega⟩
              · exact ⟨0x80, 0xBF, leadShape_four ⟨by omega, by omega⟩,
                  fun b2 lo hi => by simp at lo hi; omega⟩
          obtain ⟨lo, hi, shape, bounds⟩ := shape
          rw [step_of_lead (by omega) shape] at h
          obtain ⟨b2, r, rfl, lo2, hi2, h⟩ := continuation_succ_eq_scalar h
          obtain ⟨b3, r, rfl, lo3, hi3, h⟩ := continuation_succ_eq_scalar h
          obtain ⟨b4, r, rfl, lo4, hi4, h⟩ := continuation_succ_eq_scalar h
          obtain ⟨value, after⟩ := continuation_zero_eq_scalar h
          rw [value, after]
          simp only [UInt8.reduceToNat] at lo3 hi3 lo4 hi4
          have second := bounds b2 lo2 hi2
          rw [encode_ofNat_four four (by omega) ⟨lo3, hi3⟩ ⟨lo4, hi4⟩ (by omega)]
          rfl
        · rw [step_of_leadShape_none (by omega) (leadShape_none (by omega))] at h
          cases h

/-! ## The strict reading -/

theorem exists_encode_eq_cons (c : Char) : ∃ b tail, encode c = b :: tail := by
  simp only [encode]
  split_ifs <;> exact ⟨_, _, rfl⟩

theorem decode?_cons_of_scalar {b : UInt8} {rest rest' : List UInt8} {c : Char}
    (h : step b rest = .scalar c rest') :
    decode? (b :: rest) = (decode? rest').map (c :: ·) := by
  rw [decode?]
  split <;> simp_all

theorem decode?_cons_of_invalid {b : UInt8} {rest rest' : List UInt8}
    (h : step b rest = .invalid rest') : decode? (b :: rest) = none := by
  rw [decode?]
  split <;> simp_all

theorem decode?_encode_append (c : Char) (bs : List UInt8) :
    decode? (encode c ++ bs) = (decode? bs).map (c :: ·) := by
  obtain ⟨b, tail, h⟩ := exists_encode_eq_cons c
  rw [h, List.cons_append, decode?_cons_of_scalar (step_encode h bs)]

@[simp] theorem encodeList_nil : encodeList [] = [] := rfl

@[simp] theorem encodeList_cons (c : Char) (cs : List Char) :
    encodeList (c :: cs) = encode c ++ encodeList cs := rfl

@[simp] theorem encodeList_append (cs ds : List Char) :
    encodeList (cs ++ ds) = encodeList cs ++ encodeList ds := List.flatMap_append

theorem encodeList_eq_nil_iff {cs : List Char} : encodeList cs = [] ↔ cs = [] := by
  cases cs with
  | nil => simp
  | cons c cs =>
      obtain ⟨b, tail, h⟩ := exists_encode_eq_cons c
      simp [h]

theorem decode?_encodeList (cs : List Char) : decode? (encodeList cs) = some cs := by
  induction cs with
  | nil => simp [decode?]
  | cons c cs ih => rw [encodeList_cons, decode?_encode_append, ih, Option.map_some]

theorem eq_encodeList_of_decode? {bs : List UInt8} {cs : List Char} (h : decode? bs = some cs) :
    bs = encodeList cs := by
  induction bs using decode?.induct generalizing cs with
  | case1 => simp [decode?] at h; simp [h]
  | case2 b rest c rest' stepped _ ih =>
      rw [decode?_cons_of_scalar stepped] at h
      obtain ⟨cs', decoded, rfl⟩ := Option.map_eq_some_iff.mp h
      rw [eq_encode_append_of_step stepped, ih decoded, encodeList_cons]
  | case3 b rest rest' stepped =>
      rw [decode?_cons_of_invalid stepped] at h
      cases h

/-- The strict reading accepts exactly the encodings of character lists. -/
theorem decode?_eq_some_iff {bs : List UInt8} {cs : List Char} :
    decode? bs = some cs ↔ bs = encodeList cs :=
  ⟨eq_encodeList_of_decode?, fun h => h ▸ decode?_encodeList cs⟩

theorem decodeLossy_cons_of_scalar {b : UInt8} {rest rest' : List UInt8} {c : Char}
    (h : step b rest = .scalar c rest') : decodeLossy (b :: rest) = c :: decodeLossy rest' := by
  rw [decodeLossy]
  split <;> simp_all

theorem decodeLossy_encodeList (cs : List Char) : decodeLossy (encodeList cs) = cs := by
  induction cs with
  | nil => simp [decodeLossy]
  | cons c cs ih =>
      obtain ⟨b, tail, h⟩ := exists_encode_eq_cons c
      rw [encodeList_cons, h, List.cons_append, decodeLossy_cons_of_scalar (step_encode h _), ih]

theorem encode_append_eq_encodeList {c : Char} {bs : List UInt8} {cs : List Char}
    (h : encode c ++ bs = encodeList cs) : ∃ cs', cs = c :: cs' ∧ bs = encodeList cs' := by
  have decoded := decode?_encode_append c bs
  rw [h, decode?_encodeList] at decoded
  obtain ⟨cs', rest, rfl⟩ := Option.map_eq_some_iff.mp decoded.symm
  exact ⟨cs', rfl, decode?_eq_some_iff.mp rest⟩

theorem encodeList_eq_flatMap_utf8EncodeChar (cs : List Char) :
    encodeList cs = cs.flatMap String.utf8EncodeChar := by
  have same : encode = String.utf8EncodeChar := funext encode_eq_utf8EncodeChar
  rw [encodeList, same]

theorem isValidUTF8_iff {bs : List UInt8} :
    bs.toByteArray.IsValidUTF8 ↔ ∃ cs, bs = encodeList cs := by
  constructor
  · rintro ⟨cs, h⟩
    refine ⟨cs, List.toByteArray_inj.mp ?_⟩
    rw [h, encodeList_eq_flatMap_utf8EncodeChar]
    rfl
  · rintro ⟨cs, rfl⟩
    refine ⟨cs, ?_⟩
    rw [encodeList_eq_flatMap_utf8EncodeChar]
    rfl

theorem decode?_isSome_iff {bs : List UInt8} : (decode? bs).isSome ↔ bs.toByteArray.IsValidUTF8 := by
  rw [isValidUTF8_iff, Option.isSome_iff_exists]
  simp only [decode?_eq_some_iff]

/-! ## Continuation bytes

UTF-8 synchronises itself: an encoding starts with a byte that is not a continuation byte
`0x80`–`0xBF`, and all its other bytes are.  So a cut before a byte that is no continuation byte
never falls inside an encoded character (`exists_encodeList_of_append`). -/

/-- A byte that continues an encoded character. -/
def IsContinuation (b : UInt8) : Prop :=
  0x80 ≤ b.toNat ∧ b.toNat < 0xC0

instance (b : UInt8) : Decidable (IsContinuation b) :=
  inferInstanceAs (Decidable (_ ∧ _))

theorem encode_head_not_continuation {c : Char} {b : UInt8} {tail : List UInt8}
    (h : encode c = b :: tail) : ¬ IsContinuation b := by
  have valid := toNat_valid c
  unfold IsContinuation
  by_cases h1 : c.toNat < 0x80
  · rw [encode_one h1, List.cons.injEq] at h
    rw [← h.1, toNat_ofNat_of_lt (by omega)]
    omega
  · by_cases h2 : c.toNat < 0x800
    · rw [encode_two ⟨by omega, h2⟩, List.cons.injEq] at h
      rw [← h.1, toNat_ofNat_of_lt (by omega)]
      omega
    · by_cases h3 : c.toNat < 0x10000
      · rw [encode_three ⟨by omega, h3⟩, List.cons.injEq] at h
        rw [← h.1, toNat_ofNat_of_lt (by omega)]
        omega
      · rw [encode_four (by omega), List.cons.injEq] at h
        rw [← h.1, toNat_ofNat_of_lt (by omega)]
        omega

theorem head_encode_append_not_continuation (c : Char) (ys : List UInt8) :
    ∀ y ∈ (encode c ++ ys).head?, ¬ IsContinuation y := by
  obtain ⟨lead, tail, encodedC⟩ := exists_encode_eq_cons c
  intro y hy
  rw [encodedC, List.cons_append, List.head?_cons, Option.mem_some_iff] at hy
  rw [← hy]
  exact encode_head_not_continuation encodedC

theorem isContinuation_ofNat {x : Nat} (h : x < 0x40) : IsContinuation (UInt8.ofNat (0x80 + x)) := by
  unfold IsContinuation
  rw [toNat_ofNat_of_lt (by omega)]
  omega

theorem encode_tail_continuation {c : Char} {b : UInt8} {tail : List UInt8}
    (h : encode c = b :: tail) : ∀ x ∈ tail, IsContinuation x := by
  by_cases h1 : c.toNat < 0x80
  · rw [encode_one h1, List.cons.injEq] at h
    simp [← h.2]
  · by_cases h2 : c.toNat < 0x800
    · rw [encode_two ⟨by omega, h2⟩, List.cons.injEq] at h
      simp only [← h.2, List.mem_singleton, forall_eq]
      exact isContinuation_ofNat (by omega)
    · by_cases h3 : c.toNat < 0x10000
      · rw [encode_three ⟨by omega, h3⟩, List.cons.injEq] at h
        simp only [← h.2, List.mem_cons, forall_eq_or_imp, forall_eq, List.not_mem_nil, or_false]
        exact ⟨isContinuation_ofNat (by omega), isContinuation_ofNat (by omega)⟩
      · rw [encode_four (by omega), List.cons.injEq] at h
        simp only [← h.2, List.mem_cons, forall_eq_or_imp, forall_eq, List.not_mem_nil, or_false]
        exact ⟨isContinuation_ofNat (by omega), isContinuation_ofNat (by omega),
          isContinuation_ofNat (by omega)⟩

theorem le_toNat_of_mem_encode {c : Char} (h : 0x80 ≤ c.toNat) : ∀ b ∈ encode c, 0x80 ≤ b.toNat := by
  have valid := toNat_valid c
  intro b hb
  by_cases h2 : c.toNat < 0x800
  · rw [encode_two ⟨h, h2⟩] at hb
    simp only [List.mem_cons, List.not_mem_nil, or_false] at hb
    rcases hb with rfl | rfl <;> rw [toNat_ofNat_of_lt (by omega)] <;> omega
  · by_cases h3 : c.toNat < 0x10000
    · rw [encode_three ⟨by omega, h3⟩] at hb
      simp only [List.mem_cons, List.not_mem_nil, or_false] at hb
      rcases hb with rfl | rfl | rfl <;> rw [toNat_ofNat_of_lt (by omega)] <;> omega
    · rw [encode_four (by omega)] at hb
      simp only [List.mem_cons, List.not_mem_nil, or_false] at hb
      rcases hb with rfl | rfl | rfl | rfl <;> rw [toNat_ofNat_of_lt (by omega)] <;> omega

theorem exists_encodeList_of_append {xs ys : List UInt8} {cs : List Char}
    (h : xs ++ ys = encodeList cs) (lead : ∀ y ∈ ys.head?, ¬ IsContinuation y) :
    ∃ cs₁ cs₂, cs = cs₁ ++ cs₂ ∧ xs = encodeList cs₁ ∧ ys = encodeList cs₂ := by
  induction cs generalizing xs with
  | nil =>
      obtain ⟨rfl, rfl⟩ := List.append_eq_nil_iff.mp h
      exact ⟨[], [], rfl, rfl, rfl⟩
  | cons c cs ih =>
      cases xs with
      | nil => exact ⟨[], c :: cs, rfl, rfl, by simpa using h⟩
      | cons x xs =>
          obtain ⟨b, tail, encoded⟩ := exists_encode_eq_cons c
          rw [encodeList_cons, List.append_eq_append_iff] at h
          rcases h with ⟨more, within, rfl⟩ | ⟨more, before, after⟩
          · -- the cut falls inside the encoding of `c`, so the first byte after it continues `c`
            cases more with
            | nil => exact ⟨[c], cs, rfl, by simpa using within.symm, rfl⟩
            | cons y more =>
                rw [encoded, List.cons_append, List.cons.injEq] at within
                have continues := encode_tail_continuation encoded y
                  (by rw [within.2]; simp)
                exact absurd continues (lead y (by simp))
          · obtain ⟨cs₁, cs₂, rfl, rfl, rfl⟩ := ih after.symm
            exact ⟨c :: cs₁, cs₂, rfl, before, rfl⟩

/-! ## Order

UTF-8 keeps the order of code points, so text compares character by character as its encoding
compares byte by byte (`encodeList_lt_encodeList`).  The lead byte carries the high bits of a code
point and its range tells how many continuation bytes follow; each of those carries six more
bits, the most significant first. -/

/-- The `k` continuation bytes that carry the low `6 * k` bits of `n`, the most significant
first. -/
def continuationBytes (n : Nat) : Nat → List UInt8
  | 0 => []
  | k + 1 => UInt8.ofNat (0x80 + n / 64 ^ k % 64) :: continuationBytes n k

/-- How many continuation bytes follow the lead byte of the code point `n`. -/
def continuationCount (n : Nat) : Nat :=
  if n < 0x80 then 0 else if n < 0x800 then 1 else if n < 0x10000 then 2 else 3

/-- The lead byte of the code point `n`: its length marker and its high bits. -/
def leadValue (n : Nat) : Nat :=
  if n < 0x80 then n else if n < 0x800 then 0xC0 + n / 0x40
  else if n < 0x10000 then 0xE0 + n / 0x1000 else 0xF0 + n / 0x40000

theorem encode_eq_lead (c : Char) :
    encode c = UInt8.ofNat (leadValue c.toNat) ::
      continuationBytes c.toNat (continuationCount c.toNat) := by
  unfold leadValue continuationCount
  by_cases h1 : c.toNat < 0x80
  · simp [encode_one h1, h1, continuationBytes]
  · by_cases h2 : c.toNat < 0x800
    · simp [encode_two ⟨by omega, h2⟩, h1, h2, continuationBytes]
    · by_cases h3 : c.toNat < 0x10000
      · simp [encode_three ⟨by omega, h3⟩, h1, h2, h3, continuationBytes]
      · simp [@encode_four c (by omega), h1, h2, h3, continuationBytes]

theorem leadValue_lt {n : Nat} (h : n < 0x110000) : leadValue n < 256 := by
  unfold leadValue
  split_ifs <;> omega

theorem leadValue_order {n m : Nat} (lt : n < m) :
    leadValue n < leadValue m ∨
      (leadValue n = leadValue m ∧ continuationCount n = continuationCount m ∧
        n % 64 ^ continuationCount n < m % 64 ^ continuationCount n) := by
  unfold leadValue continuationCount
  split_ifs <;> norm_num <;> omega

theorem continuationBytes_append_lt {n m k : Nat} (h : n % 64 ^ k < m % 64 ^ k)
    (x y : List UInt8) : continuationBytes n k ++ x < continuationBytes m k ++ y := by
  induction k with
  | zero =>
      simp only [Nat.pow_zero, Nat.mod_one] at h
      omega
  | succ k ih =>
      have split (a : Nat) : a % 64 ^ (k + 1) = a % 64 ^ k + 64 ^ k * (a / 64 ^ k % 64) := by
        rw [Nat.pow_succ]
        exact Nat.mod_mul
      have digit (a : Nat) :
          (UInt8.ofNat (0x80 + a / 64 ^ k % 64)).toNat = 0x80 + a / 64 ^ k % 64 :=
        toNat_ofNat_of_lt (by omega)
      rw [split, split] at h
      simp only [continuationBytes, List.cons_append]
      by_cases same : n / 64 ^ k % 64 = m / 64 ^ k % 64
      · rw [same]
        rw [same] at h
        exact List.Lex.cons (ih (by omega))
      · apply List.Lex.rel
        rw [UInt8.lt_iff_toNat_lt, digit, digit]
        -- a greater digit would outweigh the low bits, which are less than one unit of it
        have low : m % 64 ^ k < 64 ^ k := Nat.mod_lt _ (Nat.pow_pos (by decide))
        by_contra ge
        have more : 64 ^ k * (m / 64 ^ k % 64 + 1) ≤ 64 ^ k * (n / 64 ^ k % 64) :=
          Nat.mul_le_mul_left _ (by omega)
        rw [Nat.mul_add, Nat.mul_one] at more
        omega

theorem encode_append_lt {c d : Char} (h : c < d) (x y : List UInt8) :
    encode c ++ x < encode d ++ y := by
  have lt : c.toNat < d.toNat := UInt32.lt_iff_toNat_lt.mp (Char.lt_def.mp h)
  have valid := toNat_valid d
  rw [encode_eq_lead, encode_eq_lead, List.cons_append, List.cons_append]
  rcases leadValue_order lt with smaller | ⟨same, count, low⟩
  · apply List.Lex.rel
    rw [UInt8.lt_iff_toNat_lt, toNat_ofNat_of_lt (leadValue_lt (by omega)),
      toNat_ofNat_of_lt (leadValue_lt (by omega))]
    exact smaller
  · rw [same, count]
    rw [count] at low
    exact List.Lex.cons (continuationBytes_append_lt low x y)

/-- Text is ordered as its encoding is. -/
theorem encodeList_lt_encodeList {cs ds : List Char} (h : cs < ds) :
    encodeList cs < encodeList ds := by
  induction h with
  | nil =>
      rw [encodeList_nil, encodeList_cons, encode_eq_lead, List.cons_append]
      exact List.Lex.nil
  | rel lt =>
      rw [encodeList_cons, encodeList_cons]
      exact encode_append_lt lt _ _
  | cons _ ih =>
      rw [encodeList_cons, encodeList_cons]
      exact List.append_left_lt ih

end JsonProbe.Utf8
