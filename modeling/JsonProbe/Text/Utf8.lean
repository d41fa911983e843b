/-!
# UTF-8 over byte lists

Encoding of a character, and two readings of a byte list: the strict one, which accepts only
well-formed UTF-8 (no overlong form, no surrogate, nothing above U+10FFFF), and the lossy one,
which reads each maximal ill-formed subpart as U+FFFD, the substitution the Unicode standard
recommends.

Both readings are built on `Utf8.step`, which reads one character or one ill-formed subpart off the
front of the list.
-/

set_option autoImplicit false

namespace JsonProbe.Utf8

/-- The UTF-8 encoding of a character. -/
def encode (c : Char) : List UInt8 :=
  let n := c.toNat
  if n < 0x80 then
    [n.toUInt8]
  else if n < 0x800 then
    [(0xC0 + n / 0x40).toUInt8, (0x80 + n % 0x40).toUInt8]
  else if n < 0x10000 then
    [(0xE0 + n / 0x1000).toUInt8, (0x80 + n / 0x40 % 0x40).toUInt8, (0x80 + n % 0x40).toUInt8]
  else
    [(0xF0 + n / 0x40000).toUInt8, (0x80 + n / 0x1000 % 0x40).toUInt8,
      (0x80 + n / 0x40 % 0x40).toUInt8, (0x80 + n % 0x40).toUInt8]

/-- The UTF-8 encoding of a list of characters. -/
def encodeList (cs : List Char) : List UInt8 :=
  cs.flatMap encode

/-- What a lead byte announces: how many continuation bytes follow, the bounds of the first of
them, and the payload bits of the lead byte itself. `none` for a byte that starts no multi-byte
sequence (an ASCII byte is read before this table is consulted). -/
def leadShape (b : UInt8) : Option (Nat × UInt8 × UInt8 × Nat) :=
  if b < 0xC2 then none
  else if b ≤ 0xDF then some (1, 0x80, 0xBF, b.toNat - 0xC0)
  else if b == 0xE0 then some (2, 0xA0, 0xBF, 0)
  else if b == 0xED then some (2, 0x80, 0x9F, 0xD)
  else if b ≤ 0xEF then some (2, 0x80, 0xBF, b.toNat - 0xE0)
  else if b == 0xF0 then some (3, 0x90, 0xBF, 0)
  else if b ≤ 0xF3 then some (3, 0x80, 0xBF, b.toNat - 0xF0)
  else if b == 0xF4 then some (3, 0x80, 0x8F, 4)
  else none

/-- One reading step: a well-formed sequence gives its character, an ill-formed subpart gives
nothing; either way the bytes after it follow. -/
inductive Step where
  | scalar (c : Char) (rest : List UInt8)
  | invalid (rest : List UInt8)

/-- Reads `n` continuation bytes onto the value `acc`, the first of them within `lo..hi` and the
others within `0x80..0xBF`. A byte out of its bounds ends the ill-formed subpart before it. -/
def continuation : Nat → UInt8 → UInt8 → Nat → List UInt8 → Step
  | 0, _, _, acc, rest => .scalar (Char.ofNat acc) rest
  | _ + 1, _, _, _, [] => .invalid []
  | n + 1, lo, hi, acc, b :: rest =>
    if lo ≤ b ∧ b ≤ hi then continuation n 0x80 0xBF (acc * 0x40 + (b.toNat - 0x80)) rest
    else .invalid (b :: rest)

/-- Reads the character that starts with byte `b`, followed by `rest`. -/
def step (b : UInt8) (rest : List UInt8) : Step :=
  if b < 0x80 then .scalar (Char.ofNat b.toNat) rest
  else match leadShape b with
    | none => .invalid rest
    | some (n, lo, hi, payload) => continuation n lo hi payload rest

/-- The bytes after a step. -/
def Step.rest : Step → List UInt8
  | .scalar _ rest => rest
  | .invalid rest => rest

theorem continuation_rest_length_le (n : Nat) (lo hi : UInt8) (acc : Nat) (bs : List UInt8) :
    (continuation n lo hi acc bs).rest.length ≤ bs.length := by
  induction n generalizing lo hi acc bs with
  | zero => simp [continuation, Step.rest]
  | succ n ih =>
    cases bs with
    | nil => simp [continuation, Step.rest]
    | cons b bs =>
      simp only [continuation]
      split
      · exact Nat.le_trans (ih _ _ _ _) (Nat.le_succ _)
      · simp [Step.rest]

theorem step_rest_length_le (b : UInt8) (rest : List UInt8) :
    (step b rest).rest.length ≤ rest.length := by
  unfold step
  split
  · simp [Step.rest]
  · split
    · simp [Step.rest]
    · exact continuation_rest_length_le _ _ _ _ _

/-- The lossy reading: every well-formed character, and U+FFFD for each maximal ill-formed
subpart. -/
def decodeLossy : List UInt8 → List Char
  | [] => []
  | b :: rest =>
    match h : step b rest with
    | .scalar c rest' =>
      have : rest'.length < rest.length + 1 := by
        have := step_rest_length_le b rest
        rw [h] at this
        exact Nat.lt_succ_of_le this
      c :: decodeLossy rest'
    | .invalid rest' =>
      have : rest'.length < rest.length + 1 := by
        have := step_rest_length_le b rest
        rw [h] at this
        exact Nat.lt_succ_of_le this
      '�' :: decodeLossy rest'
termination_by bs => bs.length

/-- The strict reading: the characters, if the bytes are well-formed UTF-8. -/
def decode? : List UInt8 → Option (List Char)
  | [] => some []
  | b :: rest =>
    match h : step b rest with
    | .scalar c rest' =>
      have : rest'.length < rest.length + 1 := by
        have := step_rest_length_le b rest
        rw [h] at this
        exact Nat.lt_succ_of_le this
      (decode? rest').map (c :: ·)
    | .invalid _ => none
termination_by bs => bs.length

/-- The first character of the lossy reading of a non-empty byte list. -/
def firstLossy (b : UInt8) (rest : List UInt8) : Char :=
  match step b rest with
  | .scalar c _ => c
  | .invalid _ => '�'

end JsonProbe.Utf8
