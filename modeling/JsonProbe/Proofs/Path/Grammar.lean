import JsonProbe.Proofs.Path.IndexSpelling
import JsonProbe.Proofs.Assertion.Reports
import Mathlib.Data.Nat.Digits.Defs
import Mathlib.Data.List.Forall2
import Mathlib.Tactic.Ring
/-! # The grammar of path expressions

A path expression, less one leading point, is empty or splits at its points into pieces, and
`Path.compile` reads exactly the expressions whose every piece has one of three forms (`Piece`):

* a numeral, read as a bare index;
* a text with no `[` that is not a numeral, read as a key;
* a key, possibly empty and with no `[`, and a bracketed numeral, read as a key with an index.

An index is the numeral's decimal value (`decimal`), saturated at `indexLimit`, whatever its
length and leading zeros.  An expression that is not read fails at its leftmost bad piece
(`BadPiece`): an empty piece is an empty segment, and a piece with a `[` that is not of the third
form is an invalid index (`compile_accepts_exactly_its_grammar`). -/
set_option autoImplicit false
namespace JsonProbe.Path

/-! ## Numerals -/

/-- The value of a run of ASCII digits in base ten, the most significant digit first. -/
def decimal (ds : List Char) : Nat :=
  Nat.ofDigits 10 (ds.reverse.map fun c => c.toNat - 48)

theorem decimal_cons (c : Char) (ds : List Char) :
    decimal (c :: ds) = decimal ds + 10 ^ ds.length * (c.toNat - 48) := by
  simp only [decimal, List.reverse_cons, List.map_append, List.map_cons, List.map_nil,
    Nat.ofDigits_append, Nat.ofDigits_singleton, List.length_map, List.length_reverse]

theorem foldl_digits (ds : List Char) (acc : Nat) :
    ds.foldl (fun n c => 10 * n + (c.toNat - 48)) acc = acc * 10 ^ ds.length + decimal ds := by
  induction ds generalizing acc with
  | nil => simp [decimal]
  | cons c ds ih =>
      rw [List.foldl_cons, ih, decimal_cons, List.length_cons, pow_succ]
      ring

theorem index?_eq_some_iff {ds : List Char} {n : Nat} :
    index? ds = some n ↔
      ds ≠ [] ∧ ds.all Char.isDigit = true ∧ n = min (decimal ds) indexLimit := by
  constructor
  · intro value
    obtain ⟨nonempty, numeral⟩ := numeral_of_index? value
    refine ⟨nonempty, numeral, ?_⟩
    simp only [index?, List.isEmpty_iff, nonempty, numeral, Bool.not_true, Bool.or_false,
      if_false, foldl_digits, Nat.zero_mul, Nat.zero_add, Option.some.injEq] at value
    exact value.symm
  · rintro ⟨nonempty, numeral, rfl⟩
    simp only [index?, List.isEmpty_iff, nonempty, numeral, Bool.not_true, Bool.or_false,
      if_false, foldl_digits, Nat.zero_mul, Nat.zero_add]

theorem index?_eq_none_iff {ds : List Char} :
    index? ds = none ↔ ds = [] ∨ ds.all Char.isDigit = false := by
  unfold index?
  split_ifs with bad
  · simpa [List.isEmpty_iff] using bad
  · simp only [Bool.or_eq_true, List.isEmpty_iff, Bool.not_eq_true', not_or,
      Bool.not_eq_false] at bad
    simp [bad.1, bad.2]

/-! ## Pieces -/

/-- `Piece w s`: the piece `w` of a path expression reads as the segment `s`. -/
inductive Piece : List Char → Segment → Prop where
  /-- A numeral is a bare index. -/
  | index {ds : List Char} (nonempty : ds ≠ []) (numeral : ds.all Char.isDigit = true) :
      Piece ds (.ofIndex (min (decimal ds) indexLimit))
  /-- A text with no `[` that is not a numeral is a key. -/
  | key {cs : List Char} (nonempty : cs ≠ []) (plain : '[' ∉ cs)
      (notNumeral : cs.all Char.isDigit = false) :
      Piece cs (.ofKey (String.ofList cs))
  /-- A key with no `[`, possibly empty, then a numeral in brackets, is a key with an index. -/
  | bracketed {k ds : List Char} (plain : '[' ∉ k) (nonempty : ds ≠ [])
      (numeral : ds.all Char.isDigit = true) :
      Piece (k ++ '[' :: (ds ++ [']'])) ⟨String.ofList k, some (min (decimal ds) indexLimit)⟩

/-- `BadPiece path w e`: the piece `w` of the expression `path` reads as no segment, and `e` says
so: an empty piece is an empty segment, and a piece with a `[` that is not a key and a bracketed
numeral is an invalid index.  Both name the whole expression. -/
def BadPiece (path : String) (w : List Char) (e : PathSyntaxError) : Prop :=
  (w = [] ∧ e = .emptyKey path) ∨
    ('[' ∈ w ∧ (∀ s, ¬ Piece w s) ∧ e = .invalidIndex path (String.ofList w))

theorem span_bracket (w : List Char) :
    ('[' ∉ w ∧ w.span (· != '[') = (w, [])) ∨
      ∃ k rest, '[' ∉ k ∧ w = k ++ '[' :: rest ∧ w.span (· != '[') = (k, '[' :: rest) := by
  have plainFront : '[' ∉ w.takeWhile (· != '[') := fun mem => by
    simpa using List.mem_takeWhile_imp mem
  cases after : w.dropWhile (· != '[') with
  | nil =>
      have whole := List.takeWhile_append_dropWhile (p := (· != '[')) (l := w)
      rw [after, List.append_nil] at whole
      refine Or.inl ⟨whole ▸ plainFront, ?_⟩
      rw [List.span_eq_takeWhile_dropWhile, whole, after]
  | cons c rest =>
      have stopped := List.head_dropWhile_not (· != '[') (l := w) (by simp [after])
      simp only [after, List.head_cons, bne_eq_false_iff_eq] at stopped
      subst stopped
      refine Or.inr ⟨w.takeWhile (· != '['), rest, plainFront, ?_, ?_⟩
      · rw [← after, List.takeWhile_append_dropWhile]
      · rw [List.span_eq_takeWhile_dropWhile, after]

theorem segment_of_piece (path : String) {w : List Char} {s : Segment} (h : Piece w s) :
    segment path w = .ok s := by
  cases h with
  | index nonempty numeral =>
      exact segment_numeral path (index?_eq_some_iff.mpr ⟨nonempty, numeral, rfl⟩)
  | key nonempty plain notNumeral => exact segment_key path notNumeral plain
  | bracketed plain nonempty numeral =>
      exact segment_bracketed path plain (index?_eq_some_iff.mpr ⟨nonempty, numeral, rfl⟩)

theorem piece_of_segment {path : String} {w : List Char} {s : Segment}
    (h : segment path w = .ok s) : Piece w s := by
  rcases span_bracket w with ⟨plain, whole⟩ | ⟨k, rest, plain, rfl, split⟩
  · -- no bracket: a numeral or a key
    have nonempty : w ≠ [] := by
      rintro rfl
      cases h
    rw [segment, whole] at h
    simp only [List.isEmpty_iff, nonempty, if_false] at h
    cases value : index? w with
    | some n =>
        rw [value] at h
        cases h
        obtain ⟨-, numeral, rfl⟩ := index?_eq_some_iff.mp value
        exact Piece.index nonempty numeral
    | none =>
        rw [value] at h
        cases h
        have notNumeral := (index?_eq_none_iff.mp value).resolve_left nonempty
        exact Piece.key nonempty plain notNumeral
  · -- a bracket: it must close the piece around a numeral
    rw [segment, split] at h
    dsimp only at h
    split at h
    · rename_i inner closed
      split at h
      · rename_i n value
        cases h
        obtain ⟨nonempty, numeral, rfl⟩ := index?_eq_some_iff.mp value
        have restEq : rest = inner.reverse ++ [']'] := by
          rw [← List.reverse_reverse rest, closed, List.reverse_cons]
        rw [restEq]
        exact Piece.bracketed plain nonempty numeral
      · cases h
    · cases h

theorem segment_eq_ok_iff {path : String} {w : List Char} {s : Segment} :
    segment path w = .ok s ↔ Piece w s :=
  ⟨piece_of_segment, segment_of_piece path⟩

theorem badPiece_of_segment {path : String} {w : List Char} {e : PathSyntaxError}
    (h : segment path w = .error e) : BadPiece path w e := by
  rcases span_bracket w with ⟨plain, whole⟩ | ⟨k, rest, plain, rfl, split⟩
  · -- with no bracket only the empty piece fails
    by_cases empty : w = []
    · subst empty
      cases h
      exact Or.inl ⟨rfl, rfl⟩
    · rw [segment, whole] at h
      simp only [List.isEmpty_iff, empty, if_false] at h
      split at h <;> cases h
  · refine Or.inr ⟨by simp, fun s piece => ?_, ?_⟩
    · rw [segment_of_piece path piece] at h
      cases h
    · rw [segment, split] at h
      dsimp only at h
      split at h
      · split at h
        · cases h
        · cases h
          rfl
      · cases h
        rfl

theorem segment_eq_error_iff {path : String} {w : List Char} {e : PathSyntaxError} :
    segment path w = .error e ↔ BadPiece path w e := by
  refine ⟨badPiece_of_segment, ?_⟩
  rintro (⟨rfl, rfl⟩ | ⟨bracket, noPiece, rfl⟩)
  · rfl
  · cases read : segment path w with
    | ok s => exact absurd (piece_of_segment read) (noPiece s)
    | error e' =>
        rcases badPiece_of_segment read with ⟨rfl, -⟩ | ⟨-, -, rfl⟩
        · cases bracket
        · rfl

/-! ## Reading piece by piece -/

theorem forall₂_of_mapM_eq_ok {α β ε : Type} {f : α → Except ε β} :
    ∀ {l : List α} {r : List β}, l.mapM f = .ok r → List.Forall₂ (fun a b => f a = .ok b) l r
  | [], r, h => by
      cases h
      exact List.Forall₂.nil
  | x :: l, r, h => by
      rw [List.mapM_cons] at h
      cases fx : f x with
      | error e =>
          rw [fx, error_bind] at h
          cases h
      | ok v =>
          cases rest : l.mapM f with
          | error e =>
              rw [fx, ok_bind, rest, error_bind] at h
              cases h
          | ok vs =>
              rw [fx, ok_bind, rest, ok_bind] at h
              cases h
              exact List.Forall₂.cons fx (forall₂_of_mapM_eq_ok rest)

theorem mapM_eq_ok_of_forall₂ {α β ε : Type} {f : α → Except ε β} {l : List α} {r : List β}
    (h : List.Forall₂ (fun a b => f a = .ok b) l r) : l.mapM f = .ok r := by
  induction h with
  | nil => rfl
  | cons gave _ ih =>
      rw [List.mapM_cons, gave, ok_bind, ih, ok_bind]
      rfl

theorem mapM_eq_ok_iff {α β ε : Type} {f : α → Except ε β} {l : List α} {r : List β} :
    l.mapM f = .ok r ↔ List.Forall₂ (fun a b => f a = .ok b) l r :=
  ⟨forall₂_of_mapM_eq_ok, mapM_eq_ok_of_forall₂⟩

theorem mapM_eq_error_iff {α β ε : Type} {f : α → Except ε β} {l : List α} {e : ε} :
    l.mapM f = .error e ↔
      ∃ pre x post, l = pre ++ x :: post ∧ (∀ y ∈ pre, ∃ v, f y = .ok v) ∧ f x = .error e := by
  refine ⟨Assertion.mapM_eq_error, ?_⟩
  rintro ⟨pre, x, post, rfl, before, failed⟩
  induction pre with
  | nil => rw [List.nil_append, List.mapM_cons, failed, error_bind]
  | cons y pre ih =>
      obtain ⟨v, gave⟩ := before y List.mem_cons_self
      rw [List.cons_append, List.mapM_cons, gave, ok_bind,
        ih fun z mem => before z (List.mem_cons_of_mem y mem), error_bind]

/-! ## Whole expressions -/

theorem compile_eq_ok_iff (path : String) (s : Path) :
    compile path = .ok s ↔
      (dropPoint path.toList = [] ∧ s = []) ∨
        (dropPoint path.toList ≠ [] ∧
          List.Forall₂ Piece ((dropPoint path.toList).splitOn '.') s) := by
  rw [compile_eq]
  by_cases empty : dropPoint path.toList = []
  · simp only [empty, List.isEmpty_nil, if_true, Except.ok.injEq, true_and, ne_eq,
      not_true_eq_false, false_and, or_false]
    exact eq_comm
  · have pieces : (fun w s => segment path w = .ok s) = Piece :=
      funext fun _ => funext fun _ => propext segment_eq_ok_iff
    simp only [List.isEmpty_iff, empty, if_false, mapM_eq_ok_iff, pieces, false_and, false_or,
      ne_eq, not_false_eq_true, true_and]

theorem compile_eq_error_iff (path : String) (e : PathSyntaxError) :
    compile path = .error e ↔
      dropPoint path.toList ≠ [] ∧
        ∃ pre bad post, (dropPoint path.toList).splitOn '.' = pre ++ bad :: post ∧
          (∀ w ∈ pre, ∃ s, Piece w s) ∧ BadPiece path bad e := by
  rw [compile_eq]
  by_cases empty : dropPoint path.toList = []
  · simp [empty]
  · simp only [List.isEmpty_iff, empty, if_false, mapM_eq_error_iff, segment_eq_ok_iff,
      segment_eq_error_iff, ne_eq, not_false_eq_true, true_and]

/-- `compile` reads exactly the expressions whose pieces are all of the grammar, each piece as its
segment, and otherwise fails at the leftmost bad piece with the error for it. -/
theorem compile_accepts_exactly_its_grammar (path : String) :
    (∀ s, compile path = .ok s ↔
      (dropPoint path.toList = [] ∧ s = []) ∨
        (dropPoint path.toList ≠ [] ∧
          List.Forall₂ Piece ((dropPoint path.toList).splitOn '.') s)) ∧
    (∀ e, compile path = .error e ↔
      dropPoint path.toList ≠ [] ∧
        ∃ pre bad post, (dropPoint path.toList).splitOn '.' = pre ++ bad :: post ∧
          (∀ w ∈ pre, ∃ s, Piece w s) ∧ BadPiece path bad e) :=
  ⟨compile_eq_ok_iff path, compile_eq_error_iff path⟩

example : compile ".a[1][2]" = .error (.invalidIndex ".a[1][2]" "a[1][2]") := by decide

end JsonProbe.Path
