import JsonProbe.Assertion
import JsonProbe.Proofs.Path.Walk
import Mathlib.Data.List.TakeDrop
import Mathlib.Data.List.TakeWhile
import JsonProbe.Proofs.Json.Lexing
/-! # Two writings of an array index

An index into the array under a key can be written in a path expression as one piece `k[i]` or
as two pieces `k.i`.  The first compiles to one segment `⟨k, some i⟩`, the second to the two
segments `k` and `[i]`; a walk along either list takes the same steps and reports every failure at
the same rendered path (`Path.resolve_indexed`, `Path.render_indexed`).

So the assertions answer alike for both writings (`SameAnswer`), with two exceptions:

* a path syntax error names the expression it was given, which differs between the writings;
* `keyIsMissing` asks whether the last segment's key is missing.  When `k[i]` is the last piece,
  that segment is `⟨k, some i⟩` and a missing `k` counts as missing; written `k.i`, the last
  segment is `[i]`, and a missing `k` fails the walk to its parent instead. -/
set_option autoImplicit false
namespace JsonProbe

/-- The same path syntax error, reported for the expression `path`. -/
def PathSyntaxError.withPath (path : String) : PathSyntaxError → PathSyntaxError
  | .emptyKey _ => .emptyKey path
  | .invalidIndex _ segment => .invalidIndex path segment

namespace Path

/-! ## Reading pieces -/

theorem segment_withPath (p q : String) (piece : List Char) :
    segment q piece = (segment p piece).mapError (PathSyntaxError.withPath q) := by
  unfold segment
  split
  · split
    · rfl
    · split <;> rfl
  · split
    · split <;> rfl
    · rfl

theorem mapM_mapError {α β ε : Type} (f : α → Except ε β) (g : ε → ε) (l : List α) :
    l.mapM (fun x => (f x).mapError g) = (l.mapM f).mapError g := by
  induction l with
  | nil => rfl
  | cons x l ih =>
      simp only [List.mapM_cons, ih]
      cases f x with
      | error e => rfl
      | ok y => cases l.mapM f <;> rfl

theorem length_of_mapM_eq_ok {α β ε : Type} {f : α → Except ε β} :
    ∀ {l : List α} {r : List β}, l.mapM f = .ok r → r.length = l.length
  | [], r, h => by
      cases h
      rfl
  | x :: l, r, h => by
      rw [List.mapM_cons] at h
      cases fx : f x with
      | error e => rw [fx] at h; cases h
      | ok y =>
          cases rest : l.mapM f with
          | error e => rw [fx, rest] at h; cases h
          | ok ys =>
              rw [fx, rest] at h
              cases h
              simp [length_of_mapM_eq_ok rest]

theorem segment_key (path : String) {key : List Char} (numeral : key.all Char.isDigit = false)
    (plain : '[' ∉ key) : segment path key = .ok (.ofKey (String.ofList key)) := by
  have whole : key.span (· != '[') = (key, []) := by
    have noBracket : ∀ c ∈ key, (c != '[') = true := fun c hc => by
      simpa using fun same : c = '[' => plain (same ▸ hc)
    rw [List.span_eq_takeWhile_dropWhile, List.takeWhile_eq_self_iff.mpr noBracket,
      List.dropWhile_eq_nil_iff.mpr noBracket]
  have notEmpty : key.isEmpty = false := by
    cases key with
    | nil => simp at numeral
    | cons c key => rfl
  have notIndex : index? key = none := by
    simp [index?, numeral]
  rw [segment, whole]
  simp only [notEmpty, Bool.false_eq_true, if_false, notIndex]

theorem numeral_of_index? {i : List Char} {n : Nat} (value : index? i = some n) :
    i ≠ [] ∧ i.all Char.isDigit = true := by
  unfold index? at value
  split_ifs at value with bad
  simp only [Bool.or_eq_true, List.isEmpty_iff, Bool.not_eq_true', not_or,
    Bool.not_eq_false] at bad
  exact bad

theorem index?_of_numeral {i : List Char} (nonempty : i ≠ [])
    (numeral : i.all Char.isDigit = true) : ∃ n, index? i = some n := by
  refine ⟨min (i.foldl (fun n c => 10 * n + (c.toNat - 48)) 0) indexLimit, ?_⟩
  simp [index?, List.isEmpty_iff, nonempty, numeral]

theorem segment_numeral (path : String) {i : List Char} {n : Nat} (value : index? i = some n) :
    segment path i = .ok (.ofIndex n) := by
  obtain ⟨nonempty, numeral⟩ := numeral_of_index? value
  have noBracket : ∀ c ∈ i, (c != '[') = true := fun c hc => by
    have digit := List.all_eq_true.mp numeral c hc
    simp only [bne_iff_ne, ne_eq]
    rintro rfl
    exact absurd digit (by decide)
  have whole : i.span (· != '[') = (i, []) := by
    rw [List.span_eq_takeWhile_dropWhile, List.takeWhile_eq_self_iff.mpr noBracket,
      List.dropWhile_eq_nil_iff.mpr noBracket]
  have notEmpty : i.isEmpty = false := List.isEmpty_eq_false_iff.mpr nonempty
  rw [segment, whole]
  simp only [notEmpty, Bool.false_eq_true, if_false, value]

theorem segment_bracketed (path : String) {key i : List Char} {n : Nat} (plain : '[' ∉ key)
    (value : index? i = some n) :
    segment path (key ++ '[' :: (i ++ [']'])) = .ok ⟨String.ofList key, some n⟩ := by
  have noBracket : ∀ c ∈ key, (c != '[') = true := fun c hc => by
    simpa using fun same : c = '[' => plain (same ▸ hc)
  have split : (key ++ '[' :: (i ++ [']'])).span (· != '[') = (key, '[' :: (i ++ [']'])) := by
    rw [List.span_eq_takeWhile_dropWhile, List.takeWhile_append_of_pos noBracket,
      List.dropWhile_append_of_pos noBracket]
    simp
  rw [segment, split]
  simp only [List.reverse_append, List.reverse_cons, List.reverse_nil, List.nil_append,
    List.cons_append, List.reverse_reverse, value]

/-! ## Splitting an expression into pieces -/

/-- The text a path expression's pieces are split from: the expression less one leading point. -/
def dropPoint : List Char → List Char
  | '.' :: more => more
  | all => all

theorem compile_eq (path : String) :
    compile path =
      if (dropPoint path.toList).isEmpty then .ok []
      else ((dropPoint path.toList).splitOn '.').mapM (segment path) :=
  rfl

theorem dropPoint_append (xs : List Char) {ys : List Char} (h : ys.head? ≠ some '.')
    (nonempty : ys ≠ []) : dropPoint (xs ++ ys) = dropPoint xs ++ ys := by
  cases xs with
  | nil =>
      obtain ⟨c, ys, rfl⟩ := List.exists_cons_of_ne_nil nonempty
      rw [List.nil_append, dropPoint.eq_2 _ (by rintro more ⟨rfl, -⟩; exact h rfl),
        dropPoint.eq_2 _ (by simp)]
      rfl
  | cons c xs =>
      by_cases point : c = '.'
      · subst point
        rfl
      · have keep : ∀ zs : List Char, dropPoint (c :: zs) = c :: zs := fun zs =>
          dropPoint.eq_2 _ (by rintro more ⟨rfl, -⟩; exact point rfl)
        rw [List.cons_append, keep, keep, List.cons_append]

theorem dropPoint_ends {xs : List Char} (h : xs = [] ∨ xs.getLast? = some '.') :
    dropPoint xs = [] ∨ (dropPoint xs).getLast? = some '.' := by
  rcases h with rfl | ends
  · exact Or.inl rfl
  · cases xs with
    | nil => exact Or.inl rfl
    | cons c more =>
        by_cases point : c = '.'
        · subst point
          cases more with
          | nil => exact Or.inl rfl
          | cons d more => exact Or.inr (by simpa [dropPoint] using ends)
        · rw [dropPoint.eq_2 _ (by rintro more ⟨rfl, -⟩; exact point rfl)]
          exact Or.inr ends

theorem splitOn_before {xs : List Char} (h : xs = [] ∨ xs.getLast? = some '.') :
    ∃ front : List (List Char), ∀ rest,
      (xs ++ rest).splitOn '.' = front ++ rest.splitOn '.' := by
  rcases h with rfl | ends
  · exact ⟨[], fun rest => by simp⟩
  · obtain ⟨init, rfl⟩ := List.getLast?_eq_some_iff.mp ends
    refine ⟨init.splitOn '.', fun rest => ?_⟩
    rw [List.append_assoc, List.singleton_append, List.splitOn_append_cons_self]

theorem splitOn_after {ys : List Char} (h : ys = [] ∨ ys.head? = some '.') :
    ∃ back : List (List Char), (back = [] ↔ ys = []) ∧
      ∀ mid, (mid ++ ys).splitOn '.' = mid.splitOn '.' ++ back := by
  rcases h with rfl | starts
  · exact ⟨[], by simp, fun mid => by simp⟩
  · obtain ⟨rest, rfl⟩ := List.head?_eq_some_iff.mp starts
    exact ⟨rest.splitOn '.', by simp [List.splitOn_ne_nil],
      fun mid => List.splitOn_append_cons_self mid rest⟩

/-! ## An expression with a piece in bracket form -/

/-- A path expression with one piece written in bracket form `k[i]`.  The text before the piece
is empty or ends with a point, the text after it is empty or starts with one; `k` is a key that is
not a numeral and has no point or bracket in it, and `i` is a numeral. -/
structure BracketedPiece where
  pre : List Char
  key : List Char
  index : List Char
  post : List Char
  pre_ends : pre = [] ∨ pre.getLast? = some '.'
  post_starts : post = [] ∨ post.head? = some '.'
  key_not_numeral : key.all Char.isDigit = false
  key_no_point : '.' ∉ key
  key_no_bracket : '[' ∉ key
  index_ne_nil : index ≠ []
  index_numeral : index.all Char.isDigit = true

namespace BracketedPiece

variable (w : BracketedPiece)

/-- The piece as written, `k[i]`. -/
def piece : List Char := w.key ++ '[' :: (w.index ++ [']'])

/-- The piece written as two pieces, `k.i`. -/
def pieces : List Char := w.key ++ '.' :: w.index

/-- The expression with the piece written `k[i]`. -/
def bracketed : String := String.ofList (w.pre ++ w.piece ++ w.post)

/-- The expression with the piece written `k.i`. -/
def dotted : String := String.ofList (w.pre ++ w.pieces ++ w.post)

theorem point_not_mem_index : '.' ∉ w.index := fun mem =>
  absurd (List.all_eq_true.mp w.index_numeral '.' mem) (by decide)

theorem key_ne_nil : w.key ≠ [] := by
  rintro empty
  have numeral := w.key_not_numeral
  rw [empty] at numeral
  exact absurd numeral (by decide)

theorem splitOn_piece : w.piece.splitOn '.' = [w.piece] := by
  apply List.splitOn_eq_singleton
  simp only [piece, List.mem_append, List.mem_cons, List.not_mem_nil, or_false, not_or]
  exact ⟨w.key_no_point, by decide, w.point_not_mem_index, by decide⟩

theorem splitOn_pieces : w.pieces.splitOn '.' = [w.key, w.index] := by
  rw [pieces, List.splitOn_append_cons_self, List.splitOn_eq_singleton w.key_no_point,
    List.splitOn_eq_singleton w.point_not_mem_index]
  rfl

theorem splitOn_around :
    ∃ front back : List (List Char), (back = [] ↔ w.post = []) ∧
      ∀ mid, (dropPoint w.pre ++ mid ++ w.post).splitOn '.' =
        front ++ mid.splitOn '.' ++ back := by
  obtain ⟨front, before⟩ := splitOn_before (dropPoint_ends w.pre_ends)
  obtain ⟨back, last, after⟩ := splitOn_after w.post_starts
  exact ⟨front, back, last, fun mid => by
    rw [List.append_assoc, before, after, List.append_assoc]⟩

theorem head_key_append (rest : List Char) : (w.key ++ rest).head? ≠ some '.' := by
  intro starts
  obtain ⟨tail, split⟩ := List.head?_eq_some_iff.mp starts
  obtain ⟨c, key, keyEq⟩ := List.exists_cons_of_ne_nil w.key_ne_nil
  rw [keyEq, List.cons_append, List.cons.injEq] at split
  exact w.key_no_point (keyEq ▸ split.1 ▸ List.mem_cons_self)

theorem dropPoint_around (rest : List Char) :
    dropPoint (w.pre ++ (w.key ++ rest) ++ w.post) =
      dropPoint w.pre ++ (w.key ++ rest) ++ w.post := by
  have nonempty : w.key ++ rest ++ w.post ≠ [] := by simp [w.key_ne_nil]
  rw [List.append_assoc,
    dropPoint_append w.pre (by rw [List.append_assoc]; exact w.head_key_append _) nonempty]
  simp only [List.append_assoc]

theorem compile_respelled :
    (∃ e, compile w.bracketed = .error e ∧ compile w.dotted = .error (e.withPath w.dotted)) ∨
      ∃ front back n,
        compile w.bracketed = .ok (front ++ [⟨String.ofList w.key, some n⟩] ++ back) ∧
        compile w.dotted = .ok (front ++ [.ofKey (String.ofList w.key), .ofIndex n] ++ back) ∧
        (back = [] ↔ w.post = []) := by
  obtain ⟨n, value⟩ := index?_of_numeral w.index_ne_nil w.index_numeral
  obtain ⟨front, back, last, split⟩ := w.splitOn_around
  have textB : dropPoint w.bracketed.toList = dropPoint w.pre ++ w.piece ++ w.post := by
    rw [bracketed, String.toList_ofList, piece, w.dropPoint_around]
  have textD : dropPoint w.dotted.toList = dropPoint w.pre ++ w.pieces ++ w.post := by
    rw [dotted, String.toList_ofList, pieces, w.dropPoint_around]
  have piecesB : (dropPoint w.bracketed.toList).splitOn '.' = front ++ [w.piece] ++ back := by
    rw [textB, split, w.splitOn_piece]
  have piecesD : (dropPoint w.dotted.toList).splitOn '.' = front ++ [w.key, w.index] ++ back := by
    rw [textD, split, w.splitOn_pieces]
  have nonemptyB : (dropPoint w.bracketed.toList).isEmpty = false := by
    simp [textB, piece]
  have nonemptyD : (dropPoint w.dotted.toList).isEmpty = false := by
    simp [textD, pieces]
  -- the pieces other than `k[i]` and `k.i` are read alike, their errors apart
  have other (pieces : List (List Char)) : pieces.mapM (segment w.dotted) =
      (pieces.mapM (segment w.bracketed)).mapError (PathSyntaxError.withPath w.dotted) := by
    have same : segment w.dotted = fun piece =>
        (segment w.bracketed piece).mapError (PathSyntaxError.withPath w.dotted) :=
      funext (segment_withPath w.bracketed w.dotted)
    rw [same, mapM_mapError]
  have bracketRead : segment w.bracketed w.piece = .ok ⟨String.ofList w.key, some n⟩ :=
    segment_bracketed _ w.key_no_bracket value
  rw [compile_eq, compile_eq, nonemptyB, nonemptyD, piecesB, piecesD]
  simp only [Bool.false_eq_true, if_false, List.mapM_append, List.mapM_cons, List.mapM_nil,
    bracketRead, segment_key _ w.key_not_numeral w.key_no_bracket, segment_numeral _ value,
    other front, other back]
  cases frontRead : front.mapM (segment w.bracketed) with
  | error e => exact Or.inl ⟨e, rfl, rfl⟩
  | ok fs =>
      cases backRead : back.mapM (segment w.bracketed) with
      | error e => exact Or.inl ⟨e, rfl, rfl⟩
      | ok bs =>
          have lengths := length_of_mapM_eq_ok backRead
          refine Or.inr ⟨fs, bs, n, rfl, rfl, ?_⟩
          rw [← last, ← List.length_eq_zero_iff, lengths, List.length_eq_zero_iff]

end BracketedPiece

end Path

/-! ## The assertions -/

namespace Assertion

open JsonProbe.Path

/-- Two answers to one assertion, asked through two writings of its path expression, agree: they
are equal, or both are path syntax errors that differ only in the expression they name, `q` for
the second. -/
def SameAnswer {α : Type} (q : String) (x y : Except ProbeError α) : Prop :=
  y = x ∨ ∃ e, x = .error (.pathSyntax e) ∧ y = .error (.pathSyntax (e.withPath q))

variable (w : BracketedPiece) (b : List UInt8)

theorem load_respelled :
    (∃ e, load b w.bracketed = .error e ∧ load b w.dotted = .error e) ∨
      (∃ e, load b w.bracketed = .error (.pathSyntax e) ∧
        load b w.dotted = .error (.pathSyntax (e.withPath w.dotted))) ∨
      ∃ root front back n,
        load b w.bracketed = .ok (root, front ++ [⟨String.ofList w.key, some n⟩] ++ back) ∧
        load b w.dotted =
          .ok (root, front ++ [.ofKey (String.ofList w.key), .ofIndex n] ++ back) ∧
        (back = [] ↔ w.post = []) := by
  unfold load
  cases Term.parse b with
  | error e => exact Or.inl ⟨.parse e, rfl, rfl⟩
  | ok root =>
      rcases w.compile_respelled with ⟨e, bracketed, dotted⟩ |
        ⟨front, back, n, bracketed, dotted, last⟩
      · exact Or.inr (Or.inl ⟨e, by simp [bracketed, Except.mapError],
          by simp [dotted, Except.mapError]⟩)
      · exact Or.inr (Or.inr ⟨root, front, back, n, by simp [bracketed, Except.mapError],
          by simp [dotted, Except.mapError], last⟩)

theorem sameAnswer_load_bind {α : Type} {f : Term × Path → Except ProbeError α}
    (same : ∀ root front back n,
      f (root, front ++ (⟨String.ofList w.key, some n⟩ : Segment) :: back) =
        f (root, front ++ .ofKey (String.ofList w.key) :: .ofIndex n :: back)) :
    SameAnswer w.dotted (load b w.bracketed >>= f) (load b w.dotted >>= f) := by
  rcases load_respelled w b with ⟨e, bracketed, dotted⟩ | ⟨e, bracketed, dotted⟩ |
    ⟨root, front, back, n, bracketed, dotted, -⟩
  · exact Or.inl (by rw [bracketed, dotted])
  · exact Or.inr ⟨e, by rw [bracketed]; rfl, by rw [dotted]; rfl⟩
  · refine Or.inl ?_
    rw [bracketed, dotted, ok_bind, ok_bind]
    simpa using (same root front back n).symm

theorem walk_indexed (root : Term) (front back : Path) (k : String) (n : Nat) :
    walk root (front ++ (⟨k, some n⟩ : Segment) :: back) =
      walk root (front ++ Segment.ofKey k :: Segment.ofIndex n :: back) := by
  rw [walk, walk, resolve_indexed]

theorem isNull_respelled : SameAnswer w.dotted (isNull b w.bracketed) (isNull b w.dotted) :=
  sameAnswer_load_bind w b fun root front back n => by
    simp only [walk_indexed, render_indexed]

theorem matchesPattern_respelled [RegexEngine] (pattern : String) :
    SameAnswer w.dotted (matchesPattern b w.bracketed pattern)
      (matchesPattern b w.dotted pattern) := by
  unfold matchesPattern
  cases (RegexEngine.compile pattern).mapError (ProbeError.pattern pattern) with
  | error e => exact Or.inl rfl
  | ok re =>
      exact sameAnswer_load_bind w b fun root front back n => by
        simp only [scalarAt, walk_indexed, render_indexed]

theorem hasLength_respelled (length : Nat) :
    SameAnswer w.dotted (hasLength b w.bracketed length) (hasLength b w.dotted length) :=
  sameAnswer_load_bind w b fun root front back n => by
    simp only [arrayAt, walk_indexed, render_indexed]

theorem read_respelled : SameAnswer w.dotted (read b w.bracketed) (read b w.dotted) :=
  sameAnswer_load_bind w b fun root front back n => by
    simp only [scalarAt, walk_indexed, render_indexed]

theorem readArray_respelled :
    SameAnswer w.dotted (readArray b w.bracketed) (readArray b w.dotted) :=
  sameAnswer_load_bind w b fun root front back n => by
    simp only [arrayAt, walk_indexed, List.append_assoc, List.cons_append, render_indexed]

theorem walk_append_ofKey (root : Term) (front : Path) (k : String) :
    walk root (front ++ [Segment.ofKey k]) =
      walk root front >>= fun parent => (keyStep front k parent).mapError ResolveError.toProbe := by
  unfold walk
  rw [resolve_append]
  cases front.resolve root with
  | error e => rfl
  | ok parent =>
      simp only [ok_bind, mapError_ok, resolveFrom, step_ofKey, bind_pure]

theorem keyIsMissing_respelled :
    SameAnswer w.dotted (keyIsMissing b w.bracketed) (keyIsMissing b w.dotted) ∨
      w.post = [] ∧ keyIsMissing b w.bracketed = .ok () ∧
        ∃ place keys, keyIsMissing b w.dotted =
          .error (.lookup (.missingKey (String.ofList w.key) place keys)) := by
  unfold keyIsMissing
  rcases load_respelled w b with ⟨e, bracketed, dotted⟩ | ⟨e, bracketed, dotted⟩ |
    ⟨root, front, back, n, bracketed, dotted, last⟩
  · exact Or.inl (Or.inl (by rw [bracketed, dotted]))
  · exact Or.inl (Or.inr ⟨e, by rw [bracketed]; rfl, by rw [dotted]; rfl⟩)
  rw [bracketed, dotted, ok_bind, ok_bind]
  rcases List.eq_nil_or_concat back with rfl | ⟨init, final, rfl⟩
  · -- `k[i]` is the last piece, taken from the parent in one writing and from `k` in the other
    have shape : front ++ [Segment.ofKey (String.ofList w.key), Segment.ofIndex n] ++ [] =
        front ++ [Segment.ofKey (String.ofList w.key)] ++ [Segment.ofIndex n] := by
      simp
    have present : render (front ++ [⟨String.ofList w.key, some n⟩]) =
        render (front ++ [Segment.ofKey (String.ofList w.key)] ++ [Segment.ofIndex n]) := by
      rw [render_indexed, List.append_assoc, List.singleton_append]
    rw [List.append_nil, shape]
    simp only [List.getLast?_concat, List.dropLast_concat, walk_append_ofKey, present]
    rw [step_ofIndex]
    simp only [step_eq_keyStep_bind]
    cases walk root front with
    | error e => exact Or.inl (Or.inl rfl)
    | ok parent =>
        simp only [ok_bind]
        cases found : keyStep front (String.ofList w.key) parent with
        | ok v =>
            simp only [mapError_ok, ok_bind]
            exact Or.inl (Or.inl rfl)
        | error e =>
            cases e with
            | shape e => exact Or.inl (Or.inl rfl)
            | lookup e =>
                cases e with
                | missingKey k place keys =>
                    rw [keyStep_missingKey found]
                    exact Or.inr ⟨last.mp rfl, rfl, place, keys, rfl⟩
                | indexOutOfBounds i length place => exact Or.inl (Or.inl rfl)
  · -- the last segment is the same in both writings, and so are the walks to its parent
    refine Or.inl (Or.inl ?_)
    have shapeB : front ++ [⟨String.ofList w.key, some n⟩] ++ init.concat final =
        (front ++ (⟨String.ofList w.key, some n⟩ : Segment) :: init) ++ [final] := by
      simp
    have shapeD : front ++ [Segment.ofKey (String.ofList w.key), Segment.ofIndex n] ++
        init.concat final =
        (front ++ Segment.ofKey (String.ofList w.key) :: Segment.ofIndex n :: init) ++ [final] := by
      simp
    rw [shapeB, shapeD]
    simp only [List.getLast?_concat, List.dropLast_concat]
    simp only [walk_indexed, step_congr (joined_indexed front _ n init), List.append_assoc,
      List.cons_append, render_indexed]

/-- The bracket form `k[i]` and the point form `k.i` of an array index: a walk along either list
of segments takes the same steps and reports the same rendered paths, and the six assertions
answer alike for the two writings of an expression, but for the expression a path syntax error
names, and for `keyIsMissing` when `k[i]` is the last piece and `k` is missing. -/
theorem index_spellings_agree [RegexEngine] (w : BracketedPiece) (b : List UInt8) :
    (∀ (pre post : Path) (k : String) (i : Nat) (t : Term),
      resolve (pre ++ (⟨k, some i⟩ : Segment) :: post) t =
          resolve (pre ++ Segment.ofKey k :: Segment.ofIndex i :: post) t ∧
        render (pre ++ (⟨k, some i⟩ : Segment) :: post) =
          render (pre ++ Segment.ofKey k :: Segment.ofIndex i :: post)) ∧
    SameAnswer w.dotted (isNull b w.bracketed) (isNull b w.dotted) ∧
    (∀ pattern, SameAnswer w.dotted (matchesPattern b w.bracketed pattern)
      (matchesPattern b w.dotted pattern)) ∧
    (∀ length, SameAnswer w.dotted (hasLength b w.bracketed length)
      (hasLength b w.dotted length)) ∧
    SameAnswer w.dotted (read b w.bracketed) (read b w.dotted) ∧
    SameAnswer w.dotted (readArray b w.bracketed) (readArray b w.dotted) ∧
    (SameAnswer w.dotted (keyIsMissing b w.bracketed) (keyIsMissing b w.dotted) ∨
      w.post = [] ∧ keyIsMissing b w.bracketed = .ok () ∧
        ∃ place keys, keyIsMissing b w.dotted =
          .error (.lookup (.missingKey (String.ofList w.key) place keys))) :=
  ⟨fun pre post k i t => ⟨resolve_indexed pre k i post t, render_indexed pre k i post⟩,
    isNull_respelled w b, matchesPattern_respelled w b, hasLength_respelled w b,
    read_respelled w b, readArray_respelled w b, keyIsMissing_respelled w b⟩

/-- On the document `{}`: `keyIsMissing` holds for `a[0]` but fails for `a.0`, naming the missing
key `a`; and the empty piece of `a..b[0]` and of `a..b.0` is reported with each expression. -/
theorem keyIsMissing_index_spellings_differ :
    keyIsMissing [0x7B, 0x7D] "a[0]" = .ok () ∧
      keyIsMissing [0x7B, 0x7D] "a.0" = .error (.lookup (.missingKey "a" "." [])) ∧
      read [0x7B, 0x7D] "a..b[0]" = .error (.pathSyntax (.emptyKey "a..b[0]")) ∧
      read [0x7B, 0x7D] "a..b.0" = .error (.pathSyntax (.emptyKey "a..b.0")) := by
  have parsed : Term.parse [0x7B, 0x7D] = .ok (.object []) := by
    rw [Term.parse, TokenStream.ofBytes_braces]
    rfl
  have bracket : Path.compile "a[0]" = .ok [⟨"a", some 0⟩] := by decide
  have point : Path.compile "a.0" = .ok [.ofKey "a", .ofIndex 0] := by decide
  have emptyBracket : Path.compile "a..b[0]" = .error (.emptyKey "a..b[0]") := by decide
  have emptyPoint : Path.compile "a..b.0" = .error (.emptyKey "a..b.0") := by decide
  refine ⟨?_, ?_, ?_, ?_⟩
  · rw [keyIsMissing, load, parsed, bracket]
    rfl
  · rw [keyIsMissing, load, parsed, point]
    rfl
  · rw [read, load, parsed, emptyBracket]
    rfl
  · rw [read, load, parsed, emptyPoint]
    rfl

end Assertion

end JsonProbe
