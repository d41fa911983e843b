import JsonProbe.Proofs.Path.Grammar
/-! # Printing compiled paths

`Path.render` writes a path in the syntax of path expressions: a point before each key, and an
index in brackets right after what comes before it.  A key followed by a bare index is therefore
written as one segment with both, and the printer is faithful only up to merging such pairs
(`Path.merge`).  Over the paths that `compile` builds (`Segment.Compiled`):

* a rendering reads back as the merged path, unless a bare index follows a segment with an index
  of its own (`Path.chainsIndices`).  Then the rendering has a piece with two brackets, which
  `compile` refuses: `a[1].2` is written `.a[1][2]` (`chained_index_rendering_does_not_compile`);
* merging changes neither the rendering nor any walk;
* two paths are written alike only if they merge alike.

The last rests on the path with every segment split into a key and a bare index
(`Path.separate`): its writing is read back in one way only, a key running to the next point or
bracket and a numeral to its closing bracket (`eq_of_chars_eq`). -/
set_option autoImplicit false
namespace JsonProbe

/-- A segment as `compile` builds it: its key has no point and no `[`, its index is at most
`indexLimit`, and without an index its key is not empty and not a numeral. -/
structure Segment.Compiled (seg : Segment) : Prop where
  noPoint : '.' ∉ seg.key.toList
  noBracket : '[' ∉ seg.key.toList
  bounded : ∀ i, seg.index = some i → i ≤ Path.indexLimit
  keyed : seg.index = none → seg.key.toList ≠ [] ∧ seg.key.toList.all Char.isDigit = false

namespace Path

/-! ## Merging a key with the bare index after it -/

/-- The path with each segment that has no index and is followed by a bare index merged with it
into one segment, from the left. -/
def merge : Path → Path
  | x :: tail@(y :: rest) =>
    if x.index = none ∧ y.key = "" ∧ y.index.isSome then ⟨x.key, y.index⟩ :: merge rest
    else x :: merge tail
  | p => p

/-- Some bare index directly follows a segment that has an index of its own. -/
def chainsIndices : Path → Bool
  | [] => false
  | x :: tail =>
    (x.index.isSome && tail.head?.any fun y => y.key.isEmpty && y.index.isSome) ||
      chainsIndices tail

theorem merge_cons_cons_of_pair {x y : Segment} (rest : Path)
    (pair : x.index = none ∧ y.key = "" ∧ y.index.isSome) :
    merge (x :: y :: rest) = ⟨x.key, y.index⟩ :: merge rest := by
  rw [merge, if_pos pair]

theorem merge_cons_cons_of_not_pair {x y : Segment} (rest : Path)
    (notPair : ¬ (x.index = none ∧ y.key = "" ∧ y.index.isSome)) :
    merge (x :: y :: rest) = x :: merge (y :: rest) := by
  rw [merge, if_neg notPair]

@[simp] theorem merge_nil : merge [] = [] := by
  rw [merge]
  intro x y rest same
  cases same

@[simp] theorem merge_singleton (x : Segment) : merge [x] = [x] := by
  rw [merge]
  intro x y rest same
  cases same

theorem chainsIndices_cons_cons (x y : Segment) (rest : Path) :
    chainsIndices (x :: y :: rest) =
      ((x.index.isSome && y.key.isEmpty && y.index.isSome) || chainsIndices (y :: rest)) := by
  simp only [chainsIndices, List.head?_cons, Option.any_some, Bool.and_assoc]

theorem written_pair {x y : Segment} (pair : x.index = none ∧ y.key = "" ∧ y.index.isSome) :
    (⟨x.key, y.index⟩ : Segment).written = x.written ++ y.written := by
  obtain ⟨key, index⟩ := x
  obtain ⟨yKey, yIndex⟩ := y
  obtain ⟨rfl, rfl, some⟩ := pair
  obtain ⟨i, rfl⟩ := Option.isSome_iff_exists.mp some
  exact written_indexed key i

theorem joined_merge (s : Path) : (merge s).joined = s.joined := by
  induction s using merge.induct with
  | case1 x y rest pair ih =>
      rw [merge_cons_cons_of_pair rest pair, joined_cons, ih, written_pair pair, joined_cons,
        joined_cons, String.append_assoc]
  | case2 x y rest notPair ih =>
      rw [merge_cons_cons_of_not_pair rest notPair, joined_cons, ih, ← joined_cons]
  | case3 p short =>
      rw [merge]
      · intro x y rest same
        exact short x y rest same

theorem render_merge (s : Path) : (merge s).render = s.render :=
  render_congr (joined_merge s)

theorem resolveFrom_merge (s : Path) :
    ∀ before t, resolveFrom before (merge s) t = resolveFrom before s t := by
  induction s using merge.induct with
  | case1 x y rest pair ih =>
      intro before t
      obtain ⟨key, index⟩ := x
      obtain ⟨yKey, yIndex⟩ := y
      obtain ⟨rfl, rfl, some⟩ := pair
      obtain ⟨i, rfl⟩ := Option.isSome_iff_exists.mp some
      rw [merge_cons_cons_of_pair rest ⟨rfl, rfl, rfl⟩, resolveFrom_indexed]
      simp only [resolveFrom, Segment.ofKey, Segment.ofIndex, ih]
  | case2 x y rest notPair ih =>
      intro before t
      rw [merge_cons_cons_of_not_pair rest notPair]
      simp only [resolveFrom, ih]
  | case3 p short =>
      intro before t
      rw [merge]
      · intro x y rest same
        exact short x y rest same

theorem resolve_merge (s : Path) (t : Term) : resolve (merge s) t = resolve s t :=
  resolveFrom_merge s [] t

/-! ## Writings as characters -/

/-- The characters an optional index is written with: its decimal numeral in brackets. -/
def indexChars : Option Nat → List Char
  | none => []
  | some i => '[' :: (Nat.toDigits 10 i ++ [']'])

theorem toList_display (seg : Segment) :
    seg.display.toList = seg.key.toList ++ indexChars seg.index := by
  obtain ⟨key, index⟩ := seg
  cases index <;> simp [Segment.display, indexChars, String.toList_append]

theorem toList_written (seg : Segment) :
    seg.written.toList = (if seg.key = "" then [] else ['.']) ++ seg.display.toList := by
  by_cases empty : seg.key = "" <;> simp [Segment.written, empty, String.toList_append]

theorem toList_joined_cons (m : Segment) (p : Path) :
    (joined (m :: p)).toList = m.written.toList ++ (joined p).toList := by
  rw [joined_cons, String.toList_append]

theorem decimal_toDigits (n : Nat) : decimal (Nat.toDigits 10 n) = n := by
  have read := Nat.ofDigitChars_ten_toDigits (n := n)
  rw [Nat.ofDigitChars_eq_foldl] at read
  have zero : '0'.toNat = 48 := rfl
  rw [zero, foldl_digits, Nat.zero_mul, Nat.zero_add] at read
  exact read

theorem isDigit_of_mem_toDigits {n : Nat} {c : Char} (h : c ∈ Nat.toDigits 10 n) :
    c.isDigit = true :=
  Nat.isDigit_of_mem_toDigits (by decide) (by decide) h

theorem not_mem_toDigits {n : Nat} {c : Char} (notDigit : c.isDigit = false) :
    c ∉ Nat.toDigits 10 n := fun mem => by
  rw [isDigit_of_mem_toDigits mem] at notDigit
  cases notDigit

theorem point_not_mem_indexChars (index : Option Nat) : '.' ∉ indexChars index := by
  cases index with
  | none => simp [indexChars]
  | some i =>
      simp only [indexChars, List.mem_cons, List.mem_append, not_or]
      exact ⟨by decide, not_mem_toDigits rfl, by decide⟩

/-! ## Reading a rendering back -/

/-- A path whose writing reads back as itself: its segments are as `compile` builds them, and only
the first may lack a key. -/
structure Canonical (p : Path) : Prop where
  compiled : ∀ m ∈ p, m.Compiled
  keyed : ∀ m ∈ p.tail, m.key ≠ ""

theorem piece_display {m : Segment} (h : m.Compiled) : Piece m.display.toList m := by
  obtain ⟨key, index⟩ := m
  rw [toList_display]
  cases index with
  | none =>
      obtain ⟨nonempty, notNumeral⟩ := h.keyed rfl
      have piece := Piece.key nonempty h.noBracket notNumeral
      simpa [indexChars, Segment.ofKey] using piece
  | some i =>
      have digits : (Nat.toDigits 10 i).all Char.isDigit = true :=
        List.all_eq_true.mpr fun c mem => isDigit_of_mem_toDigits mem
      have piece := Piece.bracketed h.noBracket Nat.toDigits_ne_nil digits
      rw [decimal_toDigits, Nat.min_eq_left (h.bounded i rfl), String.ofList_toList] at piece
      exact piece

theorem point_not_mem_display {m : Segment} (h : m.Compiled) : '.' ∉ m.display.toList := by
  rw [toList_display, List.mem_append, not_or]
  exact ⟨h.noPoint, point_not_mem_indexChars m.index⟩

theorem toList_joined_of_keyed {p : Path} (keyed : ∀ m ∈ p, m.key ≠ "") :
    (joined p).toList = p.flatMap fun m => '.' :: m.display.toList := by
  induction p with
  | nil => simp
  | cons m p ih =>
      rw [toList_joined_cons, toList_written, if_neg (keyed m List.mem_cons_self),
        ih fun m' mem => keyed m' (List.mem_cons_of_mem m mem), List.flatMap_cons]
      rfl

theorem intercalate_point_cons (d : List Char) (ds : List (List Char)) :
    ['.'].intercalate (d :: ds) = d ++ ds.flatMap fun e => '.' :: e := by
  induction ds generalizing d with
  | nil => simp
  | cons e ds ih =>
      rw [List.intercalate_cons_cons, ih, List.flatMap_cons]
      simp

theorem display_ne_nil {m : Segment} (h : m.Compiled) : m.display.toList ≠ [] := by
  rw [toList_display]
  cases index : m.index with
  | none => exact fun empty => (h.keyed index).1 (List.append_eq_nil_iff.mp empty).1
  | some i => simp [indexChars]

theorem dropPoint_written_append {m : Segment} (h : m.Compiled) (rest : List Char) :
    dropPoint (m.written.toList ++ rest) = m.display.toList ++ rest := by
  rw [toList_written]
  by_cases bare : m.key = ""
  · -- a bare index opens with its bracket
    have opens : ∃ more, m.display.toList = '[' :: more := by
      cases index : m.index with
      | none => exact absurd (String.toList_inj.mpr bare) (h.keyed index).1
      | some i => exact ⟨Nat.toDigits 10 i ++ [']'], by rw [toList_display, bare, index]; rfl⟩
    obtain ⟨more, opens⟩ := opens
    rw [if_pos bare, List.nil_append, opens, List.cons_append]
    exact dropPoint.eq_2 _ fun _ same => by cases same
  · rw [if_neg bare]
    rfl

theorem render_eq_joined_of_ne {p : Path} (h : (joined p).toList ≠ []) : p.render = p.joined := by
  rw [render_eq_joined, if_neg]
  intro empty
  exact h (by rw [String.isEmpty_iff.mp empty]; rfl)

theorem dropPoint_render_of_canonical {m : Segment} {p : Path} (h : Canonical (m :: p)) :
    dropPoint (render (m :: p)).toList =
      ['.'].intercalate ((m :: p).map fun seg => seg.display.toList) := by
  have compiled := h.compiled m List.mem_cons_self
  have chars : (joined (m :: p)).toList =
      m.written.toList ++ p.flatMap fun seg => '.' :: seg.display.toList := by
    rw [toList_joined_cons, toList_joined_of_keyed (p := p) h.keyed]
  have notEmpty : (joined (m :: p)).toList ≠ [] := by
    rw [chars, toList_written]
    simp [display_ne_nil compiled]
  rw [render_eq_joined_of_ne notEmpty, chars, dropPoint_written_append compiled, List.map_cons,
    intercalate_point_cons, List.flatMap_map]

theorem compile_render_of_canonical {p : Path} (h : Canonical p) : compile p.render = .ok p := by
  cases p with
  | nil => decide
  | cons m p =>
      have noPoint : ∀ d ∈ (m :: p).map (fun seg => seg.display.toList), '.' ∉ d := by
        intro d mem
        obtain ⟨seg, segMem, rfl⟩ := List.mem_map.mp mem
        exact point_not_mem_display (h.compiled seg segMem)
      have text := dropPoint_render_of_canonical h
      rw [compile_eq_ok_iff]
      refine Or.inr ⟨?_, ?_⟩
      · rw [text, List.map_cons, intercalate_point_cons]
        simp [display_ne_nil (h.compiled m List.mem_cons_self)]
      · rw [text, List.splitOn_intercalate '.' noPoint (by simp), List.forall₂_map_left_iff,
          List.forall₂_same]
        exact fun seg mem => piece_display (h.compiled seg mem)

/-! ## Paths that `compile` builds -/

theorem not_mem_of_mem_splitOn {a : Char} :
    ∀ {xs w : List Char}, w ∈ xs.splitOn a → a ∉ w
  | [], w, mem => by
      rw [List.splitOn_nil, List.mem_singleton] at mem
      subst mem
      simp
  | x :: xs, w, mem => by
      rw [List.splitOn_cons_eq_if_modifyHead] at mem
      split at mem
      · rcases List.mem_cons.mp mem with rfl | later
        · simp
        · exact not_mem_of_mem_splitOn later
      · rename_i notSeparator
        obtain ⟨first, others, pieces⟩ := List.exists_cons_of_ne_nil (List.splitOn_ne_nil a xs)
        rw [pieces, List.modifyHead_cons] at mem
        rcases List.mem_cons.mp mem with rfl | later
        · rw [List.mem_cons, not_or]
          exact ⟨fun same => notSeparator (by simp [same]),
            not_mem_of_mem_splitOn (pieces ▸ List.mem_cons_self)⟩
        · exact not_mem_of_mem_splitOn (pieces ▸ List.mem_cons_of_mem first later)

theorem exists_of_forall₂_left {α β : Type} {R : α → β → Prop} {l₁ : List α} {l₂ : List β}
    (h : List.Forall₂ R l₁ l₂) : ∀ a ∈ l₁, ∃ b, R a b := by
  induction h with
  | nil => intro a mem; cases mem
  | cons related _ ih =>
      intro a mem
      rcases List.mem_cons.mp mem with rfl | later
      · exact ⟨_, related⟩
      · exact ih a later

theorem exists_of_forall₂_right {α β : Type} {R : α → β → Prop} {l₁ : List α} {l₂ : List β}
    (h : List.Forall₂ R l₁ l₂) : ∀ b ∈ l₂, ∃ a ∈ l₁, R a b := by
  induction h with
  | nil => intro b mem; cases mem
  | cons related _ ih =>
      intro b mem
      rcases List.mem_cons.mp mem with rfl | later
      · exact ⟨_, List.mem_cons_self, related⟩
      · obtain ⟨a, aMem, related'⟩ := ih b later
        exact ⟨a, List.mem_cons_of_mem _ aMem, related'⟩

theorem compiled_of_piece {w : List Char} {seg : Segment} (h : Piece w seg) (noPoint : '.' ∉ w) :
    seg.Compiled := by
  cases h with
  | index nonempty numeral =>
      exact ⟨by simp [Segment.ofIndex], by simp [Segment.ofIndex],
        fun i same => (by cases same; exact Nat.min_le_right _ _), fun none => by cases none⟩
  | key nonempty plain notNumeral =>
      refine ⟨?_, ?_, fun i same => (by cases same), fun _ => ⟨?_, ?_⟩⟩
      · simpa [Segment.ofKey, String.toList_ofList] using noPoint
      · simpa [Segment.ofKey, String.toList_ofList] using plain
      · simpa [Segment.ofKey, String.toList_ofList] using nonempty
      · rw [Segment.ofKey, String.toList_ofList]
        exact notNumeral
  | @bracketed k ds plain nonempty numeral =>
      have keyPoint : '.' ∉ k := fun mem => noPoint (List.mem_append_left _ mem)
      exact ⟨by simpa [String.toList_ofList] using keyPoint,
        by simpa [String.toList_ofList] using plain,
        fun i same => (by cases same; exact Nat.min_le_right _ _), fun none => by cases none⟩

theorem compiled_of_compile {path : String} {s : Path} (h : compile path = .ok s) :
    ∀ m ∈ s, m.Compiled := by
  rcases (compile_eq_ok_iff path s).mp h with ⟨-, rfl⟩ | ⟨-, pieces⟩
  · intro m mem
    cases mem
  · intro m mem
    obtain ⟨w, wMem, piece⟩ := exists_of_forall₂_right pieces m mem
    exact compiled_of_piece piece (not_mem_of_mem_splitOn wMem)

theorem indexed_of_bare {m : Segment} (h : m.Compiled) (bare : m.key = "") : m.index.isSome := by
  cases index : m.index with
  | none => exact absurd (String.toList_inj.mpr bare) (h.keyed index).1
  | some i => rfl

/-! ## Merged paths that read back -/

theorem chainsIndices_tail {y : Segment} {rest : Path} (h : chainsIndices (y :: rest) = false) :
    chainsIndices rest = false := by
  simp only [chainsIndices, Bool.or_eq_false_iff] at h
  exact h.2

theorem chainsIndices_of_pair {y z : Segment} (more : Path) (indexed : y.index.isSome)
    (bare : z.key = "") (zIndexed : z.index.isSome) : chainsIndices (y :: z :: more) = true := by
  simp [chainsIndices_cons_cons, indexed, bare, zIndexed]

theorem head_keyed_merge {s : Path} (head : ∀ z ∈ s.head?, z.key ≠ "") :
    ∀ z ∈ (merge s).head?, z.key ≠ "" := by
  match s with
  | [] => simp
  | [x] => simpa using head
  | x :: y :: rest =>
      by_cases pair : x.index = none ∧ y.key = "" ∧ y.index.isSome
      · rw [merge_cons_cons_of_pair rest pair]
        simpa using head
      · rw [merge_cons_cons_of_not_pair rest pair]
        simpa using head

theorem keyed_of_canonical {q : Path} (h : Canonical q) (head : ∀ z ∈ q.head?, z.key ≠ "") :
    ∀ m ∈ q, m.key ≠ "" := by
  cases q with
  | nil => intro m mem; cases mem
  | cons z q =>
      intro m mem
      rcases List.mem_cons.mp mem with rfl | later
      · exact head m rfl
      · exact h.keyed m later

theorem canonical_merge {s : Path} (compiled : ∀ m ∈ s, m.Compiled)
    (unchained : chainsIndices s = false) : Canonical (merge s) := by
  induction s using merge.induct with
  | case1 x y rest pair ih =>
      have xCompiled := compiled x List.mem_cons_self
      have yCompiled := compiled y (by simp)
      have canonical := ih (fun m mem => compiled m (by simp [mem]))
        (chainsIndices_tail (chainsIndices_tail unchained))
      -- what follows the pair starts with a key, or it would chain onto `y`'s index
      have restHead : ∀ z ∈ rest.head?, z.key ≠ "" := by
        intro z mem bare
        obtain ⟨more, rfl⟩ := List.head?_eq_some_iff.mp mem
        have chained := chainsIndices_of_pair more pair.2.2 bare
          (indexed_of_bare (compiled z (by simp)) bare)
        rw [chainsIndices_cons_cons, chained, Bool.or_true] at unchained
        cases unchained
      rw [merge_cons_cons_of_pair rest pair]
      refine ⟨?_, keyed_of_canonical canonical (head_keyed_merge restHead)⟩
      intro m mem
      rcases List.mem_cons.mp mem with rfl | later
      · refine ⟨xCompiled.noPoint, xCompiled.noBracket, yCompiled.bounded, fun none => ?_⟩
        rw [none] at pair
        cases pair.2.2
      · exact canonical.compiled m later
  | case2 x y rest notPair ih =>
      have canonical := ih (fun m mem => compiled m (List.mem_cons_of_mem x mem))
        (chainsIndices_tail unchained)
      -- `y` has a key: a bare index there would chain onto `x`'s index
      have yKeyed : y.key ≠ "" := by
        intro bare
        have yIndexed := indexed_of_bare (compiled y (by simp)) bare
        have xIndexed : x.index.isSome := by
          cases index : x.index with
          | none => exact absurd ⟨index, bare, yIndexed⟩ notPair
          | some i => rfl
        rw [chainsIndices_of_pair rest xIndexed bare yIndexed] at unchained
        cases unchained
      rw [merge_cons_cons_of_not_pair rest notPair]
      refine ⟨?_, keyed_of_canonical canonical (head_keyed_merge (by simpa using yKeyed))⟩
      intro m mem
      rcases List.mem_cons.mp mem with rfl | later
      · exact compiled m List.mem_cons_self
      · exact canonical.compiled m later
  | case3 p short =>
      rw [merge]
      · refine ⟨compiled, ?_⟩
        match p, short with
        | [], _ => simp
        | [_], _ => simp
        | _ :: _ :: _, short => exact absurd rfl (short _ _ _)
      · exact short

/-! ## Renderings with a chained index -/

theorem exists_of_chainsIndices {s : Path} (h : chainsIndices s = true) :
    ∃ pre x j post, s = pre ++ x :: ⟨"", some j⟩ :: post ∧ x.index.isSome := by
  induction s with
  | nil => cases h
  | cons x tail ih =>
      rw [chainsIndices, Bool.or_eq_true] at h
      rcases h with here | later
      · cases tail with
        | nil => simp at here
        | cons y rest =>
            simp only [List.head?_cons, Option.any_some, Bool.and_eq_true,
              String.isEmpty_iff] at here
            obtain ⟨xIndexed, bare, yIndexed⟩ := here
            obtain ⟨key, index⟩ := y
            obtain ⟨j, rfl⟩ := Option.isSome_iff_exists.mp yIndexed
            simp only at bare
            subst bare
            exact ⟨[], x, j, rest, rfl, xIndexed⟩
      · obtain ⟨pre, x', j, post, rfl, indexed⟩ := ih later
        exact ⟨x :: pre, x', j, post, rfl, indexed⟩

theorem chained_text {s : Path} (h : chainsIndices s = true) :
    ∃ A i B, (joined s).toList = A ++ '[' :: (Nat.toDigits 10 i ++ [']', '[']) ++ B := by
  obtain ⟨pre, x, j, post, rfl, indexed⟩ := exists_of_chainsIndices h
  obtain ⟨i, index⟩ := Option.isSome_iff_exists.mp indexed
  refine ⟨(joined pre).toList ++ (if x.key = "" then [] else ['.']) ++ x.key.toList, i,
    Nat.toDigits 10 j ++ ']' :: (joined post).toList, ?_⟩
  rw [joined_append, String.toList_append, toList_joined_cons, toList_joined_cons, toList_written,
    toList_written, toList_display, toList_display, index]
  simp [indexChars]

theorem count_bracket_le_of_piece {w : List Char} {seg : Segment} (h : Piece w seg) :
    w.count '[' ≤ 1 := by
  have digitsFree : ∀ {ds : List Char}, ds.all Char.isDigit = true → '[' ∉ ds :=
    fun numeral mem => absurd (List.all_eq_true.mp numeral _ mem) (by decide)
  cases h with
  | index nonempty numeral =>
      rw [List.count_eq_zero.mpr (digitsFree numeral)]
      omega
  | key nonempty plain notNumeral =>
      rw [List.count_eq_zero.mpr plain]
      omega
  | bracketed plain nonempty numeral =>
      simp [List.count_append, List.count_eq_zero.mpr plain,
        List.count_eq_zero.mpr (digitsFree numeral)]

theorem split_first_point (B : List Char) :
    ∃ B₁ B₂, B = B₁ ++ B₂ ∧ '.' ∉ B₁ ∧ (B₂ = [] ∨ B₂.head? = some '.') := by
  refine ⟨B.takeWhile (· != '.'), B.dropWhile (· != '.'), List.takeWhile_append_dropWhile.symm,
    fun mem => by simpa using List.mem_takeWhile_imp mem, ?_⟩
  cases after : B.dropWhile (· != '.') with
  | nil => exact Or.inl rfl
  | cons c rest =>
      have stopped := List.head_dropWhile_not (· != '.') (l := B) (by simp [after])
      simp only [after, List.head_cons, bne_eq_false_iff_eq] at stopped
      exact Or.inr (by rw [stopped]; rfl)

theorem split_last_point (A : List Char) :
    ∃ A₁ A₂, A = A₁ ++ A₂ ∧ '.' ∉ A₂ ∧ (A₁ = [] ∨ A₁.getLast? = some '.') := by
  obtain ⟨B₁, B₂, split, noPoint, starts⟩ := split_first_point A.reverse
  refine ⟨B₂.reverse, B₁.reverse, ?_, by simpa using noPoint, ?_⟩
  · rw [← List.reverse_append, ← split, List.reverse_reverse]
  · rcases starts with rfl | starts
    · exact Or.inl rfl
    · exact Or.inr (by rw [List.getLast?_reverse, starts])

theorem exists_piece_infix (A X B : List Char) (noPoint : '.' ∉ X) :
    ∃ w ∈ (A ++ X ++ B).splitOn '.', X <:+: w := by
  obtain ⟨A₁, A₂, rfl, pointA, endsA⟩ := split_last_point A
  obtain ⟨B₁, B₂, rfl, pointB, startsB⟩ := split_first_point B
  obtain ⟨front, before⟩ := splitOn_before endsA
  obtain ⟨back, -, after⟩ := splitOn_after startsB
  have whole : '.' ∉ A₂ ++ X ++ B₁ := by simp [pointA, noPoint, pointB]
  refine ⟨A₂ ++ X ++ B₁, ?_, ⟨A₂, B₁, rfl⟩⟩
  have text : A₁ ++ A₂ ++ X ++ (B₁ ++ B₂) = A₁ ++ ((A₂ ++ X ++ B₁) ++ B₂) := by simp
  rw [text, before, after, List.splitOn_eq_singleton whole]
  simp

theorem compile_render_ne_of_chainsIndices {s : Path} (h : chainsIndices s = true) (s' : Path) :
    compile s.render ≠ .ok s' := by
  obtain ⟨A, i, B, chars⟩ := chained_text h
  have notEmpty : (joined s).toList ≠ [] := by
    rw [chars]
    simp
  have text : dropPoint s.render.toList =
      dropPoint A ++ '[' :: (Nat.toDigits 10 i ++ [']', '[']) ++ B := by
    rw [render_eq_joined_of_ne notEmpty, chars, List.append_assoc,
      dropPoint_append A (by simp) (by simp), List.append_assoc]
  have noPoint : '.' ∉ '[' :: (Nat.toDigits 10 i ++ [']', '[']) := by
    simp [not_mem_toDigits (n := i) (c := '.') (by decide)]
  have twoBrackets : ('[' :: (Nat.toDigits 10 i ++ [']', '['])).count '[' = 2 := by
    simp [List.count_append,
      List.count_eq_zero.mpr (not_mem_toDigits (n := i) (c := '[') (by decide))]
  obtain ⟨w, wMem, within⟩ := exists_piece_infix (dropPoint A) _ B noPoint
  intro compiled
  rcases (compile_eq_ok_iff _ s').mp compiled with ⟨empty, -⟩ | ⟨-, pieces⟩
  · rw [text] at empty
    simp at empty
  · rw [text] at pieces
    obtain ⟨seg, piece⟩ := exists_of_forall₂_left pieces w wMem
    have atMostOne := count_bracket_le_of_piece piece
    have inside := within.count_le '['
    omega

/-! ## Writings that read one way -/

/-- The segments a segment is written as: a key with an index as the key and then the bare
index, any other segment as itself. -/
def parts (seg : Segment) : Path :=
  match seg.index with
  | some i => if seg.key = "" then [seg] else [.ofKey seg.key, .ofIndex i]
  | none => [seg]

/-- The path with every key that carries an index split from its index. -/
def separate (p : Path) : Path := p.flatMap parts

theorem separate_cons (seg : Segment) (p : Path) :
    separate (seg :: p) = parts seg ++ separate p :=
  List.flatMap_cons

theorem parts_of_none {seg : Segment} (none : seg.index = none) : parts seg = [seg] := by
  rw [parts, none]

theorem parts_of_bare {seg : Segment} (bare : seg.key = "") : parts seg = [seg] := by
  cases index : seg.index <;> simp [parts, index, bare]

theorem parts_eq (seg : Segment) :
    parts seg = [seg] ∨ ∃ i, seg = ⟨seg.key, some i⟩ ∧ seg.key ≠ "" ∧
      parts seg = [.ofKey seg.key, .ofIndex i] := by
  obtain ⟨key, index⟩ := seg
  cases index with
  | none => exact Or.inl (parts_of_none rfl)
  | some i =>
      by_cases bare : key = ""
      · exact Or.inl (parts_of_bare bare)
      · exact Or.inr ⟨i, rfl, bare, by simp [parts, bare]⟩

theorem parts_head (seg : Segment) :
    ∃ z more, parts seg = z :: more ∧ z.key = seg.key ∧ (seg.key = "" → z = seg) := by
  rcases parts_eq seg with same | ⟨i, -, keyed, split⟩
  · exact ⟨seg, [], same, rfl, fun _ => rfl⟩
  · exact ⟨.ofKey seg.key, [.ofIndex i], split, rfl, fun bare => absurd bare keyed⟩

theorem joined_parts (seg : Segment) : (parts seg).joined = seg.written := by
  rcases parts_eq seg with same | ⟨i, whole, -, split⟩
  · simp [same]
  · rw [split, whole, written_indexed]
    simp

theorem joined_separate (p : Path) : (separate p).joined = p.joined := by
  induction p with
  | nil => rfl
  | cons seg p ih => rw [separate_cons, joined_append, ih, joined_parts, joined_cons]

theorem merge_parts (seg : Segment) : merge (parts seg) = [seg] := by
  rcases parts_eq seg with same | ⟨i, whole, -, split⟩
  · rw [same, merge_singleton]
  · rw [split, merge_cons_cons_of_pair [] ⟨rfl, rfl, rfl⟩, merge_nil]
    exact congrArg (List.cons · []) whole.symm

theorem merge_separate (s : Path) : merge (separate s) = merge s := by
  induction s using merge.induct with
  | case1 x y rest pair ih =>
      rw [separate_cons, separate_cons, parts_of_none pair.1, parts_of_bare pair.2.1,
        List.singleton_append, List.singleton_append, merge_cons_cons_of_pair _ pair,
        merge_cons_cons_of_pair _ pair, ih]
  | case2 x y rest notPair ih =>
      rw [merge_cons_cons_of_not_pair rest notPair, ← ih, separate_cons x]
      rcases parts_eq x with same | ⟨i, whole, keyed, split⟩
      · -- `x` stays, and does not merge with the first part of `y`
        obtain ⟨z, more, first, zKey, bare⟩ := parts_head y
        have notPair' : ¬(x.index = none ∧ z.key = "" ∧ z.index.isSome) := by
          intro pair
          have yBare : y.key = "" := zKey ▸ pair.2.1
          rw [bare yBare] at pair
          exact notPair pair
        rw [same, separate_cons y, first, List.singleton_append, List.cons_append,
          merge_cons_cons_of_not_pair _ notPair']
      · -- `x` splits into a key and a bare index, which merge back into `x`
        rw [split, List.cons_append, List.singleton_append,
          merge_cons_cons_of_pair _ ⟨rfl, rfl, rfl⟩]
        exact congrArg (List.cons · _) whole.symm
  | case3 p short =>
      match p, short with
      | [], _ => rfl
      | [x], _ => rw [separate_cons, separate, List.flatMap_nil, List.append_nil, merge_parts,
          merge_singleton]
      | _ :: _ :: _, short => exact absurd rfl (short _ _ _)

/-- A segment that is a plain key alone, or a bare index. -/
inductive Atomic : Segment → Prop where
  | key {k : String} (nonempty : k ≠ "") (noPoint : '.' ∉ k.toList) (noBracket : '[' ∉ k.toList) :
      Atomic (.ofKey k)
  | index (i : Nat) : Atomic (.ofIndex i)

theorem atomic_parts {m : Segment} (h : m.Compiled) : ∀ a ∈ parts m, Atomic a := by
  obtain ⟨key, index⟩ := m
  intro a mem
  cases index with
  | none =>
      have nonempty : key ≠ "" := fun empty => (h.keyed rfl).1 (by rw [empty]; rfl)
      rw [parts_of_none rfl, List.mem_singleton] at mem
      subst mem
      exact Atomic.key nonempty h.noPoint h.noBracket
  | some i =>
      by_cases bare : key = ""
      · rw [parts_of_bare bare, List.mem_singleton] at mem
        subst mem bare
        exact Atomic.index i
      · simp only [parts, bare, if_false, List.mem_cons, List.not_mem_nil, or_false] at mem
        rcases mem with rfl | rfl
        · exact Atomic.key bare h.noPoint h.noBracket
        · exact Atomic.index i

theorem atomic_separate {s : Path} (compiled : ∀ m ∈ s, m.Compiled) :
    ∀ a ∈ separate s, Atomic a := by
  intro a mem
  obtain ⟨m, mMem, aMem⟩ := List.mem_flatMap.mp mem
  exact atomic_parts (compiled m mMem) a aMem

theorem toList_written_ofKey {k : String} (nonempty : k ≠ "") :
    (Segment.ofKey k).written.toList = '.' :: k.toList := by
  rw [toList_written, toList_display]
  simp [Segment.ofKey, nonempty, indexChars]

theorem toList_written_ofIndex (i : Nat) :
    (Segment.ofIndex i).written.toList = '[' :: (Nat.toDigits 10 i ++ [']']) := by
  rw [toList_written, toList_display]
  simp [Segment.ofIndex, indexChars]

theorem head_joined_of_atomic {p : Path} (atomic : ∀ m ∈ p, Atomic m) :
    ∀ c ∈ (joined p).toList.head?, c = '.' ∨ c = '[' := by
  cases p with
  | nil => simp
  | cons m p =>
      rw [toList_joined_cons]
      cases atomic m List.mem_cons_self with
      | key nonempty => simp [toList_written_ofKey nonempty]
      | index i => simp [toList_written_ofIndex]

theorem eq_of_append_eq_append (stop : Char → Prop) {x y r r' : List Char}
    (hx : ∀ c ∈ x, ¬ stop c) (hy : ∀ c ∈ y, ¬ stop c)
    (hr : ∀ c ∈ r.head?, stop c) (hr' : ∀ c ∈ r'.head?, stop c) (h : x ++ r = y ++ r') :
    x = y ∧ r = r' := by
  induction x generalizing y with
  | nil =>
      cases y with
      | nil => exact ⟨rfl, h⟩
      | cons c y =>
          rw [List.nil_append] at h
          subst h
          exact absurd (hr c rfl) (hy c List.mem_cons_self)
  | cons c x ih =>
      cases y with
      | nil =>
          rw [List.nil_append] at h
          subst h
          exact absurd (hr' c rfl) (hx c List.mem_cons_self)
      | cons d y =>
          rw [List.cons_append, List.cons_append, List.cons.injEq] at h
          obtain ⟨rfl, rest⟩ := h
          obtain ⟨same, tails⟩ := ih (fun e mem => hx e (List.mem_cons_of_mem c mem))
            (fun e mem => hy e (List.mem_cons_of_mem c mem)) rest
          exact ⟨by rw [same], tails⟩

theorem toList_joined_ne_nil {m : Segment} {p : Path} (atomic : Atomic m) :
    (joined (m :: p)).toList ≠ [] := by
  rw [toList_joined_cons]
  cases atomic with
  | key nonempty => simp [toList_written_ofKey nonempty]
  | index i => simp [toList_written_ofIndex]

theorem eq_of_chars_eq {p q : Path} (hp : ∀ m ∈ p, Atomic m) (hq : ∀ m ∈ q, Atomic m)
    (h : (joined p).toList = (joined q).toList) : p = q := by
  induction p generalizing q with
  | nil =>
      cases q with
      | nil => rfl
      | cons b q => exact absurd h.symm (toList_joined_ne_nil (hq b List.mem_cons_self))
  | cons a p ih =>
      cases q with
      | nil => exact absurd h (toList_joined_ne_nil (hp a List.mem_cons_self))
      | cons b q =>
          have restP := head_joined_of_atomic fun m mem => hp m (List.mem_cons_of_mem a mem)
          have restQ := head_joined_of_atomic fun m mem => hq m (List.mem_cons_of_mem b mem)
          rw [toList_joined_cons, toList_joined_cons] at h
          have heads : a = b ∧ (joined p).toList = (joined q).toList := by
            cases hp a List.mem_cons_self with
            | @key k nonempty noPoint noBracket =>
                cases hq b List.mem_cons_self with
                | @key k' nonempty' noPoint' noBracket' =>
                    rw [toList_written_ofKey nonempty, toList_written_ofKey nonempty',
                      List.cons_append, List.cons_append, List.cons.injEq] at h
                    obtain ⟨keys, rest⟩ := eq_of_append_eq_append
                      (fun c => c = '.' ∨ c = '[')
                      (fun c mem stop => stop.elim (fun e => noPoint (e ▸ mem))
                        (fun e => noBracket (e ▸ mem)))
                      (fun c mem stop => stop.elim (fun e => noPoint' (e ▸ mem))
                        (fun e => noBracket' (e ▸ mem))) restP restQ h.2
                    exact ⟨by rw [String.toList_inj.mp keys], rest⟩
                | index j =>
                    rw [toList_written_ofKey nonempty, toList_written_ofIndex] at h
                    simp at h
            | index i =>
                cases hq b List.mem_cons_self with
                | key nonempty' =>
                    rw [toList_written_ofIndex, toList_written_ofKey nonempty'] at h
                    simp at h
                | index j =>
                    rw [toList_written_ofIndex, toList_written_ofIndex, List.cons_append,
                      List.cons_append, List.cons.injEq, List.append_assoc, List.append_assoc,
                      List.singleton_append, List.singleton_append] at h
                    obtain ⟨digits, rest⟩ := eq_of_append_eq_append (· = ']')
                      (fun c mem e => not_mem_toDigits (c := ']') (by decide) (e ▸ mem))
                      (fun c mem e => not_mem_toDigits (c := ']') (by decide) (e ▸ mem))
                      (by simp) (by simp) h.2
                    have same : i = j := by
                      rw [← decimal_toDigits i, digits, decimal_toDigits]
                    exact ⟨by rw [same], List.cons.inj rest |>.2⟩
          obtain ⟨rfl, rest⟩ := heads
          rw [ih (fun m mem => hp m (List.mem_cons_of_mem a mem))
            (fun m mem => hq m (List.mem_cons_of_mem a mem)) rest]

theorem joined_ne_point {s : Path} (compiled : ∀ m ∈ s, m.Compiled) : s.joined ≠ "." := by
  intro isPoint
  have chars : (joined (separate s)).toList = ['.'] := by
    rw [joined_separate, isPoint]
    rfl
  cases separated : separate s with
  | nil =>
      rw [separated] at chars
      cases chars
  | cons m p =>
      rw [separated, toList_joined_cons] at chars
      cases atomic_separate compiled m (by simp [separated]) with
      | key nonempty =>
          rw [toList_written_ofKey nonempty, List.cons_append, List.cons.injEq,
            List.append_eq_nil_iff] at chars
          exact nonempty (String.toList_eq_nil_iff.mp chars.2.1)
      | index i =>
          rw [toList_written_ofIndex] at chars
          simp at chars

theorem joined_eq_of_render_eq {s s' : Path} (compiled : ∀ m ∈ s, m.Compiled)
    (compiled' : ∀ m ∈ s', m.Compiled) (same : s.render = s'.render) : s.joined = s'.joined := by
  rw [render_eq_joined, render_eq_joined] at same
  split_ifs at same with empty empty'
  · rw [String.isEmpty_iff.mp empty, String.isEmpty_iff.mp empty']
  · exact absurd same.symm (joined_ne_point compiled')
  · exact absurd same (joined_ne_point compiled)
  · exact same

/-- Two paths that `compile` builds are written alike only if they merge alike. -/
theorem merge_eq_of_render_eq {s s' : Path} (compiled : ∀ m ∈ s, m.Compiled)
    (compiled' : ∀ m ∈ s', m.Compiled) (same : s.render = s'.render) : merge s = merge s' := by
  have chars : (joined (separate s)).toList = (joined (separate s')).toList := by
    rw [joined_separate, joined_separate, joined_eq_of_render_eq compiled compiled' same]
  have separated := eq_of_chars_eq (atomic_separate compiled) (atomic_separate compiled') chars
  rw [← merge_separate s, separated, merge_separate]

/-! ## The printer on compiled paths -/

/-- What `render` does to a path that `compile` builds: the rendering reads back as the merged
path unless a bare index follows an index, and fails to read back otherwise; merging changes
neither the rendering nor any walk; and two compiled paths render alike only if they merge
alike. -/
theorem render_reads_back_merged {path : String} {s : Path} (compiled : compile path = .ok s) :
    (chainsIndices s = false → compile s.render = .ok (merge s)) ∧
    (chainsIndices s = true → ∀ s', compile s.render ≠ .ok s') ∧
    (merge s).render = s.render ∧ (∀ t, resolve (merge s) t = resolve s t) ∧
    (∀ path' s', compile path' = .ok s' → s'.render = s.render → merge s' = merge s) := by
  have segments := compiled_of_compile compiled
  refine ⟨fun unchained => ?_, compile_render_ne_of_chainsIndices, render_merge s, resolve_merge s,
    fun path' s' compiled' same => merge_eq_of_render_eq (compiled_of_compile compiled') segments same⟩
  rw [← render_merge s]
  exact compile_render_of_canonical (canonical_merge segments unchained)

/-- A bare index after an index is rendered right after the closing bracket before it, and the
rendering does not compile. -/
theorem chained_index_rendering_does_not_compile :
    compile "a[1].2" = .ok [⟨"a", some 1⟩, .ofIndex 2] ∧
      render [⟨"a", some 1⟩, .ofIndex 2] = ".a[1][2]" ∧
      compile ".a[1][2]" = .error (.invalidIndex ".a[1][2]" "a[1][2]") := by
  decide

/-- `a.0` renders as `.a[0]`, which reads back as the one segment `a[0]`. -/
theorem point_index_reads_back_bracketed :
    compile "a.0" = .ok [.ofKey "a", .ofIndex 0] ∧
      compile (render [.ofKey "a", .ofIndex 0]) = .ok [⟨"a", some 0⟩] := by
  have compiled : compile "a.0" = .ok [.ofKey "a", .ofIndex 0] := by decide
  have readBack := (render_reads_back_merged compiled).1 (by decide)
  rw [merge_cons_cons_of_pair [] ⟨rfl, rfl, rfl⟩, merge_nil] at readBack
  exact ⟨compiled, readBack⟩

end Path

end JsonProbe
