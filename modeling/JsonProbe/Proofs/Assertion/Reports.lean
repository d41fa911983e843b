import JsonProbe.Check
import JsonProbe.Proofs.Path.Failures
import JsonProbe.Proofs.Json.KeyOrder
import JsonProbe.Proofs.Json.Lexing
/-! # What a failed assertion reports

On a document that reads and a path that compiles, every error an assertion returns describes
the document truthfully (`Reports`):

* a walk that fails says where it stopped and why (`Path.StopsAt`), and a missing key lists the
  object's keys in the order of their bytes;
* a value at the end of the path of the wrong kind is reported at the path, with its kind; an
  element of an array that is not a scalar is the first such element, reported at the path
  followed by its index;
* a violated assertion is reported at the path, with the document quoted, and what it says of the
  value found there is so;
* a pattern that does not compile is reported with its own compile error.

No assertion reports the document or the path as unreadable. -/
set_option autoImplicit false
namespace JsonProbe

/-- The keys a lookup error lists increase in the order of their UTF-8 bytes. -/
def LookupError.ListsInOrder : LookupError → Prop
  | .missingKey _ _ available =>
      available.Pairwise fun a b => Utf8.encodeList a.toList < Utf8.encodeList b.toList
  | .indexOutOfBounds _ _ _ => True

/-- What a violation says of the value `u` at the end of the path `s` in the document `bs`: it is
reported at the path with the document quoted, and the value is not null, is a scalar with a text
the pattern does not match, is an array of another length, or is present. -/
def Violation.Describes [RegexEngine] (bs : List UInt8) (s : Path) (u : Term) : Violation → Prop
  | .notNull path found json =>
      path = s.render ∧ json = document bs ∧ u ≠ .null ∧ found = u.typeName
  | .mismatch path pattern value json =>
      path = s.render ∧ json = document bs ∧ u.scalarText? = some value ∧
        ∃ re, RegexEngine.compile pattern = .ok re ∧ RegexEngine.isMatch re value = false
  | .wrongLength path expected actual json =>
      path = s.render ∧ json = document bs ∧
        ∃ items, u = .array items ∧ items.length = actual ∧ actual ≠ expected
  | .keyPresent path json => path = s.render ∧ json = document bs ∧ (s = [] → u ≠ .null)

namespace Assertion

open JsonProbe.Path

/-- The value at the end of `s` does not have the shape `e` expects, and `e` reports it at `s`. -/
def AtEnd (root : Term) (s : Path) (e : ShapeError) : Prop :=
  ∃ u, resolve s root = .ok u ∧ e.path = s.render ∧ (ResolveError.shape e).Describes u

/-- The element `i` of the array at the end of `s` is the first that is not a scalar, and `e`
reports it at `s` followed by the bare index `i`. -/
def ElementNotScalar (root : Term) (s : Path) (e : ShapeError) : Prop :=
  ∃ i u, resolve (s ++ [Segment.ofIndex i]) root = .ok u ∧
    e.path = (s ++ [Segment.ofIndex i]).render ∧ e.expected = .scalar ∧
    (ResolveError.shape e).Describes u ∧
    ∀ j < i, ∃ w, resolve (s ++ [Segment.ofIndex j]) root = .ok w ∧ Shape.scalar.fits w = true

/-- What an error of an assertion on the document `bs`, read as `root`, along the path `s` says
about them holds.  A readable document and a compiling path give no parse or path syntax error. -/
def Reports [RegexEngine] (bs : List UInt8) (root : Term) (s : Path) : ProbeError → Prop
  | .parse _ => False
  | .pathSyntax _ => False
  | .pattern pattern message => RegexEngine.compile pattern = .error message
  | .shape e => StopsAt root s (.shape e) ∨ AtEnd root s e ∨ ElementNotScalar root s e
  | .lookup e => StopsAt root s (.lookup e) ∧ e.ListsInOrder
  | .violation v => ∃ u, resolve s root = .ok u ∧ v.Describes bs s u

/-! ## Walking -/

section Walking

variable {root : Term} {s : Path}

theorem listsInOrder_of_stopsAt (keyed : root.WellKeyed) {e : LookupError}
    (h : StopsAt root s (.lookup e)) : e.ListsInOrder := by
  cases e with
  | indexOutOfBounds index length place => trivial
  | missingKey key place available =>
      obtain ⟨pre, seg, post, -, ⟨u, walked, -, -, members, rfl, rfl, -⟩ |
        ⟨i, u, -, -, -, about, -⟩⟩ := h
      · have objectKeyed := keyed.resolve walked
        cases objectKeyed with
        | object sorted each => exact keys_increase_in_bytes sorted
      · exact False.elim about

theorem reports_of_resolve_eq_error [RegexEngine] (bs : List UInt8) (keyed : root.WellKeyed)
    {e : ResolveError} (h : resolve s root = .error e) : Reports bs root s e.toProbe := by
  have stops := stopsAt_of_resolve_eq_error h
  cases e with
  | shape e => exact Or.inl stops
  | lookup e => exact ⟨stops, listsInOrder_of_stopsAt keyed stops⟩

theorem walk_bind_eq_error {α : Type} {f : Term → Except ProbeError α} {err : ProbeError}
    (h : (walk root s >>= f) = .error err) :
    (∃ e, resolve s root = .error e ∧ err = e.toProbe) ∨
      ∃ u, resolve s root = .ok u ∧ f u = .error err := by
  unfold walk at h
  cases walked : resolve s root with
  | error e =>
      rw [walked, mapError_error, error_bind] at h
      cases h
      exact Or.inl ⟨e, rfl, rfl⟩
  | ok u =>
      rw [walked, mapError_ok, ok_bind] at h
      exact Or.inr ⟨u, rfl, h⟩

theorem scalarAt_eq_error {err : ProbeError} (h : scalarAt root s = .error err) :
    (∃ e, resolve s root = .error e ∧ err = e.toProbe) ∨
      ∃ u, resolve s root = .ok u ∧ u.scalarText? = none ∧
        err = .shape ⟨s.render, .scalar, u.typeName⟩ := by
  rcases walk_bind_eq_error h with walkFailed | ⟨u, walked, failed⟩
  · exact Or.inl walkFailed
  · cases text : u.scalarText? with
    | some value =>
        simp only [text] at failed
        cases failed
    | none =>
        simp only [text] at failed
        cases failed
        exact Or.inr ⟨u, walked, text, rfl⟩

theorem scalarAt_eq_ok {text : String} (h : scalarAt root s = .ok text) :
    ∃ u, resolve s root = .ok u ∧ u.scalarText? = some text := by
  unfold scalarAt walk at h
  cases walked : resolve s root with
  | error e =>
      rw [walked] at h
      cases h
  | ok u =>
      rw [walked, mapError_ok, ok_bind] at h
      cases found : u.scalarText? with
      | some value =>
          simp only [found] at h
          cases h
          exact ⟨u, rfl, found⟩
      | none =>
          simp only [found] at h
          cases h

theorem arrayAt_eq_error {err : ProbeError} (h : arrayAt root s = .error err) :
    (∃ e, resolve s root = .error e ∧ err = e.toProbe) ∨
      ∃ u, resolve s root = .ok u ∧ Shape.array.fits u = false ∧
        err = .shape ⟨s.render, .array, u.typeName⟩ := by
  rcases walk_bind_eq_error h with walkFailed | ⟨u, walked, failed⟩
  · exact Or.inl walkFailed
  · cases u with
    | array items => cases failed
    | _ =>
        cases failed
        exact Or.inr ⟨_, walked, rfl, rfl⟩

theorem arrayAt_eq_ok {items : List Term} (h : arrayAt root s = .ok items) :
    resolve s root = .ok (.array items) := by
  unfold arrayAt walk at h
  cases walked : resolve s root with
  | error e =>
      rw [walked] at h
      cases h
  | ok u =>
      rw [walked, mapError_ok, ok_bind] at h
      cases u with
      | array items' =>
          cases h
          rfl
      | _ => cases h

theorem reports_atEnd [RegexEngine] (bs : List UInt8) {u : Term} {expected : Shape}
    (walked : resolve s root = .ok u) (unfit : expected.fits u = false) :
    Reports bs root s (.shape ⟨s.render, expected, u.typeName⟩) :=
  Or.inr (Or.inl ⟨u, walked, rfl, rfl, unfit⟩)

end Walking

/-! ## Elements of an array -/

theorem mapM_eq_error {α β ε : Type} {f : α → Except ε β} {e : ε} :
    ∀ {l : List α}, l.mapM f = .error e →
      ∃ pre x post, l = pre ++ x :: post ∧ (∀ y ∈ pre, ∃ v, f y = .ok v) ∧
        f x = .error e
  | [], h => by cases h
  | x :: l, h => by
      rw [List.mapM_cons] at h
      cases fx : f x with
      | error e' =>
          rw [fx] at h
          cases h
          exact ⟨[], x, l, rfl, by simp, fx⟩
      | ok v =>
          cases rest : l.mapM f with
          | error e' =>
              rw [fx, rest] at h
              cases h
              obtain ⟨pre, y, post, rfl, before, failed⟩ := mapM_eq_error rest
              refine ⟨x :: pre, y, post, rfl, ?_, failed⟩
              intro z mem
              rcases List.mem_cons.mp mem with rfl | later
              · exact ⟨v, fx⟩
              · exact before z later
          | ok vs =>
              rw [fx, rest] at h
              cases h

theorem mapM_zipIdx_eq_error {α β ε : Type} {f : α × Nat → Except ε β} {e : ε}
    {l : List α} (h : l.zipIdx.mapM f = .error e) :
    ∃ i x, l[i]? = some x ∧ f (x, i) = .error e ∧
      ∀ j < i, ∃ y v, l[j]? = some y ∧ f (y, j) = .ok v := by
  obtain ⟨pre, ⟨x, i⟩, post, split, before, failed⟩ := mapM_eq_error h
  obtain ⟨front, back, rfl, rfl, rest⟩ := List.zipIdx_eq_append_iff.mp split
  obtain ⟨y, ys, rfl, same, -⟩ := List.zipIdx_eq_cons_iff.mp rest.symm
  simp only [Prod.mk.injEq, Nat.zero_add] at same
  obtain ⟨rfl, rfl⟩ := same
  refine ⟨front.length, x, by simp, failed, ?_⟩
  intro j lt
  have inFront : (front ++ x :: ys)[j]? = front[j]? := List.getElem?_append_left lt
  obtain ⟨v, ok⟩ := before (front[j], j) (List.mk_mem_zipIdx_iff_getElem?.mpr (by simp [lt]))
  exact ⟨front[j], v, by rw [inFront]; simp [lt], ok⟩

theorem resolve_append_ofIndex {root : Term} {s : Path} {items : List Term} {i : Nat} {v : Term}
    (walked : resolve s root = .ok (.array items)) (found : items[i]? = some v) :
    resolve (s ++ [Segment.ofIndex i]) root = .ok v := by
  rw [resolve_append_single, walked, ok_bind, step_ofIndex]
  simp only [indexStep, found]
  rfl

/-! ## The six assertions -/

theorem load_eq {bs : List UInt8} {path : String} {root : Term} {s : Path}
    (parsed : Term.parse bs = .ok root) (compiled : Path.compile path = .ok s) :
    load bs path = .ok (root, s) := by
  rw [load, parsed, mapError_ok, ok_bind, compiled, mapError_ok, ok_bind]
  rfl

section Assertions

variable {bs : List UInt8} {path : String} {root : Term} {s : Path} {err : ProbeError}

theorem reports_of_scalarAt [RegexEngine] (keyed : root.WellKeyed) (h : scalarAt root s = .error err) :
    Reports bs root s err := by
  rcases scalarAt_eq_error h with ⟨e, walked, rfl⟩ | ⟨u, walked, none, rfl⟩
  · exact reports_of_resolve_eq_error bs keyed walked
  · exact reports_atEnd bs walked (by simp [Shape.fits, none])

theorem reports_of_arrayAt [RegexEngine] (keyed : root.WellKeyed) (h : arrayAt root s = .error err) :
    Reports bs root s err := by
  rcases arrayAt_eq_error h with ⟨e, walked, rfl⟩ | ⟨u, walked, unfit, rfl⟩
  · exact reports_of_resolve_eq_error bs keyed walked
  · exact reports_atEnd bs walked unfit

theorem isNull_reports [RegexEngine] (keyed : root.WellKeyed) (loaded : load bs path = .ok (root, s))
    (h : isNull bs path = .error err) : Reports bs root s err := by
  rw [isNull, loaded, ok_bind] at h
  rcases walk_bind_eq_error h with ⟨e, walked, rfl⟩ | ⟨u, walked, failed⟩
  · exact reports_of_resolve_eq_error bs keyed walked
  · cases u with
    | null => cases failed
    | _ =>
        cases failed
        exact ⟨_, walked, rfl, rfl, by simp, rfl⟩

theorem matchesPattern_reports [RegexEngine] (keyed : root.WellKeyed) (loaded : load bs path = .ok (root, s))
    {pattern : String} (h : matchesPattern bs path pattern = .error err) :
    Reports bs root s err := by
  unfold matchesPattern at h
  cases compiledRe : RegexEngine.compile pattern with
  | error e =>
      rw [compiledRe, mapError_error, error_bind] at h
      cases h
      exact compiledRe
  | ok re =>
      rw [compiledRe, mapError_ok, ok_bind, loaded, ok_bind] at h
      dsimp only at h
      cases scanned : scalarAt root s with
      | error e =>
          rw [scanned, error_bind] at h
          cases h
          exact reports_of_scalarAt keyed scanned
      | ok value =>
          rw [scanned, ok_bind] at h
          obtain ⟨u, walked, text⟩ := scalarAt_eq_ok scanned
          by_cases matched : RegexEngine.isMatch re value = true
          · simp only [matched, Bool.not_true, Bool.false_eq_true, if_false] at h
            cases h
          · simp only [matched, Bool.not_false, if_true] at h
            cases h
            exact ⟨u, walked, rfl, rfl, text, re, compiledRe, by simpa using matched⟩

theorem hasLength_reports [RegexEngine] (keyed : root.WellKeyed) (loaded : load bs path = .ok (root, s))
    {length : Nat} (h : hasLength bs path length = .error err) : Reports bs root s err := by
  rw [hasLength, loaded, ok_bind] at h
  dsimp only at h
  cases found : arrayAt root s with
  | error e =>
      rw [found, error_bind] at h
      cases h
      exact reports_of_arrayAt keyed found
  | ok items =>
      rw [found, ok_bind] at h
      by_cases same : items.length = length
      · simp only [same, bne_self_eq_false, Bool.false_eq_true, if_false] at h
        cases h
      · have differ : (items.length != length) = true := by simpa using same
        simp only [differ, if_true] at h
        cases h
        exact ⟨_, arrayAt_eq_ok found, rfl, rfl, items, rfl, rfl, same⟩

theorem read_reports [RegexEngine] (keyed : root.WellKeyed) (loaded : load bs path = .ok (root, s))
    (h : read bs path = .error err) : Reports bs root s err := by
  rw [read, loaded, ok_bind] at h
  exact reports_of_scalarAt keyed h

theorem readArray_reports [RegexEngine] (keyed : root.WellKeyed) (loaded : load bs path = .ok (root, s))
    (h : readArray bs path = .error err) : Reports bs root s err := by
  rw [readArray, loaded, ok_bind] at h
  dsimp only at h
  cases found : arrayAt root s with
  | error e =>
      rw [found, error_bind] at h
      cases h
      exact reports_of_arrayAt keyed found
  | ok items =>
      rw [found, ok_bind] at h
      have walked := arrayAt_eq_ok found
      obtain ⟨i, u, item, failed, before⟩ := mapM_zipIdx_eq_error h
      cases text : u.scalarText? with
      | some value =>
          simp only [text] at failed
          cases failed
      | none =>
          simp only [text] at failed
          cases failed
          refine Or.inr (Or.inr ⟨i, u, resolve_append_ofIndex walked item, rfl, rfl,
            ⟨rfl, by simp [Shape.fits, text]⟩, ?_⟩)
          intro j lt
          obtain ⟨w, v, itemJ, gave⟩ := before j lt
          refine ⟨w, resolve_append_ofIndex walked itemJ, ?_⟩
          cases textJ : w.scalarText? with
          | some t => simp [Shape.fits, textJ]
          | none =>
              simp only [textJ] at gave
              cases gave

theorem keyIsMissing_reports [RegexEngine] (keyed : root.WellKeyed) (loaded : load bs path = .ok (root, s))
    (h : keyIsMissing bs path = .error err) : Reports bs root s err := by
  rw [keyIsMissing, loaded, ok_bind] at h
  dsimp only at h
  rcases List.eq_nil_or_concat s with rfl | ⟨init, last, rfl⟩
  · -- the empty path: a document that is not null is present
    cases root with
    | null => cases h
    | _ =>
        cases h
        exact ⟨_, rfl, rfl, rfl, fun _ => by simp⟩
  · -- the parent is walked to, and the last step taken from it
    rw [List.concat_eq_append]
    simp only [List.concat_eq_append, List.getLast?_concat, List.dropLast_concat] at h
    rcases walk_bind_eq_error h with ⟨e, walked, rfl⟩ | ⟨parent, walked, failed⟩
    · exact reports_of_resolve_eq_error bs keyed (by rw [resolve_append_single, walked]; rfl)
    · have whole : resolve (init ++ [last]) root = step init last parent := by
        rw [resolve_append_single, walked]
        rfl
      cases stepped : step init last parent with
      | ok v =>
          rw [stepped] at failed
          cases failed
          exact ⟨v, whole.trans stepped, rfl, rfl, fun empty => absurd empty (by simp)⟩
      | error e =>
          rw [stepped] at failed
          -- every failure of the last step but a missing key is the walk's own error
          cases e with
          | shape e =>
              cases failed
              exact reports_of_resolve_eq_error bs keyed (whole.trans stepped)
          | lookup e =>
              cases e with
              | missingKey key place available => cases failed
              | indexOutOfBounds index length place =>
                  cases failed
                  exact reports_of_resolve_eq_error bs keyed (whole.trans stepped)

end Assertions

/-- On a document that reads and a path that compiles, every error of a walk along the path and
of each of the six assertions describes the document truthfully. -/
theorem assertion_errors_describe_document [RegexEngine] {bs : List UInt8} {path : String} {root : Term}
    {s : Path} (parsed : Term.parse bs = .ok root) (compiled : Path.compile path = .ok s) :
    (∀ e, resolve s root = .error e → Reports bs root s e.toProbe) ∧
      (∀ err, isNull bs path = .error err → Reports bs root s err) ∧
      (∀ pattern err, matchesPattern bs path pattern = .error err → Reports bs root s err) ∧
      (∀ length err, hasLength bs path length = .error err → Reports bs root s err) ∧
      (∀ err, read bs path = .error err → Reports bs root s err) ∧
      (∀ err, readArray bs path = .error err → Reports bs root s err) ∧
      (∀ err, keyIsMissing bs path = .error err → Reports bs root s err) := by
  have keyed := wellKeyed_of_parse_eq_ok parsed
  have loaded := load_eq parsed compiled
  exact ⟨fun _ => reports_of_resolve_eq_error bs keyed, fun _ => isNull_reports keyed loaded,
    fun _ _ => matchesPattern_reports keyed loaded, fun _ _ => hasLength_reports keyed loaded,
    fun _ => read_reports keyed loaded, fun _ => readArray_reports keyed loaded,
    fun _ => keyIsMissing_reports keyed loaded⟩

/-- The document `{}` and the path `a`. -/
theorem assertion_errors_describe_braces :
    Term.parse [0x7B, 0x7D] = .ok (.object []) ∧ Path.compile "a" = .ok [.ofKey "a"] ∧
      (∀ e, resolve [.ofKey "a"] (.object []) = .error e →
        Reports [0x7B, 0x7D] (.object []) [.ofKey "a"] e.toProbe) ∧
      (∀ err, isNull [0x7B, 0x7D] "a" = .error err →
        Reports [0x7B, 0x7D] (.object []) [.ofKey "a"] err) ∧
      (∀ pattern err, matchesPattern [0x7B, 0x7D] "a" pattern = .error err →
        Reports [0x7B, 0x7D] (.object []) [.ofKey "a"] err) ∧
      (∀ length err, hasLength [0x7B, 0x7D] "a" length = .error err →
        Reports [0x7B, 0x7D] (.object []) [.ofKey "a"] err) ∧
      (∀ err, read [0x7B, 0x7D] "a" = .error err →
        Reports [0x7B, 0x7D] (.object []) [.ofKey "a"] err) ∧
      (∀ err, readArray [0x7B, 0x7D] "a" = .error err →
        Reports [0x7B, 0x7D] (.object []) [.ofKey "a"] err) ∧
      (∀ err, keyIsMissing [0x7B, 0x7D] "a" = .error err →
        Reports [0x7B, 0x7D] (.object []) [.ofKey "a"] err) := by
  have parsed : Term.parse [0x7B, 0x7D] = .ok (.object []) := by
    rw [Term.parse, TokenStream.ofBytes_braces]
    rfl
  have compiled : Path.compile "a" = .ok [.ofKey "a"] := by decide
  exact ⟨parsed, compiled, assertion_errors_describe_document parsed compiled⟩

end Assertion

end JsonProbe
