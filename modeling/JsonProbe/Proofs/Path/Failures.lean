import JsonProbe.Proofs.Path.Walk
/-! # Where a walk fails

A walk along a path fails at one segment, after every segment before it has been walked, and its
error says where and why (`stopsAt_of_resolve_eq_error`):

* the key half of the segment fails on the value the segments before it lead to, and the error
  reports the path of those segments: the value is not an object, or it is an object without the
  key, whose keys the error lists;
* the index half fails on the value that the key leads to, and the error reports the path up to
  the segment with its index removed: the value is not an array, or it is an array with no more
  elements than the index.

Each error names the kind of the value it was raised at, and the key or index that failed. -/
set_option autoImplicit false
namespace JsonProbe

/-- Whether a value has a shape: an object, an array, or a scalar, which has a text. -/
def Shape.fits : Shape → Term → Bool
  | .object, .object _ => true
  | .array, .array _ => true
  | .scalar, t => t.scalarText?.isSome
  | _, _ => false

/-- The path a walking error reports. -/
def ResolveError.path : ResolveError → String
  | .shape e => e.path
  | .lookup (.missingKey _ path _) => path
  | .lookup (.indexOutOfBounds _ _ path) => path

/-- The value `u` is what the error says was found: a value of the kind `found` that does not
have the expected shape; an object without the key, whose keys are `available`; or an array of
`length` elements, no more than the index. -/
def ResolveError.Describes (u : Term) : ResolveError → Prop
  | .shape e => e.found = u.typeName ∧ e.expected.fits u = false
  | .lookup (.missingKey key _ available) =>
      ∃ members, u = .object members ∧ available = members.map Prod.fst ∧ key ∉ available
  | .lookup (.indexOutOfBounds index length _) =>
      ∃ items, u = .array items ∧ items.length = length ∧ length ≤ index

/-- The error is about the key `key`: an object was expected, or the key is missing. -/
def ResolveError.AboutKey (key : String) : ResolveError → Prop
  | .shape e => e.expected = .object
  | .lookup (.missingKey k _ _) => k = key
  | .lookup (.indexOutOfBounds _ _ _) => False

/-- The error is about the index `index`: an array was expected, or the index is past its end. -/
def ResolveError.AboutIndex (index : Nat) : ResolveError → Prop
  | .shape e => e.expected = .array
  | .lookup (.indexOutOfBounds i _ _) => i = index
  | .lookup (.missingKey _ _ _) => False

namespace Path

/-- Walking `s` from `root` stops at the segment `seg`, after the segments `pre`, and `e` says
why: the key of `seg` cannot be followed from the value `pre` leads to, and `e` reports `pre`; or
the index of `seg` cannot be followed from the value that `pre` and the key lead to, and `e`
reports `pre` followed by the key alone. -/
def StopsAt (root : Term) (s : Path) (e : ResolveError) : Prop :=
  ∃ pre seg post, s = pre ++ seg :: post ∧
    ((∃ u, resolve pre root = .ok u ∧ e.path = pre.render ∧ e.AboutKey seg.key ∧
        e.Describes u) ∨
      (∃ i u, seg.index = some i ∧ resolve (pre ++ [Segment.ofKey seg.key]) root = .ok u ∧
        e.path = (pre ++ [Segment.ofKey seg.key]).render ∧ e.AboutIndex i ∧ e.Describes u))

/-! ## One step -/

theorem key_not_mem_of_member? {members : List (String × Term)} {key : String}
    (h : Term.member? members key = none) : key ∉ members.map Prod.fst := by
  simp only [Term.member?, Option.map_eq_none_iff, List.find?_eq_none, beq_iff_eq] at h
  simp only [List.mem_map, not_exists, not_and]
  intro m mem same
  exact h m mem same

theorem keyStep_eq_error {before : Path} {key : String} {t : Term} {e : ResolveError}
    (h : keyStep before key t = .error e) :
    e.path = before.render ∧ e.AboutKey key ∧ e.Describes t := by
  unfold keyStep at h
  split at h
  · cases h
  · cases t with
    | object members =>
        cases found : Term.member? members key with
        | some v =>
            simp only [found] at h
            cases h
        | none =>
            simp only [found] at h
            cases h
            exact ⟨rfl, rfl, members, rfl, rfl, key_not_mem_of_member? found⟩
    | _ =>
        cases h
        exact ⟨rfl, rfl, rfl, rfl⟩

theorem indexStep_eq_error {here : String} {i : Nat} {t : Term} {e : ResolveError}
    (h : indexStep here (some i) t = .error e) :
    e.path = here ∧ e.AboutIndex i ∧ e.Describes t := by
  unfold indexStep at h
  cases t with
  | array items =>
      cases found : items[i]? with
      | some v =>
          simp only [found] at h
          cases h
      | none =>
          simp only [found] at h
          cases h
          exact ⟨rfl, rfl, items, rfl, rfl, List.getElem?_eq_none_iff.mp found⟩
  | _ =>
      cases h
      exact ⟨rfl, rfl, rfl, rfl⟩

theorem step_eq_error {before : Path} {seg : Segment} {t : Term} {e : ResolveError}
    (h : step before seg t = .error e) :
    (e.path = before.render ∧ e.AboutKey seg.key ∧ e.Describes t) ∨
      (∃ i u, seg.index = some i ∧ keyStep before seg.key t = .ok u ∧
        e.path = (before ++ [Segment.ofKey seg.key]).render ∧ e.AboutIndex i ∧
        e.Describes u) := by
  rw [step_eq_keyStep_bind] at h
  cases keyed : keyStep before seg.key t with
  | error e' =>
      rw [keyed] at h
      cases h
      exact Or.inl (keyStep_eq_error keyed)
  | ok u =>
      rw [keyed] at h
      cases indexed : seg.index with
      | none =>
          rw [indexed] at h
          cases h
      | some i =>
          rw [indexed] at h
          exact Or.inr ⟨i, u, rfl, rfl, indexStep_eq_error h⟩

/-! ## A whole walk -/

theorem resolveFrom_eq_error {before s : Path} {t : Term} {e : ResolveError}
    (h : resolveFrom before s t = .error e) :
    ∃ pre seg post u, s = pre ++ seg :: post ∧ resolveFrom before pre t = .ok u ∧
      step (before ++ pre) seg u = .error e := by
  induction s generalizing before t with
  | nil => cases h
  | cons seg s ih =>
      cases stepped : step before seg t with
      | error e' =>
          simp only [resolveFrom, stepped] at h
          cases h
          exact ⟨[], seg, s, t, rfl, rfl, by rw [List.append_nil]; exact stepped⟩
      | ok t' =>
          simp only [resolveFrom, stepped] at h
          obtain ⟨pre, seg', post, u, rfl, walked, failed⟩ := ih h
          refine ⟨seg :: pre, seg', post, u, rfl, ?_, ?_⟩
          · simp only [resolveFrom, stepped]
            exact walked
          · rw [List.append_cons]
            exact failed

theorem resolve_append_ofKey (pre : Path) (key : String) (root : Term) :
    resolve (pre ++ [Segment.ofKey key]) root = resolve pre root >>= keyStep pre key := by
  rw [resolve_append_single]
  exact congrArg (resolve pre root >>= ·) (funext (step_ofKey pre key))

theorem stopsAt_of_resolve_eq_error {root : Term} {s : Path} {e : ResolveError}
    (h : resolve s root = .error e) : StopsAt root s e := by
  obtain ⟨pre, seg, post, u, split, walked, failed⟩ := resolveFrom_eq_error h
  rw [List.nil_append] at failed
  refine ⟨pre, seg, post, split, ?_⟩
  rcases step_eq_error failed with ⟨reported, about, describes⟩ |
      ⟨i, found, indexed, keyed, reported, about, describes⟩
  · exact Or.inl ⟨u, walked, reported, about, describes⟩
  · have reached : resolve (pre ++ [Segment.ofKey seg.key]) root = .ok found := by
      rw [resolve_append_ofKey, resolve, walked]
      exact keyed
    exact Or.inr ⟨i, found, indexed, reached, reported, about, describes⟩

end Path

end JsonProbe
