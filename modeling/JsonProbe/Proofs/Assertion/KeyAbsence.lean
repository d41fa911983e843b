import JsonProbe.Proofs.Assertion.Reports
/-! # A missing last key, against the whole walk

`keyIsMissing` does not walk the whole path.  It walks to the parent of the last segment and
then takes the last step itself.  Its answer is still the one the whole walk gives
(`keyIsMissing_agrees_with_resolve`):

* it holds exactly when the whole walk fails on the last segment's key, reported at the path
  before that segment;
* it fails as present exactly when the whole walk succeeds;
* every other failure of the whole walk is its own failure, a missing key before the last segment
  included.

Telling the last step's missing key apart from an earlier one takes one fact about paths as
written: a segment with a key always lengthens the rendering (`render_append_ne`).  So an earlier
step, which reports a shorter path, never reports the parent's path. -/
set_option autoImplicit false
namespace JsonProbe

namespace Path

/-! ## Missing keys along a walk -/

theorem indexStep_ne_missingKey (here : String) (index : Option Nat) (found : Term)
    (key place : String) (available : List String) :
    indexStep here index found ≠ .error (.lookup (.missingKey key place available)) := by
  intro h
  unfold indexStep at h
  split at h
  · cases h
  · split at h
    · split at h
      · cases h
      · cases h
    · cases h

theorem keyStep_eq_missingKey {before : Path} {key : String} {t : Term} {k place : String}
    {available : List String}
    (h : keyStep before key t = .error (.lookup (.missingKey k place available))) :
    k = key ∧ key ≠ "" ∧ place = before.render := by
  unfold keyStep at h
  split at h
  · cases h
  · rename_i nonempty
    split at h
    · split at h
      · cases h
      · cases h
        exact ⟨rfl, fun empty => nonempty (String.isEmpty_iff.mpr empty), rfl⟩
    · cases h

theorem step_eq_missingKey {before : Path} {seg : Segment} {t : Term} {k place : String}
    {available : List String}
    (h : step before seg t = .error (.lookup (.missingKey k place available))) :
    k = seg.key ∧ seg.key ≠ "" ∧ place = before.render := by
  rw [step_eq_keyStep_bind] at h
  cases keyed : keyStep before seg.key t with
  | error e =>
      rw [keyed, error_bind] at h
      cases h
      exact keyStep_eq_missingKey keyed
  | ok found =>
      rw [keyed, ok_bind] at h
      exact absurd h (indexStep_ne_missingKey _ _ _ _ _ _)

/-! ## Renderings of longer paths -/

theorem length_written_of_key {seg : Segment} (keyed : seg.key ≠ "") :
    2 ≤ seg.written.length := by
  have notEmpty : seg.key.isEmpty = false := by
    cases empty : seg.key.isEmpty
    · rfl
    · exact absurd (String.isEmpty_iff.mp empty) keyed
  have keyLength : 1 ≤ seg.key.length :=
    Nat.pos_of_ne_zero (mt String.length_eq_zero_iff.mp keyed)
  simp only [Segment.written, notEmpty, Bool.false_eq_true, if_false, Segment.display,
    String.length_append]
  have dot : ".".length = 1 := rfl
  omega

theorem render_append_ne {pre post : Path} {seg : Segment} (keyed : seg.key ≠ "") :
    (pre ++ seg :: post).render ≠ pre.render := by
  have longer : (pre ++ seg :: post).joined.length =
      pre.joined.length + seg.written.length + post.joined.length := by
    simp only [joined_append, joined_cons, String.length_append]
    omega
  have written := length_written_of_key keyed
  intro same
  rw [render_eq_joined, render_eq_joined] at same
  have lengths := congrArg String.length same
  split_ifs at same lengths with wholeEmpty preEmpty preEmpty
  · rw [String.isEmpty_iff, ← String.length_eq_zero_iff] at wholeEmpty
    omega
  · rw [String.isEmpty_iff, ← String.length_eq_zero_iff] at wholeEmpty
    omega
  · have dot : ".".length = 1 := rfl
    omega
  · omega

theorem resolve_snoc_eq_missingKey {root : Term} {init : Path} {last : Segment}
    {available : List String}
    (h : resolve (init ++ [last]) root =
      .error (.lookup (.missingKey last.key init.render available))) :
    ∃ parent, resolve init root = .ok parent ∧
      step init last parent = .error (.lookup (.missingKey last.key init.render available)) := by
  rw [resolve_append_single] at h
  cases walked : resolve init root with
  | ok parent =>
      rw [walked, ok_bind] at h
      exact ⟨parent, rfl, h⟩
  | error e =>
      rw [walked, error_bind] at h
      cases h
      -- the walk to the parent failed at some segment `seg` of it, reporting the path before
      -- `seg`; that path is shorter than the parent's
      obtain ⟨pre, seg, post, u, split, -, failed⟩ := resolveFrom_eq_error walked
      rw [List.nil_append] at failed
      obtain ⟨-, keyed, place⟩ := step_eq_missingKey failed
      rw [split] at place
      exact absurd place (render_append_ne keyed)

end Path

namespace Assertion

open JsonProbe.Path

/-! ## The last step of `keyIsMissing` -/

section LastStep

variable {bs : List UInt8} {path : String} {root : Term} {init : Path} {last : Segment}

theorem keyIsMissing_of_walk_error {e : ResolveError}
    (loaded : load bs path = .ok (root, init ++ [last])) (walked : resolve init root = .error e) :
    keyIsMissing bs path = .error e.toProbe := by
  rw [keyIsMissing, loaded, ok_bind]
  simp only [List.getLast?_concat, List.dropLast_concat, walk, walked, mapError_error, error_bind]

theorem keyIsMissing_of_step_ok {parent v : Term}
    (loaded : load bs path = .ok (root, init ++ [last])) (walked : resolve init root = .ok parent)
    (stepped : step init last parent = .ok v) :
    keyIsMissing bs path =
      .error (.violation (.keyPresent (init ++ [last]).render (document bs))) := by
  rw [keyIsMissing, loaded, ok_bind]
  simp only [List.getLast?_concat, List.dropLast_concat, walk, walked, mapError_ok, ok_bind,
    stepped]
  rfl

theorem keyIsMissing_of_step_missingKey {parent : Term} {k place : String}
    {available : List String}
    (loaded : load bs path = .ok (root, init ++ [last])) (walked : resolve init root = .ok parent)
    (stepped : step init last parent = .error (.lookup (.missingKey k place available))) :
    keyIsMissing bs path = .ok () := by
  rw [keyIsMissing, loaded, ok_bind]
  simp only [List.getLast?_concat, List.dropLast_concat, walk, walked, mapError_ok, ok_bind,
    stepped]
  rfl

theorem keyIsMissing_of_step_error {parent : Term} {e : ResolveError}
    (loaded : load bs path = .ok (root, init ++ [last])) (walked : resolve init root = .ok parent)
    (stepped : step init last parent = .error e)
    (other : ∀ k place available, e ≠ .lookup (.missingKey k place available)) :
    keyIsMissing bs path = .error e.toProbe := by
  rw [keyIsMissing, loaded, ok_bind]
  simp only [List.getLast?_concat, List.dropLast_concat, walk, walked, mapError_ok, ok_bind,
    stepped]
  cases e with
  | shape e => rfl
  | lookup e =>
      cases e with
      | missingKey k place available => exact absurd rfl (other k place available)
      | indexOutOfBounds index length place => rfl

end LastStep

/-! ## Against the whole walk -/

/-- The answer `r` about the last key of `init ++ [last]`, in the document `bs` read as `root`,
is the whole walk's: it holds exactly when the walk fails on the last key, reported at `init`; it
fails as present exactly when the walk succeeds; any other failure of the walk, and in particular
any failure before the last segment, is its own. -/
def AgreesWithWalk (bs : List UInt8) (root : Term) (init : Path) (last : Segment)
    (r : Except ProbeError Unit) : Prop :=
  (r = .ok () ↔ ∃ available,
      resolve (init ++ [last]) root = .error (.lookup (.missingKey last.key init.render available))) ∧
    (r = .error (.violation (.keyPresent (init ++ [last]).render (document bs))) ↔
      ∃ u, resolve (init ++ [last]) root = .ok u) ∧
    (∀ e, resolve (init ++ [last]) root = .error e →
      (∀ available, e ≠ .lookup (.missingKey last.key init.render available)) →
      r = .error e.toProbe) ∧
    (∀ e, resolve init root = .error e → r = .error e.toProbe)

theorem toProbe_ne_violation (e : ResolveError) (v : Violation) : e.toProbe ≠ .violation v := by
  cases e <;> simp [ResolveError.toProbe]

theorem keyIsMissing_agreesWithWalk {bs : List UInt8} {path : String} {root : Term} {init : Path}
    {last : Segment} (loaded : load bs path = .ok (root, init ++ [last])) :
    AgreesWithWalk bs root init last (keyIsMissing bs path) := by
  have whole : ∀ parent, resolve init root = .ok parent →
      resolve (init ++ [last]) root = step init last parent := fun parent walked => by
    rw [resolve_append_single, walked, ok_bind]
  refine ⟨⟨fun holds => ?_, fun ⟨available, missing⟩ => ?_⟩, ⟨fun present => ?_, ?_⟩, ?_,
    fun e walked => keyIsMissing_of_walk_error loaded walked⟩
  · -- only a missing key in the last step lets the assertion hold
    cases walked : resolve init root with
    | error e => rw [keyIsMissing_of_walk_error loaded walked] at holds; cases holds
    | ok parent =>
        cases stepped : step init last parent with
        | ok v => rw [keyIsMissing_of_step_ok loaded walked stepped] at holds; cases holds
        | error e =>
            by_cases missing : ∃ k place available, e = .lookup (.missingKey k place available)
            · obtain ⟨k, place, available, rfl⟩ := missing
              obtain ⟨rfl, -, rfl⟩ := step_eq_missingKey stepped
              exact ⟨available, (whole parent walked).trans stepped⟩
            · simp only [not_exists] at missing
              rw [keyIsMissing_of_step_error loaded walked stepped missing] at holds
              cases holds
  · obtain ⟨parent, walked, stepped⟩ := resolve_snoc_eq_missingKey missing
    exact keyIsMissing_of_step_missingKey loaded walked stepped
  · -- only a last step that succeeds makes the key present
    cases walked : resolve init root with
    | error e =>
        rw [keyIsMissing_of_walk_error loaded walked] at present
        exact absurd (Except.error.inj present) (toProbe_ne_violation e _)
    | ok parent =>
        cases stepped : step init last parent with
        | ok v => exact ⟨v, (whole parent walked).trans stepped⟩
        | error e =>
            by_cases missing : ∃ k place available, e = .lookup (.missingKey k place available)
            · obtain ⟨k, place, available, rfl⟩ := missing
              rw [keyIsMissing_of_step_missingKey loaded walked stepped] at present
              cases present
            · simp only [not_exists] at missing
              rw [keyIsMissing_of_step_error loaded walked stepped missing] at present
              exact absurd (Except.error.inj present) (toProbe_ne_violation e _)
  · rintro ⟨u, found⟩
    rw [resolve_append_single] at found
    cases walked : resolve init root with
    | error e => rw [walked, error_bind] at found; cases found
    | ok parent =>
        rw [walked, ok_bind] at found
        exact keyIsMissing_of_step_ok loaded walked found
  · intro e failed other
    rw [resolve_append_single] at failed
    cases walked : resolve init root with
    | error e' =>
        rw [walked, error_bind] at failed
        cases failed
        exact keyIsMissing_of_walk_error loaded walked
    | ok parent =>
        rw [walked, ok_bind] at failed
        have notMissing : ∀ k place available, e ≠ .lookup (.missingKey k place available) := by
          rintro k place available rfl
          obtain ⟨rfl, -, rfl⟩ := step_eq_missingKey failed
          exact other available rfl
        exact keyIsMissing_of_step_error loaded walked failed notMissing

/-- `keyIsMissing` answers as the walk along the whole path does.  An unreadable document or path
is reported as it is; the empty path holds only of a null document, and is otherwise present at
`.`; and for a path with a last segment the answer agrees with the whole walk
(`AgreesWithWalk`). -/
theorem keyIsMissing_agrees_with_resolve (bs : List UInt8) (path : String) :
    (∀ e, Term.parse bs = .error e → keyIsMissing bs path = .error (.parse e)) ∧
    (∀ root e, Term.parse bs = .ok root → Path.compile path = .error e →
      keyIsMissing bs path = .error (.pathSyntax e)) ∧
    (∀ root, Term.parse bs = .ok root → Path.compile path = .ok [] →
      (keyIsMissing bs path = .ok () ↔ root = .null) ∧
      (root ≠ .null →
        keyIsMissing bs path = .error (.violation (.keyPresent "." (document bs))))) ∧
    (∀ root init last, Term.parse bs = .ok root → Path.compile path = .ok (init ++ [last]) →
      AgreesWithWalk bs root init last (keyIsMissing bs path)) := by
  refine ⟨fun e unread => ?_, fun root e parsed uncompiled => ?_, fun root parsed compiled => ?_,
    fun root init last parsed compiled =>
      keyIsMissing_agreesWithWalk (load_eq parsed compiled)⟩
  · rw [keyIsMissing, load, unread, mapError_error, error_bind, error_bind]
  · rw [keyIsMissing, load, parsed, mapError_ok, ok_bind, uncompiled, mapError_error, error_bind,
      error_bind]
  · rw [keyIsMissing, load_eq parsed compiled, ok_bind]
    cases root with
    | null => exact ⟨iff_of_true rfl rfl, fun notNull => absurd rfl notNull⟩
    | _ => exact ⟨iff_of_false (by simp) (by simp), fun _ => rfl⟩

end Assertion

end JsonProbe
