import JsonProbe.Path.Resolve
/-! # Walking a path, segment by segment

`resolveFrom` walks a value one segment at a time, and a failing step names the path walked so far
by its rendering only.  This module gives the walk its algebra:

* `resolveFrom_append`: walking `pre ++ post` is walking `pre` and then `post` from where it ended;
* `step_congr`, `resolveFrom_congr`: what a walk reports depends on the path before it only through
  the text that path is written as (`Path.joined`);
* `step_indexed`: a segment with a key and an index steps as the key alone, then the bare index. -/
set_option autoImplicit false
namespace JsonProbe.Path

/-! ## Results of a walk -/

@[simp] theorem ok_bind {ε α β : Type} (a : α) (f : α → Except ε β) :
    (Except.ok a >>= f) = f a :=
  rfl

@[simp] theorem error_bind {ε α β : Type} (e : ε) (f : α → Except ε β) :
    (Except.error e >>= f) = Except.error e :=
  rfl

@[simp] theorem mapError_ok {ε ε' α : Type} (f : ε → ε') (a : α) :
    (Except.ok a : Except ε α).mapError f = .ok a :=
  rfl

@[simp] theorem mapError_error {ε ε' α : Type} (f : ε → ε') (e : ε) :
    (Except.error e : Except ε α).mapError f = .error (f e) :=
  rfl

/-! ## Paths as written -/

/-- A path written out segment by segment, before an empty writing is replaced by `.`. -/
def joined (p : Path) : String :=
  String.join (p.map Segment.written)

theorem render_eq_joined (p : Path) : p.render = if p.joined.isEmpty then "." else p.joined :=
  rfl

@[simp] theorem joined_nil : joined [] = "" :=
  rfl

@[simp] theorem joined_append (p q : Path) : (p ++ q).joined = p.joined ++ q.joined := by
  simp [joined, String.join_append]

@[simp] theorem joined_cons (s : Segment) (p : Path) : joined (s :: p) = s.written ++ p.joined := by
  simp [joined]

theorem render_congr {p q : Path} (h : p.joined = q.joined) : p.render = q.render := by
  rw [render_eq_joined, render_eq_joined, h]

@[simp] theorem written_ofKey_empty : (Segment.ofKey "").written = "" := by
  simp [Segment.written, Segment.display, Segment.ofKey]

theorem written_indexed (k : String) (i : Nat) :
    (⟨k, some i⟩ : Segment).written =
      (Segment.ofKey k).written ++ (Segment.ofIndex i).written := by
  simp [Segment.written, Segment.display, Segment.ofKey, Segment.ofIndex, String.append_assoc]

/-! ## The path before a step -/

section Congruence

variable {b₁ b₂ : Path}

theorem step_congr (h : b₁.joined = b₂.joined) (s : Segment) (t : Term) :
    step b₁ s t = step b₂ s t := by
  have here : (b₁ ++ [Segment.ofKey s.key]).render = (b₂ ++ [Segment.ofKey s.key]).render :=
    render_congr (by rw [joined_append, joined_append, h])
  unfold step
  rw [render_congr h, here]

theorem resolveFrom_congr (h : b₁.joined = b₂.joined) (rest : Path) (t : Term) :
    resolveFrom b₁ rest t = resolveFrom b₂ rest t := by
  -- the two walks take the same steps; only the paths behind them grow
  induction rest generalizing b₁ b₂ t with
  | nil => rfl
  | cons s rest ih =>
      have grown : (b₁ ++ [s]).joined = (b₂ ++ [s]).joined := by
        rw [joined_append, joined_append, h]
      simp only [resolveFrom, step_congr h, ih grown]

end Congruence

/-! ## Walks in pieces -/

theorem resolveFrom_append (before pre post : Path) (t : Term) :
    resolveFrom before (pre ++ post) t =
      resolveFrom before pre t >>= resolveFrom (before ++ pre) post := by
  induction pre generalizing before t with
  | nil => simp [resolveFrom]
  | cons s pre ih =>
      simp only [List.cons_append, resolveFrom, ih, bind_assoc, List.append_assoc,
        List.nil_append]

theorem resolve_append (pre post : Path) (t : Term) :
    resolve (pre ++ post) t = resolve pre t >>= resolveFrom pre post := by
  rw [resolve, resolve, resolveFrom_append, List.nil_append]

theorem resolve_append_single (pre : Path) (s : Segment) (t : Term) :
    resolve (pre ++ [s]) t = resolve pre t >>= step pre s := by
  rw [resolve_append]
  congr 1
  funext u
  simp only [resolveFrom, bind_pure]

/-! ## A step in two halves -/

/-- The key half of a step: the member `key` of an object, or the value itself for an empty key.
It reports the path before the step. -/
def keyStep (before : Path) (key : String) (current : Term) : Except ResolveError Term :=
  if key.isEmpty then pure current else
    match current with
    | .object members =>
      match Term.member? members key with
      | some v => pure v
      | none => throw (.lookup (.missingKey key before.render (members.map Prod.fst)))
    | other => throw (.shape ⟨before.render, .object, other.typeName⟩)

/-- The index half of a step: the element `i` of an array, if there is an index.  It reports
`here`. -/
def indexStep (here : String) (index : Option Nat) (found : Term) : Except ResolveError Term :=
  match index with
  | none => pure found
  | some i =>
    match found with
    | .array items =>
      match items[i]? with
      | some v => pure v
      | none => throw (.lookup (.indexOutOfBounds i items.length here))
    | other => throw (.shape ⟨here, .array, other.typeName⟩)

@[simp] theorem indexStep_none (here : String) : indexStep here none = pure :=
  rfl

theorem step_eq_keyStep_bind (before : Path) (s : Segment) (t : Term) :
    step before s t =
      keyStep before s.key t >>= indexStep (before ++ [Segment.ofKey s.key]).render s.index := by
  obtain ⟨key, index⟩ := s
  unfold step keyStep
  -- the step pushes its index half into each branch of its key half; follow those branches
  by_cases empty : key.isEmpty
  · simp only [empty, if_true, pure_bind]
    rfl
  · simp only [empty, Bool.false_eq_true, if_false]
    cases t with
    | object members =>
        dsimp only
        cases Term.member? members key <;> rfl
    | _ => rfl

@[simp] theorem keyStep_empty (before : Path) (t : Term) : keyStep before "" t = pure t :=
  rfl

theorem step_ofKey (before : Path) (k : String) (t : Term) :
    step before (.ofKey k) t = keyStep before k t := by
  rw [step_eq_keyStep_bind]
  exact bind_pure _

theorem step_ofIndex (before : Path) (i : Nat) :
    step before (.ofIndex i) = indexStep before.render (some i) := by
  have here : (before ++ [Segment.ofKey ""]).render = before.render :=
    render_congr (by simp)
  funext t
  rw [step_eq_keyStep_bind]
  simp only [Segment.ofIndex, keyStep_empty, pure_bind, here]

theorem keyStep_missingKey {before : Path} {key : String} {t : Term} {k place : String}
    {keys : List String} (h : keyStep before key t = .error (.lookup (.missingKey k place keys))) :
    k = key := by
  unfold keyStep at h
  split at h
  · cases h
  · split at h
    · split at h
      · cases h
      · cases h
        rfl
    · cases h

theorem step_indexed (before : Path) (k : String) (i : Nat) (t : Term) :
    step before ⟨k, some i⟩ t =
      step before (.ofKey k) t >>= step (before ++ [.ofKey k]) (.ofIndex i) := by
  rw [step_eq_keyStep_bind, step_ofKey, step_ofIndex]

/-! ## A key with an index, or a key and then an index -/

theorem joined_indexed (pre : Path) (k : String) (i : Nat) (post : Path) :
    (pre ++ (⟨k, some i⟩ : Segment) :: post).joined =
      (pre ++ Segment.ofKey k :: Segment.ofIndex i :: post).joined := by
  simp [written_indexed, String.append_assoc]

theorem resolveFrom_indexed (before : Path) (k : String) (i : Nat) (post : Path) (t : Term) :
    resolveFrom before ((⟨k, some i⟩ : Segment) :: post) t =
      resolveFrom before (Segment.ofKey k :: Segment.ofIndex i :: post) t := by
  have same : (before ++ [(⟨k, some i⟩ : Segment)]).joined =
      (before ++ [Segment.ofKey k] ++ [Segment.ofIndex i]).joined := by
    rw [joined_indexed, List.append_assoc, List.singleton_append]
  simp only [resolveFrom, step_indexed, bind_assoc, resolveFrom_congr same]

theorem resolve_indexed (pre : Path) (k : String) (i : Nat) (post : Path) (t : Term) :
    resolve (pre ++ (⟨k, some i⟩ : Segment) :: post) t =
      resolve (pre ++ Segment.ofKey k :: Segment.ofIndex i :: post) t := by
  rw [resolve_append, resolve_append]
  congr 1
  funext u
  exact resolveFrom_indexed pre k i post u

theorem render_indexed (pre : Path) (k : String) (i : Nat) (post : Path) :
    render (pre ++ (⟨k, some i⟩ : Segment) :: post) =
      render (pre ++ Segment.ofKey k :: Segment.ofIndex i :: post) :=
  render_congr (joined_indexed pre k i post)

end JsonProbe.Path
