import JsonProbe.Proofs.Json.ReaderGrammar
import JsonProbe.Proofs.Path.Walk
import JsonProbe.Proofs.Text.Utf8
/-! # Keys in order

A value is well keyed when every object in it, at any depth, has its keys strictly increasing.
The reader builds only well-keyed values (`wellKeyed_of_parse_eq_ok`), since the object a list of
members denotes is sorted (`IsObjectOf`), and a walk in a well-keyed value reaches only
well-keyed values (`WellKeyed.resolve`).  Keys increase as strings, character by character, and
so as their UTF-8 bytes (`keys_increase_in_bytes`). -/
set_option autoImplicit false
namespace JsonProbe

/-- Every object in the value, at any depth, has its keys strictly increasing. -/
inductive Term.WellKeyed : Term → Prop
  | null : WellKeyed .null
  | bool (b : Bool) : WellKeyed (.bool b)
  | number (text : String) : WellKeyed (.number text)
  | string (value : String) : WellKeyed (.string value)
  | array {items : List Term} (each : ∀ v ∈ items, WellKeyed v) : WellKeyed (.array items)
  | object {members : List (String × Term)} (sorted : KeysIncrease members)
      (each : ∀ m ∈ members, WellKeyed m.2) : WellKeyed (.object members)

theorem IsObjectOf.mem {obj ms : List (String × Term)} (h : IsObjectOf obj ms)
    {m : String × Term} (mem : m ∈ obj) : m ∈ ms := by
  obtain ⟨front, back, split, -⟩ := List.lookup_eq_some_iff.mp ((h.2 m.1 m.2).mp mem)
  rw [← List.mem_reverse, split]
  simp

theorem keys_increase_in_bytes {members : List (String × Term)} (h : KeysIncrease members) :
    (members.map Prod.fst).Pairwise fun a b =>
      Utf8.encodeList a.toList < Utf8.encodeList b.toList := by
  rw [List.pairwise_map]
  exact h.imp fun lt => Utf8.encodeList_lt_encodeList (String.lt_iff.mp lt)

/-! ## The reader builds well-keyed values -/

namespace Grammar

-- By mutual recursion on the derivation: an object's members are sorted by `IsObjectOf`, and
-- each of its values is the value of one of the members read.
mutual

theorem Value.wellKeyed {d : Nat} {ts : List Token} {v : Term} {rest : List Token}
    (h : Value d ts v rest) : v.WellKeyed := by
  match h with
  | .null => exact .null
  | .bool => exact .bool _
  | .number => exact .number _
  | .string => exact .string _
  | .emptyArray => exact .array (by simp)
  | .array items => exact .array (Elements.wellKeyed items)
  | .emptyObject => exact .object List.Pairwise.nil (by simp)
  | .object members denotes =>
      exact .object denotes.1 fun m mem => Members.wellKeyed members m (denotes.mem mem)

theorem Elements.wellKeyed {d : Nat} {ts : List Token} {vs : List Term} {rest : List Token}
    (h : Elements d ts vs rest) : ∀ v ∈ vs, v.WellKeyed := by
  match h with
  | .last item =>
      intro v mem
      rw [List.mem_singleton.mp mem]
      exact Value.wellKeyed item
  | .cons item others =>
      intro v mem
      rcases List.mem_cons.mp mem with first | later
      · rw [first]
        exact Value.wellKeyed item
      · exact Elements.wellKeyed others v later

theorem Members.wellKeyed {d : Nat} {ts : List Token} {ms : List (String × Term)}
    {rest : List Token} (h : Members d ts ms rest) : ∀ m ∈ ms, m.2.WellKeyed := by
  match h with
  | .last value =>
      intro m mem
      rw [List.mem_singleton.mp mem]
      exact Value.wellKeyed value
  | .cons value others =>
      intro m mem
      rcases List.mem_cons.mp mem with first | later
      · rw [first]
        exact Value.wellKeyed value
      · exact Members.wellKeyed others m later

end

end Grammar

/-- Every value the reader returns is well keyed. -/
theorem wellKeyed_of_parse_eq_ok {b : List UInt8} {t : Term} (h : Term.parse b = .ok t) :
    t.WellKeyed :=
  ((Reader.parse_eq_ok_iff_tokens b t).mp h).2.wellKeyed

/-! ## Walks stay in well-keyed values -/

namespace Term.WellKeyed

variable {u : Term}

theorem member {members : List (String × Term)} {key : String} {v : Term}
    (h : WellKeyed (.object members)) (found : Term.member? members key = some v) :
    v.WellKeyed := by
  cases h with
  | object sorted each =>
      simp only [Term.member?, Option.map_eq_some_iff] at found
      obtain ⟨m, found, rfl⟩ := found
      exact each m (List.mem_of_find?_eq_some found)

theorem item {items : List Term} {i : Nat} {v : Term} (h : WellKeyed (.array items))
    (found : items[i]? = some v) : v.WellKeyed := by
  cases h with
  | array each => exact each v (List.mem_of_getElem? found)

theorem keyStep {t : Term} {before : Path} {key : String} (h : t.WellKeyed)
    (stepped : Path.keyStep before key t = .ok u) : u.WellKeyed := by
  unfold Path.keyStep at stepped
  split at stepped
  · cases stepped
    exact h
  · cases t with
    | object members =>
        cases found : Term.member? members key with
        | some v =>
            simp only [found] at stepped
            cases stepped
            exact h.member found
        | none =>
            simp only [found] at stepped
            cases stepped
    | _ => cases stepped

theorem indexStep {t : Term} {here : String} {index : Option Nat} (h : t.WellKeyed)
    (stepped : Path.indexStep here index t = .ok u) : u.WellKeyed := by
  unfold Path.indexStep at stepped
  cases index with
  | none =>
      cases stepped
      exact h
  | some i =>
      cases t with
      | array items =>
          cases found : items[i]? with
          | some v =>
              simp only [found] at stepped
              cases stepped
              exact h.item found
          | none =>
              simp only [found] at stepped
              cases stepped
      | _ => cases stepped

theorem step {t : Term} {before : Path} {s : Segment} (h : t.WellKeyed)
    (stepped : Path.step before s t = .ok u) : u.WellKeyed := by
  rw [Path.step_eq_keyStep_bind] at stepped
  cases keyed : Path.keyStep before s.key t with
  | error e =>
      rw [keyed] at stepped
      cases stepped
  | ok found =>
      rw [keyed] at stepped
      exact (h.keyStep keyed).indexStep stepped

theorem resolveFrom {t : Term} {before p : Path} (h : t.WellKeyed)
    (walked : Path.resolveFrom before p t = .ok u) : u.WellKeyed := by
  induction p generalizing before t with
  | nil =>
      cases walked
      exact h
  | cons s p ih =>
      cases stepped : Path.step before s t with
      | error e =>
          simp only [Path.resolveFrom, stepped] at walked
          cases walked
      | ok next =>
          simp only [Path.resolveFrom, stepped] at walked
          exact ih (h.step stepped) walked

theorem resolve {t : Term} {p : Path} (h : t.WellKeyed) (walked : Path.resolve p t = .ok u) :
    u.WellKeyed :=
  h.resolveFrom walked

end Term.WellKeyed

end JsonProbe
