import JsonProbe.Json.Term
import Mathlib.Data.String.Basic
/-! # Objects as maps

The reader keeps the members of an object as a list sorted by key, each key once, and adds a
member with `Term.insertMember`, which replaces the value of a key already there.  After the
members `ms` of a document have been added in order, that list is the map they denote: its keys
increase, and it holds each key of `ms` with the value of the key's last occurrence
(`isObjectOf_addMembers`).  No other list does (`IsObjectOf.eq_addMembers`), so the map can be
stated without the reader's insertion at all. -/
set_option autoImplicit false
namespace JsonProbe

/-- The keys of a member list increase strictly, so that each key occurs once. -/
def KeysIncrease (ms : List (String × Term)) : Prop :=
  ms.Pairwise fun a b => a.1 < b.1

/-- `obj` is the object that the members `ms`, in document order, denote: its keys increase,
and it holds each key of `ms` with the value of the key's last occurrence. -/
def IsObjectOf (obj ms : List (String × Term)) : Prop :=
  KeysIncrease obj ∧ ∀ k v, (k, v) ∈ obj ↔ ms.reverse.lookup k = some v

namespace Term

/-- Adds the members `ms`, in order, to the member list `acc`, as the reader does. -/
def addMembers (acc ms : List (String × Term)) : List (String × Term) :=
  ms.foldl (fun acc m => insertMember m.1 m.2 acc) acc

@[simp] theorem addMembers_nil (acc : List (String × Term)) : addMembers acc [] = acc := rfl

@[simp] theorem addMembers_cons (acc : List (String × Term)) (k : String) (v : Term)
    (ms : List (String × Term)) :
    addMembers acc ((k, v) :: ms) = addMembers (insertMember k v acc) ms := rfl

theorem mem_of_mem_insertMember {k : String} {v : Term} {m : String × Term} :
    ∀ {acc : List (String × Term)}, m ∈ insertMember k v acc → m = (k, v) ∨ m ∈ acc := by
  intro acc
  induction acc with
  | nil => simp [insertMember]
  | cons first rest ih =>
      obtain ⟨k', v'⟩ := first
      intro h
      simp only [insertMember] at h
      by_cases hlt : k < k'
      · rw [if_pos hlt] at h
        simpa using h
      · rw [if_neg hlt] at h
        by_cases heq : k = k'
        · rw [if_pos heq] at h
          simp only [List.mem_cons] at h ⊢
          tauto
        · rw [if_neg heq] at h
          simp only [List.mem_cons] at h ⊢
          rcases h with h | h
          · exact .inr (.inl h)
          · rcases ih h with h | h
            · exact .inl h
            · exact .inr (.inr h)

theorem keysIncrease_insertMember (k : String) (v : Term) :
    ∀ {acc : List (String × Term)}, KeysIncrease acc → KeysIncrease (insertMember k v acc) := by
  intro acc
  induction acc with
  | nil => intro _; simp [insertMember, KeysIncrease]
  | cons first rest ih =>
      obtain ⟨k', v'⟩ := first
      intro sorted
      have restSorted : KeysIncrease rest := (List.pairwise_cons.mp sorted).2
      have above : ∀ m ∈ rest, k' < m.1 := (List.pairwise_cons.mp sorted).1
      simp only [insertMember]
      by_cases hlt : k < k'
      · rw [if_pos hlt]
        refine List.Pairwise.cons ?_ sorted
        intro m hm
        rcases List.mem_cons.mp hm with rfl | hm
        · exact hlt
        · exact lt_trans hlt (above m hm)
      · rw [if_neg hlt]
        by_cases heq : k = k'
        · rw [if_pos heq]
          subst heq
          exact List.Pairwise.cons above restSorted
        · rw [if_neg heq]
          have hgt : k' < k := lt_of_le_of_ne (not_lt.mp hlt) (Ne.symm heq)
          refine List.Pairwise.cons ?_ (ih restSorted)
          intro m hm
          rcases mem_of_mem_insertMember hm with rfl | hm
          · exact hgt
          · exact above m hm

theorem mem_insertMember {k : String} {v : Term} {m : String × Term} :
    ∀ {acc : List (String × Term)}, KeysIncrease acc →
      (m ∈ insertMember k v acc ↔ m = (k, v) ∨ (m.1 ≠ k ∧ m ∈ acc)) := by
  intro acc
  induction acc with
  | nil => intro _; simp [insertMember]
  | cons first rest ih =>
      obtain ⟨k', v'⟩ := first
      intro sorted
      have above : ∀ m ∈ rest, k' < m.1 := (List.pairwise_cons.mp sorted).1
      have restKeys : m ∈ rest → k' < m.1 := above m
      simp only [insertMember]
      by_cases hlt : k < k'
      · rw [if_pos hlt]
        have : m ∈ (k', v') :: rest → m.1 ≠ k := by
          intro hm heq
          rcases List.mem_cons.mp hm with rfl | hm
          · exact absurd (heq ▸ hlt) (lt_irrefl _)
          · exact absurd (heq ▸ lt_trans hlt (restKeys hm)) (lt_irrefl _)
        constructor
        · intro hm
          rcases List.mem_cons.mp hm with h | h
          · exact .inl h
          · exact .inr ⟨this h, h⟩
        · rintro (h | ⟨_, h⟩)
          · exact h ▸ List.mem_cons_self
          · exact List.mem_cons_of_mem _ h
      · rw [if_neg hlt]
        by_cases heq : k = k'
        · rw [if_pos heq]
          subst heq
          constructor
          · intro hm
            rcases List.mem_cons.mp hm with h | h
            · exact .inl h
            · exact .inr ⟨(ne_of_lt (restKeys h)).symm, List.mem_cons_of_mem _ h⟩
          · rintro (h | ⟨hne, h⟩)
            · exact h ▸ List.mem_cons_self
            · rcases List.mem_cons.mp h with rfl | h
              · exact absurd rfl hne
              · exact List.mem_cons_of_mem _ h
        · rw [if_neg heq]
          have hgt : k' < k := lt_of_le_of_ne (not_lt.mp hlt) (Ne.symm heq)
          have inner := ih (List.pairwise_cons.mp sorted).2
          simp only [List.mem_cons, inner]
          constructor
          · rintro (h | h | ⟨hne, h⟩)
            · exact .inr ⟨h ▸ (ne_of_lt hgt), .inl h⟩
            · exact .inl h
            · exact .inr ⟨hne, .inr h⟩
          · rintro (h | ⟨hne, h | h⟩)
            · exact .inr (.inl h)
            · exact .inl h
            · exact .inr (.inr ⟨hne, h⟩)

theorem keysIncrease_addMembers (ms : List (String × Term)) :
    ∀ {acc : List (String × Term)}, KeysIncrease acc → KeysIncrease (addMembers acc ms) := by
  induction ms with
  | nil => intro acc sorted; exact sorted
  | cons m ms ih =>
      intro acc sorted
      exact ih (keysIncrease_insertMember m.1 m.2 sorted)

theorem mem_addMembers {m : String × Term} (ms : List (String × Term)) :
    ∀ {acc : List (String × Term)}, KeysIncrease acc →
      (m ∈ addMembers acc ms ↔
        ms.reverse.lookup m.1 = some m.2 ∨ (ms.reverse.lookup m.1 = none ∧ m ∈ acc)) := by
  induction ms with
  | nil => intro acc _; simp
  | cons first ms ih =>
      obtain ⟨k, v⟩ := first
      intro acc sorted
      rw [addMembers_cons, ih (keysIncrease_insertMember k v sorted), mem_insertMember sorted,
        List.reverse_cons, List.lookup_append]
      cases hlast : ms.reverse.lookup m.1 with
      | some w => simp
      | none =>
          obtain ⟨k', v'⟩ := m
          by_cases hk : k' = k
          · subst hk
            simp [eq_comm]
          · have differ : (k' == k) = false := by simp [hk]
            simp [List.lookup_cons, differ, hk]

end Term

open Term

theorem isObjectOf_addMembers (ms : List (String × Term)) : IsObjectOf (addMembers [] ms) ms := by
  have sorted : KeysIncrease ([] : List (String × Term)) := List.Pairwise.nil
  refine ⟨keysIncrease_addMembers ms sorted, fun k v => ?_⟩
  rw [mem_addMembers ms sorted]
  simp

theorem IsObjectOf.eq_addMembers {obj ms : List (String × Term)} (h : IsObjectOf obj ms) :
    obj = addMembers [] ms := by
  obtain ⟨objSorted, objMem⟩ := h
  obtain ⟨addSorted, addMem⟩ := isObjectOf_addMembers ms
  have nodup : ∀ {l : List (String × Term)}, KeysIncrease l → l.Nodup := by
    intro l sorted
    apply sorted.imp
    intro a b hab same
    subst same
    exact lt_irrefl _ hab
  have perm : obj.Perm (addMembers [] ms) := by
    rw [List.perm_ext_iff_of_nodup (nodup objSorted) (nodup addSorted)]
    intro m
    rw [objMem m.1 m.2, addMem m.1 m.2]
  exact perm.eq_of_pairwise (fun _ _ _ _ hab hba => absurd (lt_trans hab hba) (lt_irrefl _))
    objSorted addSorted

end JsonProbe
