import Mathlib.Data.List.Basic
import Mathlib.Tactic.Cases

/-!
# Lists of processes

A process is known by its index in a list that only grows; a step of one process
replaces the entry at its index.
-/
namespace Codaze.Foundation

variable {α : Type*} {xs : List α} {i j : ℕ} {a b : α}

/-- Replacing one entry moves a count by what the two entries contribute. -/
theorem countP_set_add (p : α → Bool) (h : xs[i]? = some a) (b : α) :
    (xs.set i b).countP p + (if p a then 1 else 0) = xs.countP p + if p b then 1 else 0 := by
  obtain ⟨hi, rfl⟩ := List.getElem?_eq_some_iff.mp h
  have hcount : (if p xs[i] then 1 else 0) ≤ xs.countP p := by
    split
    next hp => exact List.countP_pos_iff.mpr ⟨xs[i], List.getElem_mem hi, hp⟩
    next => exact Nat.zero_le _
  rw [List.countP_set hi]
  omega

theorem getElem?_set_of_ne (hij : j ≠ i) (xs : List α) (b : α) : (xs.set i b)[j]? = xs[j]? :=
  List.getElem?_set_ne hij.symm

theorem getElem?_set_eq (h : xs[i]? = some a) (b : α) : (xs.set i b)[i]? = some b :=
  List.getElem?_set_self (List.getElem?_eq_some_iff.mp h).1

/-- An entry after a replacement is the new one or an old one at another index. -/
theorem of_getElem?_set (h : (xs.set i b)[j]? = some a) :
    j = i ∧ a = b ∨ j ≠ i ∧ xs[j]? = some a := by
  by_cases hij : j = i
  · subst hij
    rw [List.getElem?_set_self' ] at h
    obtain ⟨_, -, rfl⟩ := Option.map_eq_some_iff.mp h
    exact .inl ⟨rfl, rfl⟩
  · exact .inr ⟨hij, by rwa [getElem?_set_of_ne hij] at h⟩

theorem getElem?_append_of_some (h : xs[i]? = some a) (ys : List α) : (xs ++ ys)[i]? = some a := by
  rw [List.getElem?_append_left (List.getElem?_eq_some_iff.mp h).1]
  exact h

/-- An entry after one was added at the end. -/
theorem of_getElem?_append_singleton (h : (xs ++ [b])[j]? = some a) :
    xs[j]? = some a ∨ j = xs.length ∧ a = b := by
  by_cases hj : j < xs.length
  · rw [List.getElem?_append_left hj] at h
    exact .inl h
  · rw [List.getElem?_append_right (Nat.le_of_not_lt hj)] at h
    have hlength := (List.getElem?_eq_some_iff.mp h).1
    have hj' : j = xs.length := by simp at hlength; omega
    subst hj'
    simp only [Nat.sub_self, List.getElem?_cons_zero, Option.some.injEq] at h
    exact .inr ⟨rfl, h.symm⟩

/-- An entry that says nothing adds nothing to what the entries say. -/
theorem bind_getElem?_append_singleton {β : Type*} {f : α → Option β} (hb : f b = none)
    (xs : List α) (j : ℕ) : (xs ++ [b])[j]?.bind f = xs[j]?.bind f := by
  cases hentry : (xs ++ [b])[j]? with
  | none =>
    have hlength : xs.length ≤ j := by
      have hle := List.getElem?_eq_none_iff.mp hentry
      rw [List.length_append, List.length_singleton] at hle
      omega
    rw [List.getElem?_eq_none hlength]
  | some a =>
    rcases of_getElem?_append_singleton hentry with hold | ⟨rfl, rfl⟩
    · rw [hold]
    · simp [hb]

end Codaze.Foundation
