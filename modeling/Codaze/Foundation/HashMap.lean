import Mathlib.Data.List.AList
import Mathlib.Data.List.Perm.Basic
import Mathlib.Tactic.Cases

/-!
# Hash maps as association lists without duplicate keys

`HashMap κ α` is Mathlib's `AList` with one value type. The list order stands for
the iteration order of the map; the operations below change it, and `reorder` lets
a model choose any order, so nothing proved for all maps depends on it.
-/
namespace Codaze.Foundation

variable {κ α β : Type*} [DecidableEq κ]

abbrev HashMap (κ α : Type*) := AList fun _ : κ => α

namespace HashMap

/-- The values in iteration order. -/
def values (m : HashMap κ α) : List α := m.entries.map fun e => e.2

theorem mem_values {m : HashMap κ α} {v : α} :
    v ∈ m.values ↔ ∃ k, m.lookup k = some v := by
  simp only [values, List.mem_map]
  constructor
  · rintro ⟨⟨k, w⟩, hmem, rfl⟩
    exact ⟨k, AList.mem_lookup_iff.mpr hmem⟩
  · rintro ⟨k, hk⟩
    exact ⟨⟨k, v⟩, AList.mem_lookup_iff.mp hk, rfl⟩

theorem lookup_insert_eq (m : HashMap κ α) (k k' : κ) (v : α) :
    (m.insert k v).lookup k' = if k' = k then some v else m.lookup k' := by
  by_cases h : k' = k
  · subst h; simp
  · simp [h, AList.lookup_insert_ne h]

theorem lookup_erase_eq (m : HashMap κ α) (k k' : κ) :
    (m.erase k).lookup k' = if k' = k then none else m.lookup k' := by
  by_cases h : k' = k
  · subst h; simp
  · simp [h, AList.lookup_erase_ne h]

/-- `if let Some(value) = map.get_mut(key) { ... }`. -/
def modify (m : HashMap κ α) (k : κ) (f : α → α) : HashMap κ α :=
  match m.lookup k with
  | none => m
  | some v => m.insert k (f v)

theorem lookup_modify (m : HashMap κ α) (k k' : κ) (f : α → α) :
    (m.modify k f).lookup k' = if k' = k then (m.lookup k).map f else m.lookup k' := by
  unfold modify
  cases h : m.lookup k with
  | none =>
    by_cases hk : k' = k
    · subst hk; simp [h]
    · simp [hk]
  | some v => simp [lookup_insert_eq]

@[simp] theorem lookup_modify_self (m : HashMap κ α) (k : κ) (f : α → α) :
    (m.modify k f).lookup k = (m.lookup k).map f := by simp [lookup_modify]

theorem lookup_modify_ne (m : HashMap κ α) {k k' : κ} (h : k' ≠ k) (f : α → α) :
    (m.modify k f).lookup k' = m.lookup k' := by simp [lookup_modify, h]

/-- `for value in map.values_mut() { ... }`. -/
def mapValues (m : HashMap κ α) (f : α → β) : HashMap κ β :=
  ⟨m.entries.map (Sigma.map id fun _ => f), m.nodupKeys.map₂ fun _ => f⟩

@[simp] theorem lookup_mapValues (m : HashMap κ α) (k : κ) (f : α → β) :
    (m.mapValues f).lookup k = (m.lookup k).map f := by
  simp only [mapValues, AList.lookup]
  exact List.dlookup_map₂ k

/-- Drops or changes each entry on its own. -/
def filterMap (m : HashMap κ α) (f : κ → α → Option β) : HashMap κ β :=
  ⟨m.entries.filterMap fun e => (f e.1 e.2).map fun v => ⟨e.1, v⟩, by
    have hpairs := List.nodupKeys_iff_pairwise.mp m.nodupKeys
    refine List.nodupKeys_iff_pairwise.mpr (List.Pairwise.filterMap _ ?_ hpairs)
    intro a a' hne b hb b' hb'
    obtain ⟨v, -, rfl⟩ := Option.map_eq_some_iff.mp hb
    obtain ⟨v', -, rfl⟩ := Option.map_eq_some_iff.mp hb'
    exact hne⟩

theorem lookup_filterMap (m : HashMap κ α) (f : κ → α → Option β) (k : κ) :
    (m.filterMap f).lookup k = (m.lookup k).bind (f k) := by
  ext v
  simp only [← Option.mem_def, AList.mem_lookup_iff, Option.mem_bind_iff]
  simp only [filterMap, List.mem_filterMap, Option.map_eq_some_iff]
  constructor
  · rintro ⟨⟨k', w⟩, hmem, v', hv', heq⟩
    obtain ⟨rfl, rfl⟩ : k' = k ∧ v' = v := by simpa using heq
    exact ⟨w, hmem, hv'⟩
  · rintro ⟨w, hmem, hv⟩
    exact ⟨⟨k, w⟩, hmem, v, hv, rfl⟩

/-- The map with the listed keys moved to the front of its iteration order. -/
def reorder (order : List κ) (m : HashMap κ α) : HashMap κ α :=
  order.foldr (fun k acc => match m.lookup k with
    | none => acc
    | some v => acc.insert k v) m

@[simp] theorem lookup_reorder (order : List κ) (m : HashMap κ α) (k : κ) :
    (m.reorder order).lookup k = m.lookup k := by
  induction order with
  | nil => rfl
  | cons a order ih =>
    simp only [reorder, List.foldr_cons] at ih ⊢
    cases ha : m.lookup a with
    | none => simpa using ih
    | some v =>
      by_cases h : k = a
      · subst h; simp [ha]
      · simpa [AList.lookup_insert_ne h] using ih

end HashMap

end Codaze.Foundation
