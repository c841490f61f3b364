import Mathlib.Algebra.Order.BigOperators.Group.Finset
import Mathlib.Algebra.Group.Action.Defs

/-!
# Counts that differ by at most one

Adding one to a least count keeps them so, and then every count is the mean, rounded down or up.
-/
namespace Codaze.Foundation

variable {ι : Type*} {s : Finset ι} {f : ι → ℕ}

def Balanced (s : Finset ι) (f : ι → ℕ) : Prop := ∀ x ∈ s, ∀ y ∈ s, f x ≤ f y + 1

namespace Balanced

/-- One more for an index whose count is least. -/
theorem bump [DecidableEq ι] (h : Balanced s f) {m : ι} (hleast : ∀ y ∈ s, f m ≤ f y) {g : ι → ℕ}
    (hg : ∀ x ∈ s, g x = if x = m then f x + 1 else f x) : Balanced s g := by
  intro x hx y hy
  have hxy := h x hx y hy
  have hmy := hleast y hy
  rw [hg x hx, hg y hy]
  by_cases hxm : x = m
  · subst hxm
    split_ifs <;> omega
  · split_ifs <;> omega

/-- No count is below the mean rounded down, or above the mean rounded up. -/
theorem mean (h : Balanced s f) {x : ι} (hx : x ∈ s) :
    (∑ y ∈ s, f y) / s.card ≤ f x ∧ f x ≤ ((∑ y ∈ s, f y) + s.card - 1) / s.card := by
  have hcard : 0 < s.card := Finset.card_pos.mpr ⟨x, hx⟩
  constructor
  · have hlt : ∑ y ∈ s, f y < ∑ y ∈ s, (f x + 1) :=
      Finset.sum_lt_sum (fun y hy => h y hy x hx) ⟨x, hx, Nat.lt_succ_self _⟩
    rw [Finset.sum_const, smul_eq_mul, mul_comm] at hlt
    have hdiv := (Nat.div_lt_iff_lt_mul hcard).mpr hlt
    omega
  · have hlt : ∑ y ∈ s, f x < ∑ y ∈ s, (f y + 1) :=
      Finset.sum_lt_sum (fun y hy => h x hx y hy) ⟨x, hx, Nat.lt_succ_self _⟩
    rw [Finset.sum_const, Finset.sum_add_distrib, Finset.sum_const, smul_eq_mul, smul_eq_mul,
      mul_one, mul_comm] at hlt
    exact (Nat.le_div_iff_mul_le hcard).mpr (by omega)

theorem eq_div (h : Balanced s f) {x : ι} (hx : x ∈ s) :
    f x = (∑ y ∈ s, f y) / s.card ∨ f x = ((∑ y ∈ s, f y) + s.card - 1) / s.card := by
  obtain ⟨hdown, hup⟩ := h.mean hx
  have hcard : 0 < s.card := Finset.card_pos.mpr ⟨x, hx⟩
  have hround : ((∑ y ∈ s, f y) + s.card - 1) / s.card ≤ (∑ y ∈ s, f y) / s.card + 1 := by
    rw [← Nat.add_div_right _ hcard]
    exact Nat.div_le_div_right (by omega)
  omega

end Balanced

/-- Among counts that are at least the least one, the least is at most the mean. -/
theorem mul_card_le_sum {m : ℕ} (h : ∀ y ∈ s, m ≤ f y) : m * s.card ≤ ∑ y ∈ s, f y := by
  have hsum := Finset.card_nsmul_le_sum s f m h
  rwa [smul_eq_mul, mul_comm] at hsum

end Codaze.Foundation
