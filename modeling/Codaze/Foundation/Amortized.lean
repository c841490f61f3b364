import Mathlib.Data.List.Basic
import Mathlib.Tactic.Cases

/-!
# Counting the steps of a machine

Inputs reach a machine one after another; one that triggers nothing is passed over. If every
step of some kind is paid for by a potential that no step raises, there are no more steps of
that kind than the potential at the start.
-/
namespace Codaze.Foundation

variable {σ ι : Type*}

/-- The steps that a list of inputs triggers, each with the states before and after it. -/
def triggered (step : σ → ι → Option σ) : σ → List ι → List (σ × σ)
  | _, [] => []
  | s, i :: is => match step s i with
    | none => triggered step s is
    | some t => (s, t) :: triggered step t is

variable {step : σ → ι → Option σ} {allowed : ι → Prop} {I : σ → Prop} {s : σ} {is : List ι}

theorem triggered_none {i : ι} (h : step s i = none) :
    triggered step s (i :: is) = triggered step s is := by
  simp [triggered, h]

theorem triggered_some {i : ι} {t : σ} (h : step s i = some t) :
    triggered step s (i :: is) = (s, t) :: triggered step t is := by
  simp [triggered, h]

/-- What holds of one step of a machine that keeps an invariant holds of all. -/
theorem forall_triggered {P : σ × σ → Prop}
    (hstep : ∀ s i t, I s → allowed i → step s i = some t → I t ∧ P (s, t))
    (hs : I s) (his : ∀ i ∈ is, allowed i) : ∀ p ∈ triggered step s is, P p := by
  induction is generalizing s with
  | nil => simp [triggered]
  | cons i is ih =>
    have hrest : ∀ j ∈ is, allowed j := fun j hj => his j (List.mem_cons_of_mem i hj)
    cases hi : step s i with
    | none =>
      rw [triggered_none hi]
      exact ih hs hrest
    | some t =>
      obtain ⟨ht, hp⟩ := hstep s i t hs (his i List.mem_cons_self) hi
      rw [triggered_some hi]
      exact List.forall_mem_cons.mpr ⟨hp, ih ht hrest⟩

/-- The steps of a kind are paid for by the potential. -/
theorem countP_triggered_le {P : σ × σ → Bool} {potential : σ → ℕ}
    (hstep : ∀ s i t, I s → allowed i → step s i = some t →
      I t ∧ potential t + (if P (s, t) then 1 else 0) ≤ potential s)
    (hs : I s) (his : ∀ i ∈ is, allowed i) :
    (triggered step s is).countP P ≤ potential s := by
  induction is generalizing s with
  | nil => simp [triggered]
  | cons i is ih =>
    have hrest : ∀ j ∈ is, allowed j := fun j hj => his j (List.mem_cons_of_mem i hj)
    cases hi : step s i with
    | none =>
      rw [triggered_none hi]
      exact ih hs hrest
    | some t =>
      obtain ⟨ht, hpaid⟩ := hstep s i t hs (his i List.mem_cons_self) hi
      have hcount := ih ht hrest
      rw [triggered_some hi, List.countP_cons]
      omega

/-- Every step is paid for by the potential. -/
theorem length_triggered_le {potential : σ → ℕ}
    (hstep : ∀ s i t, I s → allowed i → step s i = some t → I t ∧ potential t < potential s)
    (hs : I s) (his : ∀ i ∈ is, allowed i) : (triggered step s is).length ≤ potential s := by
  have hcount := countP_triggered_le (P := fun _ => true)
    (fun s i t hs hi hst => by simpa [Nat.succ_le_iff] using hstep s i t hs hi hst) hs his
  simpa using hcount

/-- The steps behind a step are those of the state it leads to. -/
theorem triggered_behind {before after : List (σ × σ)} {p : σ × σ}
    (h : triggered step s is = before ++ p :: after) :
    ∃ is', (∀ i ∈ is', i ∈ is) ∧ triggered step p.2 is' = after := by
  induction is generalizing s before with
  | nil => simp [triggered] at h
  | cons i is ih =>
    cases hi : step s i with
    | none =>
      rw [triggered_none hi] at h
      obtain ⟨is', hmem, hafter⟩ := ih h
      exact ⟨is', fun j hj => List.mem_cons_of_mem i (hmem j hj), hafter⟩
    | some t =>
      rw [triggered_some hi] at h
      cases before with
      | nil =>
        obtain ⟨rfl, rfl⟩ := List.cons.inj h
        exact ⟨is, fun j hj => List.mem_cons_of_mem i hj, rfl⟩
      | cons first before =>
        obtain ⟨-, hrest⟩ := List.cons.inj h
        obtain ⟨is', hmem, hafter⟩ := ih hrest
        exact ⟨is', fun j hj => List.mem_cons_of_mem i (hmem j hj), hafter⟩

/-- What holds of a state holds of every later one unless one of the steps between breaks it. -/
theorem holds_or_broken {J : σ → Prop} {breaks : σ × σ → Prop}
    (hstep : ∀ s i t, allowed i → step s i = some t → J s → breaks (s, t) ∨ J t)
    {between after : List (σ × σ)} {p : σ × σ} (hs : J s) (his : ∀ i ∈ is, allowed i)
    (h : triggered step s is = between ++ p :: after) :
    (∃ q ∈ between, breaks q) ∨ J p.1 := by
  induction is generalizing s between with
  | nil => simp [triggered] at h
  | cons i is ih =>
    have hrest : ∀ j ∈ is, allowed j := fun j hj => his j (List.mem_cons_of_mem i hj)
    cases hi : step s i with
    | none =>
      rw [triggered_none hi] at h
      exact ih hs hrest h
    | some t =>
      rw [triggered_some hi] at h
      cases between with
      | nil =>
        obtain ⟨rfl, -⟩ := List.cons.inj h
        exact .inr hs
      | cons first between =>
        obtain ⟨rfl, hbehind⟩ := List.cons.inj h
        rcases hstep s i t (his i List.mem_cons_self) hi hs with hbreaks | ht
        · exact .inl ⟨_, List.mem_cons_self, hbreaks⟩
        · rcases ih ht hrest hbehind with ⟨q, hq, hbreaks⟩ | hp
          · exact .inl ⟨q, List.mem_cons_of_mem _ hq, hbreaks⟩
          · exact .inr hp

end Codaze.Foundation
