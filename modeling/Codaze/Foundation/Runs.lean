import Mathlib.Data.List.Induction
import Mathlib.Logic.Relation
import Mathlib.Tactic.Cases

/-!
# Guarded runs of a partial step function

A machine is a function `step : σ → ε → Option σ`; `none` says that the event is
not enabled. A guard on the state before a step and its event selects the runs a
theorem speaks about. `Run` is the reflexive transitive closure of the guarded
steps, so Mathlib's lemmas on it apply, and every safety theorem is an invariant
of one step.
-/
namespace Codaze.Foundation

variable {σ ε : Type*}

/-- One enabled step whose event meets the guard in the state before it. -/
def GuardedStep (step : σ → ε → Option σ) (good : σ → ε → Prop) (s t : σ) : Prop :=
  ∃ e, good s e ∧ step s e = some t

/-- Any number of guarded steps. -/
abbrev Run (step : σ → ε → Option σ) (good : σ → ε → Prop) : σ → σ → Prop :=
  Relation.ReflTransGen (GuardedStep step good)

/-- The guard that lets every event pass. -/
abbrev anyEvent : σ → ε → Prop := fun _ _ => True

namespace Run

variable {step : σ → ε → Option σ} {good weak : σ → ε → Prop} {s t : σ}

/-- What one guarded step preserves holds after every guarded run. -/
theorem invariant {I : σ → Prop}
    (hstep : ∀ a e b, I a → good a e → step a e = some b → I b)
    (hrun : Run step good s t) (hs : I s) : I t := by
  induction hrun with
  | refl => exact hs
  | tail _ hlast ih =>
    obtain ⟨e, hgood, he⟩ := hlast
    exact hstep _ e _ ih hgood he

/-- A run under a stronger guard is a run under a weaker one. -/
theorem mono (hweak : ∀ a e, good a e → weak a e) (hrun : Run step good s t) :
    Run step weak s t := by
  induction hrun with
  | refl => exact .refl
  | tail _ hlast ih =>
    obtain ⟨e, hgood, he⟩ := hlast
    exact ih.tail ⟨e, hweak _ e hgood, he⟩

section ghost

variable {γ : Type*} {ghosted : σ × γ → ε → Option (σ × γ)} {observe : σ → γ → ε → γ}
  (hghost : ∀ s g e, ghosted (s, g) e = (step s e).map fun t => (t, observe s g e))

include hghost

/-- A run with a ghost is a run without it. -/
theorem forget {p q : σ × γ} (hrun : Run ghosted (fun p e => good p.1 e) p q) :
    Run step good p.1 q.1 := by
  induction hrun with
  | refl => exact .refl
  | tail _ hlast ih =>
    obtain ⟨e, hgood, he⟩ := hlast
    rw [hghost] at he
    obtain ⟨t, ht, rfl⟩ := Option.map_eq_some_iff.mp he
    exact ih.tail ⟨e, hgood, ht⟩

/-- Any ghost can watch a run. -/
theorem watch (hrun : Run step good s t) (g : γ) :
    ∃ g', Run ghosted (fun p e => good p.1 e) (s, g) (t, g') := by
  induction hrun with
  | refl => exact ⟨g, .refl⟩
  | @tail a b _ hlast ih =>
    obtain ⟨e, hgood, he⟩ := hlast
    obtain ⟨g', hprefix⟩ := ih
    refine ⟨observe a g' e, hprefix.tail ⟨e, hgood, ?_⟩⟩
    rw [hghost, he]
    rfl

end ghost

end Run

/-- Executes a list of events, checking the guard before each; `none` as soon as an
event is refused or its guard fails. -/
def execute (step : σ → ε → Option σ) (good : σ → ε → Prop) [∀ a e, Decidable (good a e)] :
    σ → List ε → Option σ
  | s, [] => some s
  | s, e :: es => if good s e then (step s e).bind fun t => execute step good t es else none

theorem Run.of_execute {step : σ → ε → Option σ} {good : σ → ε → Prop}
    [∀ a e, Decidable (good a e)] {s t : σ} (es : List ε)
    (h : execute step good s es = some t) : Run step good s t := by
  induction es generalizing s with
  | nil =>
    obtain rfl : s = t := by simpa [execute] using h
    exact .refl
  | cons e es ih =>
    by_cases hgood : good s e
    · obtain ⟨u, hu, hrest⟩ : ∃ u, step s e = some u ∧ execute step good u es = some t := by
        simpa [execute, hgood, Option.bind_eq_some_iff] using h
      exact .head ⟨e, hgood, hu⟩ (ih hrest)
    · simp [execute, hgood] at h

/-- The state a list of events leads to, refused events left out. -/
def stateAfter (step : σ → ε → Option σ) (s : σ) (es : List ε) : σ :=
  es.foldl (fun s e => (step s e).getD s) s

theorem execute_eq_stateAfter {step : σ → ε → Option σ} {good : σ → ε → Prop}
    [∀ a e, Decidable (good a e)] {s : σ} {es : List ε}
    (h : (execute step good s es).isSome = true) :
    execute step good s es = some (stateAfter step s es) := by
  induction es generalizing s with
  | nil => rfl
  | cons e es ih =>
    by_cases hgood : good s e
    · cases hstep : step s e with
      | none => simp [execute, hgood, hstep] at h
      | some t =>
        simp only [execute, hgood, hstep, if_true, Option.bind_some] at h
        simpa [execute, hgood, hstep, stateAfter] using ih h
    · simp [execute, hgood] at h

theorem stateAfter_concat (step : σ → ε → Option σ) (s : σ) (es : List ε) (e : ε) :
    stateAfter step s (es ++ [e]) =
      (step (stateAfter step s es) e).getD (stateAfter step s es) := by
  simp [stateAfter]

/-- Events that are not enabled change nothing, so every list of events is a run. -/
theorem run_stateAfter (step : σ → ε → Option σ) (s : σ) (es : List ε) :
    Run step anyEvent s (stateAfter step s es) := by
  induction es using List.reverseRecOn with
  | nil => exact .refl
  | append_singleton es e ih =>
    rw [stateAfter_concat]
    cases hstep : step (stateAfter step s es) e with
    | none => exact ih
    | some t => exact ih.tail ⟨e, trivial, hstep⟩

/-- A list of events that evaluates is a guarded run to the state it leads to. -/
theorem Run.of_isSome {step : σ → ε → Option σ} {good : σ → ε → Prop}
    [∀ a e, Decidable (good a e)] {s : σ} {es : List ε}
    (h : (execute step good s es).isSome = true) : Run step good s (stateAfter step s es) :=
  .of_execute es (execute_eq_stateAfter h)

end Codaze.Foundation
