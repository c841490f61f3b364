import Codaze.Foundation.Runs

/-!
# What a history explains

The state a list of events leads to is explained by the list. `Since` is the past operator
of temporal logic: some event set a thing, and every later one kept it. An invariant that
speaks about the events so far is proved by adding one event at the end.
-/
namespace Codaze.Foundation

variable {σ ε : Type*}

/-- Some event of the history set it, and all later ones kept it, each seen with the events
before. -/
def Since (sets keeps : List ε → ε → Prop) (history : List ε) : Prop :=
  ∃ past event later, history = past ++ event :: later ∧ sets past event ∧
    ∀ before other after, later = before ++ other :: after → keeps (past ++ event :: before) other

namespace Since

variable {sets keeps : List ε → ε → Prop} {history : List ε} {event : ε}

theorem now (h : sets history event) : Since sets keeps (history ++ [event]) :=
  ⟨history, event, [], rfl, h, by simp⟩

theorem keep (h : Since sets keeps history) (hevent : keeps history event) :
    Since sets keeps (history ++ [event]) := by
  obtain ⟨past, first, later, rfl, hsets, hlater⟩ := h
  refine ⟨past, first, later ++ [event], by simp, hsets, fun before other after hsplit => ?_⟩
  rcases List.eq_nil_or_concat after with rfl | ⟨rest, last, rfl⟩
  · obtain ⟨rfl, hother⟩ := List.append_inj' hsplit rfl
    obtain rfl : event = other := (List.cons.inj hother).1
    exact hevent
  · rw [List.concat_eq_append, ← List.cons_append, ← List.append_assoc] at hsplit
    exact hlater before other rest (List.append_inj' hsplit rfl).1

end Since

/-- Some event of the history was like that, seen with the events before. -/
def Happened (like : List ε → ε → Prop) (history : List ε) : Prop :=
  ∃ past event later, history = past ++ event :: later ∧ like past event

namespace Happened

variable {like : List ε → ε → Prop} {history : List ε} {event : ε}

theorem now (h : like history event) : Happened like (history ++ [event]) :=
  ⟨history, event, [], rfl, h⟩

theorem concat (h : Happened like history) (event : ε) : Happened like (history ++ [event]) := by
  obtain ⟨past, first, later, rfl, hlike⟩ := h
  exact ⟨past, first, later ++ [event], by simp, hlike⟩

end Happened

/-- What every event adds to, seen with the events before it, holds of the whole history: an
event that is not enabled only makes the history longer. -/
theorem stateAfter_history {step : σ → ε → Option σ} {s : σ} {I : List ε → σ → Prop}
    (hstart : I [] s)
    (hidle : ∀ past e, step (stateAfter step s past) e = none → I past (stateAfter step s past) →
      I (past ++ [e]) (stateAfter step s past))
    (hstep : ∀ past e t, step (stateAfter step s past) e = some t →
      I past (stateAfter step s past) → I (past ++ [e]) t) (es : List ε) :
    I es (stateAfter step s es) := by
  induction es using List.reverseRecOn with
  | nil => exact hstart
  | append_singleton past e ih =>
    rw [stateAfter_concat]
    cases hnext : step (stateAfter step s past) e with
    | none => exact hidle past e hnext ih
    | some t => exact hstep past e t hnext ih

end Codaze.Foundation
