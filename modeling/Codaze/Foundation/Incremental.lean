import Mathlib.Data.List.Basic
import Mathlib.Tactic.Cases

/-!
# Incremental readers

A reader takes input in chunks; each call leaves a state and emits some output. If a call
on a chunk is the calls on its parts one after another, in every state that keeps an
invariant, then nothing depends on where the input is cut.
-/
namespace Codaze.Foundation

variable {σ α β : Type*}

/-- Continues after a call, the outputs one after another. -/
def emitThen (e : σ × List β) (f : σ → σ × List β) : σ × List β :=
  ((f e.1).1, e.2 ++ (f e.1).2)

theorem emitThen_assoc (e : σ × List β) (f g : σ → σ × List β) :
    emitThen (emitThen e f) g = emitThen e fun s => emitThen (f s) g := by
  simp [emitThen]

/-- Only the state a call leaves matters for how it goes on. -/
theorem emitThen_congr {e : σ × List β} {f g : σ → σ × List β} (h : f e.1 = g e.1) :
    emitThen e f = emitThen e g := by
  simp [emitThen, h]

@[simp] theorem emitThen_nil (s : σ) (f : σ → σ × List β) : emitThen (s, []) f = f s := by
  simp [emitThen]

/-- The calls on a list of chunks. -/
def feed (read : σ → List α → σ × List β) : σ → List (List α) → σ × List β
  | s, [] => (s, [])
  | s, chunk :: chunks => emitThen (read s chunk) fun t => feed read t chunks

/-- A reader that may be interrupted in the states of an invariant. -/
structure Incremental (read : σ → List α → σ × List β) (I : σ → Prop) : Prop where
  nil : ∀ s, I s → read s [] = (s, [])
  append : ∀ s as bs, I s → read s (as ++ bs) = emitThen (read s as) fun t => read t bs
  keeps : ∀ s as, I s → I (read s as).1

namespace Incremental

variable {read : σ → List α → σ × List β} {I : σ → Prop} {s : σ}

/-- Reading chunk by chunk is reading everything at once. -/
theorem feed_eq (h : Incremental read I) (hs : I s) (chunks : List (List α)) :
    feed read s chunks = read s chunks.flatten := by
  induction chunks generalizing s with
  | nil => exact (h.nil s hs).symm
  | cons chunk chunks ih =>
    have hkeeps := h.keeps s chunk hs
    rw [List.flatten_cons, h.append s chunk _ hs, feed]
    simp only [emitThen, ih hkeeps]

/-- Two cuttings of one input leave the same state and emit the same output. -/
theorem feed_congr (h : Incremental read I) (hs : I s) {chunks chunks' : List (List α)}
    (hinput : chunks.flatten = chunks'.flatten) : feed read s chunks = feed read s chunks' := by
  rw [h.feed_eq hs, h.feed_eq hs, hinput]

end Incremental

end Codaze.Foundation
