import Mathlib.Data.Int.Basic
import Mathlib.Order.Lattice
import Mathlib.Tactic.Cases

/-!
# Machine integers, durations and panicking mutations

Counters are natural numbers with the saturating operations of their width.
An instant is a number of nanoseconds since the epoch, a duration a number of
nanoseconds. Adding a duration past the last representable instant panics; a
panic stops a mutation half way, and `Outcome` keeps the state it left behind.
-/
namespace Codaze.Foundation

abbrev u32Max : ℕ := 4294967295
abbrev u64Max : ℕ := 18446744073709551615
abbrev i64Max : ℤ := 9223372036854775807

/-- `u32::saturating_add(1)`. -/
def saturatingSucc32 (n : ℕ) : ℕ := min (n + 1) u32Max

theorem saturatingSucc32_le (n : ℕ) : saturatingSucc32 n ≤ n + 1 := min_le_left _ _

theorem saturatingSucc32_pos (n : ℕ) : 0 < saturatingSucc32 n :=
  lt_min n.succ_pos (by decide)

/-- `usize::saturating_add(1)` on a 64-bit target. -/
def saturatingSucc64 (n : ℕ) : ℕ := min (n + 1) u64Max

/-- `DateTime<Utc>`, in nanoseconds since the epoch. -/
abbrev Time := ℤ

/-- `std::time::Duration`, in nanoseconds. -/
abbrev StdDuration := ℕ

/-- `chrono::Duration`, in nanoseconds. -/
abbrev TimeDelta := ℤ

abbrev nanosPerSecond : ℕ := 1000000000

/-- `StdDuration::from_secs`. -/
def fromSecs (seconds : ℕ) : StdDuration := seconds * nanosPerSecond

/-- `chrono::Duration::seconds` on an argument small enough not to panic. -/
def deltaSeconds (seconds : ℤ) : TimeDelta := seconds * nanosPerSecond

/-- The last nanosecond of year 262142. -/
def maxUtc : Time := 8210266876800 * nanosPerSecond - 1

/-- The largest `chrono::Duration`, `i64::MAX` milliseconds. -/
def maxDelta : TimeDelta := i64Max * 1000000

/-- `now + delta`; `none` is the panic past the last representable instant. -/
def addDelta (now : Time) (delta : TimeDelta) : Option Time :=
  if now + delta ≤ maxUtc then some (now + delta) else none

theorem addDelta_eq_some {now : Time} {delta : TimeDelta} {t : Time}
    (h : addDelta now delta = some t) : t = now + delta := by
  simp only [addDelta] at h
  split at h <;> simp_all

/-- A mutation that returned, or the state in which it panicked. -/
inductive Outcome (σ : Type*) where
  | returned (state : σ)
  | panicked (state : σ)
  deriving Repr, DecidableEq

namespace Outcome

variable {σ τ : Type*}

def state : Outcome σ → σ
  | returned s => s
  | panicked s => s

/-- Continues a mutation that returned. -/
def andThen : Outcome σ → (σ → Outcome σ) → Outcome σ
  | returned s, f => f s
  | panicked s, _ => panicked s

/-- Carries the state into a larger one, panicked or not. -/
def map (f : σ → τ) : Outcome σ → Outcome τ
  | returned s => returned (f s)
  | panicked s => panicked (f s)

@[simp] theorem state_returned (s : σ) : (returned s).state = s := rfl
@[simp] theorem state_panicked (s : σ) : (panicked s).state = s := rfl

@[simp] theorem state_map (f : σ → τ) (o : Outcome σ) : (o.map f).state = f o.state := by
  cases o <;> rfl

@[simp] theorem returned_andThen (s : σ) (f : σ → Outcome σ) : (returned s).andThen f = f s := rfl

/-- What both parts of a mutation preserve, the mutation preserves, panicked or not. -/
theorem andThen_induction {P : σ → Prop} {o : Outcome σ} {f : σ → Outcome σ}
    (ho : P o.state) (hf : ∀ s, P s → P (f s).state) : P (o.andThen f).state := by
  cases o with
  | returned s => exact hf s ho
  | panicked s => exact ho

end Outcome

end Codaze.Foundation
