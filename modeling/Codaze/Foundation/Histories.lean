import Mathlib.Data.List.Basic
import Mathlib.Tactic.Cases

/-!
# Histories

A history is a list of entries, the oldest first. A rule says which entries may follow which
past; a history is lawful if every entry was allowed by the entries before it. A run that only
adds to its history keeps it lawful entry by entry.
-/
namespace Codaze.Foundation

variable {α : Type*} {allowed allowed' : List α → α → Prop} {past xs ys : List α}

/-- Every entry is allowed by the past and by the entries before it. -/
def LawfulFrom (allowed : List α → α → Prop) (past : List α) : List α → Prop
  | [] => True
  | entry :: entries => allowed past entry ∧ LawfulFrom allowed (past ++ [entry]) entries

abbrev Lawful (allowed : List α → α → Prop) : List α → Prop := LawfulFrom allowed []

theorem lawfulFrom_append : LawfulFrom allowed past (xs ++ ys) ↔
    LawfulFrom allowed past xs ∧ LawfulFrom allowed (past ++ xs) ys := by
  induction xs generalizing past with
  | nil => simp [LawfulFrom]
  | cons x xs ih => simp [LawfulFrom, ih, and_assoc]

/-- Entries are lawful exactly if each is allowed by what came before it. -/
theorem lawfulFrom_iff : LawfulFrom allowed past xs ↔
    ∀ before entry after, xs = before ++ entry :: after → allowed (past ++ before) entry := by
  constructor
  · rintro h before entry after rfl
    exact (lawfulFrom_append.mp h).2.1
  · intro h
    induction xs generalizing past with
    | nil => trivial
    | cons x xs ih =>
      have hx := h [] x xs rfl
      rw [List.append_nil] at hx
      refine ⟨hx, ih fun before entry after heq => ?_⟩
      have hrest := h (x :: before) entry after (congrArg (x :: ·) heq)
      rwa [List.append_cons] at hrest

theorem Lawful.allowed_of_eq {before after : List α} {entry : α} (h : Lawful allowed xs)
    (heq : xs = before ++ entry :: after) : allowed before entry :=
  lawfulFrom_iff.mp h before entry after heq

/-- A lawful history goes on with entries that its past allows. -/
theorem Lawful.append (h : Lawful allowed xs) (hys : LawfulFrom allowed xs ys) :
    Lawful allowed (xs ++ ys) := lawfulFrom_append.mpr ⟨h, hys⟩

theorem Lawful.snoc {entry : α} (h : Lawful allowed xs) (hentry : allowed xs entry) :
    Lawful allowed (xs ++ [entry]) := h.append ⟨hentry, trivial⟩

/-- Entries that any past allows are lawful anywhere. -/
theorem lawfulFrom_of_forall (h : ∀ entry ∈ xs, ∀ past, allowed past entry) :
    LawfulFrom allowed past xs :=
  lawfulFrom_iff.mpr fun before entry _ heq => h entry (by simp [heq]) _

end Codaze.Foundation
