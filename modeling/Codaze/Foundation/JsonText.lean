import Mathlib.Tactic.IntervalCases
import Codaze.Foundation.Json

/-!
# Reading the text of a JSON string

The reader of what `escapeChar` prints: a printed string is read back, whatever follows it.
-/
namespace Codaze.Foundation

def hexValue (c : Char) : ℕ := if c.toNat < 58 then c.toNat - 48 else c.toNat - 87

/-- What a letter behind a backslash stands for. -/
def unescape : Char → Option Char
  | 'b' => some (Char.ofNat 8)
  | 't' => some '\t'
  | 'n' => some '\n'
  | 'f' => some (Char.ofNat 12)
  | 'r' => some '\r'
  | '"' => some '"'
  | '\\' => some '\\'
  | _ => none

/-- The string up to the closing quote, and what is behind it. -/
def readEscaped : List Char → Option (List Char × List Char)
  | [] => none
  | '"' :: rest => some ([], rest)
  | '\\' :: 'u' :: _ :: _ :: high :: low :: rest => (readEscaped rest).map fun read =>
    (Char.ofNat (16 * hexValue high + hexValue low) :: read.1, read.2)
  | '\\' :: letter :: rest => (unescape letter).bind fun c =>
    (readEscaped rest).map fun read => (c :: read.1, read.2)
  | c :: rest => (readEscaped rest).map fun read => (c :: read.1, read.2)

theorem readEscaped_escapeChar (c : Char) (rest : List Char) :
    readEscaped (escapeChar c ++ rest) =
      (readEscaped rest).map fun read => (c :: read.1, read.2) := by
  by_cases hcontrol : c.toNat < 32
  · have hc : c = Char.ofNat c.toNat := (Char.ofNat_toNat c).symm
    generalize c.toNat = n at hc hcontrol
    subst hc
    interval_cases n <;> rfl
  · by_cases hquote : c = '"'
    · subst hquote; rfl
    · by_cases hslash : c = '\\'
      · subst hslash; rfl
      · have hne : ∀ {d : Char}, d.toNat < 32 → c ≠ d := fun hd h => hcontrol (h ▸ hd)
        have hplain : escapeChar c = [c] := by
          simp [escapeChar, hquote, hslash, hne, hcontrol, show c.toNat ≠ 8 by omega,
            show c.toNat ≠ 12 by omega]
        rw [hplain, List.singleton_append, readEscaped] <;> simp_all

/-- `quote` is read back from behind its first character. -/
theorem readEscaped_quote (s : String) (rest : List Char) :
    ∃ text, quote s ++ rest = '"' :: text ∧ readEscaped text = some (s.toList, rest) := by
  have hchars : ∀ xs : List Char,
      readEscaped (xs.flatMap escapeChar ++ '"' :: rest) = some (xs, rest) := by
    intro xs
    induction xs with
    | nil => rfl
    | cons c xs ih =>
      rw [List.flatMap_cons, List.append_assoc, readEscaped_escapeChar, ih]
      rfl
  exact ⟨_, by simp [quote], hchars s.toList⟩

end Codaze.Foundation
