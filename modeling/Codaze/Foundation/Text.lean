import Codaze.Foundation.Machine
import Mathlib.Data.String.Basic
import Mathlib.Data.List.DropRight
import Mathlib.Data.List.Infix
import Mathlib.Tactic.Cases

/-!
# String operations of the Rust standard library

The operations work on the list of characters of a string, so that they evaluate
and are proved about by induction on lists.
-/
namespace Codaze.Foundation

/-- `char::is_whitespace`: the Unicode property `White_Space`. -/
def isWhitespace (c : Char) : Bool :=
  let n := c.toNat
  (0x09 ≤ n && n ≤ 0x0D) || n == 0x20 || n == 0x85 || n == 0xA0 || n == 0x1680 ||
    (0x2000 ≤ n && n ≤ 0x200A) || n == 0x2028 || n == 0x2029 || n == 0x202F ||
    n == 0x205F || n == 0x3000

/-- `str::trim`, on characters. -/
def trimChars (cs : List Char) : List Char :=
  (cs.dropWhile isWhitespace).rdropWhile isWhitespace

/-- `str::trim`. -/
def trim (s : String) : String := String.ofList (trimChars s.toList)

theorem trimChars_trimChars (cs : List Char) : trimChars (trimChars cs) = trimChars cs := by
  have hfront : (trimChars cs).dropWhile isWhitespace = trimChars cs := by
    rw [List.dropWhile_eq_self_iff]
    intro hpos
    have hpre : trimChars cs <+: cs.dropWhile isWhitespace := List.rdropWhile_prefix _ _
    rw [hpre.getElem hpos]
    exact List.dropWhile_get_zero_not isWhitespace cs (hpos.trans_le hpre.length_le)
  rw [trimChars, hfront, trimChars, List.rdropWhile_idempotent]

@[simp] theorem trim_trim (s : String) : trim (trim s) = trim s := by
  simp [trim, trimChars_trimChars]

/-- `str::contains` with a string pattern. -/
def contains (s pattern : String) : Bool := decide (pattern.toList <:+: s.toList)

/-- `str::to_ascii_lowercase`. -/
def toAsciiLowercase (s : String) : String := String.ofList (s.toList.map Char.toLower)

/-- `str::trim_start`, on characters. -/
def trimStartChars (cs : List Char) : List Char := cs.dropWhile isWhitespace

/-- `str::strip_prefix`, on characters. -/
def stripPrefix? (pattern cs : List Char) : Option (List Char) :=
  if pattern <+: cs then some (cs.drop pattern.length) else none

/-- The text after the first occurrence of a pattern, which `str::find` locates. -/
def afterFirst? (pattern : List Char) : List Char → Option (List Char)
  | [] => stripPrefix? pattern []
  | c :: cs => (stripPrefix? pattern (c :: cs)).or (afterFirst? pattern cs)

/-- The pieces of `split_inclusive('\n')`, without the line feeds. -/
def splitLines : List Char → List (List Char)
  | [] => []
  | c :: cs =>
    if c = '\n' then [] :: splitLines cs
    else match splitLines cs with
      | [] => [[c]]
      | line :: rest => (c :: line) :: rest

/-- `str::parse::<u64>`. -/
def parseU64 (s : String) : Option ℕ :=
  let digits := (stripPrefix? ['+'] s.toList).getD s.toList
  if digits = [] ∨ digits.any (fun c => !c.isDigit) then none
  else
    let n := digits.foldl (fun n c => n * 10 + (c.toNat - 48)) 0
    if n ≤ u64Max then some n else none

/-! ## Patterns in a text of labelled values -/

/-- ` label=value` for each of the fields. -/
def labelledText (fields : List (List Char × List Char)) : List Char :=
  fields.flatMap fun field => (' ' :: field.1) ++ '=' :: field.2

/-- Neither the pattern nor an end of it shows in a label. -/
def ForeignTo (label pattern : List Char) : Prop :=
  '=' ∉ pattern ∧ ¬ pattern <:+: ' ' :: label ∧
    ∀ rest ∈ pattern.tails, rest ≠ [] → ¬ rest <+: ' ' :: label

instance (label pattern : List Char) : Decidable (ForeignTo label pattern) :=
  inferInstanceAs (Decidable (_ ∧ _ ∧ _))

/-- A pattern that does not cross into the second text. -/
theorem infix_append_of_not_crossing {pattern left right : List Char}
    (hcross : ∀ rest ∈ pattern.tails, rest ≠ [] → ¬ rest <+: right)
    (h : pattern <:+: left ++ right) : pattern <:+: left ∨ pattern <:+: right := by
  rcases List.infix_append_iff_ne_nil.mp h with hleft | hright | hcut
  · exact .inl hleft
  · exact .inr hright
  · obtain ⟨first, rest, -, hrest, rfl, -, hpre⟩ := hcut
    have htail : rest ∈ (first ++ rest).tails := by
      rw [List.mem_tails]
      exact List.suffix_append first rest
    exact absurd hpre (hcross rest htail hrest)

theorem infix_around_label {pattern text label rest : List Char}
    (hforeign : ForeignTo label pattern)
    (h : pattern <:+: text ++ ((' ' :: label) ++ '=' :: rest)) :
    pattern <:+: text ∨ pattern <:+: rest := by
  obtain ⟨hmark, hlabel, hends⟩ := hforeign
  have hsplit : text ++ ((' ' :: label) ++ '=' :: rest) =
      (text ++ (' ' :: label)) ++ '=' :: rest := by simp
  rw [hsplit] at h
  have hmarked : ∀ tail ∈ pattern.tails, tail ≠ [] → ¬ tail <+: '=' :: rest := by
    rintro (_ | ⟨c, tail⟩) htail hne hpre
    · exact hne rfl
    · rw [List.cons_prefix_cons] at hpre
      rw [List.mem_tails] at htail
      have hmem : c ∈ pattern := htail.subset (List.mem_cons_self)
      exact hmark (hpre.1 ▸ hmem)
  rcases infix_append_of_not_crossing hmarked h with hleft | hright
  · rcases infix_append_of_not_crossing hends hleft with htext | hin
    · exact .inl htext
    · exact absurd hin hlabel
  · rw [List.infix_cons_iff] at hright
    rcases hright with hpre | hin
    · refine .inr ?_
      cases pattern with
      | nil => exact List.nil_infix
      | cons c cs =>
        exact absurd hpre (hmarked _ ((List.mem_tails _ _).mpr List.suffix_rfl) (by simp))
    · exact .inr hin

/-- A pattern foreign to the labels shows in a labelled text exactly if a value has it. -/
theorem infix_labelledText {pattern : List Char} {fields : List (List Char × List Char)}
    (hforeign : ∀ field ∈ fields, ForeignTo field.1 pattern) (head : List Char) :
    pattern <:+: head ++ labelledText fields ↔
      pattern <:+: head ∨ ∃ field ∈ fields, pattern <:+: field.2 := by
  induction fields generalizing head with
  | nil => simp [labelledText]
  | cons field fields ih =>
    have hrest := ih (fun other hother => hforeign other (List.mem_cons_of_mem _ hother)) field.2
    have htext : labelledText (field :: fields) =
        (' ' :: field.1) ++ '=' :: (field.2 ++ labelledText fields) := by
      simp [labelledText]
    rw [htext]
    constructor
    · intro h
      rcases infix_around_label (hforeign field List.mem_cons_self) h with hhead | hin
      · exact .inl hhead
      · rcases hrest.mp hin with hvalue | ⟨other, hother, hvalue⟩
        · exact .inr ⟨field, List.mem_cons_self, hvalue⟩
        · exact .inr ⟨other, List.mem_cons_of_mem _ hother, hvalue⟩
    · rintro (hhead | ⟨other, hother, hvalue⟩)
      · exact hhead.trans List.infix_append_left
      · have hin : pattern <:+: field.2 ++ labelledText fields := by
          rw [hrest]
          rcases List.mem_cons.mp hother with rfl | hmem
          · exact .inl hvalue
          · exact .inr ⟨other, hmem, hvalue⟩
        have hsuffix : field.2 ++ labelledText fields <:+
            head ++ ((' ' :: field.1) ++ '=' :: (field.2 ++ labelledText fields)) :=
          ⟨head ++ ((' ' :: field.1) ++ ['=']), by simp⟩
        exact hin.trans hsuffix.isInfix

end Codaze.Foundation
