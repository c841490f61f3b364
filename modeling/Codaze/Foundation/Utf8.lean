import Mathlib.Data.List.Basic
import Mathlib.Tactic.Cases

/-!
# UTF-8

`String::from_utf8_lossy` reads one byte at a time. Every maximal ill-formed
subsequence becomes one U+FFFD, and an ASCII byte ends whatever sequence is open,
so that a text can be cut at its ASCII bytes before or after it is decoded.
-/
namespace Codaze.Foundation

abbrev Byte := UInt8

/-- The bytes of a string. -/
def utf8Bytes (s : String) : List Byte := s.toList.flatMap String.utf8EncodeChar

/-- A sequence of which some bytes are read: the next byte is to be between `low` and
`high`, and `tails` continuation bytes are to follow it. -/
structure OpenSequence where
  low : ℕ
  high : ℕ
  tails : ℕ
  /-- The bits read so far. -/
  point : ℕ
  low_ge : 128 ≤ low

/-- What a byte from 0x80 on opens. -/
def OpenSequence.start (b : ℕ) : Option OpenSequence :=
  if 0xC2 ≤ b ∧ b ≤ 0xDF then some ⟨0x80, 0xBF, 0, b - 0xC0, by decide⟩
  else if b = 0xE0 then some ⟨0xA0, 0xBF, 1, 0, by decide⟩
  else if b = 0xED then some ⟨0x80, 0x9F, 1, 0xD, by decide⟩
  else if 0xE1 ≤ b ∧ b ≤ 0xEF then some ⟨0x80, 0xBF, 1, b - 0xE0, by decide⟩
  else if b = 0xF0 then some ⟨0x90, 0xBF, 2, 0, by decide⟩
  else if 0xF1 ≤ b ∧ b ≤ 0xF3 then some ⟨0x80, 0xBF, 2, b - 0xF0, by decide⟩
  else if b = 0xF4 then some ⟨0x80, 0x8F, 2, 4, by decide⟩
  else none

abbrev replacementChar : Char := '\uFFFD'

/-- A byte outside any sequence. -/
def decodeStart (b : Byte) : List Char × Option OpenSequence :=
  if b.toNat < 128 then ([Char.ofNat b.toNat], none)
  else match OpenSequence.start b.toNat with
    | some opened => ([], some opened)
    | none => ([replacementChar], none)

/-- A byte that does not continue the open sequence ends it, and is read again. -/
def decodeStep : Option OpenSequence → Byte → List Char × Option OpenSequence
  | none, b => decodeStart b
  | some opened, b =>
    if opened.low ≤ b.toNat ∧ b.toNat ≤ opened.high then
      let point := opened.point * 64 + b.toNat % 64
      if opened.tails = 0 then ([Char.ofNat point], none)
      else ([], some ⟨0x80, 0xBF, opened.tails - 1, point, by decide⟩)
    else (replacementChar :: (decodeStart b).1, (decodeStart b).2)

def decodeFrom : Option OpenSequence → List Byte → List Char
  | none, [] => []
  | some _, [] => [replacementChar]
  | opened, b :: bytes =>
    (decodeStep opened b).1 ++ decodeFrom (decodeStep opened b).2 bytes

/-- `String::from_utf8_lossy`, as characters. -/
def fromUtf8Lossy (bytes : List Byte) : List Char := decodeFrom none bytes

@[simp] theorem fromUtf8Lossy_nil : fromUtf8Lossy [] = [] := rfl

theorem decodeStep_ascii {b : Byte} (hb : b.toNat < 128) (opened : Option OpenSequence) :
    (decodeStep opened b).2 = none ∧
      (decodeStep opened b).1 = decodeFrom opened [] ++ [Char.ofNat b.toNat] := by
  cases opened with
  | none => simp [decodeStep, decodeStart, decodeFrom, hb]
  | some opened =>
    have hlow : ¬(opened.low ≤ b.toNat ∧ b.toNat ≤ opened.high) := by
      have := opened.low_ge
      omega
    simp [decodeStep, decodeStart, decodeFrom, hb, hlow]

/-- A text is decoded part by part at an ASCII byte. -/
theorem decodeFrom_append_ascii {b : Byte} (hb : b.toNat < 128) (opened : Option OpenSequence)
    (front back : List Byte) :
    decodeFrom opened (front ++ b :: back) =
      decodeFrom opened front ++ Char.ofNat b.toNat :: decodeFrom none back := by
  induction front generalizing opened with
  | nil =>
    have ⟨hnext, hout⟩ := decodeStep_ascii hb opened
    rw [List.nil_append, decodeFrom, hnext, hout]
    simp
  | cons a front ih =>
    rw [List.cons_append, decodeFrom, ih, decodeFrom, List.append_assoc]

theorem decodeFrom_single {n : ℕ} (hn : n < 128) (bytes : List Byte) :
    decodeFrom none (UInt8.ofNat n :: bytes) = Char.ofNat n :: decodeFrom none bytes := by
  have hb : (UInt8.ofNat n).toNat = n := by rw [UInt8.toNat_ofNat']; omega
  have := decodeFrom_append_ascii (b := UInt8.ofNat n) (by omega) none [] bytes
  rwa [hb] at this

theorem decodeFrom_first {n : ℕ} {opened : OpenSequence} (hn : 128 ≤ n) (hn' : n < 256)
    (hopen : OpenSequence.start n = some opened) (bytes : List Byte) :
    decodeFrom none (UInt8.ofNat n :: bytes) = decodeFrom (some opened) bytes := by
  have hb : (UInt8.ofNat n).toNat = n := by rw [UInt8.toNat_ofNat']; omega
  simp [decodeFrom, decodeStep, decodeStart, hb, hopen, show ¬n < 128 by omega]

theorem decodeFrom_tail {n : ℕ} {opened : OpenSequence} (hn' : n < 256)
    (hlow : opened.low ≤ n) (hhigh : n ≤ opened.high) (htails : opened.tails ≠ 0)
    (bytes : List Byte) :
    decodeFrom (some opened) (UInt8.ofNat n :: bytes) =
      decodeFrom (some ⟨0x80, 0xBF, opened.tails - 1, opened.point * 64 + n % 64, by decide⟩)
        bytes := by
  have hb : (UInt8.ofNat n).toNat = n := by rw [UInt8.toNat_ofNat']; omega
  simp [decodeFrom, decodeStep, hb, hlow, hhigh, htails]

theorem decodeFrom_last {n : ℕ} {opened : OpenSequence} (hn' : n < 256)
    (hlow : opened.low ≤ n) (hhigh : n ≤ opened.high) (htails : opened.tails = 0)
    (bytes : List Byte) :
    decodeFrom (some opened) (UInt8.ofNat n :: bytes) =
      Char.ofNat (opened.point * 64 + n % 64) :: decodeFrom none bytes := by
  have hb : (UInt8.ofNat n).toNat = n := by rw [UInt8.toNat_ofNat']; omega
  simp [decodeFrom, decodeStep, hb, hlow, hhigh, htails]

/-- The bytes of a character decode to the character. -/
theorem decodeFrom_utf8EncodeChar (c : Char) (bytes : List Byte) :
    decodeFrom none (String.utf8EncodeChar c ++ bytes) = c :: decodeFrom none bytes := by
  have hvalid : c.toNat < 0xD800 ∨ 0xDFFF < c.toNat ∧ c.toNat < 0x110000 := c.valid
  have hchar : Char.ofNat c.toNat = c := Char.ofNat_toNat c
  have hval : c.val.toNat = c.toNat := rfl
  generalize c.toNat = n at hvalid hchar hval
  subst hchar
  unfold String.utf8EncodeChar
  simp only [hval]
  split_ifs with h1 h2 h3
  · exact decodeFrom_single (by omega) bytes
  · -- two bytes
    have hstart : OpenSequence.start (n / 64 % 0x20 + 0xC0) =
        some ⟨0x80, 0xBF, 0, n / 64 % 0x20 + 0xC0 - 0xC0, by decide⟩ := by
      rw [OpenSequence.start, if_pos (by omega)]
    rw [List.cons_append, decodeFrom_first (by omega) (by omega) hstart, List.cons_append,
      decodeFrom_last (by omega) (by simp) (by simp; omega) rfl]
    congr 2
    simp only
    omega
  · -- three bytes
    have ⟨opened, hstart, htails, hpoint, hlow, hhigh⟩ :
        ∃ opened, OpenSequence.start (n / 4096 % 0x10 + 0xE0) = some opened ∧
          opened.tails = 1 ∧ opened.point = n / 4096 ∧
          opened.low ≤ n / 64 % 0x40 + 0x80 ∧ n / 64 % 0x40 + 0x80 ≤ opened.high := by
      unfold OpenSequence.start
      split_ifs <;> first | omega | exact ⟨_, rfl, rfl, by grind, by grind, by grind⟩
    rw [List.cons_append, decodeFrom_first (by omega) (by omega) hstart, List.cons_append,
      decodeFrom_tail (by omega) hlow hhigh (by omega), List.cons_append,
      decodeFrom_last (by omega) (by simp) (by simp; omega) (by simp [htails])]
    congr 2
    simp only [hpoint]
    omega
  · -- four bytes
    have ⟨opened, hstart, htails, hpoint, hlow, hhigh⟩ :
        ∃ opened, OpenSequence.start (n / 262144 % 8 + 0xF0) = some opened ∧
          opened.tails = 2 ∧ opened.point = n / 262144 ∧
          opened.low ≤ n / 4096 % 0x40 + 0x80 ∧ n / 4096 % 0x40 + 0x80 ≤ opened.high := by
      unfold OpenSequence.start
      split_ifs <;> first | omega | exact ⟨_, rfl, rfl, by grind, by grind, by grind⟩
    rw [List.cons_append, decodeFrom_first (by omega) (by omega) hstart, List.cons_append,
      decodeFrom_tail (by omega) hlow hhigh (by omega), List.cons_append,
      decodeFrom_tail (by omega) (by simp) (by simp; omega) (by simp [htails]), List.cons_append,
      decodeFrom_last (by omega) (by simp) (by simp; omega) (by simp [htails])]
    congr 2
    simp only [hpoint]
    omega

/-- What was encoded is decoded. -/
theorem fromUtf8Lossy_utf8Bytes (s : String) : fromUtf8Lossy (utf8Bytes s) = s.toList := by
  have hchars (cs : List Char) :
      decodeFrom none (cs.flatMap String.utf8EncodeChar) = cs := by
    induction cs with
    | nil => rfl
    | cons c cs ih => rw [List.flatMap_cons, decodeFrom_utf8EncodeChar, ih]
  exact hchars s.toList

end Codaze.Foundation
