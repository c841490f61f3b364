import Codaze.Foundation.Text

/-!
# File names

The stem and the extension of a file name, as `std::path::Path` reads them: the name is cut at
its last dot, but for a dot it begins with.
-/
namespace Codaze.Foundation

/-- Cuts a list at the last occurrence of a character. -/
def rsplitOnce (c : Char) : List Char → Option (List Char × List Char)
  | [] => none
  | x :: xs => match rsplitOnce c xs with
    | some (before, after) => some (x :: before, after)
    | none => if x = c then some ([], xs) else none

section rsplitOnce

variable {c : Char} {xs before after : List Char}

theorem rsplitOnce_eq_none : rsplitOnce c xs = none ↔ c ∉ xs := by
  induction xs with
  | nil => simp [rsplitOnce]
  | cons x xs ih =>
    unfold rsplitOnce
    cases hrest : rsplitOnce c xs with
    | some cut =>
      have hmem : c ∈ xs := by
        by_contra hmem
        cases hrest.symm.trans (ih.mpr hmem)
      simp [hmem]
    | none =>
      have hmem := ih.mp hrest
      by_cases hx : x = c
      · simp [hx]
      · simp [hx, hmem, Ne.symm hx]

theorem rsplitOnce_append (hafter : c ∉ after) :
    rsplitOnce c (before ++ c :: after) = some (before, after) := by
  induction before with
  | nil =>
    rw [List.nil_append, rsplitOnce, rsplitOnce_eq_none.mpr hafter]
    exact if_pos rfl
  | cons x before ih =>
    rw [List.cons_append, rsplitOnce, ih]

theorem eq_of_rsplitOnce (h : rsplitOnce c xs = some (before, after)) :
    xs = before ++ c :: after := by
  induction xs generalizing before with
  | nil => cases h
  | cons x xs ih =>
    unfold rsplitOnce at h
    split at h
    next before' after' hrest =>
      obtain ⟨rfl, rfl⟩ := Prod.mk.inj (Option.some.inj h)
      rw [ih hrest, List.cons_append]
    next hrest =>
      split at h
      next hx =>
        obtain ⟨rfl, rfl⟩ := Prod.mk.inj (Option.some.inj h)
        rw [hx, List.nil_append]
      next => cases h

end rsplitOnce

/-- The name before and behind its last dot. -/
def splitFileName (name : String) : Option (String × String) :=
  if name = ".." then none
  else match rsplitOnce '.' name.toList with
    | some (before, after) =>
      if before = [] then none else some (String.ofList before, String.ofList after)
    | none => none

def fileStem (name : String) : String := ((splitFileName name).map (·.1)).getD name

def extension (name : String) : Option String := (splitFileName name).map (·.2)

section names

variable {name stem ext : String}

theorem splitFileName_dotted (hstem : stem ≠ "") (hext : ext ≠ "") (hdot : '.' ∉ ext.toList) :
    splitFileName (stem ++ "." ++ ext) = some (stem, ext) := by
  have hlist : (stem ++ "." ++ ext).toList = stem.toList ++ '.' :: ext.toList := by simp
  have hdots : stem ++ "." ++ ext ≠ ".." := by
    intro h
    have hcut := congrArg (rsplitOnce '.') (hlist.symm.trans (congrArg String.toList h))
    rw [rsplitOnce_append hdot] at hcut
    have hafter := congrArg Prod.snd (Option.some.inj hcut)
    exact hext (String.toList_eq_nil_iff.mp hafter)
  have hbefore : stem.toList ≠ [] := fun h => hstem (String.toList_eq_nil_iff.mp h)
  rw [splitFileName, if_neg hdots, hlist, rsplitOnce_append hdot]
  simp [hbefore]

theorem extension_dotted (hstem : stem ≠ "") (hext : ext ≠ "") (hdot : '.' ∉ ext.toList) :
    extension (stem ++ "." ++ ext) = some ext := by
  rw [extension, splitFileName_dotted hstem hext hdot]
  rfl

theorem fileStem_dotted (hstem : stem ≠ "") (hext : ext ≠ "") (hdot : '.' ∉ ext.toList) :
    fileStem (stem ++ "." ++ ext) = stem := by
  rw [fileStem, splitFileName_dotted hstem hext hdot]
  rfl

/-- A name with an extension is its stem, a dot and the extension. -/
theorem eq_dotted (h : extension name = some ext) :
    name = fileStem name ++ "." ++ ext ∧ fileStem name ≠ "" := by
  obtain ⟨⟨before, after⟩, hsplit, rfl⟩ := Option.map_eq_some_iff.mp h
  rw [fileStem, hsplit]
  unfold splitFileName at hsplit
  split at hsplit
  · cases hsplit
  · split at hsplit
    next before' after' hcut =>
      split at hsplit
      next => cases hsplit
      next hbefore =>
        obtain ⟨rfl, rfl⟩ := Prod.mk.inj (Option.some.inj hsplit)
        have hlist := eq_of_rsplitOnce hcut
        refine ⟨String.toList_injective ?_, fun h => hbefore ?_⟩
        · simpa using hlist
        · simpa using congrArg String.toList h
    next => cases hsplit

end names

/-- The decimal digits of a number determine it. -/
theorem toString_nat_injective : Function.Injective (toString : ℕ → String) := by
  intro m n h
  have hdigits : Nat.toDigits 10 m = Nat.toDigits 10 n := by
    have hlist := congrArg String.toList h
    rwa [Nat.toString_eq_ofList_toDigits, Nat.toString_eq_ofList_toDigits, String.toList_ofList,
      String.toList_ofList] at hlist
  have hnumber := congrArg (fun digits => Nat.ofDigitChars 10 digits 0) hdigits
  simpa using hnumber

theorem not_mem_toString_nat (n : ℕ) {c : Char} (hc : c.isDigit = false) :
    c ∉ (toString n).toList := by
  rw [Nat.toString_eq_ofList_toDigits, String.toList_ofList]
  intro hmem
  rw [Nat.isDigit_of_mem_toDigits (by decide) (by decide) hmem] at hc
  cases hc

/-- The parts of a name around a character that they do not contain. -/
theorem cut_injective {c : Char} {xs ys xs' ys' : List Char} (hxs : c ∉ ys) (hxs' : c ∉ ys')
    (h : xs ++ c :: ys = xs' ++ c :: ys') : xs = xs' ∧ ys = ys' := by
  have hcut := congrArg (rsplitOnce c) h
  rw [rsplitOnce_append hxs, rsplitOnce_append hxs'] at hcut
  exact Prod.mk.inj (Option.some.inj hcut)

end Codaze.Foundation
