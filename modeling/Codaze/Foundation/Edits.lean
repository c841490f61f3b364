import Codaze.Foundation.Fields
import Mathlib.Data.List.Perm.Subperm

/-!
# Tables of edits

A rule says what becomes of a key in view of its value. A table of rules on different keys
edits an object; the keys do not see one another, so the result is known key by key, and
a table whose rules leave their own results alone changes nothing when it is used again.
-/
namespace Codaze.Foundation

inductive Edit where
  | keep
  | drop
  | put (value : Json)

namespace Edit

/-- The value of the key after the edit. -/
def result (old : Option Json) : Edit → Option Json
  | keep => old
  | drop => none
  | put value => some value

end Edit

abbrev Rule := Option Json → Edit

namespace Rule

/-- The value the rule leaves. -/
def value (rule : Rule) (old : Option Json) : Option Json := (rule old).result old

/-- The rule leaves alone, or does again, what it has made of the value. -/
def StableAt (rule : Rule) (old : Option Json) : Prop :=
  rule (rule.value old) = .keep ∨ rule (rule.value old) = rule old

/-- A value the rule puts is the old one where the two are equal but for the order of fields. -/
def Exact (rule : Rule) : Prop :=
  ∀ value old, rule (some old) = .put value → value.beq old = true → value = old

end Rule

namespace Fields

variable {fields : Fields} {key key' : String}

def edit (fields : Fields) (key : String) : Edit → Fields
  | .keep => fields
  | .drop => fields.remove key
  | .put value => fields.insert key value

def applyRule (fields : Fields) (key : String) (rule : Rule) : Fields :=
  fields.edit key (rule (fields.get? key))

def applyRules (rules : List (String × Rule)) (fields : Fields) : Fields :=
  rules.foldl (fun fields rule => fields.applyRule rule.1 rule.2) fields

theorem get?_edit_self (edit : Edit) :
    (fields.edit key edit).get? key = edit.result (fields.get? key) := by
  cases edit with
  | keep => rfl
  | drop => exact get?_remove_self
  | put value => exact get?_insert_self

theorem get?_edit_of_ne (edit : Edit) (hkey : key' ≠ key) :
    (fields.edit key edit).get? key' = fields.get? key' := by
  cases edit with
  | keep => rfl
  | drop => exact get?_remove_of_ne hkey
  | put value => exact get?_insert_of_ne hkey

theorem get?_applyRule_self (rule : Rule) :
    (fields.applyRule key rule).get? key = rule.value (fields.get? key) := get?_edit_self _

theorem get?_applyRule_of_ne (rule : Rule) (hkey : key' ≠ key) :
    (fields.applyRule key rule).get? key' = fields.get? key' := get?_edit_of_ne _ hkey

/-! ## The result key by key -/

theorem get?_applyRules_of_not_mem {rules : List (String × Rule)}
    (hkey : key ∉ rules.map (·.1)) : (applyRules rules fields).get? key = fields.get? key := by
  induction rules generalizing fields with
  | nil => rfl
  | cons rule rules ih =>
    rw [List.map_cons, List.mem_cons, not_or] at hkey
    exact (ih hkey.2).trans (get?_applyRule_of_ne rule.2 hkey.1)

theorem get?_applyRules {rules : List (String × Rule)} {rule : Rule}
    (hkeys : (rules.map (·.1)).Nodup) (hrule : (key, rule) ∈ rules) :
    (applyRules rules fields).get? key = rule.value (fields.get? key) := by
  induction rules generalizing fields with
  | nil => cases hrule
  | cons first rules ih =>
    obtain ⟨hfirst, hrest⟩ := List.nodup_cons.mp hkeys
    rcases List.mem_cons.mp hrule with rfl | hmem
    · exact (get?_applyRules_of_not_mem hfirst).trans (get?_applyRule_self rule)
    · have hne : key ≠ first.1 := fun h => hfirst (List.mem_map.mpr ⟨_, hmem, h⟩)
      exact (ih hrest hmem).trans (congrArg rule.value (get?_applyRule_of_ne first.2 hne))

/-! ## Using a table again -/

theorem remove_remove_self : (fields.remove key).remove key = fields.remove key :=
  remove_of_absent valuesAt_remove_self

/-- Only the removal of a key that is not there changes nothing. -/
theorem remove_eq_self_iff : fields.remove key = fields ↔ fields.get? key = none := by
  constructor
  · intro hremoved
    rw [← hremoved]
    exact get?_remove_self
  · rw [get?_eq_getLast?, List.getLast?_eq_none_iff]
    exact remove_of_absent

theorem insert_insert_self (value value' : Json) :
    (fields.insert key value).insert key value' = fields.insert key value' := by
  rw [insert_eq (fields.insert key value)]
  have hany : (fields.insert key value).any (·.1 == key) = true := by
    rw [← isSome_get?, get?_insert_self]
    rfl
  rw [if_pos hany, insert_eq fields key value, insert_eq fields key value']
  split
  · rw [List.map_map]
    refine List.map_congr_left fun field _ => ?_
    simp only [Function.comp_apply, onKey]
    split <;> simp_all
  next habsent =>
    change List.map _ (List.append fields [(key, value)]) = _
    have hkept : fields.map (onKey key fun _ => value') = fields := by
      refine (List.map_congr_left fun field hfield => ?_).trans (List.map_id _)
      have hne : ¬field.1 = key := by
        have hall := List.any_eq_false.mp (Bool.eq_false_of_not_eq_true habsent) field hfield
        simpa using hall
      simp [onKey, hne]
    have hlast : onKey key (fun _ => value') (key, value) = (key, value') := by simp [onKey]
    simp [hkept, hlast]

theorem edit_edit_self (edit : Edit) :
    (fields.edit key edit).edit key edit = fields.edit key edit := by
  cases edit with
  | keep => rfl
  | drop => exact remove_remove_self
  | put value => exact insert_insert_self value value

/-- A rule that leaves its result alone does nothing the second time. -/
theorem applyRule_applyRule {rule : Rule} (hstable : rule.StableAt (fields.get? key)) :
    (fields.applyRule key rule).applyRule key rule = fields.applyRule key rule := by
  have hvalue : (fields.applyRule key rule).applyRule key rule =
      (fields.applyRule key rule).edit key (rule (rule.value (fields.get? key))) := by
    rw [applyRule, get?_applyRule_self]
  rw [hvalue]
  rcases hstable with hkeep | hagain
  · rw [hkeep]
    rfl
  · rw [hagain]
    exact edit_edit_self _

/-- An edit of one key keeps what an edit of another key does not change. -/
theorem edit_of_edit_eq {edit edit' : Edit} (hkey : key ≠ key')
    (h : fields.edit key edit = fields) :
    (fields.edit key' edit').edit key edit = fields.edit key' edit' := by
  cases edit with
  | keep => rfl
  | drop =>
    have habsent : fields.get? key = none := remove_eq_self_iff.mp h
    exact remove_eq_self_iff.mpr ((get?_edit_of_ne edit' hkey).trans habsent)
  | put value =>
    have hinserted : fields.insert key value = fields := h
    have hpresent : fields.any (·.1 == key) = true := by
      rw [← isSome_get?, ← hinserted, get?_insert_self]
      rfl
    have hmapped : fields.map (onKey key fun _ => value) = fields := by
      rwa [insert_eq, if_pos hpresent] at hinserted
    have hafter : (fields.edit key' edit').any (·.1 == key) = true := by
      rw [← isSome_get?, get?_edit_of_ne _ hkey, isSome_get?, hpresent]
    change (fields.edit key' edit').insert key value = _
    rw [insert_eq, if_pos hafter]
    cases edit' with
    | keep => exact hmapped
    | drop => exact (remove_map_onKey _).symm.trans (congrArg (Fields.remove · key') hmapped)
    | put value' =>
      exact (insert_map_onKey_of_ne _ hkey.symm).symm.trans
        (congrArg (Fields.insert · key' value') hmapped)

theorem applyRule_of_applyRule_eq {rule : Rule} {edit' : Edit} (hkey : key ≠ key')
    (h : fields.applyRule key rule = fields) :
    (fields.edit key' edit').applyRule key rule = fields.edit key' edit' := by
  unfold applyRule at h ⊢
  rw [get?_edit_of_ne _ hkey]
  exact edit_of_edit_eq hkey h

theorem applyRule_applyRules_of_eq {rule : Rule} {rules : List (String × Rule)}
    (hkey : key ∉ rules.map (·.1)) (h : fields.applyRule key rule = fields) :
    (applyRules rules fields).applyRule key rule = applyRules rules fields := by
  induction rules generalizing fields with
  | nil => exact h
  | cons first rules ih =>
    rw [List.map_cons, List.mem_cons, not_or] at hkey
    exact ih hkey.2 (applyRule_of_applyRule_eq hkey.1 h)

theorem applyRules_of_forall {rules : List (String × Rule)}
    (h : ∀ rule ∈ rules, fields.applyRule rule.1 rule.2 = fields) :
    applyRules rules fields = fields := by
  induction rules with
  | nil => rfl
  | cons rule rules ih =>
    have hfirst := h rule List.mem_cons_self
    change applyRules rules (fields.applyRule rule.1 rule.2) = fields
    rw [hfirst]
    exact ih fun rule hmem => h rule (List.mem_cons_of_mem _ hmem)

/-- A table of stable rules on different keys changes nothing the second time. -/
theorem applyRules_applyRules {rules : List (String × Rule)} (hkeys : (rules.map (·.1)).Nodup)
    (hstable : ∀ rule ∈ rules, rule.2.StableAt (fields.get? rule.1)) :
    applyRules rules (applyRules rules fields) = applyRules rules fields := by
  refine applyRules_of_forall fun rule hmem => ?_
  induction rules generalizing fields with
  | nil => cases hmem
  | cons first rules ih =>
    obtain ⟨hfirst, hrest⟩ := List.nodup_cons.mp hkeys
    rcases List.mem_cons.mp hmem with rfl | hmem
    · have hagain := applyRule_applyRule (hstable rule List.mem_cons_self)
      have hrest := applyRule_applyRules_of_eq hfirst hagain
      exact hrest
    · refine ih hrest (fun rule hmem => ?_) hmem
      have hne : rule.1 ≠ first.1 := fun h => hfirst (List.mem_map.mpr ⟨_, hmem, h⟩)
      rw [get?_applyRule_of_ne _ hne]
      exact hstable rule (List.mem_cons_of_mem _ hmem)

/-! ## Results that are equal to what was edited -/

/-- A removal of a key that is there leaves fewer fields. -/
theorem length_applyRules_lt {rules : List (String × Rule)} {rule : Rule} {old : Json}
    (hrepeats : ((applyRules rules fields).map (·.1)).Nodup)
    (hsubset : ∀ field ∈ applyRules rules fields, fields.get? field.1 ≠ none)
    (hkeys : (rules.map (·.1)).Nodup) (hrule : (key, rule) ∈ rules)
    (hold : fields.get? key = some old) (hdrop : rule (some old) = .drop) :
    (applyRules rules fields).length < fields.length := by
  have hgone : (applyRules rules fields).get? key = none := by
    rw [get?_applyRules hkeys hrule, hold, Rule.value, hdrop, Edit.result]
  have hnot : key ∉ (applyRules rules fields).map (·.1) := by
    intro hmem
    obtain ⟨field, hfield, rfl⟩ := List.mem_map.mp hmem
    rw [get?_of_mem hrepeats hfield] at hgone
    cases hgone
  have hinside : key :: (applyRules rules fields).map (·.1) ⊆ fields.map (·.1) := by
    intro name hname
    rcases List.mem_cons.mp hname with rfl | hname
    · exact List.mem_map.mpr ⟨_, mem_of_get? hold, rfl⟩
    · obtain ⟨field, hfield, rfl⟩ := List.mem_map.mp hname
      obtain ⟨value, hvalue⟩ := Option.ne_none_iff_exists'.mp (hsubset field hfield)
      exact List.mem_map.mpr ⟨_, mem_of_get? hvalue, rfl⟩
  have hlength := (List.subperm_of_subset (List.nodup_cons.mpr ⟨hnot, hrepeats⟩) hinside).length_le
  rw [List.length_cons, List.length_map, List.length_map] at hlength
  exact hlength

/-- A table of exact rules whose result is equal to the object has changed nothing: a field that
is dropped is missing, and no field is put but the one that was there. -/
theorem applyRules_eq_of_beq {rules : List (String × Rule)} (hkeys : (rules.map (·.1)).Nodup)
    (hexact : ∀ rule ∈ rules, rule.2.Exact)
    (hbeq : (Json.object (applyRules rules fields)).beq (.object fields) = true) :
    applyRules rules fields = fields := by
  rw [Json.beq] at hbeq
  split at hbeq
  · exact eq_of_sameFields hbeq
  next hrepeats =>
    rw [Bool.or_eq_true, not_or, Bool.not_eq_true, Bool.not_eq_true, hasRepeats_eq_false,
      hasRepeats_eq_false] at hrepeats
    rw [Bool.and_eq_true, beq_iff_eq, beqFields_iff] at hbeq
    obtain ⟨hlength, hfields⟩ := hbeq
    have hsubset : ∀ field ∈ applyRules rules fields, fields.get? field.1 ≠ none := by
      intro field hfield hnone
      obtain ⟨value, hvalue, -⟩ := hfields field hfield
      rw [hnone] at hvalue
      cases hvalue
    refine applyRules_of_forall fun ⟨key, rule⟩ hrule => ?_
    have hafter : (applyRules rules fields).get? key = rule.value (fields.get? key) :=
      get?_applyRules hkeys hrule
    change fields.edit key (rule (fields.get? key)) = fields
    cases hold : fields.get? key with
    | none =>
      cases hedit : rule none with
      | keep => rfl
      | drop => exact remove_eq_self_iff.mpr hold
      | put value =>
        rw [hold, Rule.value, hedit, Edit.result] at hafter
        exact absurd hold (hsubset (key, value) (mem_of_get? hafter))
    | some old =>
      cases hedit : rule (some old) with
      | keep => rfl
      | drop =>
        have hless := length_applyRules_lt hrepeats.1 hsubset hkeys hrule hold hedit
        omega
      | put value =>
        rw [hold, Rule.value, hedit, Edit.result] at hafter
        obtain ⟨other, hother, hsame⟩ := hfields (key, value) (mem_of_get? hafter)
        obtain rfl : old = other := Option.some.inj (hold.symm.trans hother)
        rw [hexact _ hrule value old hedit hsame]
        exact insert_get? hrepeats.2 hold

end Fields

end Codaze.Foundation
