import Codaze.Accounts.Load
import Codaze.Accounts.SyncPlan

/-!
# The refresh tokens of the records

A token comes into the store with a refresh that rotates it or with an account file that
is loaded. Tokens stay distinct as long as what comes in is new.
-/
namespace Codaze.Accounts
open Foundation

/-- The account a refresh is committed to. -/
def StoreOp.commits? : StoreOp → Option String
  | refreshSuccess id _ => some id
  | _ => none

theorem StoreOp.clears?_of_commits? {op : StoreOp} {id : String} (h : op.commits? = some id) :
    op.clears? = some id := by
  cases op <;> first | exact h | cases h

theorem RecordChange.refreshToken {now : Time} {op : StoreOp} {r r' : AccountRecord}
    (h : RecordChange now op r r') (hop : op.commits? ≠ some r.id) :
    r'.refreshToken = r.refreshToken := by
  cases h with
  | expire | expireBeforeSelect => exact (expireRecord_same now r).refreshToken
  | select => exact (selectRecord_same now _ r).refreshToken
  | wake | wakeAll => exact (applyWake_same r now).refreshToken
  | markSuccess => exact (markSuccessRecord_same now r).refreshToken
  | invalidate => exact (invalidateRecord_same now r).refreshToken
  | release => exact (releaseRecord_same now r).refreshToken
  | fail => exact (failRecord_same now _ _ _ r).refreshToken
  | refreshSuccess => exact absurd rfl hop
  | prepareAuthInvalid | finalizeAuthInvalid | noteTrashFailure | updateMetadata | upsert
  | remove | retire => rfl

theorem RecordChanges.refreshToken {now : Time} {op : StoreOp} {r r' : AccountRecord}
    (h : RecordChanges now op r r') (hop : op.commits? ≠ some r.id) :
    r'.refreshToken = r.refreshToken := by
  have hboth : r'.id = r.id ∧ r'.refreshToken = r.refreshToken := by
    refine h.invariant (P := fun s => s.id = r.id ∧ s.refreshToken = r.refreshToken)
      (fun s s' hchange hs => ?_) ⟨rfl, rfl⟩
    refine ⟨hchange.id_eq.trans hs.1, (hchange.refreshToken ?_).trans hs.2⟩
    rw [hs.1]
    exact hop
  exact hboth.2

namespace AccountStore

variable {store : AccountStore} {now : Time} {op : StoreOp}

/-- A token of the later store is the account's earlier one or comes from a loaded file. -/
theorem refreshToken_origin {id : String} {record : AccountRecord}
    (h : (store.apply now op).record? id = some record) (hop : op.commits? ≠ some id) :
    (∃ old, store.record? id = some old ∧ record.refreshToken = old.refreshToken) ∨
      store.record? id = none ∧ ∃ upsert ∈ op.upserts,
        upsert.id = id ∧ record.refreshToken = upsert.disk.refreshToken := by
  rcases traced_apply h with ⟨old, hold, hchanges⟩ | ⟨hnone, upsert, hmem, hid, hchanges⟩
  · exact .inl ⟨old, hold, hchanges.refreshToken (by rwa [id_of_record? hold])⟩
  · exact .inr ⟨hnone, upsert, hmem, hid, hchanges.refreshToken hop⟩

/-- The account's token stays, unless the operation commits a refresh to it. -/
theorem refreshToken_apply {id : String} {old record : AccountRecord}
    (hold : store.record? id = some old) (h : (store.apply now op).record? id = some record)
    (hop : op.commits? ≠ some id) : record.refreshToken = old.refreshToken := by
  rcases refreshToken_origin h hop with ⟨old', hold', htoken⟩ | ⟨hnone, -⟩
  · obtain rfl := Option.some.inj (hold.symm.trans hold')
    exact htoken
  · simp [hold] at hnone

def TokensDistinct (store : AccountStore) : Prop :=
  ∀ id id' r r', store.record? id = some r → store.record? id' = some r' →
    r.refreshToken = r'.refreshToken → id = id'

/-- The files an operation loads hold distinct tokens. -/
def LoadsDistinct (op : StoreOp) : Prop :=
  ∀ upsert ∈ op.upserts, ∀ upsert' ∈ op.upserts,
    upsert.disk.refreshToken = upsert'.disk.refreshToken → upsert.id = upsert'.id

/-- A token that an operation gives to an account is held by no other account. -/
def AssignsFresh (store : AccountStore) : StoreOp → Prop
  | .refreshSuccess id refreshed => ∀ token, refreshed.refreshToken = some token →
    ∀ id' r, store.record? id' = some r → r.refreshToken = token → id' = id
  | op => ∀ upsert ∈ op.upserts, store.record? upsert.id = none →
    ∀ id r, store.record? id = some r → r.refreshToken ≠ upsert.disk.refreshToken

theorem forall_record_iff {P : String → AccountRecord → Prop} :
    (∀ id r, store.record? id = some r → P id r) ↔ ∀ r ∈ store.records.values, P r.id r := by
  constructor
  · intro h r hr
    obtain ⟨id, hid⟩ := HashMap.mem_values.mp hr
    obtain rfl := store.keyed id r hid
    exact h r.id r hid
  · intro h id r hr
    have hvalue := h r (HashMap.mem_values.mpr ⟨id, hr⟩)
    rwa [id_of_record? hr] at hvalue

instance (store : AccountStore) (op : StoreOp) : Decidable (AssignsFresh store op) :=
  match op with
  | .refreshSuccess id refreshed => decidable_of_iff
      (∀ r ∈ store.records.values, refreshed.refreshToken = some r.refreshToken → r.id = id) (by
        rw [AssignsFresh, ← forall_record_iff (P := fun id' r =>
          refreshed.refreshToken = some r.refreshToken → id' = id)]
        exact ⟨fun h token htoken id' r hr hsame => h id' r hr (by rw [htoken, hsame]),
          fun h id' r hr htoken => h _ htoken id' r hr rfl⟩)
  | .applyImport plan => decidable_of_iff
      (∀ upsert ∈ (StoreOp.applyImport plan).upserts, store.record? upsert.id = none →
        ∀ r ∈ store.records.values, r.refreshToken ≠ upsert.disk.refreshToken)
      (by simp only [AssignsFresh, forall_record_iff (P := fun _ r => r.refreshToken ≠ _)])
  | .applySync plan => decidable_of_iff
      (∀ upsert ∈ (StoreOp.applySync plan).upserts, store.record? upsert.id = none →
        ∀ r ∈ store.records.values, r.refreshToken ≠ upsert.disk.refreshToken)
      (by simp only [AssignsFresh, forall_record_iff (P := fun _ r => r.refreshToken ≠ _)])
  | .read | .sweep | .select .. | .wake _ | .wakeAll | .markSuccess _ | .invalidate _
  | .release _ | .fail .. | .prepareAuthInvalid .. | .finalizeAuthInvalid _
  | .noteTrashFailure .. | .applyRemove _ | .rehash _ =>
    .isTrue (by simp [AssignsFresh, StoreOp.upserts])

theorem AssignsFresh.upserts (h : AssignsFresh store op) {upsert : DiskSyncUpsert}
    (hmem : upsert ∈ op.upserts) (hnone : store.record? upsert.id = none) {id : String}
    {r : AccountRecord} (hr : store.record? id = some r) :
    r.refreshToken ≠ upsert.disk.refreshToken := by
  cases op with
  | applyImport | applySync => exact h upsert hmem hnone id r hr
  | _ => simp [StoreOp.upserts] at hmem

theorem TokensDistinct.load (h : store.TokensDistinct) (hop : op.commits? = none)
    (hdistinct : LoadsDistinct op) (hfresh : AssignsFresh store op) :
    (store.apply now op).TokensDistinct := by
  intro id id' r r' hr hr' htoken
  have horigin := refreshToken_origin hr (by simp [hop])
  have horigin' := refreshToken_origin hr' (by simp [hop])
  rcases horigin with ⟨s, hs, hstoken⟩ | ⟨hnone, u, hu, rfl, hutoken⟩
  · rcases horigin' with ⟨s', hs', hstoken'⟩ | ⟨hnone', u', hu', rfl, hutoken'⟩
    · exact h id id' s s' hs hs' (hstoken.symm.trans (htoken.trans hstoken'))
    · exact absurd (hstoken.symm.trans (htoken.trans hutoken')) (hfresh.upserts hu' hnone' hs)
  · rcases horigin' with ⟨s', hs', hstoken'⟩ | ⟨-, u', hu', rfl, hutoken'⟩
    · exact absurd (hstoken'.symm.trans (htoken.symm.trans hutoken)) (hfresh.upserts hu hnone hs')
    · exact hdistinct u hu u' hu' (hutoken.symm.trans (htoken.trans hutoken'))

theorem TokensDistinct.commit {id : String} {refreshed : RefreshedAccount}
    (h : store.TokensDistinct) (hfresh : AssignsFresh store (.refreshSuccess id refreshed)) :
    (store.apply now (.refreshSuccess id refreshed)).TokensDistinct := by
  -- an account of the later store has its earlier token, or it is `id` with the new one
  have horigin {id' : String} {r : AccountRecord}
      (hr : (store.apply now (.refreshSuccess id refreshed)).record? id' = some r) :
      ∃ old, store.record? id' = some old ∧ (r.refreshToken = old.refreshToken ∨
        id' = id ∧ refreshed.refreshToken = some r.refreshToken) := by
    obtain ⟨old, hold, rfl⟩ := of_record?_refreshSuccess hr
    refine ⟨old, hold, ?_⟩
    split
    next hid =>
      have htoken := (refreshSuccessRecord_frame now refreshed old).2.1
      cases hrotated : refreshed.refreshToken with
      | none => exact .inl (by rw [htoken, hrotated]; rfl)
      | some token => exact .inr ⟨hid, by rw [htoken, hrotated]; rfl⟩
    next => exact .inl rfl
  intro id₁ id₂ r₁ r₂ hr₁ hr₂ htoken
  obtain ⟨old₁, hold₁, hsame₁ | ⟨rfl, hnew₁⟩⟩ := horigin hr₁
  · obtain ⟨old₂, hold₂, hsame₂ | ⟨rfl, hnew₂⟩⟩ := horigin hr₂
    · exact h id₁ id₂ old₁ old₂ hold₁ hold₂ (hsame₁.symm.trans (htoken.trans hsame₂))
    · exact hfresh _ hnew₂ id₁ old₁ hold₁ (hsame₁.symm.trans htoken)
  · obtain ⟨old₂, hold₂, hsame₂ | ⟨rfl, -⟩⟩ := horigin hr₂
    · exact (hfresh _ hnew₁ id₂ old₂ hold₂ (hsame₂.symm.trans htoken.symm)).symm
    · rfl

theorem TokensDistinct.apply (h : store.TokensDistinct) (hdistinct : LoadsDistinct op)
    (hfresh : AssignsFresh store op) : (store.apply now op).TokensDistinct := by
  cases op with
  | refreshSuccess id refreshed => exact h.commit hfresh
  | _ => exact h.load rfl hdistinct hfresh

theorem loadsDistinct_import (plan : ImportAccountPlan) : LoadsDistinct (.applyImport plan) := by
  intro upsert hupsert upsert' hupsert' _
  cases happly : plan.apply <;> simp [StoreOp.upserts, happly] at hupsert hupsert'
  rw [hupsert, hupsert']

/-- A plan loads one file for each token. -/
theorem loadsDistinct_of_plan {snapshot : DiskScanSnapshot} {mode : SyncMode}
    {plan : DiskSyncPlan} (h : store.buildDiskSyncPlan snapshot mode = some plan) :
    LoadsDistinct (.applySync plan) := by
  intro upsert hupsert upsert' hupsert' htoken
  obtain ⟨token, target, htarget, rfl⟩ := (mem_plan_upserts h).mp hupsert
  obtain ⟨token', target', htarget', rfl⟩ := (mem_plan_upserts h).mp hupsert'
  simp only [mergeDuplicateAccountFiles_token, htarget.token, htarget'.token] at htoken
  subst htoken
  rw [htarget.unique htarget']

/-- The records of the startup sync have distinct tokens. -/
theorem tokensDistinct_startup {snapshot : DiskScanSnapshot} {plan : DiskSyncPlan}
    (h : AccountStore.new.buildDiskSyncPlan snapshot .startup = some plan) :
    (AccountStore.new.applyDiskSyncPlan plan).TokensDistinct :=
  @TokensDistinct.apply _ 0 (.applySync plan) (fun _ _ _ _ h => by simp at h)
    (loadsDistinct_of_plan h) fun _ _ _ _ _ h => by simp at h

end AccountStore

end Codaze.Accounts
