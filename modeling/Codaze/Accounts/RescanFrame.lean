import Codaze.Accounts.SyncPlan
import Codaze.Accounts.Deleted

/-!
# What a rescan leaves alone

The plan of a rescan is made from one state of the store and applied to a later one. What
happened in between was routine, since everything else waits for the disk lock.
-/
namespace Codaze.Accounts
open Foundation

/-- What loading files does to a record that is there. -/
structure Reloaded (r r' : AccountRecord) : Prop where
  frame : r' = { r with
    filePath := r'.filePath, label := r'.label, email := r'.email, detached := r'.detached }
  attached : r.detached = false → r'.detached = false
  tombstone : r.authInvalidTombstone = true → r'.detached = r.detached

namespace Reloaded

theorem refl (r : AccountRecord) : Reloaded r r := ⟨rfl, fun h => h, fun _ => rfl⟩

theorem trans {r r' r'' : AccountRecord} (h : Reloaded r r') (h' : Reloaded r' r'') :
    Reloaded r r'' := by
  have htombstone : r'.authInvalidTombstone = r.authInvalidTombstone := by rw [h.frame]
  refine ⟨?_, fun hr => h'.attached (h.attached hr), fun hr => ?_⟩
  · have hframe := h'.frame
    rw [h.frame] at hframe
    exact hframe
  · rw [h'.tombstone (htombstone.trans hr), h.tombstone hr]

theorem upsertRecord (path : AccountPath) (disk : AccountFile) (r : AccountRecord) :
    Reloaded r (AccountStore.upsertRecord path disk r) where
  frame := rfl
  attached h := by simp [AccountStore.upsertRecord, h]
  tombstone h := by simp [AccountStore.upsertRecord, h]

end Reloaded

namespace AccountStore

variable {store : AccountStore} {id : String} {record : AccountRecord}

theorem record?_upsertDiskRecord (store : AccountStore) (id id' : String) (path : AccountPath)
    (disk : AccountFile) :
    (store.upsertDiskRecord id path disk).record? id' =
      if id' = id then
        some (((store.record? id).map (upsertRecord path disk)).getD (newRecord id path disk))
      else store.record? id' := by
  unfold upsertDiskRecord
  split
  next old hold => simp [record?_modify, hold]
  next hnone => simp [record?_insert, hnone, newRecord]

/-- A record stays when files are loaded, and stays as it is if none is its own. -/
theorem reloaded_applyUpserts (upserts : List DiskSyncUpsert)
    (h : store.record? id = some record) :
    ∃ record', (store.applyUpserts upserts).record? id = some record' ∧
      Reloaded record record' ∧ ((∀ upsert ∈ upserts, upsert.id ≠ id) → record' = record) := by
  induction upserts generalizing store record with
  | nil => exact ⟨record, h, .refl record, fun _ => rfl⟩
  | cons upsert upserts ih =>
    by_cases hid : id = upsert.id
    · have hloaded : (store.upsertDiskRecord upsert.id upsert.path upsert.disk).record? id =
          some (upsertRecord upsert.path upsert.disk record) := by
        rw [record?_upsertDiskRecord, if_pos hid, ← hid, h]
        rfl
      obtain ⟨record', hrecord', hreloaded, -⟩ := ih hloaded
      refine ⟨record', hrecord', (Reloaded.upsertRecord _ _ record).trans hreloaded,
        fun hother => ?_⟩
      exact absurd hid.symm (hother upsert List.mem_cons_self)
    · have hkept : (store.upsertDiskRecord upsert.id upsert.path upsert.disk).record? id =
          some record := by rw [record?_upsertDiskRecord, if_neg hid, h]
      obtain ⟨record', hrecord', hreloaded, hsame⟩ := ih hkept
      exact ⟨record', hrecord', hreloaded, fun hother =>
        hsame fun upsert' hmem => hother upsert' (List.mem_cons_of_mem _ hmem)⟩

theorem record?_applyDiskSyncPlan (store : AccountStore) (plan : DiskSyncPlan) (id : String) :
    (store.applyDiskSyncPlan plan).record? id =
      ((store.applyUpserts plan.upserts).record? id).bind (retireUnseen plan id) := by
  simp [applyDiskSyncPlan, retireAllUnseen, record?, HashMap.lookup_filterMap]

theorem roundRobinCursor_upsertDiskRecord (store : AccountStore) (id : String)
    (path : AccountPath) (disk : AccountFile) :
    (store.upsertDiskRecord id path disk).roundRobinCursor = store.roundRobinCursor := by
  unfold upsertDiskRecord
  split <;> rfl

theorem roundRobinCursor_applyDiskSyncPlan (store : AccountStore) (plan : DiskSyncPlan) :
    (store.applyDiskSyncPlan plan).roundRobinCursor = store.roundRobinCursor := by
  have hupserts : ∀ (upserts : List DiskSyncUpsert) (store : AccountStore),
      (store.applyUpserts upserts).roundRobinCursor = store.roundRobinCursor := by
    intro upserts
    induction upserts with
    | nil => exact fun store => rfl
    | cons upsert upserts ih =>
      intro store
      exact (ih _).trans (roundRobinCursor_upsertDiskRecord store _ _ _)
  exact hupserts plan.upserts store

end AccountStore

/-- The operations that can happen while another call holds the disk lock. -/
abbrev betweenPlans (_ : AccountStore) (event : Time × StoreOp) : Prop := event.2.routine = true

theorem follows_of_run {store store' : AccountStore}
    (hrun : Run storeStep betweenPlans store store') : store.Follows store' := by
  refine hrun.invariant (I := store.Follows) (fun a event b ha hroutine hstep => ?_) (.refl store)
  obtain rfl := Option.some.inj hstep
  exact ha.trans (AccountStore.follows_apply hroutine)

/-- What a rescan of a directory leaves alone when its plan is applied to a store. -/
structure RescanFrame (dir : AccountsDir) (store store' : AccountStore) : Prop where
  fields : ∀ id r r', store.record? id = some r → store'.record? id = some r' →
    r' = { r with
      filePath := r'.filePath, label := r'.label, email := r'.email, detached := r'.detached }
  busy : ∀ id r, store.record? id = some r →
    0 < r.inFlightRequests ∨ r.refreshInFlight = true → (store'.record? id).isSome = true
  failed : ∀ id r, store.record? id = some r → id ∈ (scanAccountsDir dir).failedFileIds →
    ∃ r', store'.record? id = some r' ∧ r'.detached = r.detached
  tombstoned : ∀ id r r', store.record? id = some r → store'.record? id = some r' →
    r.authInvalidTombstone = true → r.detached = true → r'.detached = true

namespace AccountStore

variable {store₀ store : AccountStore} {dir : AccountsDir} {plan : DiskSyncPlan}

/-- The account of a file that failed to scan is loaded only while it is attached. -/
theorem attached_of_failed
    (hplan : store₀.buildDiskSyncPlan (scanAccountsDir dir) .rescan = some plan)
    {upsert : DiskSyncUpsert} (hmem : upsert ∈ plan.upserts)
    (hfailed : upsert.id ∈ (scanAccountsDir dir).failedFileIds) :
    ∃ r₀, store₀.record? upsert.id = some r₀ ∧ r₀.detached = false := by
  obtain ⟨token, target, htarget, rfl⟩ := (mem_plan_upserts hplan).mp hmem
  rcases htarget.cases with ⟨r₀, -, hpreferred, hid, -⟩ | ⟨-, entry, hentry, -, rfl⟩
  · obtain ⟨hr₀, hattached, -⟩ := preferredExistingRecord_spec hpreferred
    exact ⟨r₀, by rw [hid]; exact hr₀, hattached⟩
  · have hnone := AccountsDir.reading_of_mem_failedFileIds hfailed
    have hread := AccountsDir.reading_of_entry hentry
    rw [AccountsDir.entry_path_eq hentry, hnone] at hread
    cases hread

theorem rescanFrame_apply
    (hplan : store₀.buildDiskSyncPlan (scanAccountsDir dir) .rescan = some plan)
    (hrun : Run storeStep betweenPlans store₀ store) :
    RescanFrame dir store (store.applyDiskSyncPlan plan) := by
  obtain ⟨-, ⟨hmode, hfailedIds, -⟩, -⟩ := exists_groupPlan hplan
  -- a record after the plan is one that was loaded, kept or detached
  have hafter : ∀ id r, store.record? id = some r → ∃ r₁, Reloaded r r₁ ∧
      ((∀ upsert ∈ plan.upserts, upsert.id ≠ id) → r₁ = r) ∧
      (store.applyDiskSyncPlan plan).record? id = retireUnseen plan id r₁ := by
    intro id r hr
    obtain ⟨r₁, hr₁, hreloaded, hsame⟩ := reloaded_applyUpserts plan.upserts hr
    exact ⟨r₁, hreloaded, hsame, by rw [record?_applyDiskSyncPlan, hr₁]; rfl⟩
  have hunseen {id : String} (hid : id ∉ plan.seenIds) :
      ∀ upsert ∈ plan.upserts, upsert.id ≠ id := fun upsert hmem heq =>
    hid ((mem_plan_seenIds hplan).mpr ⟨upsert, hmem, heq⟩)
  refine ⟨fun id r r' hr hr' => ?_, fun id r hr hbusy => ?_, fun id r hr hfailed => ?_,
    fun id r r' hr hr' htombstone hdetached => ?_⟩
  · obtain ⟨r₁, hreloaded, -, hresult⟩ := hafter id r hr
    rw [hresult] at hr'
    unfold retireUnseen at hr'
    split_ifs at hr' <;> cases hr'
    · exact hreloaded.frame
    · exact hreloaded.frame
    · have hframe := congrArg detachRecord hreloaded.frame
      exact hframe
  · obtain ⟨r₁, hreloaded, -, hresult⟩ := hafter id r hr
    have hload : ¬(r₁.inFlightRequests = 0 ∧ r₁.refreshInFlight = false) := by
      rw [hreloaded.frame]
      rintro ⟨hidle, hquiet⟩
      rcases hbusy with hpos | hrefresh
      · simp only at hidle
        omega
      · simp only at hquiet
        rw [hquiet] at hrefresh
        cases hrefresh
    rw [hresult, retireUnseen, if_neg hload]
    split_ifs <;> rfl
  · obtain ⟨r₁, hreloaded, hsame, hresult⟩ := hafter id r hr
    by_cases hseen : id ∈ plan.seenIds
    · obtain ⟨upsert, hmem, rfl⟩ := (mem_plan_seenIds hplan).mp hseen
      obtain ⟨r₀, hr₀, hattached₀⟩ := attached_of_failed hplan hmem hfailed
      obtain ⟨r₀', hr₀', hfollows⟩ := follows_of_run hrun _ r hr
      obtain rfl := Option.some.inj (hr₀.symm.trans hr₀')
      have hattached : r.detached = false := hfollows.detached.trans hattached₀
      refine ⟨r₁, by rw [hresult, retireUnseen, if_pos hseen], ?_⟩
      rw [hattached, hreloaded.attached hattached]
    · obtain rfl := hsame (hunseen hseen)
      refine ⟨r₁, ?_, rfl⟩
      rw [hresult, retireUnseen, if_neg hseen, if_pos ⟨hmode, hfailedIds ▸ hfailed⟩]
  · obtain ⟨r₁, hreloaded, -, hresult⟩ := hafter id r hr
    have hdetached₁ : r₁.detached = true := (hreloaded.tombstone htombstone).trans hdetached
    rw [hresult] at hr'
    unfold retireUnseen at hr'
    split_ifs at hr' <;> cases hr'
    · exact hdetached₁
    · exact hdetached₁
    · rfl

end AccountStore

end Codaze.Accounts
