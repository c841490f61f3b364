import Codaze.Accounts.Operations

/-!
# The load of an account

The in-flight count and the refresh mark of an account, zero and unset for an account
the store does not know. Records are loaded idle and removed idle only, so the load
does not see insertions and removals, and each operation acts on it in one of four ways.
-/
namespace Codaze.Accounts
open Foundation

def AccountRecord.load (record : AccountRecord) : ℕ × Bool :=
  (record.inFlightRequests, record.refreshInFlight)

/-- The account an operation settles one selection of. -/
def StoreOp.settles? : StoreOp → Option String
  | markSuccess id | release id | fail id _ _ _ | prepareAuthInvalid id _ => some id
  | _ => none

/-- The account whose refresh mark an operation clears. -/
def StoreOp.clears? : StoreOp → Option String
  | markSuccess id | release id | fail id _ _ _ | prepareAuthInvalid id _ | invalidate id
  | refreshSuccess id _ => some id
  | _ => none

def StoreOp.selects : StoreOp → Bool
  | select .. => true
  | _ => false

theorem StoreOp.clears?_of_settles? {op : StoreOp} {id : String} (h : op.settles? = some id) :
    op.clears? = some id := by
  cases op <;> first | exact h | cases h

theorem StoreOp.selects_of_clears? {op : StoreOp} {id : String} (h : op.clears? = some id) :
    op.selects = false := by
  cases op <;> first | rfl | cases h

theorem expireRecord_load (now : Time) (r : AccountRecord) :
    (expireRecord now r).load = r.load := by
  simp only [expireRecord]
  split_ifs <;> rfl

theorem applyWake_load (now : Time) (r : AccountRecord) : (applyWake r now).1.load = r.load :=
  Prod.ext (applyWake_same r now).inFlightRequests (applyWake_same r now).refreshInFlight

theorem selectRecord_load (now : Time) (skew : ℤ) (r : AccountRecord)
    (hquiet : r.refreshInFlight = false) : (selectRecord now skew r).load =
      (saturatingSucc32 r.inFlightRequests, tokenNeedsRefresh r now skew) := by
  have hneeds : tokenNeedsRefresh { r with
      inFlightRequests := saturatingSucc32 r.inFlightRequests, lastSelectedAt := some now } now skew
        = tokenNeedsRefresh r now skew := rfl
  simp only [selectRecord, hneeds]
  split
  next hrefresh => simp [AccountRecord.load, hrefresh]
  next hrefresh => simp [AccountRecord.load, hrefresh, hquiet]

theorem failRecord_load (now : Time) (failure : FailureClass) (retryAfter : Option StdDuration)
    (details : String) (r : AccountRecord) :
    (failRecord now failure retryAfter details r).state.load = (r.inFlightRequests - 1, false) := by
  have hfixed (s : AccountRecord) (reason duration) :
      (applyFixedBlock s now reason duration).state.load = s.load := by
    have hsame := applyFixedBlock_same s now reason duration
    exact Prod.ext hsame.inFlightRequests hsame.refreshInFlight
  have hretryable (s : AccountRecord) (reason) :
      (applyRetryableBlock s now reason retryAfter).state.load = s.load := by
    have hsame := applyRetryableBlock_same s now reason retryAfter
    exact Prod.ext hsame.inFlightRequests hsame.refreshInFlight
  cases failure with
  | accessTokenRejected | riskControlled => exact hfixed _ _ _
  | authInvalid => rfl
  | rateLimited | quotaExhausted =>
    refine Outcome.andThen_induction
      (P := fun s : AccountRecord => s.load = (r.inFlightRequests - 1, false)) ?_ fun s hs => hs
    exact hretryable _ _
  | temporaryFailure =>
    simp only [failRecord]
    split
    · exact hretryable _ _
    · exact hfixed _ _ _
  | requestRejected | internalFailure =>
    simp only [failRecord, Outcome.state_returned]
    split <;> rfl

namespace AccountStore

variable {store : AccountStore} {now : Time}

def load (store : AccountStore) (id : String) : ℕ × Bool :=
  ((store.record? id).map (·.load)).getD (0, false)

theorem load_of_record? {id : String} {record : AccountRecord}
    (h : store.record? id = some record) : store.load id = record.load := by simp [load, h]

theorem load_of_unknown {id : String} (h : store.record? id = none) :
    store.load id = (0, false) := by simp [load, h]

/-- An account with a load is known. -/
theorem exists_record_of_refreshing {id : String} (h : (store.load id).2 = true) :
    ∃ record, store.record? id = some record ∧ record.refreshInFlight = true := by
  cases hrecord : store.record? id with
  | none => simp [load, hrecord] at h
  | some record => exact ⟨record, rfl, by simpa [load, hrecord, AccountRecord.load] using h⟩

theorem exists_record_of_loaded {id : String} (h : 0 < (store.load id).1) :
    ∃ record, store.record? id = some record := by
  cases hrecord : store.record? id with
  | some record => exact ⟨record, rfl⟩
  | none =>
    rw [load_of_unknown hrecord] at h
    cases h

/-- A bound on every record's in-flight count bounds the loads. -/
theorem load_lt_of_records {bound : ℕ} (hpos : 0 < bound)
    (h : ∀ record ∈ store.records.values, record.inFlightRequests < bound) (id : String) :
    (store.load id).1 < bound := by
  cases hrecord : store.record? id with
  | none =>
    rw [load_of_unknown hrecord]
    exact hpos
  | some record =>
    rw [load_of_record? hrecord]
    exact h record (HashMap.mem_values.mpr ⟨id, hrecord⟩)

theorem load_modify (id id' : String) (f : AccountRecord → AccountRecord)
    (hf : ∀ r, (f r).id = r.id) :
    (store.modify id f hf).load id' =
      if id' = id then ((store.record? id).map fun r => (f r).load).getD (0, false)
      else store.load id' := by
  simp only [load, record?_modify]
  split
  next => rw [Option.map_map]; rfl
  next => rfl

/-- Removing an idle record changes no load. -/
theorem load_maybeRemoveDetached (id id' : String) :
    (store.maybeRemoveDetached id).load id' = store.load id' := by
  simp only [load, record?_maybeRemoveDetached]
  split
  next hid =>
    subst hid
    cases hrecord : store.record? id' with
    | none => rfl
    | some record =>
      cases hremovable : removable record with
      | false => simp [Option.filter, hremovable]
      | true =>
        obtain ⟨-, hidle, hquiet⟩ := removable_iff.mp hremovable
        simp [Option.filter, hremovable, AccountRecord.load, hidle, hquiet]
  next => rfl

theorem load_update (id id' : String) (f : AccountRecord → AccountRecord)
    (hf : ∀ r, (f r).id = r.id) :
    (store.update id f hf).load id' =
      if id' = id then ((store.record? id).map fun r => (f r).load).getD (0, false)
      else store.load id' := by
  rw [update, load_maybeRemoveDetached, load_modify]

section change

variable {id : String} {f : AccountRecord → AccountRecord} {hf : ∀ r, (f r).id = r.id}

/-- A change of one account that acts on its load as `g`. -/
theorem load_update_of (g : ℕ × Bool → ℕ × Bool) (hload : ∀ r, (f r).load = g r.load)
    (hg : g (0, false) = (0, false)) (id' : String) :
    (store.update id f hf).load id' =
      if id = id' then g (store.load id') else store.load id' := by
  rw [load_update]
  by_cases hid : id' = id
  · subst hid
    cases hrecord : store.record? id' <;> simp [load, hrecord, hg, hload]
  · simp [hid, Ne.symm hid]

theorem load_modify_of (g : ℕ × Bool → ℕ × Bool) (hload : ∀ r, (f r).load = g r.load)
    (hg : g (0, false) = (0, false)) (id' : String) :
    (store.modify id f hf).load id' =
      if id = id' then g (store.load id') else store.load id' := by
  rw [← load_maybeRemoveDetached id id']
  exact load_update_of g hload hg id'

theorem load_modify_same (hload : ∀ r, (f r).load = r.load) (id' : String) :
    (store.modify id f hf).load id' = store.load id' :=
  (load_modify_of (fun l => l) hload rfl id').trans (ite_self _)

theorem load_update_same (hload : ∀ r, (f r).load = r.load) (id' : String) :
    (store.update id f hf).load id' = store.load id' :=
  (load_maybeRemoveDetached id id').trans (load_modify_same hload id')

theorem load_modifyAll (hload : ∀ r, (f r).load = r.load) (id' : String) :
    (store.modifyAll f hf).load id' = store.load id' := by
  simp [load, Option.map_map, Function.comp_def, hload]

end change

theorem load_upsertDiskRecord (store : AccountStore) (id : String) (path : AccountPath)
    (disk : AccountFile) (id' : String) :
    (store.upsertDiskRecord id path disk).load id' = store.load id' := by
  unfold upsertDiskRecord
  split
  next =>
    exact load_modify_same (f := upsertRecord path disk) (fun _ => rfl) id'
  next hnone =>
    by_cases hid : id' = id
    · subst hid
      rw [load_of_unknown hnone, load_of_record? (by rw [record?_insert]; exact if_pos rfl)]
      rfl
    · rw [load, record?_insert, if_neg (by simpa [newRecord] using hid), load]

theorem load_applyUpserts (upserts : List DiskSyncUpsert) (store : AccountStore) (id : String) :
    (store.applyUpserts upserts).load id = store.load id := by
  induction upserts generalizing store with
  | nil => rfl
  | cons upsert upserts ih => exact (ih _).trans (load_upsertDiskRecord store _ _ _ id)

theorem load_retireAllUnseen (store : AccountStore) (plan : DiskSyncPlan) (id : String) :
    (store.retireAllUnseen plan).load id = store.load id := by
  have hrecord : (store.retireAllUnseen plan).record? id =
      (store.record? id).bind (retireUnseen plan id) := HashMap.lookup_filterMap _ _ _
  rw [load, hrecord]
  cases hold : store.record? id with
  | none => simp [load, hold]
  | some record =>
    rw [Option.bind_some, load_of_record? hold]
    unfold retireUnseen
    split_ifs with hseen hfailed hidle
    · rfl
    · rfl
    · simp [AccountRecord.load, hidle]
    · rfl

theorem load_applyImportAccountPlan (store : AccountStore) (plan : ImportAccountPlan)
    (id : String) : (store.applyImportAccountPlan plan).1.load id = store.load id := by
  unfold applyImportAccountPlan
  cases plan.apply with
  | none => rfl
  | insert accountId path disk => exact load_upsertDiskRecord store accountId path disk id
  | updateMetadata accountId label email =>
    dsimp only
    split
    next => rfl
    next =>
      dsimp only
      exact load_modify_same (f := updateMetadataRecord label email) (fun _ => rfl) id

/-- A settlement of one selection, the refresh mark cleared with it. -/
def leave (l : ℕ × Bool) : ℕ × Bool := (l.1 - 1, false)

def clear (l : ℕ × Bool) : ℕ × Bool := (l.1, false)

theorem load_applyFailure (id : String) (failure : FailureClass)
    (retryAfter : Option StdDuration) (details : String) (id' : String) :
    (store.applyFailure now id failure retryAfter details).state.load id' =
      if id = id' then leave (store.load id') else store.load id' := by
  have hload (r : AccountRecord) :
      (failRecord now failure retryAfter details r).state.load = leave r.load :=
    failRecord_load now failure retryAfter details r
  unfold applyFailure
  split
  next hnone =>
    have hunknown := Option.map_eq_none_iff.mp hnone
    rw [Outcome.state_returned]
    split
    next hid => subst hid; rw [load_of_unknown hunknown]; rfl
    next => rfl
  next =>
    rw [Outcome.state_returned]
    exact load_update_of leave hload rfl id'
  next =>
    rw [Outcome.state_panicked]
    exact load_modify_of leave hload rfl id'

/-- An operation that selects nothing acts on the loads through what it settles and clears. -/
theorem load_apply {op : StoreOp} (hop : op.selects = false) (id : String) :
    (store.apply now op).load id =
      if op.settles? = some id then leave (store.load id)
      else if op.clears? = some id then clear (store.load id)
      else store.load id := by
  have hunknown {accountId : String} (h : store.record? accountId = none)
      (g : ℕ × Bool → ℕ × Bool) (hg : g (0, false) = (0, false)) :
      store.load id = if accountId = id then g (store.load id) else store.load id := by
    split
    next hid => subst hid; rw [load_of_unknown h, hg]
    next => rfl
  have hneutral (hnone : op.clears? = none) (h : (store.apply now op).load id = store.load id) :
      (store.apply now op).load id =
        if op.settles? = some id then leave (store.load id)
        else if op.clears? = some id then clear (store.load id)
        else store.load id := by
    have hsettles : op.settles? ≠ some id := fun h => by simp [op.clears?_of_settles? h] at hnone
    rw [if_neg hsettles, hnone, if_neg (by simp)]
    exact h
  cases op with
  | select => cases hop
  | read => rfl
  | sweep =>
    refine hneutral rfl ?_
    rw [apply, refreshExpiredBlocks]
    exact load_modifyAll (expireRecord_load now) id
  | wake accountId =>
    refine hneutral rfl ?_
    cases haccount : store.record? accountId with
    | none => simp [apply, wakeAccount, haccount]
    | some _ =>
      simp only [apply, wakeAccount, haccount, Option.map_some, Option.getD_some]
      exact load_modify_same (applyWake_load now) id
  | wakeAll =>
    refine hneutral rfl ?_
    rw [apply, wakeAllAccounts]
    exact load_modifyAll (applyWake_load now) id
  | markSuccess accountId =>
    simp only [apply, markRequestSuccess, StoreOp.settles?, Option.some.injEq]
    rw [load_update_of leave (fun r => ?_) rfl]
    · simp +contextual [StoreOp.clears?]
    · simp only [markSuccessRecord]
      split <;> rfl
  | invalidate accountId =>
    simp only [apply, invalidateAccessToken, StoreOp.settles?, StoreOp.clears?, Option.some.injEq]
    rw [load_update_of clear (fun r => ?_) rfl]
    · simp
    · simp only [invalidateRecord]
      split <;> rfl
  | release accountId =>
    simp only [apply, releaseSelection, StoreOp.settles?, Option.some.injEq]
    rw [load_update_of leave (fun r => ?_) rfl]
    · simp +contextual [StoreOp.clears?]
    · simp only [releaseRecord]
      split <;> rfl
  | fail accountId failure retryAfter details =>
    simp only [apply, markRequestFailure, StoreOp.settles?, Option.some.injEq]
    rw [load_applyFailure]
    simp +contextual [StoreOp.clears?]
  | refreshSuccess accountId refreshed =>
    simp only [apply, StoreOp.settles?, StoreOp.clears?, Option.some.injEq, reduceCtorEq, if_false]
    cases haccount : store.record? accountId with
    | none =>
      simp only [finishRefreshSuccessWithoutPersist, haccount, Option.map_none, Option.getD_none]
      exact hunknown haccount clear rfl
    | some _ =>
      simp only [finishRefreshSuccessWithoutPersist, haccount, Option.map_some, Option.getD_some]
      refine load_update_of clear (fun r => ?_) rfl id
      simp only [refreshSuccessRecord]
      split <;> rfl
  | prepareAuthInvalid accountId details =>
    simp only [apply, StoreOp.settles?, StoreOp.clears?, Option.some.injEq]
    cases haccount : store.record? accountId with
    | none =>
      simp only [prepareAuthInvalidFailure, haccount, Option.map_none, Option.getD_none]
      refine (hunknown haccount leave rfl).trans ?_
      simp +contextual
    | some _ =>
      simp only [prepareAuthInvalidFailure, haccount, Option.map_some, Option.getD_some]
      rw [load_modify_of leave (fun _ => rfl) rfl]
      simp +contextual
  | finalizeAuthInvalid accountId =>
    refine hneutral rfl ?_
    cases haccount : store.record? accountId with
    | none => simp [apply, finalizeAuthInvalidFailure, haccount]
    | some _ =>
      simp only [apply, finalizeAuthInvalidFailure, haccount, Option.map_some, Option.getD_some]
      exact load_update_same (f := finalizeAuthInvalidRecord now) (fun _ => rfl) id
  | noteTrashFailure accountId error =>
    refine hneutral rfl ?_
    rw [apply, noteAuthInvalidTrashFailure]
    exact load_modify_same (f := noteTrashFailureRecord now error) (fun _ => rfl) id
  | applyImport plan => exact hneutral rfl (load_applyImportAccountPlan store plan id)
  | applyRemove plan =>
    refine hneutral rfl ?_
    rw [apply, applyRemoveAccountPlan]
    exact load_update_same (f := detachRecord) (fun _ => rfl) id
  | applySync plan =>
    exact hneutral rfl ((load_retireAllUnseen _ plan id).trans (load_applyUpserts _ store id))
  | rehash order => exact hneutral rfl (by simp [apply, load])

/-- A selection marks an account whose mark was clear, and the account alone. -/
theorem load_select {policy : RoutingPolicy} {skew : ℤ} {excluded : Finset String}
    {selection : AccountSelection} {store' : AccountStore}
    (h : store.selectAccount now policy skew excluded = (.ok selection, store')) (id : String) :
    (store.load selection.accountId).2 = false ∧
      store'.load id = if selection.accountId = id then
          (saturatingSucc32 (store.load id).1, selection.needsRefresh)
        else store.load id := by
  obtain ⟨record, hrecord, heligible, -, -, hneeds, hstore⟩ := selectAccount_ok h
  have hquiet := (isEligible_iff.mp heligible).2.1
  have hload := expireRecord_load now record
  have hmark : (store.load selection.accountId).2 = false := by
    rw [load_of_record? hrecord, ← hload]
    exact hquiet
  refine ⟨hmark, ?_⟩
  rw [load, hstore]
  split
  next hid =>
    subst hid
    rw [hrecord, Option.map_some, Option.map_some, if_pos rfl, Option.getD_some,
      selectRecord_load now skew _ hquiet, load_of_record? hrecord, ← hload, hneeds]
    rfl
  next hid =>
    simp only [Ne.symm hid, if_false, Option.map_map]
    cases hother : store.record? id <;> simp [load, hother, expireRecord_load]

theorem load_select_error {policy : RoutingPolicy} {skew : ℤ} {excluded : Finset String}
    {failure : SelectionFailure} {store' : AccountStore}
    (h : store.selectAccount now policy skew excluded = (.error failure, store')) (id : String) :
    store'.load id = store.load id := by
  rw [load, (selectAccount_error h).2]
  cases hother : store.record? id <;> simp [load, hother, expireRecord_load]

end AccountStore

end Codaze.Accounts
