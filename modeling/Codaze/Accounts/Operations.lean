import Codaze.Accounts.Disk
import Codaze.Foundation.Runs

/-!
# Critical sections of the account store

Every access to the store happens under its lock and without awaiting, so the store
as the rest of the program sees it is a transition system whose steps are the
operations below. `RecordChange` lists what one of them can do to a record that is
there before and after it; an invariant of single records is proved against that
list, once per row.
-/
namespace Codaze.Accounts
open Foundation

/-- One operation on the locked store. -/
inductive StoreOp where
  /-- A read: a view, an upstream account, an import, removal or sync plan. -/
  | read
  /-- `list` and `summarize_selection_failure`. -/
  | sweep
  | select (policy : RoutingPolicy) (refreshSkewSeconds : ℤ) (excluded : Finset String)
  | wake (id : String)
  | wakeAll
  | markSuccess (id : String)
  | invalidate (id : String)
  | release (id : String)
  | fail (id : String) (failure : FailureClass) (retryAfter : Option StdDuration)
      (details : String)
  | refreshSuccess (id : String) (refreshed : RefreshedAccount)
  | prepareAuthInvalid (id details : String)
  | finalizeAuthInvalid (id : String)
  | noteTrashFailure (id error : String)
  | applyImport (plan : ImportAccountPlan)
  | applyRemove (plan : RemoveAccountPlan)
  | applySync (plan : DiskSyncPlan)
  /-- The hash map iterates in another order. -/
  | rehash (order : List String)

/-- The store after an operation; its errors leave the store as it is. -/
def AccountStore.apply (store : AccountStore) (now : Time) : StoreOp → AccountStore
  | .read => store
  | .sweep => store.refreshExpiredBlocks now
  | .select policy skew excluded => (store.selectAccount now policy skew excluded).2
  | .wake id => ((store.wakeAccount now id).map (·.1)).getD store
  | .wakeAll => store.wakeAllAccounts now
  | .markSuccess id => store.markRequestSuccess now id
  | .invalidate id => store.invalidateAccessToken now id
  | .release id => store.releaseSelection now id
  | .fail id failure retryAfter details =>
    (store.markRequestFailure now id failure retryAfter details).state
  | .refreshSuccess id refreshed =>
    ((store.finishRefreshSuccessWithoutPersist now id refreshed).map (·.1)).getD store
  | .prepareAuthInvalid id details =>
    ((store.prepareAuthInvalidFailure now id details).map (·.1)).getD store
  | .finalizeAuthInvalid id => (store.finalizeAuthInvalidFailure now id).getD store
  | .noteTrashFailure id error => store.noteAuthInvalidTrashFailure now id error
  | .applyImport plan => (store.applyImportAccountPlan plan).1
  | .applyRemove plan => store.applyRemoveAccountPlan plan
  | .applySync plan => store.applyDiskSyncPlan plan
  | .rehash order => store.rehash order

/-- The transition system of the store; an event is an operation at a clock reading. -/
def storeStep (store : AccountStore) (event : Time × StoreOp) : Option AccountStore :=
  some (store.apply event.1 event.2)

/-- The account files an operation loads into records. -/
def StoreOp.upserts : StoreOp → List DiskSyncUpsert
  | .applyImport plan => match plan.apply with
    | .insert id path disk => [{ id, path, disk }]
    | _ => []
  | .applySync plan => plan.upserts
  | _ => []

/-- What an operation can do, in one move, to a record. -/
inductive RecordChange (now : Time) : StoreOp → AccountRecord → AccountRecord → Prop
  | expire {r} : RecordChange now .sweep r (expireRecord now r)
  | expireBeforeSelect {policy skew excluded r} :
      RecordChange now (.select policy skew excluded) r (expireRecord now r)
  | select {policy skew excluded r} (heligible : isEligible r now = true) :
      RecordChange now (.select policy skew excluded) r (selectRecord now skew r)
  | wake {r} : RecordChange now (.wake r.id) r (applyWake r now).1
  | wakeAll {r} : RecordChange now .wakeAll r (applyWake r now).1
  | markSuccess {r} : RecordChange now (.markSuccess r.id) r (markSuccessRecord now r)
  | invalidate {r} : RecordChange now (.invalidate r.id) r (invalidateRecord now r)
  | release {r} : RecordChange now (.release r.id) r (releaseRecord now r)
  | fail {failure retryAfter details r} :
      RecordChange now (.fail r.id failure retryAfter details) r
        (failRecord now failure retryAfter details r).state
  | refreshSuccess {refreshed r} :
      RecordChange now (.refreshSuccess r.id refreshed) r (refreshSuccessRecord now refreshed r)
  | prepareAuthInvalid {details r} :
      RecordChange now (.prepareAuthInvalid r.id details) r
        (prepareAuthInvalidRecord now details r)
  | finalizeAuthInvalid {r} :
      RecordChange now (.finalizeAuthInvalid r.id) r (finalizeAuthInvalidRecord now r)
  | noteTrashFailure {error r} :
      RecordChange now (.noteTrashFailure r.id error) r (noteTrashFailureRecord now error r)
  | updateMetadata {plan label email r} :
      RecordChange now (.applyImport plan) r (AccountStore.updateMetadataRecord label email r)
  | upsert {op path disk r} (hupsert : ⟨r.id, path, disk⟩ ∈ op.upserts) :
      RecordChange now op r (AccountStore.upsertRecord path disk r)
  | remove {plan r} : RecordChange now (.applyRemove plan) r (AccountStore.detachRecord r)
  | retire {plan r} : RecordChange now (.applySync plan) r (AccountStore.detachRecord r)

/-- Any number of moves of one operation. -/
abbrev RecordChanges (now : Time) (op : StoreOp) : AccountRecord → AccountRecord → Prop :=
  Relation.ReflTransGen (RecordChange now op)

theorem RecordChanges.invariant {P : AccountRecord → Prop} {now : Time} {op : StoreOp}
    {r r' : AccountRecord} (hrun : RecordChanges now op r r')
    (hchange : ∀ r r', RecordChange now op r r' → P r → P r') (hr : P r) : P r' := by
  induction hrun with
  | refl => exact hr
  | tail _ hlast ih => exact hchange _ _ hlast ih

/-- A record after an operation is one from before it, changed, or one newly loaded. -/
def Traced (store : AccountStore) (now : Time) (op : StoreOp) (id : String)
    (record : AccountRecord) : Prop :=
  (∃ old, store.record? id = some old ∧ RecordChanges now op old record) ∨
    store.record? id = none ∧ ∃ upsert ∈ op.upserts, upsert.id = id ∧
      RecordChanges now op (AccountStore.newRecord id upsert.path upsert.disk) record

namespace Traced

variable {store : AccountStore} {now : Time} {op : StoreOp} {id : String}
  {old record : AccountRecord}

theorem same (h : store.record? id = some record) : Traced store now op id record :=
  .inl ⟨record, h, .refl⟩

theorem one (h : store.record? id = some old) (hchange : RecordChange now op old record) :
    Traced store now op id record := .inl ⟨old, h, .single hchange⟩

theorem tail (h : Traced store now op id old) (hchange : RecordChange now op old record) :
    Traced store now op id record := by
  rcases h with ⟨r, hr, hchanges⟩ | ⟨hnone, upsert, hmem, hid, hchanges⟩
  · exact .inl ⟨r, hr, hchanges.tail hchange⟩
  · exact .inr ⟨hnone, upsert, hmem, hid, hchanges.tail hchange⟩

/-- What the moves of the operation preserve and new records have, the record has. -/
theorem invariant {P : AccountRecord → Prop}
    (hchange : ∀ r r', RecordChange now op r r' → P r → P r')
    (hnew : ∀ id path disk, P (AccountStore.newRecord id path disk))
    (hold : ∀ r, store.record? id = some r → P r) (h : Traced store now op id record) :
    P record := by
  rcases h with ⟨r, hr, hrun⟩ | ⟨-, upsert, -, -, hrun⟩
  · exact hrun.invariant hchange (hold r hr)
  · exact hrun.invariant hchange (hnew _ _ _)

end Traced

theorem RecordChange.id_eq {now : Time} {op : StoreOp} {r r' : AccountRecord}
    (h : RecordChange now op r r') : r'.id = r.id := by
  cases h with
  | expire | expireBeforeSelect => exact (expireRecord_same now r).id
  | select => exact (selectRecord_same now _ r).id
  | wake | wakeAll => exact (applyWake_same r now).id
  | markSuccess => exact (markSuccessRecord_same now r).id
  | invalidate => exact (invalidateRecord_same now r).id
  | release => exact (releaseRecord_same now r).id
  | fail => exact (failRecord_same now _ _ _ r).id
  | refreshSuccess => exact refreshSuccessRecord_id now _ r
  | prepareAuthInvalid | finalizeAuthInvalid | noteTrashFailure | updateMetadata | upsert
  | remove | retire => rfl

/-- The operations that leave the identity of every account alone. -/
def StoreOp.routine : StoreOp → Bool
  | read | sweep | select .. | wake _ | wakeAll | markSuccess _ | invalidate _ | release _
  | fail .. | noteTrashFailure .. | rehash _ => true
  | refreshSuccess .. | prepareAuthInvalid .. | finalizeAuthInvalid _ | applyImport _
  | applyRemove _ | applySync _ => false

theorem StoreOp.upserts_of_routine {op : StoreOp} (h : op.routine = true) : op.upserts = [] := by
  cases op with
  | refreshSuccess | prepareAuthInvalid | finalizeAuthInvalid | applyImport | applyRemove
  | applySync => cases h
  | _ => rfl

theorem RecordChange.same {now : Time} {op : StoreOp} {r r' : AccountRecord}
    (h : RecordChange now op r r') (hroutine : op.routine = true) : SameAccount r r' := by
  cases h with
  | expire | expireBeforeSelect => exact expireRecord_same now r
  | select => exact selectRecord_same now _ r
  | wake | wakeAll => exact (applyWake_same r now).sameAccount (.refl r)
  | markSuccess => exact markSuccessRecord_same now r
  | invalidate => exact invalidateRecord_same now r
  | release => exact releaseRecord_same now r
  | fail => exact failRecord_same now _ _ _ r
  | noteTrashFailure => exact noteTrashFailureRecord_same now _ r
  | upsert hupsert => simp [op.upserts_of_routine hroutine] at hupsert
  | refreshSuccess | prepareAuthInvalid | finalizeAuthInvalid | updateMetadata | remove | retire =>
    cases hroutine

namespace AccountStore

@[simp] theorem record?_setCursor (store : AccountStore) (cursor : ℕ) (id : String) :
    ({ store with roundRobinCursor := cursor } : AccountStore).record? id = store.record? id := rfl

/-- The chosen record was eligible after the sweep; it alone is marked. -/
theorem selectAccount_ok {store store' : AccountStore} {now : Time} {policy : RoutingPolicy}
    {skew : ℤ} {excluded : Finset String} {selection : AccountSelection}
    (h : store.selectAccount now policy skew excluded = (.ok selection, store')) :
    ∃ record, store.record? selection.accountId = some record ∧
      isEligible (expireRecord now record) now = true ∧
      selection.accountId ∉ excluded ∧
      selection.refreshToken = record.refreshToken ∧
      selection.needsRefresh = tokenNeedsRefresh (expireRecord now record) now skew ∧
      ∀ id, store'.record? id = (store.record? id).map fun r =>
        if id = selection.accountId then selectRecord now skew (expireRecord now r)
        else expireRecord now r := by
  simp only [selectAccount] at h
  split at h
  next => cases h
  next accountId cursor hselect =>
    split at h
    next => cases h
    next swept hswept =>
      obtain ⟨hselection, hstore⟩ := Prod.mk.inj h
      obtain rfl := Except.ok.inj hselection
      obtain ⟨candidate, hmem, rfl⟩ := selectCandidate_mem (congrArg Prod.fst hselect)
      obtain ⟨swept', hswept', heligible, hexcluded⟩ := mem_buildRouteCandidates hmem
      obtain rfl : swept = swept' := Option.some.inj (hswept.symm.trans hswept')
      rw [refreshExpiredBlocks, record?_modifyAll] at hswept'
      obtain ⟨record, hrecord, rfl⟩ := Option.map_eq_some_iff.mp hswept'
      refine ⟨record, hrecord, heligible, hexcluded, ?_, rfl, fun id => ?_⟩
      · exact (expireRecord_same now record).refreshToken
      · have hsweep (id') : (store.refreshExpiredBlocks now).record? id' =
            (store.record? id').map (expireRecord now) := record?_modifyAll store _ _ id'
        rw [← hstore, record?_modify]
        by_cases hid : id = candidate.accountId
        · subst hid
          simp only [record?_setCursor, hsweep, Option.map_map, if_true]
          rfl
        · simp only [record?_setCursor, hsweep, hid, if_false]

theorem selectAccount_error {store store' : AccountStore} {now : Time} {policy : RoutingPolicy}
    {skew : ℤ} {excluded : Finset String} {failure : SelectionFailure}
    (h : store.selectAccount now policy skew excluded = (.error failure, store')) :
    failure = .noEligibleAccount ∧
      ∀ id, store'.record? id = (store.record? id).map (expireRecord now) := by
  simp only [selectAccount] at h
  split at h
  next cursor hselect =>
    obtain ⟨hfailure, rfl⟩ := Prod.mk.inj h
    exact ⟨(Except.error.inj hfailure).symm, record?_modifyAll store _ _⟩
  next accountId cursor hselect =>
    obtain ⟨candidate, hmem, rfl⟩ := selectCandidate_mem (congrArg Prod.fst hselect)
    obtain ⟨record, hrecord, -, -⟩ := mem_buildRouteCandidates hmem
    split at h
    next hnone => exact absurd (hrecord.symm.trans hnone) (by simp)
    next => cases h

/-- The failure operation, panicked or not, changes its own record only. -/
theorem of_record?_applyFailure {store : AccountStore} {now : Time} {id id' : String}
    {failure : FailureClass} {retryAfter : Option StdDuration} {details : String}
    {record : AccountRecord}
    (h : (store.applyFailure now id failure retryAfter details).state.record? id' = some record) :
    ∃ old, store.record? id' = some old ∧
      record = if id' = id then (failRecord now failure retryAfter details old).state else old := by
  simp only [applyFailure] at h
  split at h
  next hnone =>
    have hid : id' ≠ id := by
      rintro rfl
      simp [Option.map_eq_none_iff.mp hnone] at h
    exact ⟨record, h, by simp [hid]⟩
  next =>
    rw [Outcome.state_returned] at h
    exact of_record?_update h
  next =>
    rw [Outcome.state_panicked] at h
    exact of_record?_modify h

/-- An operation on one account that does nothing when the account is missing. -/
theorem of_record?_getD {store : AccountStore} {id id' : String}
    {changed : AccountRecord → AccountStore} {f : AccountRecord → AccountRecord}
    {record : AccountRecord}
    (h : (((store.record? id).map changed).getD store).record? id' = some record)
    (hchanged : ∀ known, (changed known).record? id' = some record →
      ∃ old, store.record? id' = some old ∧ record = if id' = id then f old else old) :
    ∃ old, store.record? id' = some old ∧ record = if id' = id then f old else old := by
  cases hknown : store.record? id with
  | none =>
    simp only [hknown, Option.map_none, Option.getD_none] at h
    have hid : id' ≠ id := by
      rintro rfl
      simp [hknown] at h
    exact ⟨record, h, (if_neg hid).symm⟩
  | some known =>
    simp only [hknown, Option.map_some, Option.getD_some] at h
    exact hchanged known h

theorem of_record?_wake {store : AccountStore} {now : Time} {id id' : String}
    {record : AccountRecord} (h : (store.apply now (.wake id)).record? id' = some record) :
    ∃ old, store.record? id' = some old ∧
      record = if id' = id then (applyWake old now).1 else old := by
  simp only [apply, wakeAccount, Option.map_map] at h
  refine of_record?_getD h fun _ hr => ?_
  dsimp only [Function.comp_apply] at hr
  exact of_record?_modify hr

/-- What a commit leaves: the account has the new token, if there is one. -/
theorem of_record?_refreshSuccess {store : AccountStore} {now : Time} {id id' : String}
    {refreshed : RefreshedAccount} {record : AccountRecord}
    (h : (store.apply now (.refreshSuccess id refreshed)).record? id' = some record) :
    ∃ old, store.record? id' = some old ∧
      record = if id' = id then refreshSuccessRecord now refreshed old else old := by
  simp only [apply, finishRefreshSuccessWithoutPersist, Option.map_map] at h
  exact of_record?_getD h fun _ hr => of_record?_update hr

theorem of_record?_prepareAuthInvalid {store : AccountStore} {now : Time} {id id' : String}
    {details : String} {record : AccountRecord}
    (h : (store.apply now (.prepareAuthInvalid id details)).record? id' = some record) :
    ∃ old, store.record? id' = some old ∧
      record = if id' = id then prepareAuthInvalidRecord now details old else old := by
  simp only [apply, prepareAuthInvalidFailure, Option.map_map] at h
  refine of_record?_getD h fun _ hr => ?_
  dsimp only [Function.comp_apply] at hr
  exact of_record?_modify hr

theorem of_record?_finalizeAuthInvalid {store : AccountStore} {now : Time} {id id' : String}
    {record : AccountRecord}
    (h : (store.apply now (.finalizeAuthInvalid id)).record? id' = some record) :
    ∃ old, store.record? id' = some old ∧
      record = if id' = id then finalizeAuthInvalidRecord now old else old :=
  of_record?_getD h fun _ hr => of_record?_update hr

theorem of_record?_upsertDiskRecord {store : AccountStore} {id id' : String} {path : AccountPath}
    {disk : AccountFile} {record : AccountRecord}
    (h : (store.upsertDiskRecord id path disk).record? id' = some record) :
    (∃ old, store.record? id' = some old ∧
      record = if id' = id then upsertRecord path disk old else old) ∨
    id' = id ∧ store.record? id = none ∧ record = newRecord id path disk := by
  unfold upsertDiskRecord at h
  split at h
  next => exact .inl (of_record?_modify h)
  next hnone =>
    rw [record?_insert] at h
    by_cases hid : id' = id
    · subst hid
      exact .inr ⟨rfl, hnone, by simpa [newRecord, eq_comm] using h⟩
    · exact .inl ⟨record, by simpa [newRecord, hid] using h, by simp [hid]⟩

theorem of_record?_retireAllUnseen {store : AccountStore} {plan : DiskSyncPlan} {id : String}
    {record : AccountRecord} (h : (store.retireAllUnseen plan).record? id = some record) :
    ∃ old, store.record? id = some old ∧ retireUnseen plan id old = some record := by
  rw [record?, retireAllUnseen, HashMap.lookup_filterMap] at h
  exact Option.bind_eq_some_iff.mp h

theorem record?_of_upsertDiskRecord_eq_none {store : AccountStore} {id id' : String}
    {path : AccountPath} {disk : AccountFile}
    (h : (store.upsertDiskRecord id path disk).record? id' = none) : store.record? id' = none := by
  unfold upsertDiskRecord at h
  split at h
  next =>
    rw [record?_modify] at h
    split at h
    next hid => rw [hid]; exact Option.map_eq_none_iff.mp h
    next => exact h
  next hnone =>
    rw [record?_insert] at h
    split at h
    next => cases h
    next => exact h

theorem traced_upsertDiskRecord {store store' : AccountStore} {now : Time} {op : StoreOp}
    {upsert : DiskSyncUpsert} (hmem : upsert ∈ op.upserts)
    (hkeeps : ∀ id, store'.record? id = none → store.record? id = none)
    (htraced : ∀ id record, store'.record? id = some record → Traced store now op id record)
    {id : String} {record : AccountRecord}
    (h : (store'.upsertDiskRecord upsert.id upsert.path upsert.disk).record? id = some record) :
    Traced store now op id record := by
  rcases of_record?_upsertDiskRecord h with ⟨old, hold, rfl⟩ | ⟨rfl, hnone, rfl⟩
  · have htrace := htraced id old hold
    by_cases hid : id = upsert.id
    · rw [if_pos hid]
      refine htrace.tail (.upsert ?_)
      rw [id_of_record? hold, hid]
      exact hmem
    · simpa [hid] using htrace
  · exact .inr ⟨hkeeps _ hnone, upsert, hmem, rfl, .refl⟩

theorem traced_applyUpserts {store : AccountStore} {now : Time} {op : StoreOp}
    (upserts : List DiskSyncUpsert) (hmem : ∀ upsert ∈ upserts, upsert ∈ op.upserts)
    {store' : AccountStore} (hkeeps : ∀ id, store'.record? id = none → store.record? id = none)
    (htraced : ∀ id record, store'.record? id = some record → Traced store now op id record)
    {id : String} {record : AccountRecord}
    (h : (store'.applyUpserts upserts).record? id = some record) :
    Traced store now op id record := by
  induction upserts generalizing store' with
  | nil => exact htraced id record h
  | cons upsert upserts ih =>
    refine ih (fun u hu => hmem u (List.mem_cons_of_mem upsert hu)) (fun id hnone => ?_)
      (fun _ _ => ?_) h
    · exact hkeeps id (record?_of_upsertDiskRecord_eq_none hnone)
    · exact traced_upsertDiskRecord (hmem upsert List.mem_cons_self) hkeeps htraced

/-- The record of an operation that updates one account is traced. -/
theorem traced_of_update {store : AccountStore} {now : Time} {op : StoreOp} {id id' : String}
    {f : AccountRecord → AccountRecord} {record : AccountRecord}
    (hchange : ∀ r, r.id = id → RecordChange now op r (f r))
    (h : ∃ old, store.record? id' = some old ∧ record = if id' = id then f old else old) :
    Traced store now op id' record := by
  obtain ⟨old, hold, rfl⟩ := h
  split
  next hid => exact .one hold (hchange old ((id_of_record? hold).trans hid))
  next => exact .same hold

/-- Every record of the store after an operation is traced. -/
theorem traced_apply {store : AccountStore} {now : Time} {op : StoreOp} {id : String}
    {record : AccountRecord} (h : (store.apply now op).record? id = some record) :
    Traced store now op id record := by
  cases op with
  | read => exact .same h
  | sweep =>
    rw [apply, refreshExpiredBlocks, record?_modifyAll] at h
    obtain ⟨old, hold, rfl⟩ := Option.map_eq_some_iff.mp h
    exact .one hold .expire
  | select policy skew excluded =>
    rw [apply] at h
    rcases hselect : store.selectAccount now policy skew excluded with ⟨⟨⟩ | selection, store'⟩
    · rw [hselect, (selectAccount_error hselect).2] at h
      obtain ⟨old, hold, rfl⟩ := Option.map_eq_some_iff.mp h
      exact .one hold .expireBeforeSelect
    · obtain ⟨chosen, hchosen, heligible, -, -, -, hstore⟩ := selectAccount_ok hselect
      rw [hselect, hstore] at h
      obtain ⟨old, hold, rfl⟩ := Option.map_eq_some_iff.mp h
      have hexpire : Traced store now (.select policy skew excluded) id (expireRecord now old) :=
        .one hold .expireBeforeSelect
      split
      next hid =>
        obtain rfl : chosen = old := Option.some.inj (hchosen.symm.trans (hid ▸ hold))
        exact hexpire.tail (.select heligible)
      next => exact hexpire
  | wake accountId => exact traced_of_update (fun r hr => hr ▸ .wake) (of_record?_wake h)
  | wakeAll =>
    rw [apply, wakeAllAccounts, record?_modifyAll] at h
    obtain ⟨old, hold, rfl⟩ := Option.map_eq_some_iff.mp h
    exact .one hold .wakeAll
  | markSuccess accountId =>
    exact traced_of_update (fun r hr => hr ▸ .markSuccess) (of_record?_update h)
  | invalidate accountId =>
    exact traced_of_update (fun r hr => hr ▸ .invalidate) (of_record?_update h)
  | release accountId =>
    exact traced_of_update (fun r hr => hr ▸ .release) (of_record?_update h)
  | fail accountId failure retryAfter details =>
    refine traced_of_update (fun r hr => ?_) (of_record?_applyFailure h)
    subst hr
    exact .fail
  | refreshSuccess accountId refreshed =>
    exact traced_of_update (fun r hr => hr ▸ .refreshSuccess) (of_record?_refreshSuccess h)
  | prepareAuthInvalid accountId details =>
    exact traced_of_update (fun r hr => hr ▸ .prepareAuthInvalid) (of_record?_prepareAuthInvalid h)
  | finalizeAuthInvalid accountId =>
    exact traced_of_update (fun r hr => hr ▸ .finalizeAuthInvalid)
      (of_record?_finalizeAuthInvalid h)
  | noteTrashFailure accountId error =>
    simp only [apply, noteAuthInvalidTrashFailure] at h
    exact traced_of_update (fun r hr => hr ▸ .noteTrashFailure) (of_record?_modify h)
  | applyImport plan =>
    simp only [apply, applyImportAccountPlan] at h
    split at h
    next => exact .same h
    next accountId path disk hplan =>
      have hmem : ⟨accountId, path, disk⟩ ∈ (StoreOp.applyImport plan).upserts := by
        simp [StoreOp.upserts, hplan]
      exact traced_upsertDiskRecord hmem (fun _ h => h) (fun _ _ => .same) h
    next accountId label email hplan =>
      split at h
      next => exact .same h
      next =>
        dsimp only at h
        exact traced_of_update (fun _ _ => .updateMetadata) (of_record?_modify h)
  | applyRemove plan => exact traced_of_update (fun _ _ => .remove) (of_record?_update h)
  | applySync plan =>
    obtain ⟨old, hold, hretire⟩ := of_record?_retireAllUnseen h
    have hmem : ∀ upsert ∈ plan.upserts, upsert ∈ (StoreOp.applySync plan).upserts :=
      fun _ hupsert => hupsert
    have hupserts : Traced store now (.applySync plan) id old :=
      traced_applyUpserts plan.upserts hmem (fun _ h => h) (fun _ _ => .same) hold
    unfold retireUnseen at hretire
    split_ifs at hretire <;> cases hretire
    · exact hupserts
    · exact hupserts
    · exact hupserts.tail .retire
  | rehash order => exact .same (by simpa [apply] using h)

/-- A property of single records, on all records of a store. -/
def Holds (P : AccountRecord → Prop) (store : AccountStore) : Prop :=
  ∀ id record, store.record? id = some record → P record

theorem holds_new (P : AccountRecord → Prop) : Holds P .new := by
  intro id record h
  simp at h

/-- The invariant rule for properties of single records. -/
theorem Holds.apply {P : AccountRecord → Prop} {store : AccountStore} {now : Time} {op : StoreOp}
    (hchange : ∀ r r', RecordChange now op r r' → P r → P r')
    (hnew : ∀ id path disk, P (newRecord id path disk)) (h : Holds P store) :
    Holds P (store.apply now op) := fun id _ hrecord =>
  (traced_apply hrecord).invariant hchange hnew (h id)

/-- Every record of the later store is one of the earlier, with the same identity. -/
def Follows (store store' : AccountStore) : Prop :=
  ∀ id r', store'.record? id = some r' → ∃ r, store.record? id = some r ∧ SameAccount r r'

theorem Follows.refl (store : AccountStore) : store.Follows store :=
  fun _ r' h => ⟨r', h, .refl r'⟩

theorem Follows.trans {store store' store'' : AccountStore} (h : store.Follows store')
    (h' : store'.Follows store'') : store.Follows store'' := by
  intro id r'' hr''
  obtain ⟨r', hr', hsame'⟩ := h' id r'' hr''
  obtain ⟨r, hr, hsame⟩ := h id r' hr'
  exact ⟨r, hr, hsame.trans hsame'⟩

/-- A routine operation changes no identity and loads no record. -/
theorem follows_apply {store : AccountStore} {now : Time} {op : StoreOp}
    (hroutine : op.routine = true) : store.Follows (store.apply now op) := by
  intro id r' h
  rcases traced_apply h with ⟨r, hr, hchanges⟩ | ⟨-, upsert, hmem, -⟩
  · refine ⟨r, hr, hchanges.invariant (P := SameAccount r) (fun s s' hchange hs => ?_) (.refl r)⟩
    exact hs.trans (hchange.same hroutine)
  · simp [op.upserts_of_routine hroutine] at hmem

end AccountStore

end Codaze.Accounts
