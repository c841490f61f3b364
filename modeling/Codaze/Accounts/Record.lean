import Codaze.Foundation.HashMap
import Codaze.Foundation.Machine

/-!
# Account records and the account store

The data model of the account pool. A file path is the file stem: every path the
store writes, reads or removes is `<accounts dir>/<stem>.json`, so the stem is all
that distinguishes two of them.
-/
namespace Codaze.Accounts
open Foundation

inductive RoutingState where
  | cold | ready | warming | cooldown | riskControlled | temporarilyUnavailable | authInvalid
  deriving DecidableEq, Repr

inductive BlockedReason where
  | rateLimited | quotaExhausted | riskControlled | temporarilyUnavailable | authInvalid
  deriving DecidableEq, Repr

inductive BlockedSource where
  | upstreamRetryAfter | localBackoff | fixedPolicy
  deriving DecidableEq, Repr

inductive FailureClass where
  | accessTokenRejected | authInvalid | rateLimited | quotaExhausted | riskControlled
  | temporaryFailure | requestRejected | internalFailure
  deriving DecidableEq, Repr

/-- `<accounts dir>/<stem>.json`. -/
structure AccountPath where
  stem : String
  deriving DecidableEq, Repr

structure AccountRecord where
  id : String
  filePath : AccountPath
  label : Option String
  email : Option String
  refreshToken : String
  accessToken : Option String
  accountId : Option String
  planType : Option String
  accessTokenExpiresAt : Option Time
  lastRefreshAt : Option Time
  routingState : RoutingState
  blockedReason : Option BlockedReason
  blockedSource : Option BlockedSource
  blockedUntil : Option Time
  localBackoffLevel : ℕ
  refreshInFlight : Bool
  inFlightRequests : ℕ
  lastSelectedAt : Option Time
  lastSuccessAt : Option Time
  lastErrorAt : Option Time
  lastError : Option String
  authInvalidTombstone : Bool
  detached : Bool
  deriving DecidableEq, Repr

/-- The JSON document of an account file. -/
structure AccountFile where
  refreshToken : String
  label : Option String
  email : Option String
  deriving DecidableEq, Repr

/-- The store. The key of a record is its id: every operation inserts a record under
its own id and none changes the id. -/
structure AccountStore where
  records : HashMap String AccountRecord
  roundRobinCursor : ℕ
  keyed : ∀ id record, records.lookup id = some record → record.id = id

/-- `AccountStore::new`. -/
def AccountStore.new : AccountStore := ⟨∅, 0, by simp⟩

structure AccountSelection where
  accountId : String
  refreshToken : String
  needsRefresh : Bool
  deriving DecidableEq, Repr

structure RefreshedAccount where
  accessToken : String
  refreshToken : Option String
  accountId : Option String
  planType : Option String
  email : Option String
  accessTokenExpiresAt : Option Time
  deriving DecidableEq, Repr

structure UpstreamAccount where
  accessToken : String
  chatgptAccountId : Option String
  deriving DecidableEq, Repr

inductive AccountDiskOp where
  | write (path : AccountPath) (disk : AccountFile)
  | remove (path : AccountPath)
  | moveToTrash (source : AccountPath)
  deriving DecidableEq, Repr

/-- The account file an operation is about. -/
def AccountDiskOp.target : AccountDiskOp → AccountPath
  | write path _ => path
  | remove path => path
  | moveToTrash source => source

inductive UpstreamAccountError where
  | missingRecord | missingAccessToken
  deriving DecidableEq, Repr

namespace AccountStore

def record? (store : AccountStore) (id : String) : Option AccountRecord := store.records.lookup id

theorem id_of_record? {store : AccountStore} {id : String} {record : AccountRecord}
    (h : store.record? id = some record) : record.id = id := store.keyed id record h

/-- `if let Some(record) = self.records.get_mut(id) { ... }`. -/
def modify (store : AccountStore) (id : String) (f : AccountRecord → AccountRecord)
    (hf : ∀ record, (f record).id = record.id) : AccountStore where
  records := store.records.modify id f
  roundRobinCursor := store.roundRobinCursor
  keyed := by
    intro id' record h
    rw [HashMap.lookup_modify] at h
    split at h
    next hid =>
      obtain ⟨old, hold, rfl⟩ := Option.map_eq_some_iff.mp h
      rw [hf, hid]
      exact store.keyed id old hold
    next => exact store.keyed id' record h

/-- `for record in self.records.values_mut() { ... }`. -/
def modifyAll (store : AccountStore) (f : AccountRecord → AccountRecord)
    (hf : ∀ record, (f record).id = record.id) : AccountStore where
  records := store.records.mapValues f
  roundRobinCursor := store.roundRobinCursor
  keyed := by
    intro id record h
    rw [HashMap.lookup_mapValues] at h
    obtain ⟨old, hold, rfl⟩ := Option.map_eq_some_iff.mp h
    rw [hf]
    exact store.keyed id old hold

def insert (store : AccountStore) (record : AccountRecord) : AccountStore where
  records := store.records.insert record.id record
  roundRobinCursor := store.roundRobinCursor
  keyed := by
    intro id record' h
    rw [HashMap.lookup_insert_eq] at h
    split at h
    next hid => rw [hid, ← Option.some.inj h]
    next => exact store.keyed id record' h

def remove (store : AccountStore) (id : String) : AccountStore where
  records := store.records.erase id
  roundRobinCursor := store.roundRobinCursor
  keyed := by
    intro id' record h
    rw [HashMap.lookup_erase_eq] at h
    split at h
    next => cases h
    next => exact store.keyed id' record h

/-- Another iteration order of the hash map. -/
def rehash (store : AccountStore) (order : List String) : AccountStore where
  records := store.records.reorder order
  roundRobinCursor := store.roundRobinCursor
  keyed := by
    intro id record h
    exact store.keyed id record (by simpa using h)

@[simp] theorem record?_new (id : String) : AccountStore.new.record? id = none := rfl

@[simp] theorem record?_rehash (store : AccountStore) (order : List String) (id : String) :
    (store.rehash order).record? id = store.record? id := by simp [rehash, record?]

theorem record?_modify (store : AccountStore) (id id' : String)
    (f : AccountRecord → AccountRecord) (hf : ∀ record, (f record).id = record.id) :
    (store.modify id f hf).record? id' =
      if id' = id then (store.record? id).map f else store.record? id' := by
  simp [modify, record?, HashMap.lookup_modify]

@[simp] theorem record?_modifyAll (store : AccountStore) (f : AccountRecord → AccountRecord)
    (hf : ∀ record, (f record).id = record.id) (id : String) :
    (store.modifyAll f hf).record? id = (store.record? id).map f := by
  simp [modifyAll, record?]

theorem record?_insert (store : AccountStore) (record : AccountRecord) (id : String) :
    (store.insert record).record? id =
      if id = record.id then some record else store.record? id := by
  simp [insert, record?, HashMap.lookup_insert_eq]

theorem record?_remove (store : AccountStore) (id id' : String) :
    (store.remove id).record? id' = if id' = id then none else store.record? id' := by
  simp [remove, record?, HashMap.lookup_erase_eq]

/-- The records `maybe_remove_detached` removes. -/
def removable (record : AccountRecord) : Bool :=
  record.detached && record.inFlightRequests == 0 && !record.refreshInFlight

theorem removable_iff {record : AccountRecord} : removable record = true ↔
    record.detached = true ∧ record.inFlightRequests = 0 ∧ record.refreshInFlight = false := by
  simp [removable, and_assoc]

def maybeRemoveDetached (store : AccountStore) (id : String) : AccountStore :=
  if (store.record? id).any removable then store.remove id else store

theorem record?_maybeRemoveDetached (store : AccountStore) (id id' : String) :
    (store.maybeRemoveDetached id).record? id' =
      if id' = id then (store.record? id).filter (!removable ·) else store.record? id' := by
  unfold maybeRemoveDetached
  cases h : store.record? id with
  | none =>
    by_cases hid : id' = id
    · subst hid; simp [h]
    · simp [hid]
  | some record =>
    by_cases hid : id' = id
    · subst hid
      cases hr : removable record <;> simp [record?_remove, h, hr, Option.filter]
    · cases hr : removable record <;> simp [record?_remove, hid, hr]

/-- The shape of every settlement: change one record, then drop it once it is
detached and idle. -/
def update (store : AccountStore) (id : String) (f : AccountRecord → AccountRecord)
    (hf : ∀ record, (f record).id = record.id) : AccountStore :=
  (store.modify id f hf).maybeRemoveDetached id

theorem record?_update (store : AccountStore) (id id' : String)
    (f : AccountRecord → AccountRecord) (hf : ∀ record, (f record).id = record.id) :
    (store.update id f hf).record? id' =
      if id' = id then ((store.record? id).map f).filter (!removable ·)
      else store.record? id' := by
  by_cases hid : id' = id <;> simp [update, record?_maybeRemoveDetached, record?_modify, hid]

/-- A record of the updated store is the changed record or an untouched one. -/
theorem of_record?_update {store : AccountStore} {id id' : String}
    {f : AccountRecord → AccountRecord} {hf : ∀ record, (f record).id = record.id}
    {record : AccountRecord} (h : (store.update id f hf).record? id' = some record) :
    ∃ old, store.record? id' = some old ∧ record = if id' = id then f old else old := by
  rw [record?_update] at h
  by_cases hid : id' = id
  · subst hid
    rw [if_pos rfl, Option.filter_eq_some_iff] at h
    obtain ⟨old, hold, rfl⟩ := Option.map_eq_some_iff.mp h.1
    exact ⟨old, hold, by simp⟩
  · rw [if_neg hid] at h
    exact ⟨record, h, by simp [hid]⟩

theorem of_record?_modify {store : AccountStore} {id id' : String}
    {f : AccountRecord → AccountRecord} {hf : ∀ record, (f record).id = record.id}
    {record : AccountRecord} (h : (store.modify id f hf).record? id' = some record) :
    ∃ old, store.record? id' = some old ∧ record = if id' = id then f old else old := by
  rw [record?_modify] at h
  by_cases hid : id' = id
  · subst hid
    rw [if_pos rfl] at h
    obtain ⟨old, hold, rfl⟩ := Option.map_eq_some_iff.mp h
    exact ⟨old, hold, by simp⟩
  · rw [if_neg hid] at h
    exact ⟨record, h, by simp [hid]⟩

end AccountStore

end Codaze.Accounts
