import Codaze.Accounts.Selection

/-!
# Account files

The accounts directory, the plans the store makes from it and the file operations
that carry them out. A file is what reading and parsing it gives; `serde_json`
reads back what it printed, so a written file holds the document written.
-/
namespace Codaze.Accounts
open Foundation

inductive FileContent where
  /-- Reading or parsing fails. -/
  | invalid
  | account (disk : AccountFile)
  deriving DecidableEq, Repr

/-- The account files, all of them regular files (no symbolic link), and the files moved to the
trash directory. -/
structure AccountsDir where
  files : HashMap AccountPath FileContent
  trash : List FileContent
  deriving DecidableEq

def normalizeRefreshToken (refreshToken : String) : Option String :=
  let trimmed := trim refreshToken
  if trimmed = "" then none else some trimmed

def normalizeOptionalMetadata (value : Option String) : Option String :=
  value.bind fun value => let trimmed := trim value; if trimmed = "" then none else some trimmed

structure DiskAccountEntry where
  id : String
  path : AccountPath
  disk : AccountFile
  deriving DecidableEq, Repr

inductive SyncMode where
  | startup | rescan
  deriving DecidableEq, Repr

structure DiskScanSnapshot where
  entries : List DiskAccountEntry
  failedFileIds : Finset String
  observedPaths : Finset AccountPath
  deriving DecidableEq

structure DiskSyncUpsert where
  id : String
  path : AccountPath
  disk : AccountFile
  deriving DecidableEq, Repr

structure DiskSyncPlan where
  mode : SyncMode
  writes : List (AccountPath × AccountFile)
  removals : List AccountPath
  upserts : List DiskSyncUpsert
  seenIds : Finset String
  failedFileIds : Finset String
  deriving DecidableEq

structure CanonicalTarget where
  id : String
  path : AccountPath
  disk : AccountFile
  matchedGroupPath : Option AccountPath
  deriving DecidableEq, Repr

inductive ImportApply where
  | none
  | insert (id : String) (path : AccountPath) (disk : AccountFile)
  | updateMetadata (accountId : String) (label email : Option String)
  deriving DecidableEq, Repr

structure ImportAccountPlan where
  accountId : String
  alreadyExists : Bool
  apply : ImportApply
  diskOp : Option AccountDiskOp
  deriving DecidableEq, Repr

structure RemoveAccountPlan where
  accountId : String
  diskOp : AccountDiskOp
  deriving DecidableEq, Repr

/-- The token a scan reads from a file, if it accepts the file. -/
def FileContent.accountEntry (path : AccountPath) : FileContent → Option DiskAccountEntry
  | .invalid => none
  | .account disk => (normalizeRefreshToken disk.refreshToken).map fun refreshToken =>
    { id := path.stem, path, disk := { disk with refreshToken } }

def scanAccountsDir (dir : AccountsDir) : DiskScanSnapshot where
  entries := dir.files.entries.filterMap fun e => FileContent.accountEntry e.1 e.2
  failedFileIds := ((dir.files.entries.filter fun e =>
    (FileContent.accountEntry e.1 e.2).isNone).map fun e => e.1.stem).toFinset
  observedPaths := dir.files.keys.toFinset

/-- `merge_duplicate_account_files`. -/
def mergeDuplicateAccountFiles (base : AccountFile) (entries : List DiskAccountEntry) :
    AccountFile where
  refreshToken := base.refreshToken
  label := base.label.or (entries.findSome? fun entry => entry.disk.label)
  email := base.email.or (entries.findSome? fun entry => entry.disk.email)

/-- The entries of one refresh token, sorted by id. -/
def tokenGroup (entries : List DiskAccountEntry) (refreshToken : String) :
    List DiskAccountEntry :=
  (entries.filter fun entry => entry.disk.refreshToken = refreshToken).insertionSort
    fun left right => left.id ≤ right.id

/-- The groups of `entries_by_refresh_token`. They come in the order of the snapshot,
which is the unspecified order of the directory. -/
def entriesByRefreshToken (entries : List DiskAccountEntry) : List (List DiskAccountEntry) :=
  (entries.map fun entry => entry.disk.refreshToken).dedup.map (tokenGroup entries)

def comparePreferred (left right : AccountRecord) : Ordering :=
  (compare left.refreshInFlight right.refreshInFlight).then <|
    (compare left.inFlightRequests right.inFlightRequests).then <|
      (compare left.accessToken.isSome right.accessToken.isSome).then <|
        (compare left.lastSelectedAt right.lastSelectedAt).then
          (compare right.id left.id)

/-- What one group contributes to the plan. -/
structure GroupPlan where
  write : Option (AccountPath × AccountFile)
  removals : List AccountPath
  upsert : DiskSyncUpsert
  deriving DecidableEq, Repr

namespace AccountStore

def newRecord (id : String) (path : AccountPath) (disk : AccountFile) : AccountRecord where
  id := id
  filePath := path
  label := disk.label
  email := disk.email
  refreshToken := disk.refreshToken
  accessToken := none
  accountId := none
  planType := none
  accessTokenExpiresAt := none
  lastRefreshAt := none
  routingState := .cold
  blockedReason := none
  blockedSource := none
  blockedUntil := none
  localBackoffLevel := 0
  refreshInFlight := false
  inFlightRequests := 0
  lastSelectedAt := none
  lastSuccessAt := none
  lastErrorAt := none
  lastError := none
  authInvalidTombstone := false
  detached := false

/-- The `Some` branch of `upsert_disk_record`: the refresh token in memory stays. -/
def upsertRecord (path : AccountPath) (disk : AccountFile) (record : AccountRecord) :
    AccountRecord :=
  { record with
    filePath := path, label := disk.label, email := disk.email
    detached := if record.authInvalidTombstone then record.detached else false }

theorem upsertRecord_id (path : AccountPath) (disk : AccountFile) (record : AccountRecord) :
    (upsertRecord path disk record).id = record.id := rfl

def upsertDiskRecord (store : AccountStore) (id : String) (path : AccountPath)
    (disk : AccountFile) : AccountStore :=
  match store.record? id with
  | some _ => store.modify id (upsertRecord path disk) (upsertRecord_id path disk)
  | none => store.insert (newRecord id path disk)

def findAccountIdByRefreshToken (store : AccountStore) (refreshToken : String) : Option String :=
  (store.records.values.find? fun record =>
    !record.detached && decide (record.refreshToken = refreshToken)).map (·.id)

def prepareExistingAccountMetadataUpdate (store : AccountStore) (accountId : String)
    (label email : Option String) : Option ImportAccountPlan :=
  (store.record? accountId).map fun record =>
    let nextLabel := label.or record.label
    let nextEmail := email.or record.email
    let changed := decide (nextLabel ≠ record.label ∨ nextEmail ≠ record.email)
    { accountId
      alreadyExists := true
      apply := if changed then .updateMetadata accountId nextLabel nextEmail else .none
      diskOp :=
        if changed && !record.detached then
          some (.write record.filePath ⟨record.refreshToken, nextLabel, nextEmail⟩)
        else none }

/-- `stableAccountId` is the first half of the SHA-256 digest of the token in hex. -/
def prepareImportAccount (stableAccountId : String → String) (store : AccountStore)
    (refreshToken : String) (label email : Option String) : Option ImportAccountPlan :=
  (normalizeRefreshToken refreshToken).bind fun refreshToken =>
    let label := normalizeOptionalMetadata label
    let email := normalizeOptionalMetadata email
    match store.findAccountIdByRefreshToken refreshToken with
    | some existingId => store.prepareExistingAccountMetadataUpdate existingId label email
    | none =>
      let id := stableAccountId refreshToken
      let path : AccountPath := ⟨id⟩
      let disk : AccountFile := { refreshToken, label, email }
      some { accountId := id, alreadyExists := false, apply := .insert id path disk,
             diskOp := some (.write path disk) }

/-- The `ImportApply::UpdateMetadata` change of a record. -/
def updateMetadataRecord (label email : Option String) (record : AccountRecord) :
    AccountRecord := { record with label, email }

theorem updateMetadataRecord_id (label email : Option String) (record : AccountRecord) :
    (updateMetadataRecord label email record).id = record.id := rfl

/-- `record.detached = true`. -/
def detachRecord (record : AccountRecord) : AccountRecord := { record with detached := true }

theorem detachRecord_id (record : AccountRecord) : (detachRecord record).id = record.id := rfl

/-- The store and `already_exists`; `none` is the error on an unknown account. The view of
the result is taken after the change, so a vanished record is an error on every branch. -/
def applyImportAccountPlan (store : AccountStore) (plan : ImportAccountPlan) :
    AccountStore × Option Bool :=
  let answer := fun store : AccountStore =>
    (store.record? plan.accountId).map fun _ => plan.alreadyExists
  match plan.apply with
  | .none => (store, answer store)
  | .insert id path disk =>
    let store := store.upsertDiskRecord id path disk
    (store, answer store)
  | .updateMetadata accountId label email => match store.record? accountId with
    | none => (store, none)
    | some _ =>
      let store := store.modify accountId (updateMetadataRecord label email)
        (updateMetadataRecord_id label email)
      (store, answer store)

def prepareRemoveAccount (store : AccountStore) (id : String) : Option RemoveAccountPlan :=
  (store.record? id).map fun record =>
    { accountId := id, diskOp := .remove record.filePath }

def applyRemoveAccountPlan (store : AccountStore) (plan : RemoveAccountPlan) : AccountStore :=
  store.update plan.accountId detachRecord detachRecord_id

def preferredExistingRecord (store : AccountStore) (refreshToken : String) :
    Option AccountRecord :=
  maxBy comparePreferred <| store.records.values.filter fun record =>
    !record.detached && decide (record.refreshToken = refreshToken)

def selectCanonicalTarget (store : AccountStore) (group : List DiskAccountEntry)
    (mode : SyncMode) : Option CanonicalTarget :=
  group.head?.map fun first =>
    let refreshToken := first.disk.refreshToken
    let preferred :=
      if mode = .rescan then store.preferredExistingRecord refreshToken else none
    match preferred with
    | some record =>
      let matchedGroupEntry := group.find? fun entry => entry.id = record.id
      { id := record.id
        path := record.filePath
        disk := (matchedGroupEntry.map (·.disk)).getD ⟨refreshToken, record.label, record.email⟩
        matchedGroupPath := matchedGroupEntry.map (·.path) }
    | none =>
      { id := first.id, path := first.path, disk := first.disk,
        matchedGroupPath := some first.path }

def planGroup (store : AccountStore) (observedPaths : Finset AccountPath) (mode : SyncMode)
    (group : List DiskAccountEntry) : Option GroupPlan :=
  (store.selectCanonicalTarget group mode).map fun canonical =>
    let merged := mergeDuplicateAccountFiles canonical.disk group
    { write :=
        if merged ≠ canonical.disk ∨ canonical.path ∉ observedPaths then
          some (canonical.path, merged)
        else none
      removals := (group.filter fun duplicate =>
        canonical.matchedGroupPath ≠ some duplicate.path).map (·.path)
      upsert := { id := canonical.id, path := canonical.path, disk := merged } }

def buildDiskSyncPlan (store : AccountStore) (snapshot : DiskScanSnapshot) (mode : SyncMode) :
    Option DiskSyncPlan :=
  ((entriesByRefreshToken snapshot.entries).mapM
    (store.planGroup snapshot.observedPaths mode)).map fun groups =>
      { mode
        writes := groups.filterMap (·.write)
        removals := groups.flatMap (·.removals)
        upserts := groups.map (·.upsert)
        seenIds := (groups.map (·.upsert.id)).toFinset
        failedFileIds := snapshot.failedFileIds }

/-- The second loop of `apply_disk_sync_plan`, on one record. -/
def retireUnseen (plan : DiskSyncPlan) (id : String) (record : AccountRecord) :
    Option AccountRecord :=
  if id ∈ plan.seenIds then some record
  else if plan.mode = .rescan ∧ id ∈ plan.failedFileIds then some record
  else if record.inFlightRequests = 0 ∧ record.refreshInFlight = false then none
  else some (detachRecord record)

def applyUpserts (store : AccountStore) (upserts : List DiskSyncUpsert) : AccountStore :=
  upserts.foldl (fun store upsert => store.upsertDiskRecord upsert.id upsert.path upsert.disk)
    store

theorem retireUnseen_id {plan : DiskSyncPlan} {id : String} {record record' : AccountRecord}
    (h : retireUnseen plan id record = some record') : record'.id = record.id := by
  unfold retireUnseen at h
  split_ifs at h <;> cases h <;> rfl

def retireAllUnseen (store : AccountStore) (plan : DiskSyncPlan) : AccountStore where
  records := store.records.filterMap (retireUnseen plan)
  roundRobinCursor := store.roundRobinCursor
  keyed := by
    intro id record h
    rw [HashMap.lookup_filterMap] at h
    obtain ⟨old, hold, hretire⟩ := Option.bind_eq_some_iff.mp h
    rw [retireUnseen_id hretire]
    exact store.keyed id old hold

def applyDiskSyncPlan (store : AccountStore) (plan : DiskSyncPlan) : AccountStore :=
  (store.applyUpserts plan.upserts).retireAllUnseen plan

end AccountStore

namespace AccountsDir

def file? (dir : AccountsDir) (path : AccountPath) : Option FileContent := dir.files.lookup path

/-- A file operation that succeeds. Removing or moving a file that is not there does nothing. -/
def applyDiskOp (dir : AccountsDir) : AccountDiskOp → AccountsDir
  | .write path disk => { dir with files := dir.files.insert path (.account disk) }
  | .remove path => { dir with files := dir.files.erase path }
  | .moveToTrash source =>
    { files := dir.files.erase source, trash := dir.trash ++ (dir.file? source).toList }

/-- `if let Some(disk_op) = ... { run_account_disk_op(disk_op) }`. -/
def runAccountDiskOp (dir : AccountsDir) (op : Option AccountDiskOp) : AccountsDir :=
  op.elim dir dir.applyDiskOp

/-- The file operations of `execute_disk_sync_fs`, in order. -/
def syncOps (plan : DiskSyncPlan) : List AccountDiskOp :=
  plan.writes.map (fun write => .write write.1 write.2) ++ plan.removals.map .remove

def applyDiskOps (dir : AccountsDir) (ops : List AccountDiskOp) : AccountsDir :=
  ops.foldl applyDiskOp dir

def executeDiskSyncFs (dir : AccountsDir) (plan : DiskSyncPlan) : AccountsDir :=
  dir.applyDiskOps (syncOps plan)

end AccountsDir

end Codaze.Accounts
