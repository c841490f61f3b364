import Codaze.Accounts.SyncCoherence

/-!
# The operations of `AppState`, one after another

Each operation runs to its end before the next begins, every file operation succeeds
and nobody else writes to the accounts directory. Under these conditions the pool
stays coherent, unless an import brings back a token its account has rotated away.
-/
namespace Codaze.App
open Foundation Accounts

/-- The account store and the accounts directory. -/
structure AppPool where
  store : AccountStore
  dir : AccountsDir

namespace AppPool

def importAccount (stableAccountId : String → String) (pool : AppPool) (refreshToken : String)
    (label email : Option String) : AppPool :=
  match pool.store.prepareImportAccount stableAccountId refreshToken label email with
  | none => pool
  | some plan =>
    { dir := pool.dir.runAccountDiskOp plan.diskOp
      store := (pool.store.applyImportAccountPlan plan).1 }

def removeAccount (pool : AppPool) (id : String) : AppPool :=
  match pool.store.prepareRemoveAccount id with
  | none => pool
  | some plan =>
    { dir := pool.dir.applyDiskOp plan.diskOp, store := pool.store.applyRemoveAccountPlan plan }

def finishRefreshSuccess (pool : AppPool) (now : Time) (id : String)
    (refreshed : RefreshedAccount) : AppPool :=
  match pool.store.finishRefreshSuccessWithoutPersist now id refreshed with
  | none => pool
  | some (store, persistOp) => { dir := pool.dir.runAccountDiskOp persistOp, store }

def finishRefreshFailure (pool : AppPool) (now : Time) (id : String) (failure : FailureClass)
    (retryAfter : Option StdDuration) (details : String) : AppPool :=
  if failure = .authInvalid then
    match pool.store.prepareAuthInvalidFailure now id details with
    | none => pool
    | some (store, trashOp) =>
      { dir := pool.dir.runAccountDiskOp trashOp
        store := store.apply now (.finalizeAuthInvalid id) }
  else { pool with store := pool.store.apply now (.fail id failure retryAfter details) }

/-- `sync_accounts_from_disk_startup` and `sync_accounts_from_disk_rescan`. -/
def syncAccountsFromDisk (pool : AppPool) (mode : SyncMode) : AppPool :=
  match pool.store.buildDiskSyncPlan (scanAccountsDir pool.dir) mode with
  | none => pool
  | some plan =>
    { dir := pool.dir.executeDiskSyncFs plan, store := pool.store.applyDiskSyncPlan plan }

/-- A fresh store after the startup sync of a directory. -/
def startup (dir : AccountsDir) : AppPool :=
  syncAccountsFromDisk { store := .new, dir } .startup

end AppPool

inductive PoolOp where
  | importAccount (refreshToken : String) (label email : Option String)
  | removeAccount (id : String)
  | finishRefreshSuccess (id : String) (refreshed : RefreshedAccount)
  | finishRefreshFailure (id : String) (failure : FailureClass)
      (retryAfter : Option StdDuration) (details : String)
  | rescan
  /-- A selection, a settlement, a wake, a listing or a new iteration order. -/
  | routine (op : StoreOp)
  /-- The directory lists its files in another order. -/
  | relist (order : List AccountPath)

def poolStep (stableAccountId : String → String) (pool : AppPool) (event : Time × PoolOp) :
    Option AppPool :=
  match event.2 with
  | .importAccount refreshToken label email =>
    some (pool.importAccount stableAccountId refreshToken label email)
  | .removeAccount id => some (pool.removeAccount id)
  | .finishRefreshSuccess id refreshed => some (pool.finishRefreshSuccess event.1 id refreshed)
  | .finishRefreshFailure id failure retryAfter details =>
    some (pool.finishRefreshFailure event.1 id failure retryAfter details)
  | .rescan => some (pool.syncAccountsFromDisk .rescan)
  | .routine op =>
    if op.routine then some { pool with store := pool.store.apply event.1 op } else none
  | .relist order =>
    some { pool with dir := { pool.dir with files := pool.dir.files.reorder order } }

/-- An import brings no token that its account has rotated away, and upstream rotates to
tokens that are their own normal form. -/
def keepsCredential (stableAccountId : String → String) (pool : AppPool)
    (event : Time × PoolOp) : Prop :=
  match event.2 with
  | .importAccount refreshToken _ _ =>
    PoolCoherent.importKeeps stableAccountId pool.store refreshToken
  | .finishRefreshSuccess _ refreshed => ∀ token, refreshed.refreshToken = some token →
    normalizeRefreshToken token = some token
  | _ => True

instance (stableAccountId : String → String) (pool : AppPool) (event : Time × PoolOp) :
    Decidable (keepsCredential stableAccountId pool event) :=
  match event with
  | (_, .importAccount refreshToken _ _) =>
    inferInstanceAs (Decidable (PoolCoherent.importKeeps stableAccountId pool.store refreshToken))
  | (_, .finishRefreshSuccess _ refreshed) =>
    decidable_of_iff (refreshed.refreshToken.all fun token =>
      decide (normalizeRefreshToken token = some token))
      (by cases h : refreshed.refreshToken <;> simp [keepsCredential, h])
  | (_, .removeAccount _) | (_, .finishRefreshFailure ..) | (_, .rescan) | (_, .routine _)
  | (_, .relist _) => .isTrue trivial

abbrev AppPool.Coherent (pool : AppPool) : Prop := PoolCoherent pool.store pool.dir

theorem coherent_sync {pool : AppPool} {mode : SyncMode} (h : pool.Coherent)
    (hmode : mode = .startup → ∀ token, pool.store.preferredExistingRecord token = none) :
    (pool.syncAccountsFromDisk mode).Coherent := by
  unfold AppPool.syncAccountsFromDisk
  split
  next => exact h
  next plan hplan => exact h.sync hmode hplan (.refl _)

/-- The startup sync of a directory of trimmed tokens. -/
theorem coherent_startup {dir : AccountsDir} (htrimmed : dir.Trimmed) :
    (AppPool.startup dir).Coherent :=
  coherent_sync ⟨AccountStore.holds_new _, htrimmed⟩ fun _ _ => rfl

theorem coherent_finishRefreshFailure {pool : AppPool} (h : pool.Coherent) (now : Time)
    (id : String) (failure : FailureClass) (retryAfter : Option StdDuration) (details : String) :
    (pool.finishRefreshFailure now id failure retryAfter details).Coherent := by
  unfold AppPool.finishRefreshFailure
  split
  next =>
    split
    next => exact h
    next store trashOp hprepare => exact h.finishAuthInvalid hprepare (.refl _)
  next => exact h.follows (AccountStore.follows_apply rfl)

/-- One guarded operation keeps the pool coherent. -/
theorem coherent_step {stableAccountId : String → String} {pool pool' : AppPool}
    {event : Time × PoolOp} (h : pool.Coherent)
    (hguard : keepsCredential stableAccountId pool event)
    (hstep : poolStep stableAccountId pool event = some pool') : pool'.Coherent := by
  obtain ⟨now, op⟩ := event
  cases op with
  | importAccount refreshToken label email =>
    obtain rfl := Option.some.inj hstep
    unfold AppPool.importAccount
    split
    next => exact h
    next plan hplan => exact h.importAccount hplan hguard (.refl _)
  | removeAccount id =>
    obtain rfl := Option.some.inj hstep
    unfold AppPool.removeAccount
    split
    next => exact h
    next plan hplan => exact h.removeAccount hplan (.refl _)
  | finishRefreshSuccess id refreshed =>
    obtain rfl := Option.some.inj hstep
    unfold AppPool.finishRefreshSuccess
    split
    next => exact h
    next store persistOp hcommit => exact h.finishRefreshSuccess hcommit hguard
  | finishRefreshFailure id failure retryAfter details =>
    obtain rfl := Option.some.inj hstep
    exact coherent_finishRefreshFailure h now id failure retryAfter details
  | rescan =>
    obtain rfl := Option.some.inj hstep
    exact coherent_sync h (by simp)
  | routine op =>
    simp only [poolStep] at hstep
    split at hstep
    next hroutine =>
      obtain rfl := Option.some.inj hstep
      exact h.follows (AccountStore.follows_apply hroutine)
    next => cases hstep
  | relist order =>
    obtain rfl := Option.some.inj hstep
    have hfile (path : AccountPath) :
        ({ pool.dir with files := pool.dir.files.reorder order } : AccountsDir).file? path =
          pool.dir.file? path := HashMap.lookup_reorder order pool.dir.files path
    exact h.congr hfile

/-- In a guarded run every attached account's file holds exactly its refresh token, which
is what a scan would read from it. -/
theorem stored_of_run {stableAccountId : String → String} {dir : AccountsDir} {pool : AppPool}
    (htrimmed : dir.Trimmed)
    (hrun : Run (poolStep stableAccountId) (keepsCredential stableAccountId)
      (.startup dir) pool) :
    ∀ id record, pool.store.record? id = some record → record.detached = false →
      (∃ disk, pool.dir.file? record.filePath = some (.account disk) ∧
        disk.refreshToken = record.refreshToken) ∧
      pool.dir.reading record.filePath = some record.refreshToken := by
  intro id record hrecord hattached
  have hcoherent : pool.Coherent :=
    hrun.invariant (fun _ _ _ ha hgood hstep => coherent_step ha hgood hstep)
      (coherent_startup htrimmed)
  have hstored := (hcoherent.records id record hrecord).stored hattached
  exact ⟨hstored.2, hstored.reading⟩

/-- The stable ids of two tokens. -/
def exampleStableId (refreshToken : String) : String :=
  if refreshToken = "rt_1" then "0c779dddf03d7056e175aae7e34329dd"
  else "8d3ac014580eb3cf031f7e76f08b427c"

/-- A token is imported, and its account's first refresh rotates it. -/
def importThenRotate : List (Time × PoolOp) :=
  [(0, .importAccount "rt_1" none none),
    (0, .routine (.select .fillFirst 0 ∅)),
    (0, .finishRefreshSuccess "0c779dddf03d7056e175aae7e34329dd"
      ⟨"at_1", some "rt_2", none, none, none, some (fromSecs 60)⟩)]

def emptyDir : AccountsDir := ⟨∅, []⟩

theorem emptyDir_trimmed : emptyDir.Trimmed := by
  intro path token hread
  simp [AccountsDir.reading, AccountsDir.file?, emptyDir] at hread

theorem stored_of_run_importThenRotate :
    let pool := stateAfter (poolStep exampleStableId) (.startup emptyDir) importThenRotate
    ∀ id record, pool.store.record? id = some record → record.detached = false →
      (∃ disk, pool.dir.file? record.filePath = some (.account disk) ∧
        disk.refreshToken = record.refreshToken) ∧
      pool.dir.reading record.filePath = some record.refreshToken :=
  stored_of_run emptyDir_trimmed (.of_isSome (by decide +kernel))

/-- Importing the first token once more writes it over the rotated one, which stays in memory:
a restart would load the spent token. -/
theorem import_overwrites_rotated_token :
    ∃ (pool : AppPool) (id : String) (record : AccountRecord),
      Run (poolStep exampleStableId) anyEvent (.startup emptyDir) pool ∧
        pool.store.record? id = some record ∧ record.detached = false ∧
        record.refreshToken = "rt_2" ∧ pool.dir.reading record.filePath = some "rt_1" := by
  let pool := stateAfter (poolStep exampleStableId) (.startup emptyDir)
    (importThenRotate ++ [(1, .importAccount "rt_1" none none)])
  refine ⟨pool, "0c779dddf03d7056e175aae7e34329dd",
    (pool.store.record? "0c779dddf03d7056e175aae7e34329dd").get ?_, .of_isSome ?_,
    (Option.some_get _).symm, ?_, ?_, ?_⟩ <;> decide +kernel

end Codaze.App
