import Codaze.Accounts.Dropped
import Codaze.Accounts.RescanFrame
import Codaze.Failover.Deletion

/-!
# Rescans in a run

Every record keeps its file under its id, whatever the calls, their failures and their drops:
what a call plans to load is named after the accounts it loads.
-/
namespace Codaze.Failover
open Foundation Accounts

namespace Gateway

variable {config : Config} {gateway gateway' : Gateway} {pid : ℕ}

/-- The records, and what the calls have found or plan to load, are named after the accounts. -/
structure Named (gateway : Gateway) : Prop where
  records : gateway.store.PathsNamed
  calls : ∀ (pid : ℕ) (process : Process), gateway.processes[pid]? = some process →
    process.Spares ∅

namespace Named

theorem applyOps (h : gateway.Named) {ops : List StoreOp} (hops : ∀ op ∈ ops, op.Spares ∅) :
    (Gateway.applyOps gateway.store gateway.now ops).PathsNamed := by
  have hall {store : AccountStore} (hnamed : store.PathsNamed) :
      (Gateway.applyOps store gateway.now ops).PathsNamed := by
    induction ops generalizing store with
    | nil => exact hnamed
    | cons op ops ih =>
      have hop := hops op List.mem_cons_self
      exact ih (fun op' hop' => hops op' (List.mem_cons_of_mem _ hop'))
        (AccountStore.pathsNamed_apply hnamed fun upsert hmem => (hop upsert hmem).1)
  exact hall h.records

theorem perform (h : gateway.Named) {process : Process} {ops : List StoreOp} {disk : DiskAction}
    (hops : ∀ op ∈ ops, op.Spares ∅) (hprocess : process.Spares ∅) :
    (gateway.perform pid process ops disk).Named where
  records := h.applyOps hops
  calls pid' process' hprocess' := by
    rcases of_getElem?_set hprocess' with ⟨rfl, rfl⟩ | ⟨-, hbefore⟩
    · exact hprocess
    · exact h.calls pid' process' hbefore

/-- An event that leaves the store alone and no process with a plan it had not before. -/
theorem frame (h : gateway.Named) (hstore : gateway'.store = gateway.store)
    (hprocesses : ∀ (pid : ℕ) (process : Process), gateway'.processes[pid]? = some process →
      gateway.processes[pid]? = some process ∨ process.insideDisk = false) : gateway'.Named where
  records := by
    rw [hstore]
    exact h.records
  calls pid process hprocess := by
    rcases hprocesses pid process hprocess with hbefore | houtside
    · exact h.calls pid process hbefore
    · exact Process.spares_of_outside houtside

theorem request (h : gateway.Named) {run : FailoverRun} {pc : RequestPc} {input : Input}
    {next : Resumption}
    (hnext : resumeRequest config (gateway.view pid) run pc input = some next) :
    (gateway.perform pid (.request next.run next.pc) next.ops next.disk).Named := by
  refine h.perform (fun op hop => StoreOp.spares_of_upserts ?_) trivial
  rcases (resumeRequest_move hnext).ops_cases with ⟨id, refreshed, hcommit⟩ | hneutral
  · rw [hcommit] at hop
    obtain rfl := List.mem_singleton.mp hop
    rfl
  · exact (hneutral op hop).2

/-- Nothing is deleted here, so every import leads elsewhere. -/
theorem call (h : gateway.Named) {accountCall : AccountCall} {pc : AccountCallPc} {input : Input}
    {next : AccountCallResumption}
    (hprocess : gateway.processes[pid]? = some (.call accountCall pc))
    (hnext : resumeCall config (gateway.view pid) accountCall pc input = some next) :
    (gateway.perform pid (.call accountCall next.pc) next.ops next.disk).Named := by
  have hgone : gateway.store.Gone ∅ := fun id hid => by simp at hid
  have hspares : (Process.call accountCall pc).Spares ∅ := h.calls pid _ hprocess
  have himport {refreshToken : String} {label email : Option String} {plan : ImportAccountPlan}
      (hplan : (gateway.view pid).store.prepareImportAccount config.stableAccountId refreshToken
        label email = some plan) : (StoreOp.applyImport plan).Spares ∅ :=
    (hgone.importAccount h.records hplan fun _ _ _ => by simp).1
  cases resumeCall_step hnext with
  | refuseImport | refuseRemove | lockRescan | scanFailed | planFailed | runFailed =>
    exact h.perform (by simp) trivial
  | planImport hlock hplan | writeImport hlock hplan => exact h.perform (by simp) (himport hplan)
  | planRemove => exact h.perform (by simp) (StoreOp.spares_of_upserts rfl)
  | scan => exact h.perform (by simp) (spares_scan fun id hid => by simp at hid)
  | planSync hplan => exact h.perform (by simp) (hgone.sync h.records hspares hplan).1
  | ran => exact h.perform (by simp) hspares
  | apply =>
    refine h.perform (fun op hop => ?_) trivial
    obtain rfl := List.mem_singleton.mp hop
    exact hspares

end Named

theorem named_step {event : Event} (h : gateway.Named)
    (hstep : step config gateway event = some gateway') : gateway'.Named := by
  cases event with
  | resume pid input =>
    obtain ⟨process, hprocess, hresume⟩ := Option.bind_eq_some_iff.mp hstep
    cases process with
    | request run pc =>
      obtain ⟨next, hnext, rfl⟩ := Option.map_eq_some_iff.mp hresume
      exact h.request hnext
    | call accountCall pc =>
      obtain ⟨next, hnext, rfl⟩ := Option.map_eq_some_iff.mp hresume
      exact h.call hprocess hnext
  | spawnRequest | spawnCall =>
    obtain rfl := Option.some.inj hstep
    refine h.frame rfl fun pid process hprocess => ?_
    rcases of_getElem?_append_singleton hprocess with hbefore | ⟨-, rfl⟩
    · exact .inl hbefore
    · exact .inr rfl
  | drop pid =>
    obtain ⟨process, hdrop, rfl⟩ := Option.map_eq_some_iff.mp hstep
    obtain ⟨old, hold, hafter⟩ := Option.bind_eq_some_iff.mp hdrop
    refine h.frame (leaveDisk_store gateway pid) fun pid' process' hprocess' => ?_
    rcases of_getElem?_set hprocess' with ⟨rfl, rfl⟩ | ⟨-, hbefore⟩
    · exact .inr (afterDrop_outside hafter)
    · exact .inl hbefore
  | background op =>
    simp only [step, Option.ite_none_right_eq_some, Option.some.injEq] at hstep
    obtain ⟨hbackground, rfl⟩ := hstep
    have hloads : (gateway.store.apply gateway.now op).PathsNamed := by
      refine AccountStore.pathsNamed_apply h.records fun upsert hmem => ?_
      cases op with
      | read | sweep | wake | wakeAll | rehash => cases hmem
      | _ => cases hbackground
    exact ⟨hloads, h.calls⟩
  | grant | runTask | runOrphan | clock | setPolicy | relist =>
    obtain ⟨hstore, hprocesses⟩ := step_silent rfl hstep
    exact h.frame hstore fun pid process hprocess => .inl (hprocesses ▸ hprocess)

theorem named_of_run {dir : AccountsDir} {start : Time} {policy : RoutingPolicy}
    (hrun : Run (step config) anyEvent (boot dir start policy) gateway) : gateway.Named := by
  refine hrun.invariant (fun _ _ _ ha _ hstep => named_step ha hstep)
    ⟨?_, fun pid process hprocess => ?_⟩
  · exact (staysDeleted_boot dir start policy).named
  · simp [boot] at hprocess

/-- In every run each record keeps its file under its id. Whatever the store and the directory
are, a rescan whose plan is applied after selections, settlements and wakes changes of a
surviving record only what comes from its file; busy records and those whose file failed to
scan survive, the latter as attached as they were; a tombstoned record stays detached. -/
theorem rescan_frame (config : Config) :
    (∀ dir start policy gateway, Run (step config) anyEvent (boot dir start policy) gateway →
      ∀ id record, gateway.store.record? id = some record → record.filePath = ⟨id⟩) ∧
    ∀ (planned : AccountStore) (dir : AccountsDir) (plan : DiskSyncPlan) (store : AccountStore),
      planned.buildDiskSyncPlan (scanAccountsDir dir) .rescan = some plan →
      Run storeStep betweenPlans planned store →
        RescanFrame dir store (store.applyDiskSyncPlan plan) := by
  refine ⟨fun dir start policy gateway hrun id record hrecord => ?_,
    fun planned dir plan store hplan hrun => AccountStore.rescanFrame_apply hplan hrun⟩
  have hnamed : record.filePath = ⟨record.id⟩ := (named_of_run hrun).records id record hrecord
  rw [hnamed, AccountStore.id_of_record? hrecord]

/-- In every run each record keeps its file under its id. On such a pool, where no record is
detached and each has its token, shared with no other, in its own file, let the directory have
any other files. A rescan keeps the records and their files, adds one account for each new
token and removes what else is valid; another one right after it changes nothing. -/
theorem dropped_files_rescanned (config : Config) :
    (∀ dir start policy gateway, Run (step config) anyEvent (boot dir start policy) gateway →
      gateway.store.PathsNamed) ∧
    ∀ (store : AccountStore) (before dir : AccountsDir) (plan : DiskSyncPlan),
      store.PathsNamed → Owned store before →
      (∀ id r, store.record? id = some r →
        dir.file? r.filePath = before.file? r.filePath) →
      store.buildDiskSyncPlan (scanAccountsDir dir) .rescan = some plan →
        Rescanned store dir (store.applyDiskSyncPlan plan) (dir.executeDiskSyncFs plan) ∧
        ∀ plan', (store.applyDiskSyncPlan plan).buildDiskSyncPlan
            (scanAccountsDir (dir.executeDiskSyncFs plan)) .rescan = some plan' →
          plan'.writes = [] ∧ plan'.removals = [] ∧
          (∀ id, ((store.applyDiskSyncPlan plan).applyDiskSyncPlan plan').record? id =
            (store.applyDiskSyncPlan plan).record? id) ∧
          ((store.applyDiskSyncPlan plan).applyDiskSyncPlan plan').roundRobinCursor =
            (store.applyDiskSyncPlan plan).roundRobinCursor := by
  refine ⟨fun dir start policy gateway hrun => (named_of_run hrun).records,
    fun store before dir plan hnamed hbefore hsame hplan => ?_⟩
  have howned := hbefore.congr hsame
  refine ⟨rescanned_of_owned howned hnamed hplan, fun plan' hplan' => ?_⟩
  obtain ⟨hwrites, hremovals, hrecords⟩ := howned.rescan_again hnamed hplan hplan'
  exact ⟨hwrites, hremovals, hrecords, AccountStore.roundRobinCursor_applyDiskSyncPlan _ _⟩

/-- Next to the file of the account: a duplicate, two files of a new token and one that does
not parse. -/
def droppedDir : AccountsDir where
  files := ((((AList.singleton ⟨"a"⟩ (.account ⟨"rt_1", none, none⟩)).insert ⟨"0"⟩
    (.account ⟨"rt_1", some "spare", none⟩)).insert ⟨"c"⟩ (.account ⟨"rt_2", none, none⟩)).insert
      ⟨"b"⟩ (.account ⟨" rt_2 ", none, none⟩)).insert ⟨"d"⟩ .invalid
  trash := []

theorem dropped_files_rescanned_droppedDir :
    ∃ plan, AccountsDir.loneAccount.buildDiskSyncPlan (scanAccountsDir droppedDir) .rescan =
        some plan ∧
      Rescanned AccountsDir.loneAccount droppedDir (AccountsDir.loneAccount.applyDiskSyncPlan plan)
        (droppedDir.executeDiskSyncFs plan) := by
  have hlone {id : String} {r : AccountRecord} (hr : AccountsDir.loneAccount.record? id = some r) :
      id = "a" ∧ r = AccountStore.newRecord "a" ⟨"a"⟩ ⟨"rt_1", none, none⟩ := by
    rw [AccountsDir.loneAccount, AccountStore.record?_insert] at hr
    split at hr
    next hid => exact ⟨hid, (Option.some.inj hr).symm⟩
    next => simp at hr
  have howned : Owned AccountsDir.loneAccount exampleDir := by
    refine ⟨fun id r hr => ?_, fun id r hr => ?_, fun id r id' r' hr hr' _ => ?_⟩
    · rw [(hlone hr).2]
      rfl
    · rw [(hlone hr).2]
      decide +kernel
    · exact (hlone hr).1.trans (hlone hr').1.symm
  obtain ⟨plan, hplan⟩ := Option.isSome_iff_exists.mp
    (AccountsDir.loneAccount.buildDiskSyncPlan_isSome (scanAccountsDir droppedDir) .rescan)
  refine ⟨plan, hplan, ((dropped_files_rescanned exampleConfig).2 AccountsDir.loneAccount
    exampleDir droppedDir plan AccountsDir.loneAccount_pathsNamed howned (fun id r hr => ?_)
    hplan).1⟩
  rw [(hlone hr).2]
  decide +kernel

end Gateway

end Codaze.Failover
