import Codaze.Accounts.Deleted
import Codaze.Failover.AttachedTokens
import Codaze.Failover.DiskOrder
import Codaze.Failover.Settlements

/-!
# Deleted accounts in a run

The deletions that returned `Ok(true)` are kept beside the gateway. In a run without drops no
file of a deleted account comes back, no record of it is attached again, and the record goes
with its last selection.
-/
namespace Codaze.Failover
open Foundation Accounts

/-- The accounts whose deletion has returned. -/
def observeDeletion (gateway : Gateway) (deleted : Finset String) : Event → Finset String
  | .resume pid .scheduled => match gateway.processes[pid]? with
    | some (.call _ (.applying (.removeAccount plan))) => insert plan.accountId deleted
    | _ => deleted
  | _ => deleted

/-- The gateway with the accounts that are deleted. -/
def deletionStep (config : Config) (state : Gateway × Finset String) (event : Event) :
    Option (Gateway × Finset String) :=
  (Gateway.step config state.1 event).map fun gateway =>
    (gateway, observeDeletion state.1 state.2 event)

/-- The id under which an import is about to insert its token, if no attached account has it. -/
def inserts? (config : Config) (gateway : Gateway) (pid : ℕ) : Option String :=
  match gateway.processes[pid]? with
  | some (.call (.importAccount refreshToken _ _) .preparing) =>
    (normalizeRefreshToken refreshToken).bind fun token =>
      match gateway.store.findAccountIdByRefreshToken token with
      | none => some (config.stableAccountId token)
      | some _ => none
  | _ => none

/-- No import inserts its token under the id of a deleted account. -/
def insertsElsewhere (config : Config) (state : Gateway × Finset String) : Event → Prop
  | .resume pid _ => ∀ id ∈ inserts? config state.1 pid, id ∉ state.2
  | _ => True

instance (config : Config) (state : Gateway × Finset String) (event : Event) :
    Decidable (insertsElsewhere config state event) :=
  match event with
  | .resume pid _ => inferInstanceAs (Decidable (∀ id ∈ inserts? config state.1 pid, id ∉ state.2))
  | .spawnRequest .. | .spawnCall _ | .drop _ | .grant | .runTask _ | .runOrphan ..
  | .clock _ | .setPolicy _ | .background _ | .relist _ => .isTrue trivial

/-- The settlements are clean, and no import inserts its token under the id of a deleted
account. -/
def deletesCleanly (config : Config) (state : Gateway × Finset String) (event : Event) : Prop :=
  Gateway.settlesCleanly config state.1 event ∧ insertsElsewhere config state event

instance (config : Config) (state : Gateway × Finset String) (event : Event) :
    Decidable (deletesCleanly config state event) :=
  inferInstanceAs (Decidable (Gateway.settlesCleanly config state.1 event ∧
    insertsElsewhere config state event))

theorem deletesCleanly_spares {config : Config} {state : Gateway × Finset String} {event : Event}
    (h : deletesCleanly config state event) :
    state.1.endsTasks event ∧ insertsElsewhere config state event := by
  cases event with
  | drop => exact h.1.elim
  | resume => exact ⟨trivial, h.2⟩
  | _ => exact ⟨trivial, trivial⟩

/-- What a call has found or plans to load spares the deleted accounts. -/
def Process.Spares (deleted : Finset String) : Process → Prop
  | .call _ (.planning snapshot) => snapshot.Spares deleted
  | .call _ (.running plan) | .call _ (.applying plan) => plan.op.Spares deleted
  | _ => True

theorem Process.spares_of_outside {deleted : Finset String} {process : Process}
    (h : process.insideDisk = false) : process.Spares deleted := by
  cases process with
  | request => trivial
  | call accountCall pc => cases pc <;> trivial

/-- The task of a deletion has not removed the file, has failed, or has removed it. -/
inductive RemovalTask (dir : AccountsDir) (id : String) : DiskTask → Prop
  | pending : RemovalTask dir id ⟨[.remove ⟨id⟩], none⟩
  | failed {task : DiskTask} (h : task.error.isSome = true) : RemovalTask dir id task
  | done (h : dir.file? ⟨id⟩ = none) : RemovalTask dir id ⟨[], none⟩

theorem RemovalTask.file?_of_ok {dir : AccountsDir} {id : String} {task : DiskTask}
    (h : RemovalTask dir id task) (hresult : task.result? = some (.ok ())) :
    dir.file? ⟨id⟩ = none := by
  cases h with
  | pending => cases hresult
  | @failed task herror =>
    obtain ⟨error, herror⟩ := Option.isSome_iff_exists.mp herror
    simp [DiskTask.result?, herror] at hresult
  | done hfile => exact hfile

theorem RemovalTask.advance {dir dir' : AccountsDir} {id : String} {task task' : DiskTask}
    {outcome : FileOutcome} {effect : List AccountDiskOp} (h : RemovalTask dir id task)
    (hadvance : task.advance dir outcome = some (dir', task', effect)) :
    RemovalTask dir' id task' := by
  cases h with
  | pending =>
    cases outcome with
    | done =>
      obtain ⟨rfl, rfl, -⟩ := by simpa [DiskTask.advance] using hadvance
      refine .done ?_
      rw [AccountsDir.file?_applyDiskOp]
      exact if_pos rfl
    | failed error | failedAfter error =>
      obtain ⟨rfl, rfl, -⟩ := by simpa [DiskTask.advance] using hadvance
      exact .failed rfl
  | @failed task herror =>
    obtain ⟨error, herror⟩ := Option.isSome_iff_exists.mp herror
    simp [DiskTask.advance, herror] at hadvance
  | done => cases hadvance

theorem RemovalTask.file?_advance {dir dir' : AccountsDir} {id : String} {task task' : DiskTask}
    {outcome : FileOutcome} {effect : List AccountDiskOp} (h : RemovalTask dir id task)
    (hfile : dir.file? ⟨id⟩ = none)
    (hadvance : task.advance dir outcome = some (dir', task', effect)) :
    dir'.file? ⟨id⟩ = none := by
  have hremoved : (dir.applyDiskOp (.remove ⟨id⟩)).file? ⟨id⟩ = none := by
    rw [AccountsDir.file?_applyDiskOp]
    exact if_pos rfl
  cases h with
  | pending =>
    cases outcome with
    | done | failedAfter error =>
      obtain ⟨rfl, -⟩ := by simpa [DiskTask.advance] using hadvance
      exact hremoved
    | failed error =>
      obtain ⟨rfl, -⟩ := by simpa [DiskTask.advance] using hadvance
      exact hfile
  | @failed task herror =>
    obtain ⟨error, herror⟩ := Option.isSome_iff_exists.mp herror
    simp [DiskTask.advance, herror] at hadvance
  | done => cases hadvance

/-- The next operation of a task that spares the deleted accounts. -/
theorem advance_spares {dir dir' : AccountsDir} {task task' : DiskTask} {outcome : FileOutcome}
    {effect : List AccountDiskOp} {deleted : Finset String}
    (hadvance : task.advance dir outcome = some (dir', task', effect))
    (htask : ∀ op ∈ task.remaining, op.Spares deleted) (hlacks : dir.Lacks deleted) :
    dir'.Lacks deleted ∧ ∀ op ∈ task'.remaining, op.Spares deleted := by
  obtain ⟨remaining, error⟩ := task
  cases error with
  | some error => cases hadvance
  | none =>
    cases remaining with
    | nil => cases hadvance
    | cons op rest =>
      have hop : op.Spares deleted := htask op List.mem_cons_self
      have hrest : ∀ op ∈ rest, op.Spares deleted := fun op' hop' =>
        htask op' (List.mem_cons_of_mem _ hop')
      cases outcome with
      | done =>
        obtain ⟨rfl, rfl, -⟩ := by simpa [DiskTask.advance] using hadvance
        exact ⟨hlacks.applyDiskOp hop, hrest⟩
      | failed error =>
        obtain ⟨rfl, rfl, -⟩ := by simpa [DiskTask.advance] using hadvance
        exact ⟨hlacks, htask⟩
      | failedAfter error =>
        obtain ⟨rfl, rfl, -⟩ := by simpa [DiskTask.advance] using hadvance
        exact ⟨hlacks.applyDiskOp hop, hrest⟩

namespace Gateway

variable {config : Config} {gateway gateway' : Gateway} {deleted : Finset String} {pid : ℕ}

/-- Nothing that is there or under way brings a deleted account back. -/
structure StaysDeleted (gateway : Gateway) (deleted : Finset String) : Prop where
  named : gateway.store.PathsNamed
  locked : gateway.LockHeld
  orphans : gateway.orphans = []
  gone : gateway.store.Gone deleted
  lacks : gateway.dir.Lacks deleted
  tasks : ∀ holder task, gateway.diskHolder = some holder → holder.task = some task →
    ∀ op ∈ task.remaining, op.Spares deleted
  calls : ∀ (pid : ℕ) (process : Process), gateway.processes[pid]? = some process →
    process.Spares deleted
  removals : ∀ (pid : ℕ) (process : Process) (plan : RemoveAccountPlan),
    gateway.processes[pid]? = some process → process.plan? = some (.removeAccount plan) →
      ∃ holder task, gateway.diskHolder = some holder ∧ holder.task = some task ∧
        RemovalTask gateway.dir plan.accountId task
  removed : ∀ (pid : ℕ) (accountCall : AccountCall) (plan : RemoveAccountPlan),
    gateway.processes[pid]? = some (.call accountCall (.applying (.removeAccount plan))) →
      gateway.dir.file? ⟨plan.accountId⟩ = none

namespace StaysDeleted

/-- Another process has a plan only if the lock is not this process's. -/
theorem owner_ne (h : gateway.StaysDeleted deleted) {pid' : ℕ} {process : Process}
    (hprocess : gateway.processes[pid']? = some process) (hinside : process.insideDisk = true)
    (hne : pid' ≠ pid) : gateway.diskOwner? ≠ some pid := by
  intro howner
  have howner' := h.locked pid' process hprocess hinside
  exact hne (Option.some.inj (howner'.symm.trans howner))

theorem applyOps (h : gateway.StaysDeleted deleted) {ops : List StoreOp}
    (hops : ∀ op ∈ ops, op.Spares deleted) :
    (Gateway.applyOps gateway.store gateway.now ops).PathsNamed ∧
      (Gateway.applyOps gateway.store gateway.now ops).Gone deleted := by
  have hboth {store : AccountStore} (hnamed : store.PathsNamed) (hgone : store.Gone deleted) :
      (Gateway.applyOps store gateway.now ops).PathsNamed ∧
        (Gateway.applyOps store gateway.now ops).Gone deleted := by
    induction ops generalizing store with
    | nil => exact ⟨hnamed, hgone⟩
    | cons op ops ih =>
      have hop := hops op List.mem_cons_self
      have hnamed' : (store.apply gateway.now op).PathsNamed :=
        AccountStore.pathsNamed_apply hnamed fun upsert hmem => (hop upsert hmem).1
      exact ih (fun op' hop' => hops op' (List.mem_cons_of_mem _ hop')) hnamed' (hgone.apply hop)
  exact hboth h.named h.gone

/-- A resumption that keeps the task of the disk lock and has no plan to delete, unless it had
it before. -/
theorem perform (h : gateway.StaysDeleted deleted) {old new : Process} {ops : List StoreOp}
    {disk : DiskAction} (hold : gateway.processes[pid]? = some old)
    (hlocked : (gateway.perform pid new ops disk).LockHeld)
    (hops : ∀ op ∈ ops, op.Spares deleted) (hspares : new.Spares deleted)
    (howner : (∀ fileOps, disk ≠ .submit fileOps) ∧ disk ≠ .unlock ∨
      gateway.diskOwner? = some pid)
    (hdisk : ∀ fileOps, disk = .submit fileOps → ∀ op ∈ fileOps, op.Spares deleted)
    (hremovals : ∀ plan, new.plan? = some (.removeAccount plan) →
      ∃ holder task, (gateway.diskAction pid disk).diskHolder = some holder ∧
        holder.task = some task ∧ RemovalTask gateway.dir plan.accountId task)
    (hremoved : ∀ accountCall plan, new = .call accountCall (.applying (.removeAccount plan)) →
      gateway.dir.file? ⟨plan.accountId⟩ = none) :
    (gateway.perform pid new ops disk).StaysDeleted deleted := by
  have hdir : (gateway.perform pid new ops disk).dir = gateway.dir := by cases disk <;> rfl
  have horphans : (gateway.perform pid new ops disk).orphans = gateway.orphans := by
    cases disk <;> rfl
  obtain ⟨hnamed, hgone⟩ := h.applyOps hops
  refine ⟨hnamed, hlocked, horphans.trans h.orphans, hgone, ?_, ?_, ?_, ?_, ?_⟩
  · rw [hdir]
    exact h.lacks
  · intro holder task hholder htask
    cases disk with
    | keep | enqueue => exact h.tasks holder task hholder htask
    | unlock => cases hholder
    | submit fileOps =>
      obtain ⟨before, -, rfl⟩ := Option.map_eq_some_iff.mp hholder
      obtain rfl := Option.some.inj htask
      exact hdisk fileOps rfl
  · intro pid' process hprocess
    rcases of_getElem?_set hprocess with ⟨rfl, rfl⟩ | ⟨-, hbefore⟩
    · exact hspares
    · exact h.calls pid' process hbefore
  · intro pid' process plan hprocess hplan
    rw [hdir]
    rcases of_getElem?_set hprocess with ⟨rfl, rfl⟩ | ⟨hne, hbefore⟩
    · exact hremovals plan hplan
    · have hinside := Process.insideDisk_of_plan? hplan
      obtain ⟨holder, task, hholder, htask, hremoval⟩ :=
        h.removals pid' process plan hbefore hplan
      rcases howner with ⟨hsubmit, hunlock⟩ | howner
      · refine ⟨holder, task, ?_, htask, hremoval⟩
        cases disk with
        | keep | enqueue => exact hholder
        | submit fileOps => exact absurd rfl (hsubmit fileOps)
        | unlock => exact absurd rfl hunlock
      · exact absurd howner (h.owner_ne hbefore hinside hne)
  · intro pid' accountCall plan hprocess
    rw [hdir]
    rcases of_getElem?_set hprocess with ⟨rfl, hnew⟩ | ⟨-, hbefore⟩
    · exact hremoved accountCall plan hnew.symm
    · exact h.removed pid' accountCall plan hbefore

theorem request (h : gateway.StaysDeleted deleted) {run : FailoverRun} {pc : RequestPc}
    {input : Input} {next : Resumption}
    (hprocess : gateway.processes[pid]? = some (.request run pc))
    (hnext : resumeRequest config (gateway.view pid) run pc input = some next)
    (hlocked : (gateway.perform pid (.request next.run next.pc) next.ops next.disk).LockHeld) :
    (gateway.perform pid (.request next.run next.pc) next.ops next.disk).StaysDeleted deleted := by
  have hops : ∀ op ∈ next.ops, op.Spares deleted := by
    intro op hop
    refine StoreOp.spares_of_upserts ?_
    rcases (resumeRequest_move hnext).ops_cases with ⟨id, refreshed, hcommit⟩ | hneutral
    · rw [hcommit] at hop
      obtain rfl := List.mem_singleton.mp hop
      rfl
    · exact (hneutral op hop).2
  have howner : (∀ fileOps, next.disk ≠ .submit fileOps) ∧ next.disk ≠ .unlock ∨
      gateway.diskOwner? = some pid := by
    cases resumeRequest_step hnext with
    | uncommitted hlock | commitDetached hlock | commit hlock | unprepared hlock
    | prepareDetached hlock | prepare hlock => exact .inr (holdsDiskLock_iff.mp hlock)
    | persisted | note | finalizeGone | finalize => exact .inr (h.locked pid _ hprocess rfl)
    | _ => exact .inl ⟨by simp, by simp⟩
  have hdisk : ∀ fileOps, next.disk = .submit fileOps → ∀ op ∈ fileOps, op.Spares deleted := by
    intro fileOps hsubmit op hop
    cases resumeRequest_step hnext with
    | @commit selection _ record _ hrecord hattached =>
      obtain rfl := DiskAction.submit.inj hsubmit
      obtain rfl := List.mem_singleton.mp hop
      have hpath : record.filePath = ⟨record.id⟩ := h.named _ record hrecord
      rw [AccountDiskOp.Spares, hpath, AccountStore.id_of_record? hrecord]
      exact h.gone.not_mem hrecord hattached
    | prepare =>
      obtain rfl := DiskAction.submit.inj hsubmit
      obtain rfl := List.mem_singleton.mp hop
      trivial
    | _ => cases hsubmit
  exact h.perform hprocess hlocked hops trivial howner hdisk (fun plan hplan => by cases hplan)
    fun accountCall plan hnew => by cases hnew

/-- A deletion returns: its account joins the deleted ones. -/
theorem remove (h : gateway.StaysDeleted deleted) {accountCall : AccountCall}
    {plan : RemoveAccountPlan}
    (hprocess : gateway.processes[pid]? =
      some (.call accountCall (.applying (.removeAccount plan))))
    (hlocked : (gateway.perform pid (.call accountCall .finished) [.applyRemove plan]
      .unlock).LockHeld) :
    (gateway.perform pid (.call accountCall .finished) [.applyRemove plan] .unlock).StaysDeleted
      (insert plan.accountId deleted) := by
  have howner : gateway.diskOwner? = some pid := h.locked pid _ hprocess rfl
  have houtside {pid' : ℕ} {process : Process}
      (hother : (gateway.perform pid (.call accountCall .finished) [.applyRemove plan]
        .unlock).processes[pid']? = some process) : process.insideDisk = false := by
    rcases of_getElem?_set hother with ⟨rfl, rfl⟩ | ⟨hne, hbefore⟩
    · rfl
    · by_contra hinside
      exact h.owner_ne hbefore (by simpa using hinside) hne howner
  have hspares : ∀ op ∈ [StoreOp.applyRemove plan], op.Spares deleted := by
    intro op hop
    obtain rfl := List.mem_singleton.mp hop
    exact StoreOp.spares_of_upserts rfl
  have hgone : (gateway.store.apply gateway.now (.applyRemove plan)).Gone
      (insert plan.accountId deleted) := h.gone.remove plan
  refine ⟨(h.applyOps hspares).1, hlocked, h.orphans, hgone,
    fun id hid => ?_, fun holder task hholder => ?_,
    fun pid' process hother => Process.spares_of_outside (houtside hother),
    fun pid' process plan' hother hplan => ?_, fun pid' accountCall' plan' hother => ?_⟩
  · rcases Finset.mem_insert.mp hid with rfl | hid
    · exact h.removed pid accountCall plan hprocess
    · exact h.lacks id hid
  · cases hholder
  · have hinside := Process.insideDisk_of_plan? hplan
    rw [houtside hother] at hinside
    cases hinside
  · cases houtside hother

theorem importsElsewhere {refreshToken : String} {label email : Option String}
    (hprocess : gateway.processes[pid]? =
      some (.call (.importAccount refreshToken label email) .preparing))
    (helsewhere : ∀ id ∈ inserts? config gateway pid, id ∉ deleted) (token : String)
    (htoken : normalizeRefreshToken refreshToken = some token)
    (hnone : gateway.store.findAccountIdByRefreshToken token = none) :
    config.stableAccountId token ∉ deleted := by
  refine helsewhere _ ?_
  simp [inserts?, hprocess, htoken, hnone]

/-- Any other resumption of an account call. -/
theorem call (h : gateway.StaysDeleted deleted) {accountCall : AccountCall} {pc : AccountCallPc}
    {input : Input} {next : AccountCallResumption}
    (hprocess : gateway.processes[pid]? = some (.call accountCall pc))
    (hnext : resumeCall config (gateway.view pid) accountCall pc input = some next)
    (helsewhere : ∀ id ∈ inserts? config gateway pid, id ∉ deleted)
    (hremove : ∀ plan, pc ≠ .applying (.removeAccount plan))
    (hlocked : (gateway.perform pid (.call accountCall next.pc) next.ops next.disk).LockHeld) :
    (gateway.perform pid (.call accountCall next.pc) next.ops next.disk).StaysDeleted deleted := by
  have hinside (hinside : pc.insideDisk = true) : gateway.diskOwner? = some pid :=
    h.locked pid _ hprocess hinside
  have hgranted (hlock : (gateway.view pid).holdsDiskLock = true) :
      gateway.diskOwner? = some pid := holdsDiskLock_iff.mp hlock
  -- a resumption that performs nothing and deletes nothing
  have hmove {pc' : AccountCallPc} {disk : DiskAction}
      (hlocked : (gateway.perform pid (.call accountCall pc') [] disk).LockHeld)
      (howner : disk = .keep ∨ gateway.diskOwner? = some pid)
      (hspares : (Process.call accountCall pc').Spares deleted)
      (hdisk : ∀ fileOps, disk = .submit fileOps → ∀ op ∈ fileOps, op.Spares deleted)
      (hplan : ∀ plan, (Process.call accountCall pc').plan? ≠ some (.removeAccount plan)) :
      (gateway.perform pid (.call accountCall pc') [] disk).StaysDeleted deleted := by
    refine h.perform hprocess hlocked (by simp) hspares ?_ hdisk
      (fun plan hsome => absurd hsome (hplan plan)) fun accountCall' plan hnew => ?_
    · rcases howner with rfl | howner
      · exact .inl ⟨by simp, by simp⟩
      · exact .inr howner
    · rw [hnew] at hplan
      exact absurd rfl (hplan plan)
  cases resumeCall_step hnext with
  | refuseImport hlock | refuseRemove hlock =>
    exact hmove hlocked (.inr (hgranted hlock)) trivial (by simp) (by simp [Process.plan?])
  | lockRescan hlock => exact hmove hlocked (.inl rfl) trivial (by simp) (by simp [Process.plan?])
  | scan =>
    exact hmove hlocked (.inl rfl) (spares_scan h.lacks) (by simp) (by simp [Process.plan?])
  | scanFailed | planFailed | runFailed =>
    exact hmove hlocked (.inr (hinside rfl)) trivial (by simp) (by simp [Process.plan?])
  | planImport hlock hplan =>
    have himport := h.gone.importAccount h.named hplan
      (importsElsewhere hprocess helsewhere)
    exact hmove hlocked (.inl rfl) himport.1 (by simp) (by simp [Process.plan?])
  | writeImport hlock hplan hdiskOp =>
    have himport := h.gone.importAccount h.named hplan
      (importsElsewhere hprocess helsewhere)
    refine hmove hlocked (.inr (hgranted hlock)) himport.1 ?_ (by simp [Process.plan?])
    intro fileOps hsubmit op hop
    obtain rfl := DiskAction.submit.inj hsubmit
    obtain rfl := List.mem_singleton.mp hop
    exact himport.2 _ hdiskOp
  | planSync hplan =>
    have hsync := h.gone.sync h.named (h.calls pid _ hprocess) hplan
    refine hmove hlocked (.inr (hinside rfl)) hsync.1 ?_ (by simp [Process.plan?])
    intro fileOps hsubmit
    obtain rfl := DiskAction.submit.inj hsubmit
    exact hsync.2
  | @planRemove id record hlock hrecord =>
    have howner := hgranted hlock
    have hpath : record.filePath = ⟨id⟩ := by
      rw [h.named id record hrecord, AccountStore.id_of_record? hrecord]
    refine h.perform hprocess hlocked (by simp) (StoreOp.spares_of_upserts rfl) (.inr howner) ?_ ?_
      fun _ plan hnew => by cases hnew
    · intro fileOps hsubmit op hop
      obtain rfl := DiskAction.submit.inj hsubmit
      obtain rfl := List.mem_singleton.mp hop
      trivial
    · intro plan hplan
      obtain rfl := CallPlan.removeAccount.inj (Option.some.inj hplan)
      obtain ⟨holder, hholder, -⟩ := Option.map_eq_some_iff.mp howner
      refine ⟨{ holder with task := some ⟨[.remove record.filePath], none⟩ }, _,
        by simp [diskAction, hholder], rfl, ?_⟩
      rw [hpath]
      exact .pending
  | @ran _ plan hresult =>
    have hspares : plan.op.Spares deleted := h.calls pid _ hprocess
    refine h.perform hprocess hlocked (by simp) hspares (.inl ⟨by simp, by simp⟩)
      (by simp) (fun removal hplan => h.removals pid _ removal hprocess hplan)
      fun accountCall' removal hnew => ?_
    obtain ⟨holder, task, hholder, htask, hremoval⟩ :=
      h.removals pid _ removal hprocess (by cases hnew; rfl)
    refine hremoval.file?_of_ok ?_
    have htaken : (if holder.pid = pid then holder.task.bind DiskTask.result? else none) =
        some (.ok ()) := by
      simpa [view, hholder] using hresult
    rw [htask] at htaken
    exact (Option.ite_none_right_eq_some.mp htaken).2
  | @apply _ plan =>
    have hspares : ∀ op ∈ [plan.op], op.Spares deleted := by
      intro op hop
      obtain rfl := List.mem_singleton.mp hop
      exact h.calls pid _ hprocess
    cases plan with
    | removeAccount plan => exact absurd rfl (hremove plan)
    | importAccount | sync =>
      exact h.perform hprocess hlocked hspares trivial (.inr (hinside rfl)) (by simp)
        (fun _ hplan => by cases hplan) fun _ _ hnew => by cases hnew

/-- The next operation of the task of the disk lock's holder. -/
theorem runTask (h : gateway.StaysDeleted deleted) {outcome : FileOutcome}
    (hlocked : gateway'.LockHeld) (hstep : step config gateway (.runTask outcome) = some gateway') :
    gateway'.StaysDeleted deleted := by
  obtain ⟨holder, hholder, hstep⟩ := Option.bind_eq_some_iff.mp hstep
  obtain ⟨task, htask, hstep⟩ := Option.bind_eq_some_iff.mp hstep
  obtain ⟨⟨dir, task', effect⟩, hadvance, hstep⟩ := Option.bind_eq_some_iff.mp hstep
  obtain rfl := Option.some.inj hstep
  obtain ⟨hlacks, htasks⟩ := advance_spares hadvance (h.tasks holder task hholder htask) h.lacks
  have hremovals : ∀ (pid : ℕ) (process : Process) (plan : RemoveAccountPlan),
      gateway.processes[pid]? = some process → process.plan? = some (.removeAccount plan) →
        RemovalTask dir plan.accountId task' := by
    intro pid process plan hprocess hplan
    obtain ⟨holder', before, hholder', hbefore, hremoval⟩ :=
      h.removals pid process plan hprocess hplan
    obtain rfl := Option.some.inj (hholder.symm.trans hholder')
    obtain rfl := Option.some.inj (htask.symm.trans hbefore)
    exact hremoval.advance hadvance
  refine ⟨h.named, hlocked, h.orphans, h.gone, hlacks, ?_, h.calls, ?_, ?_⟩
  · intro holder' task'' hholder' htask'
    obtain rfl := Option.some.inj hholder'
    obtain rfl := Option.some.inj htask'
    exact htasks
  · intro pid process plan hprocess hplan
    exact ⟨_, task', rfl, rfl, hremovals pid process plan hprocess hplan⟩
  · intro pid accountCall plan hprocess
    have hfile := h.removed pid accountCall plan hprocess
    obtain ⟨holder', before, hholder', hbefore, hremoval⟩ := h.removals pid _ plan hprocess rfl
    obtain rfl := Option.some.inj (hholder.symm.trans hholder')
    obtain rfl := Option.some.inj (htask.symm.trans hbefore)
    exact hremoval.file?_advance hfile hadvance

/-- Events that touch neither the store, the account files nor a task, and leave every process
where it was or outside the disk lock. -/
theorem frame (h : gateway.StaysDeleted deleted) (hlocked : gateway'.LockHeld)
    (hstore : gateway'.store = gateway.store) (horphans : gateway'.orphans = gateway.orphans)
    (hfiles : ∀ path, gateway'.dir.file? path = gateway.dir.file? path)
    (hholder : gateway.diskHolder = none ∧ (∀ holder, gateway'.diskHolder = some holder →
      holder.task = none) ∨ gateway'.diskHolder = gateway.diskHolder)
    (hprocesses : ∀ (pid : ℕ) (process : Process), gateway'.processes[pid]? = some process →
      gateway.processes[pid]? = some process ∨ process.insideDisk = false) :
    gateway'.StaysDeleted deleted := by
  have hinside {pid : ℕ} {process : Process} (hprocess : gateway'.processes[pid]? = some process)
      (hinside : process.insideDisk = true) : gateway.processes[pid]? = some process := by
    rcases hprocesses pid process hprocess with hbefore | houtside
    · exact hbefore
    · rw [houtside] at hinside
      cases hinside
  refine ⟨by rw [hstore]; exact h.named, hlocked, horphans.trans h.orphans,
    by rw [hstore]; exact h.gone, fun id hid => (hfiles _).trans (h.lacks id hid), ?_, ?_, ?_, ?_⟩
  · intro holder task hsome htask
    rcases hholder with ⟨-, hnone⟩ | hsame
    · rw [hnone holder hsome] at htask
      cases htask
    · exact h.tasks holder task (hsame ▸ hsome) htask
  · intro pid process hprocess
    rcases hprocesses pid process hprocess with hbefore | houtside
    · exact h.calls pid process hbefore
    · exact Process.spares_of_outside houtside
  · intro pid process plan hprocess hplan
    have hbefore := hinside hprocess (Process.insideDisk_of_plan? hplan)
    obtain ⟨holder, task, hsome, htask, hremoval⟩ := h.removals pid process plan hbefore hplan
    rcases hholder with ⟨hnone, -⟩ | hsame
    · rw [hnone] at hsome
      cases hsome
    · refine ⟨holder, task, hsame.trans hsome, htask, ?_⟩
      cases hremoval with
      | pending => exact .pending
      | failed herror => exact .failed herror
      | done hfile => exact .done ((hfiles _).trans hfile)
  · intro pid accountCall plan hprocess
    exact (hfiles _).trans (h.removed pid accountCall plan (hinside hprocess rfl))

/-- A handler that is dropped takes the lock with it, and no plan. -/
theorem drop (h : gateway.StaysDeleted deleted) (hends : gateway.endsTasks (.drop pid))
    {old new : Process} (hold : gateway.processes[pid]? = some old)
    (hafter : old.afterDrop = some new) {gateway' : Gateway} (hlocked : gateway'.LockHeld)
    (hdrop : gateway' =
      { gateway.leaveDisk pid with processes := gateway.processes.set pid new }) :
    gateway'.StaysDeleted deleted := by
  have houtside := afterDrop_outside hafter
  subst hdrop
  refine ⟨?_, hlocked, (orphans_leaveDisk hends).trans h.orphans, ?_, ?_, ?_, ?_, ?_, ?_⟩
  · show (gateway.leaveDisk pid).store.PathsNamed
    rw [leaveDisk_store]
    exact h.named
  · show (gateway.leaveDisk pid).store.Gone deleted
    rw [leaveDisk_store]
    exact h.gone
  · show (gateway.leaveDisk pid).dir.Lacks deleted
    rw [dir_leaveDisk]
    exact h.lacks
  · intro holder task hholder htask
    exact h.tasks holder task (diskHolder_leaveDisk hholder).1 htask
  · intro pid' process hprocess
    rcases of_getElem?_set hprocess with ⟨rfl, rfl⟩ | ⟨-, hbefore⟩
    · exact Process.spares_of_outside houtside
    · exact h.calls pid' process hbefore
  · intro pid' process plan hprocess hplan
    have hinside := Process.insideDisk_of_plan? hplan
    rcases of_getElem?_set hprocess with ⟨rfl, rfl⟩ | ⟨hne, hbefore⟩
    · rw [houtside] at hinside
      cases hinside
    · obtain ⟨holder, task, hholder, htask, hremoval⟩ := h.removals pid' process plan hbefore hplan
      have howner := h.owner_ne hbefore hinside hne
      rw [diskOwner?, hholder, Option.map_some] at howner
      refine ⟨holder, task, diskHolder_leaveDisk_of_ne hholder fun heq => howner (by rw [heq]),
        htask, ?_⟩
      show RemovalTask (gateway.leaveDisk pid).dir plan.accountId task
      rw [dir_leaveDisk]
      exact hremoval
  · intro pid' accountCall plan hprocess
    show (gateway.leaveDisk pid).dir.file? ⟨plan.accountId⟩ = none
    rw [dir_leaveDisk]
    rcases of_getElem?_set hprocess with ⟨rfl, rfl⟩ | ⟨-, hbefore⟩
    · cases houtside
    · exact h.removed pid' accountCall plan hbefore

end StaysDeleted

/-- Every such step keeps the deleted accounts deleted. -/
theorem staysDeleted_step {state state' : Gateway × Finset String} {event : Event}
    (h : state.1.StaysDeleted state.2) (hends : state.1.endsTasks event)
    (helsewhere : insertsElsewhere config state event)
    (hstep : deletionStep config state event = some state') :
    state'.1.StaysDeleted state'.2 := by
  obtain ⟨gateway, deleted⟩ := state
  obtain ⟨gateway', hgateway, rfl⟩ := Option.map_eq_some_iff.mp hstep
  have h : gateway.StaysDeleted deleted := h
  have hgateway : step config gateway event = some gateway' := hgateway
  have hlocked : gateway'.LockHeld := lockHeld_step h.locked hgateway
  cases event with
  | resume pid input =>
    obtain ⟨process, hprocess, hresume⟩ := Option.bind_eq_some_iff.mp hgateway
    cases process with
    | request run pc =>
      obtain ⟨next, hnext, rfl⟩ := Option.map_eq_some_iff.mp hresume
      have hdeleted : observeDeletion gateway deleted (.resume pid input) = deleted := by
        cases input <;> simp [observeDeletion, hprocess]
      rw [hdeleted]
      exact h.request hprocess hnext hlocked
    | call accountCall pc =>
      obtain ⟨next, hnext, rfl⟩ := Option.map_eq_some_iff.mp hresume
      by_cases hremove : ∃ plan, pc = .applying (.removeAccount plan)
      · obtain ⟨plan, rfl⟩ := hremove
        cases resumeCall_step hnext with
        | apply =>
          have hdeleted : observeDeletion gateway deleted (.resume pid .scheduled) =
              insert plan.accountId deleted := by simp [observeDeletion, hprocess]
          rw [hdeleted]
          exact h.remove hprocess hlocked
      · have hdeleted : observeDeletion gateway deleted (.resume pid input) = deleted := by
          unfold observeDeletion
          split
          next heq =>
            cases heq
            split
            next plan hsome =>
              rw [hprocess] at hsome
              cases hsome
              exact absurd ⟨plan, rfl⟩ hremove
            next => rfl
          next => rfl
        rw [hdeleted]
        exact h.call hprocess hnext helsewhere (fun plan heq => hremove ⟨plan, heq⟩) hlocked
  | drop pid =>
    obtain ⟨new, hdrop, hnew⟩ := Option.map_eq_some_iff.mp hgateway
    obtain ⟨old, hold, hafter⟩ := Option.bind_eq_some_iff.mp hdrop
    exact h.drop hends hold hafter hlocked hnew.symm
  | spawnRequest | spawnCall =>
    obtain rfl := Option.some.inj hgateway
    refine h.frame hlocked rfl rfl (fun _ => rfl) (.inr rfl) fun pid process hprocess => ?_
    rcases of_getElem?_append_singleton hprocess with hbefore | ⟨-, rfl⟩
    · exact .inl hbefore
    · exact .inr rfl
  | grant =>
    simp only [step] at hgateway
    split at hgateway
    next waiter rest hholder _ =>
      obtain rfl := Option.some.inj hgateway
      refine h.frame hlocked rfl rfl (fun _ => rfl) (.inl ⟨hholder, fun holder hsome => ?_⟩)
        fun pid process hprocess => .inl hprocess
      obtain rfl := Option.some.inj hsome
      rfl
    next => cases hgateway
  | runTask outcome => exact h.runTask hlocked hgateway
  | runOrphan index outcome =>
    simp [step, h.orphans] at hgateway
  | clock | setPolicy =>
    obtain rfl := Option.some.inj hgateway
    exact h.frame hlocked rfl rfl (fun _ => rfl) (.inr rfl) fun pid process hprocess =>
      .inl hprocess
  | relist order =>
    obtain rfl := Option.some.inj hgateway
    exact h.frame hlocked rfl rfl (fun path => HashMap.lookup_reorder order gateway.dir.files path)
      (.inr rfl) fun pid process hprocess => .inl hprocess
  | background op =>
    simp only [step, Option.ite_none_right_eq_some, Option.some.injEq] at hgateway
    obtain ⟨hbackground, rfl⟩ := hgateway
    have hspares : ∀ op' ∈ [op], op'.Spares deleted := by
      intro op' hop'
      obtain rfl := List.mem_singleton.mp hop'
      refine StoreOp.spares_of_upserts ?_
      cases op' <;> first | rfl | cases hbackground
    obtain ⟨hnamed, hgone⟩ := h.applyOps hspares
    exact ⟨hnamed, hlocked, h.orphans, hgone, h.lacks, h.tasks, h.calls, h.removals, h.removed⟩

theorem staysDeleted_boot (dir : AccountsDir) (now : Time) (policy : RoutingPolicy) :
    (boot dir now policy).StaysDeleted ∅ := by
  have hnamed : (boot dir now policy).store.PathsNamed := by
    have hempty : AccountStore.new.PathsNamed := AccountStore.holds_new _
    simp only [boot, App.AppPool.startup, App.AppPool.syncAccountsFromDisk]
    split
    next => exact hempty
    next plan hplan =>
      have hgone : AccountStore.new.Gone ∅ := fun id hid => by simp at hid
      have hlacks : dir.Lacks ∅ := fun id hid => by simp at hid
      have hspares := (hgone.sync hempty (spares_scan hlacks) hplan).1
      exact @AccountStore.pathsNamed_apply _ now (.applySync plan) hempty
        fun upsert hmem => (hspares upsert hmem).1
  exact {
    named := hnamed
    locked := lockHeld_boot dir now policy
    orphans := rfl
    gone := fun id hid => by simp at hid
    lacks := fun id hid => by simp at hid
    tasks := fun holder task hholder => by cases hholder
    calls := fun pid process hprocess => by simp [boot] at hprocess
    removals := fun pid process plan hprocess => by simp [boot] at hprocess
    removed := fun pid accountCall plan hprocess => by simp [boot] at hprocess }

/-- In every run without drops, if settlements are clean and no import inserts its token under
the id of a deleted account: every account has its file under its id; the file of a deleted
account is gone, its record is detached, no selection returns it, and the record is there only
while a process holds a selection of it or finalizes it. -/
theorem delete_is_final {dir : AccountsDir} {start : Time} {policy : RoutingPolicy}
    {state : Gateway × Finset String}
    (hrun : Run (deletionStep config) (deletesCleanly config) (boot dir start policy, ∅) state) :
    (∀ id record, state.1.store.record? id = some record → record.filePath = ⟨id⟩) ∧
    ∀ id ∈ state.2,
      state.1.dir.file? ⟨id⟩ = none ∧
      (∀ record, state.1.store.record? id = some record → record.detached = true) ∧
      (∀ now policy skew excluded selection,
        (state.1.store.selectAccount now policy skew excluded).1 = .ok selection →
          selection.accountId ≠ id) ∧
      ∀ record, state.1.store.record? id = some record → occupants state.1.processes id = 0 →
        ∃ (pid : ℕ) (process : Process), state.1.processes[pid]? = some process ∧
          process.invalidates? = some id := by
  have hdeleted : state.1.StaysDeleted state.2 :=
    hrun.invariant (I := fun state => state.1.StaysDeleted state.2)
      (fun _ _ _ h hguard hstep =>
        staysDeleted_step h (deletesCleanly_spares hguard).1 (deletesCleanly_spares hguard).2 hstep)
      (staysDeleted_boot dir start policy)
  have hsettled : ∃ settlements, SettledOnce (state.1, settlements) := by
    have hdeletion : ∀ gateway deleted event, deletionStep config (gateway, deleted) event =
        (step config gateway event).map fun gateway' =>
          (gateway', observeDeletion gateway deleted event) := fun _ _ _ => rfl
    have hledger : ∀ gateway settlements event, settlementStep config (gateway, settlements) event =
        (step config gateway event).map fun gateway' =>
          (gateway', settlements.observe config gateway event) := fun _ _ _ => rfl
    have hclean : Run (step config) (settlesCleanly config) (boot dir start policy) state.1 :=
      Run.forget hdeletion (hrun.mono fun state event hguard => hguard.1)
    obtain ⟨settlements, hwatched⟩ := Run.watch hledger hclean .empty
    exact ⟨settlements, hwatched.invariant
      (fun _ _ _ h hguard hstep => settledOnce_step h hguard hstep)
      (settledOnce_boot dir start policy)⟩
  refine ⟨fun id record hrecord => ?_, fun id hid => ⟨hdeleted.lacks id hid,
    hdeleted.gone id hid, fun now policy skew excluded selection hselect heq => ?_,
    fun record hrecord hfree => ?_⟩⟩
  · rw [hdeleted.named id record hrecord, AccountStore.id_of_record? hrecord]
  · exact hdeleted.gone.select hselect (heq ▸ hid)
  · obtain ⟨settlements, hsettled⟩ := hsettled
    exact hsettled.lingering hrecord (hdeleted.gone id hid record hrecord) hfree

/-- The deleted account is left with one selection, which succeeds; then the directory is
scanned. -/
def deleteThenRescan : List Event :=
  deleteInFlight ++ [.resume 0 (.executeResult (.ok none)), .resume 0 .scheduled,
    .spawnCall .rescan, .grant, .resume 2 .scheduled, .resume 2 .scheduled, .resume 2 .scheduled,
    .resume 2 .scheduled, .resume 2 .scheduled]

theorem delete_is_final_deleteThenRescan :
    let state := stateAfter (deletionStep exampleConfig) (boot exampleDir 0 .fillFirst, ∅)
      deleteThenRescan
    "a" ∈ state.2 ∧ state.1.dir.file? ⟨"a"⟩ = none := by
  intro state
  have hstate : state = stateAfter (deletionStep exampleConfig) (boot exampleDir 0 .fillFirst, ∅)
    deleteThenRescan := rfl
  clear_value state
  have hrun : Run (deletionStep exampleConfig) (deletesCleanly exampleConfig)
      (boot exampleDir 0 .fillFirst, ∅) state := by
    rw [hstate]
    exact .of_isSome (by decide +kernel)
  have hid : "a" ∈ state.2 := by
    rw [hstate]
    decide +kernel
  exact ⟨hid, ((delete_is_final hrun).2 "a" hid).1⟩

/-- The account is deleted while a request executes with it, whose failure panics. -/
theorem delete_leaves_record_behind :
    ∃ state : Gateway × Finset String, Run (deletionStep exampleConfig)
        (fun _ event => isDrop event = false) (boot exampleDir 0 .fillFirst, ∅) state ∧
      "a" ∈ state.2 ∧ (state.1.store.record? "a").isSome = true ∧
      occupants state.1.processes "a" = 0 ∧
      ∀ process ∈ state.1.processes, process.invalidates? = none := by
  refine ⟨stateAfter (deletionStep exampleConfig) _ deleteThenPanic, .of_isSome ?_, ?_, ?_, ?_, ?_⟩
    <;> decide +kernel

/-- An account file that bears the stable id of another token. -/
def misnamedDir : AccountsDir :=
  App.emptyDir.applyDiskOp (.write ⟨"0c779dddf03d7056e175aae7e34329dd"⟩ ⟨"rt_9", none, none⟩)

/-- The account is deleted while a request executes with it, and the token whose stable id it
has is imported. -/
def deleteThenImport : List Event :=
  let call := fun call pid => [.spawnCall call, .grant, .resume pid .scheduled, .runTask .done,
    .resume pid .scheduled, .resume pid .scheduled]
  [.spawnRequest .releaseImmediately ∅, .resume 0 .scheduled, .resume 0 .scheduled,
    .resume 0 (.refreshReply (.json (.object [("access_token", .string "at_1")]))),
    .resume 0 .scheduled, .grant, .resume 0 .scheduled, .runTask .done, .resume 0 .scheduled,
    .resume 0 .scheduled] ++
  call (.removeAccount "0c779dddf03d7056e175aae7e34329dd") 1 ++
  call (.importAccount "rt_1" none none) 2

/-- Such an import attaches the deleted account again, with the token it always had. -/
theorem import_attaches_deleted_account :
    ∃ state : Gateway × Finset String, Run (deletionStep exampleConfig)
        (fun state event => settlesCleanly exampleConfig state.1 event)
        (boot misnamedDir 0 .fillFirst, ∅) state ∧
      "0c779dddf03d7056e175aae7e34329dd" ∈ state.2 ∧
      ((state.1.store.record? "0c779dddf03d7056e175aae7e34329dd").any fun record =>
        !record.detached && decide (record.refreshToken = "rt_9")) = true := by
  refine ⟨stateAfter (deletionStep exampleConfig) _ deleteThenImport, .of_isSome ?_, ?_, ?_⟩
    <;> decide +kernel

end Gateway

end Codaze.Failover
