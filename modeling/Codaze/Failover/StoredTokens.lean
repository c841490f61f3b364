import Codaze.Failover.Deletion
import Codaze.Failover.Invalidated

/-!
# Files and records while calls are under way

Between a file operation and the store operation that belongs to it a call holds the disk lock.
The pool is coherent once the holder has done both: the files as the holder's task leaves them
agree with the store as the holder's last operation leaves it. If no call is dropped between
the two, every attached account's file ends up with the account's newest refresh token.
-/
namespace Codaze.Failover
open Foundation Accounts

/-- The store operation that belongs to a file operation of the process. -/
def Process.owes? : Process → Option StoreOp
  | .request _ (.selected selection (.trashing _))
  | .request _ (.selected selection (.finalizing _)) =>
    some (.finalizeAuthInvalid selection.accountId)
  | .call _ (.running plan) | .call _ (.applying plan) => some plan.op
  | _ => none

/-- The process may have a task, running or ended. -/
def Process.hasTask : Process → Bool
  | .request _ (.selected _ .persisting) | .request _ (.selected _ (.trashing _))
  | .request _ (.selected _ (.noting ..)) | .request _ (.selected _ (.finalizing _))
  | .call _ (.running _) | .call _ (.applying _) => true
  | _ => false

/-- The process went on when its task had ended. -/
def Process.pastTask : Process → Bool
  | .request _ (.selected _ (.noting ..)) | .request _ (.selected _ (.finalizing _))
  | .call _ (.applying _) => true
  | _ => false

theorem Process.inside_of_owes? {process : Process} {op : StoreOp} (h : process.owes? = some op) :
    process.insideDisk = true := by
  unfold Process.owes? at h
  split at h <;> first | rfl | cases h

theorem Process.inside_of_hasTask {process : Process} (h : process.hasTask = true) :
    process.insideDisk = true := by
  unfold Process.hasTask at h
  split at h <;> first | rfl | cases h

theorem Process.owes?_of_outside {process : Process} (h : process.insideDisk = false) :
    process.owes? = none := by
  cases howes : process.owes? with
  | none => rfl
  | some op =>
    rw [Process.inside_of_owes? howes] at h
    cases h

theorem Process.inside_of_pastTask {process : Process} (h : process.pastTask = true) :
    process.insideDisk = true := by
  unfold Process.pastTask at h
  split at h <;> first | rfl | cases h

namespace Gateway

variable {config : Config} {gateway gateway' : Gateway} {event : Event} {pid : ℕ}

theorem follows_applyOps {store : AccountStore} {now : Time} {ops : List StoreOp}
    (hroutine : ∀ op ∈ ops, op.routine = true) : store.Follows (applyOps store now ops) := by
  induction ops generalizing store with
  | nil => exact .refl store
  | cons op ops ih =>
    have hop : store.Follows (store.apply now op) :=
      AccountStore.follows_apply (hroutine op List.mem_cons_self)
    exact hop.trans (ih fun op' hop' => hroutine op' (List.mem_cons_of_mem _ hop'))

/-- The file operations the holder of the disk lock has submitted and that are left. -/
def fileOpsLeft (gateway : Gateway) : List AccountDiskOp :=
  ((gateway.diskHolder.bind (·.task)).map (·.remaining)).getD []

/-- The files once these have taken effect. -/
def filesAhead (gateway : Gateway) : AccountsDir :=
  gateway.dir.applyDiskOps gateway.fileOpsLeft

/-- The store operation that the holder of the disk lock owes. -/
def owed (gateway : Gateway) : List StoreOp :=
  ((gateway.diskOwner?.bind fun pid => gateway.processes[pid]?).bind Process.owes?).toList

/-- An import brings no token its account has rotated away, and a refreshed token is its own
normal form. -/
def bringsNewest (config : Config) (store : AccountStore) : Process → Bool
  | .call (.importAccount refreshToken _ _) .preparing =>
    decide (PoolCoherent.importKeeps config.stableAccountId store refreshToken)
  | .request _ (.selected _ (.committing refreshed)) =>
    refreshed.refreshToken.all fun token => decide (normalizeRefreshToken token = some token)
  | _ => true

/-- File operations succeed, a call is dropped neither while a file operation of it is left nor
before the store operation that belongs to it, and what is written is the newest token. -/
def keepsNewest (config : Config) (gateway : Gateway) : Event → Prop
  | .drop pid =>
    gateway.endsTasks (.drop pid) ∧ (gateway.processes[pid]?.bind Process.owes?).isNone = true
  | .runTask outcome => outcome = .done
  | .resume pid _ => (gateway.processes[pid]?.all (bringsNewest config gateway.store)) = true
  | _ => True

instance (config : Config) (gateway : Gateway) (event : Event) :
    Decidable (keepsNewest config gateway event) :=
  match event with
  | .drop _ => instDecidableAnd
  | .runTask outcome => inferInstanceAs (Decidable (outcome = .done))
  | .resume .. => inferInstanceAs (Decidable (_ = true))
  | .spawnRequest .. | .spawnCall _ | .grant | .runOrphan .. | .clock _ | .setPolicy _
  | .background _ | .relist _ => .isTrue trivial

/-- The pool is coherent up to what the holder of the disk lock is about to do. -/
structure TokensStored (gateway : Gateway) : Prop where
  locked : gateway.LockHeld
  orphans : gateway.orphans = []
  sound : ∀ holder task, gateway.diskHolder = some holder → holder.task = some task →
    task.error = none
  asked : ∀ holder task, gateway.diskHolder = some holder → holder.task = some task →
    ∃ process, gateway.processes[holder.pid]? = some process ∧ process.hasTask = true
  ended : ∀ (pid : ℕ) (process : Process), gateway.processes[pid]? = some process →
    process.pastTask = true → gateway.fileOpsLeft = []
  scanned : ∀ (pid : ℕ) (call : AccountCall) (snapshot : DiskScanSnapshot),
    gateway.processes[pid]? = some (.call call (.planning snapshot)) →
      ∃ dir : AccountsDir, (∀ path, dir.file? path = gateway.dir.file? path) ∧
        snapshot = scanAccountsDir dir
  coherent : ∀ store now, gateway.store.Follows store →
    PoolCoherent (applyOps store now gateway.owed) gateway.filesAhead

namespace TokensStored

/-- While the holder has no task, no file operation is left. -/
theorem idle (h : gateway.TokensStored) (howner : gateway.diskOwner? = some pid)
    {process : Process} (hprocess : gateway.processes[pid]? = some process)
    (htask : process.hasTask = false) : gateway.fileOpsLeft = [] := by
  obtain ⟨holder, hholder, rfl⟩ := Option.map_eq_some_iff.mp howner
  cases hasked : holder.task with
  | none => simp [fileOpsLeft, hholder, hasked]
  | some task =>
    obtain ⟨asking, hasking, hhas⟩ := h.asked holder task hholder hasked
    obtain rfl := Option.some.inj (hprocess.symm.trans hasking)
    rw [htask] at hhas
    cases hhas

/-- When the holder's task has a result, no file operation is left, and it succeeded. -/
theorem done (h : gateway.TokensStored) {result : Except String Unit}
    (hresult : (gateway.view pid).taskResult = some result) :
    gateway.fileOpsLeft = [] ∧ result = .ok () := by
  obtain ⟨holder, hholder, htaken⟩ := Option.bind_eq_some_iff.mp hresult
  obtain ⟨-, htaken⟩ := Option.ite_none_right_eq_some.mp htaken
  obtain ⟨task, htask, hended⟩ := Option.bind_eq_some_iff.mp htaken
  have herror := h.sound holder task hholder htask
  rw [DiskTask.result?, herror] at hended
  cases hremaining : task.remaining with
  | nil =>
    rw [hremaining] at hended
    obtain rfl := Option.some.inj hended
    exact ⟨by simp [fileOpsLeft, hholder, htask, hremaining], rfl⟩
  | cons =>
    rw [hremaining] at hended
    cases hended

/-- The others are outside while one process has the lock. -/
theorem outside (h : gateway.TokensStored) (howner : gateway.diskOwner? = some pid) {pid' : ℕ}
    {process : Process} (hprocess : gateway.processes[pid']? = some process) (hne : pid' ≠ pid) :
    process.insideDisk = false := by
  by_contra hinside
  have howner' := h.locked pid' process hprocess (by simpa using hinside)
  exact hne (Option.some.inj (howner'.symm.trans howner))

/-- A pool that is coherent now and owes nothing stays coherent when its holder lets go. -/
theorem unlock (h : gateway.TokensStored) (howner : gateway.diskOwner? = some pid)
    {new : Process} (hnew : new.insideDisk = false) {ops : List StoreOp}
    (hlocked : (gateway.perform pid new ops .unlock).LockHeld)
    (hcoherent : PoolCoherent (applyOps gateway.store gateway.now ops) gateway.dir) :
    (gateway.perform pid new ops .unlock).TokensStored := by
  have houtside {pid' : ℕ} {process : Process}
      (hprocess : (gateway.perform pid new ops .unlock).processes[pid']? = some process) :
      process.insideDisk = false := by
    rcases of_getElem?_set hprocess with ⟨-, rfl⟩ | ⟨hne, hbefore⟩
    · exact hnew
    · exact h.outside howner hbefore hne
  refine ⟨hlocked, h.orphans, nofun, nofun, fun pid' process hprocess hpast => ?_,
    fun pid' call snapshot hprocess => ?_, fun store now hfollows => hcoherent.follows hfollows⟩
  · have hinside := Process.inside_of_pastTask hpast
    rw [houtside hprocess] at hinside
    cases hinside
  · cases houtside hprocess

theorem owed_perform (howner : gateway.diskOwner? = some pid) {old new : Process}
    (hold : gateway.processes[pid]? = some old) {ops : List StoreOp} {disk : DiskAction}
    (hdisk : disk ≠ .unlock) : (gateway.perform pid new ops disk).owed = new.owes?.toList := by
  have howner' : (gateway.perform pid new ops disk).diskOwner? = some pid :=
    (diskOwner?_diskAction hdisk).trans howner
  have hnew : (gateway.perform pid new ops disk).processes[pid]? = some new :=
    getElem?_set_eq hold new
  rw [owed, howner', Option.bind_some, hnew, Option.bind_some]

/-- The holder goes on without a new task. -/
theorem advance (h : gateway.TokensStored) (howner : gateway.diskOwner? = some pid)
    {old new : Process} (hold : gateway.processes[pid]? = some old) {ops : List StoreOp}
    (hlocked : (gateway.perform pid new ops .keep).LockHeld)
    (hhas : old.hasTask = true → new.hasTask = true)
    (hended : new.pastTask = true → gateway.fileOpsLeft = [])
    (hscanned : ∀ call snapshot, new = .call call (.planning snapshot) →
      ∃ dir : AccountsDir, (∀ path, dir.file? path = gateway.dir.file? path) ∧
        snapshot = scanAccountsDir dir)
    (hcoherent : ∀ store now, (applyOps gateway.store gateway.now ops).Follows store →
      PoolCoherent (applyOps store now new.owes?.toList) gateway.filesAhead) :
    (gateway.perform pid new ops .keep).TokensStored where
  locked := hlocked
  orphans := h.orphans
  sound := h.sound
  asked holder task hholder htask := by
    obtain ⟨process, hprocess, hasking⟩ := h.asked holder task hholder htask
    have hpid : holder.pid = pid := by
      rw [diskOwner?, show gateway.diskHolder = some holder from hholder] at howner
      exact Option.some.inj howner
    rw [hpid, hold] at hprocess
    obtain rfl := Option.some.inj hprocess
    exact ⟨new, hpid ▸ getElem?_set_eq hold new, hhas hasking⟩
  ended pid' process hprocess hpast := by
    rcases of_getElem?_set hprocess with ⟨-, rfl⟩ | ⟨-, hbefore⟩
    · exact hended hpast
    · exact h.ended pid' process hbefore hpast
  scanned pid' call snapshot hprocess := by
    rcases of_getElem?_set hprocess with ⟨-, hnew⟩ | ⟨-, hbefore⟩
    · exact hscanned call snapshot hnew.symm
    · exact h.scanned pid' call snapshot hbefore
  coherent store now hfollows := by
    rw [owed_perform howner hold (by simp)]
    exact hcoherent store now hfollows

/-- The holder submits file operations. -/
theorem submit (h : gateway.TokensStored) (howner : gateway.diskOwner? = some pid)
    {old new : Process} (hold : gateway.processes[pid]? = some old) {ops : List StoreOp}
    {fileOps : List AccountDiskOp}
    (hlocked : (gateway.perform pid new ops (.submit fileOps)).LockHeld)
    (hhas : new.hasTask = true) (hpast : new.pastTask = false)
    (hcoherent : ∀ store now, (applyOps gateway.store gateway.now ops).Follows store →
      PoolCoherent (applyOps store now new.owes?.toList) (gateway.dir.applyDiskOps fileOps)) :
    (gateway.perform pid new ops (.submit fileOps)).TokensStored := by
  have hsubmitted {holder : DiskHolder}
      (hholder : (gateway.perform pid new ops (.submit fileOps)).diskHolder = some holder) :
      holder.pid = pid ∧ holder.task = some ⟨fileOps, none⟩ := by
    obtain ⟨before, hbefore, rfl⟩ := Option.map_eq_some_iff.mp hholder
    rw [diskOwner?, hbefore] at howner
    exact ⟨Option.some.inj howner, rfl⟩
  have hothers {pid' : ℕ} {process : Process}
      (hprocess : (gateway.perform pid new ops (.submit fileOps)).processes[pid']? = some process) :
      process = new ∨ process.insideDisk = false := by
    rcases of_getElem?_set hprocess with ⟨-, rfl⟩ | ⟨hne, hbefore⟩
    · exact .inl rfl
    · exact .inr (h.outside howner hbefore hne)
  obtain ⟨holder, hholder, -⟩ := Option.map_eq_some_iff.mp howner
  have hleft : (gateway.perform pid new ops (.submit fileOps)).fileOpsLeft = fileOps := by
    simp [fileOpsLeft, Gateway.perform, diskAction, hholder]
  refine ⟨hlocked, h.orphans, fun holder task hholder htask => ?_,
    fun holder task hholder htask => ?_, fun pid' process hprocess hpast' => ?_,
    fun pid' call snapshot hprocess => ?_, fun store now hfollows => ?_⟩
  · rw [(hsubmitted hholder).2] at htask
    obtain rfl := Option.some.inj htask
    rfl
  · rw [(hsubmitted hholder).1]
    exact ⟨new, getElem?_set_eq hold new, hhas⟩
  · rcases hothers hprocess with rfl | houtside
    · rw [hpast] at hpast'
      cases hpast'
    · rw [Process.inside_of_pastTask hpast'] at houtside
      cases houtside
  · rcases hothers hprocess with rfl | houtside
    · cases hhas
    · cases houtside
  · rw [owed_perform howner hold (by simp), filesAhead, hleft]
    exact hcoherent store now hfollows

/-- A process outside stays outside and performs routine operations. -/
theorem aside (h : gateway.TokensStored) {old new : Process}
    (hold : gateway.processes[pid]? = some old) (houtside : old.insideDisk = false)
    (hnew : new.insideDisk = false) {ops : List StoreOp}
    (hroutine : ∀ op ∈ ops, op.routine = true) {disk : DiskAction}
    (hdisk : disk = .keep ∨ disk = .enqueue)
    (hlocked : (gateway.perform pid new ops disk).LockHeld) :
    (gateway.perform pid new ops disk).TokensStored := by
  have hholder : (gateway.perform pid new ops disk).diskHolder = gateway.diskHolder := by
    rcases hdisk with rfl | rfl <;> rfl
  have hdir : (gateway.perform pid new ops disk).dir = gateway.dir := by
    rcases hdisk with rfl | rfl <;> rfl
  have horphans : (gateway.perform pid new ops disk).orphans = gateway.orphans := by
    rcases hdisk with rfl | rfl <;> rfl
  have hprocesses (pid' : ℕ) (hne : pid' ≠ pid) :
      (gateway.perform pid new ops disk).processes[pid']? = gateway.processes[pid']? :=
    getElem?_set_of_ne hne gateway.processes new
  have hthere : (gateway.perform pid new ops disk).processes[pid]? = some new :=
    getElem?_set_eq hold new
  have howed : (gateway.perform pid new ops disk).owed = gateway.owed := by
    rw [owed, owed, diskOwner?, diskOwner?, hholder]
    cases howner : gateway.diskHolder.map (·.pid) with
    | none => rfl
    | some owner =>
      rw [Option.bind_some, Option.bind_some]
      by_cases hpid : owner = pid
      · rw [hpid, hthere, hold, Option.bind_some, Option.bind_some,
          Process.owes?_of_outside hnew, Process.owes?_of_outside houtside]
      · rw [hprocesses owner hpid]
  have hleft : (gateway.perform pid new ops disk).fileOpsLeft = gateway.fileOpsLeft := by
    rw [fileOpsLeft, fileOpsLeft, hholder]
  refine ⟨hlocked, horphans.trans h.orphans, hholder ▸ h.sound,
    fun holder task hsome htask => ?_, fun pid' process hprocess hpast => ?_,
    fun pid' call snapshot hprocess => ?_, fun store now hfollows => ?_⟩
  · obtain ⟨process, hprocess, hhas⟩ := h.asked holder task (hholder ▸ hsome) htask
    refine ⟨process, ?_, hhas⟩
    rw [hprocesses holder.pid fun hpid => ?_]
    · exact hprocess
    · rw [hpid, hold] at hprocess
      obtain rfl := Option.some.inj hprocess
      rw [Process.inside_of_hasTask hhas] at houtside
      cases houtside
  · rw [hleft]
    rcases of_getElem?_set hprocess with ⟨-, rfl⟩ | ⟨-, hbefore⟩
    · rw [Process.inside_of_pastTask hpast] at hnew
      cases hnew
    · exact h.ended pid' process hbefore hpast
  · rw [hdir]
    rcases of_getElem?_set hprocess with ⟨-, rfl⟩ | ⟨-, hbefore⟩
    · cases hnew
    · exact h.scanned pid' call snapshot hbefore
  · rw [howed, filesAhead, hdir, hleft]
    exact h.coherent store now ((follows_applyOps hroutine).trans hfollows)

theorem owed_eq (howner : gateway.diskOwner? = some pid) {process : Process}
    (hprocess : gateway.processes[pid]? = some process) :
    gateway.owed = process.owes?.toList := by
  rw [owed, howner, Option.bind_some, hprocess, Option.bind_some]

/-- The pool as it is now, once the holder's file operations have taken effect. -/
theorem finished (h : gateway.TokensStored) (howner : gateway.diskOwner? = some pid)
    {process : Process} (hprocess : gateway.processes[pid]? = some process)
    (hleft : gateway.fileOpsLeft = []) {store : AccountStore}
    (hfollows : gateway.store.Follows store) (now : Time) :
    PoolCoherent (applyOps store now process.owes?.toList) gateway.dir := by
  have hcoherent := h.coherent store now hfollows
  rwa [owed_eq howner hprocess, filesAhead, hleft] at hcoherent

/-- The pool as it is before the holder has done anything. -/
theorem settled (h : gateway.TokensStored) (howner : gateway.diskOwner? = some pid)
    {process : Process} (hprocess : gateway.processes[pid]? = some process)
    (htask : process.hasTask = false) (howes : process.owes? = none) :
    PoolCoherent gateway.store gateway.dir := by
  have hcoherent := h.finished howner hprocess (h.idle howner hprocess htask)
    (.refl gateway.store) gateway.now
  rwa [howes] at hcoherent

theorem request (h : gateway.TokensStored) {run : FailoverRun} {pc : RequestPc} {input : Input}
    {next : Resumption} (hold : gateway.processes[pid]? = some (.request run pc))
    (hkeeps : bringsNewest config gateway.store (.request run pc) = true)
    (hnext : resumeRequest config (gateway.view pid) run pc input = some next)
    (hlocked : (gateway.perform pid (.request next.run next.pc) next.ops next.disk).LockHeld) :
    (gateway.perform pid (.request next.run next.pc) next.ops next.disk).TokensStored := by
  have hgranted (hlock : (gateway.view pid).holdsDiskLock = true) :
      gateway.diskOwner? = some pid := holdsDiskLock_iff.mp hlock
  have hinside (hpc : pc.insideDisk = true) : gateway.diskOwner? = some pid :=
    h.locked pid _ hold hpc
  have hroutine (op : StoreOp) (hop : op.routine = true) : ∀ op' ∈ [op], op'.routine = true := by
    intro op' hop'
    rw [List.mem_singleton.mp hop']
    exact hop
  cases resumeRequest_step hnext with
  | uncommitted hlock | unprepared hlock =>
    exact h.unlock (hgranted hlock) rfl hlocked (h.settled (hgranted hlock) hold rfl rfl)
  | @commitDetached selection refreshed record hlock hrecord hdetached =>
    have hpool := h.settled (hgranted hlock) hold rfl rfl
    have hnormal : ∀ token, refreshed.refreshToken = some token →
        normalizeRefreshToken token = some token := by
      intro token htoken
      simpa [bringsNewest, htoken] using hkeeps
    have hcommit := hpool.finishRefreshSuccess
      (@AccountStore.finishRefreshSuccess_eq _ gateway.now _ _ hrecord refreshed) hnormal
    rw [if_pos hdetached] at hcommit
    exact h.unlock (hgranted hlock) rfl hlocked hcommit
  | @commit selection refreshed record hlock hrecord hattached =>
    have hpool := h.settled (hgranted hlock) hold rfl rfl
    have hnormal : ∀ token, refreshed.refreshToken = some token →
        normalizeRefreshToken token = some token := by
      intro token htoken
      simpa [bringsNewest, htoken] using hkeeps
    have hcommit := hpool.finishRefreshSuccess
      (@AccountStore.finishRefreshSuccess_eq _ gateway.now _ _ hrecord refreshed) hnormal
    rw [if_neg (by simp [hattached])] at hcommit
    refine h.submit (hgranted hlock) hold hlocked rfl rfl fun store now hfollows => ?_
    exact hcommit.follows hfollows
  | persisted hresult =>
    have howner := hinside rfl
    refine h.unlock howner rfl hlocked ?_
    exact h.finished howner hold (h.done hresult).1 (.refl _) gateway.now
  | @prepareDetached selection failure record hlock hrecord hdetached =>
    have hpool := h.settled (hgranted hlock) hold rfl rfl
    have hleft := h.idle (hgranted hlock) hold rfl
    refine h.advance (hgranted hlock) hold hlocked (fun hno => by cases hno) (fun _ => hleft)
      (fun _ _ hno => by cases hno) fun store now hfollows => ?_
    have hprepare : PoolCoherent (store.apply now (.finalizeAuthInvalid selection.accountId))
        (gateway.dir.runAccountDiskOp
          (if record.detached then none else some (.moveToTrash record.filePath))) :=
      hpool.finishAuthInvalid (AccountStore.prepareAuthInvalid_eq hrecord failure.details) hfollows
    rw [if_pos hdetached] at hprepare
    rw [filesAhead, hleft]
    exact hprepare
  | @prepare selection failure record hlock hrecord hattached =>
    have hpool := h.settled (hgranted hlock) hold rfl rfl
    refine h.submit (hgranted hlock) hold hlocked rfl rfl fun store now hfollows => ?_
    have hprepare : PoolCoherent (store.apply now (.finalizeAuthInvalid selection.accountId))
        (gateway.dir.runAccountDiskOp
          (if record.detached then none else some (.moveToTrash record.filePath))) :=
      hpool.finishAuthInvalid (AccountStore.prepareAuthInvalid_eq hrecord failure.details) hfollows
    rw [if_neg (by simp [hattached])] at hprepare
    exact hprepare
  | trashed hresult =>
    have howner := hinside rfl
    refine h.advance howner hold hlocked (fun _ => rfl) (fun _ => (h.done hresult).1)
      (fun _ _ hno => by cases hno) fun store now hfollows => ?_
    have hcoherent := h.coherent store now hfollows
    rwa [owed_eq howner hold] at hcoherent
  | untrashed hresult => cases (h.done hresult).2
  | note =>
    have howner := hinside rfl
    refine h.unlock howner rfl hlocked ?_
    exact h.finished howner hold (h.ended pid _ hold rfl)
      (follows_applyOps (hroutine (.noteTrashFailure _ _) rfl)) gateway.now
  | @finalizeGone selection failure result hnone =>
    have howner := hinside rfl
    refine h.unlock howner rfl hlocked ?_
    have hpool := h.finished howner hold (h.ended pid _ hold rfl) (.refl _) gateway.now
    have hgone : gateway.store.finalizeAuthInvalidFailure gateway.now selection.accountId =
        none := by
      rw [AccountStore.finalizeAuthInvalidFailure, show gateway.store.record? _ = none from hnone]
      rfl
    simpa [Process.owes?, applyOps, AccountStore.apply, hgone] using hpool
  | finalize hrecord =>
    have howner := hinside rfl
    refine h.unlock howner rfl hlocked ?_
    exact h.finished howner hold (h.ended pid _ hold rfl) (.refl _) gateway.now
  | askCommit | askPrepare =>
    exact h.aside hold rfl rfl (by simp) (.inr rfl) hlocked
  | select =>
    refine h.aside hold rfl ?_ (by simp [StoreOp.routine]) (.inl rfl) hlocked
    dsimp only [Process.insideDisk, RequestPc.insideDisk]
    split <;> rfl
  | execute decodeError =>
    refine h.aside hold rfl ?_ (by simp) (.inl rfl) hlocked
    dsimp only [afterExecute, Process.insideDisk, RequestPc.insideDisk]
    split <;> rfl
  | refreshFailed hpc | rejectAgain _ _ hpc | fail _ hpc | undecode hpc =>
    refine h.aside hold rfl ?_ (by simp [StoreOp.routine]) (.inl rfl) hlocked
    exact RequestPc.outside_of_unselected hpc
  | @settle selection settlement =>
    refine h.aside hold rfl rfl ?_ (.inl rfl) hlocked
    cases settlement <;> simp [AccountSettlement.op, StoreOp.routine]
  | _ => exact h.aside hold rfl rfl (by simp [StoreOp.routine]) (.inl rfl) hlocked

theorem call (h : gateway.TokensStored) {accountCall : AccountCall} {pc : AccountCallPc}
    {input : Input} {next : AccountCallResumption}
    (hold : gateway.processes[pid]? = some (.call accountCall pc))
    (hkeeps : bringsNewest config gateway.store (.call accountCall pc) = true)
    (hnext : resumeCall config (gateway.view pid) accountCall pc input = some next)
    (hlocked : (gateway.perform pid (.call accountCall next.pc) next.ops next.disk).LockHeld) :
    (gateway.perform pid (.call accountCall next.pc) next.ops next.disk).TokensStored := by
  have hgranted (hlock : (gateway.view pid).holdsDiskLock = true) :
      gateway.diskOwner? = some pid := holdsDiskLock_iff.mp hlock
  have hinside (hpc : pc.insideDisk = true) : gateway.diskOwner? = some pid :=
    h.locked pid _ hold hpc
  cases resumeCall_step hnext with
  | refuseImport hlock | refuseRemove hlock =>
    exact h.unlock (hgranted hlock) rfl hlocked (h.settled (hgranted hlock) hold rfl rfl)
  | planImport hlock hplan hdisk =>
    have hpool := h.settled (hgranted hlock) hold rfl rfl
    have hleft := h.idle (hgranted hlock) hold rfl
    refine h.advance (hgranted hlock) hold hlocked (fun hno => by cases hno) (fun _ => hleft)
      (fun _ _ hno => by cases hno) fun store now hfollows => ?_
    have himport := hpool.importAccount hplan (by simpa [bringsNewest] using hkeeps) hfollows
    rw [hdisk] at himport
    rw [filesAhead, hleft]
    exact himport
  | writeImport hlock hplan hdisk =>
    have hpool := h.settled (hgranted hlock) hold rfl rfl
    refine h.submit (hgranted hlock) hold hlocked rfl rfl fun store now hfollows => ?_
    have himport := hpool.importAccount hplan (by simpa [bringsNewest] using hkeeps) hfollows
    rw [hdisk] at himport
    exact himport
  | @planRemove id record hlock hrecord =>
    have hpool := h.settled (hgranted hlock) hold rfl rfl
    refine h.submit (hgranted hlock) hold hlocked rfl rfl fun store now hfollows => ?_
    have hplan : gateway.store.prepareRemoveAccount id =
        some ⟨id, .remove record.filePath⟩ := by
      rw [AccountStore.prepareRemoveAccount, show gateway.store.record? id = _ from hrecord]
      rfl
    exact hpool.removeAccount hplan hfollows
  | lockRescan hlock =>
    have hpool := h.settled (hgranted hlock) hold rfl rfl
    have hleft := h.idle (hgranted hlock) hold rfl
    refine h.advance (hgranted hlock) hold hlocked (fun hno => by cases hno)
      (fun hno => by cases hno)
      (fun _ _ hno => by cases hno) fun store now hfollows => ?_
    rw [filesAhead, hleft]
    exact hpool.follows hfollows
  | scan =>
    have hpool := h.settled (hinside rfl) hold rfl rfl
    have hleft := h.idle (hinside rfl) hold rfl
    refine h.advance (hinside rfl) hold hlocked (fun hno => by cases hno)
      (fun hno => by cases hno) (fun call snapshot hnew => ?_)
      fun store now hfollows => ?_
    · cases hnew
      exact ⟨gateway.dir, fun _ => rfl, rfl⟩
    · rw [filesAhead, hleft]
      exact hpool.follows hfollows
  | scanFailed | planFailed =>
    exact h.unlock (hinside rfl) rfl hlocked (h.settled (hinside rfl) hold rfl rfl)
  | @planSync accountCall snapshot plan hplan =>
    have hpool := h.settled (hinside rfl) hold rfl rfl
    obtain ⟨dir, hfiles, rfl⟩ := h.scanned pid accountCall snapshot hold
    refine h.submit (hinside rfl) hold hlocked rfl rfl fun store now hfollows => ?_
    have hsync := (hpool.congr hfiles).sync (by simp) hplan hfollows
    exact hsync.congr (AccountsDir.file?_applyDiskOps (fun path => (hfiles path).symm) _)
  | ran hresult =>
    have howner := hinside rfl
    refine h.advance howner hold hlocked (fun _ => rfl) (fun _ => (h.done hresult).1)
      (fun _ _ hno => by cases hno) fun store now hfollows => ?_
    have hcoherent := h.coherent store now hfollows
    rwa [owed_eq howner hold] at hcoherent
  | runFailed hresult => cases (h.done hresult).2
  | apply =>
    have howner := hinside rfl
    refine h.unlock howner rfl hlocked ?_
    exact h.finished howner hold (h.ended pid _ hold rfl) (.refl _) gateway.now

/-- The next operation of the holder's task takes effect. -/
theorem runTask (h : gateway.TokensStored) (hlocked : gateway'.LockHeld)
    (hstep : step config gateway (.runTask .done) = some gateway') : gateway'.TokensStored := by
  obtain ⟨holder, hholder, hstep⟩ := Option.bind_eq_some_iff.mp hstep
  obtain ⟨task, htask, hstep⟩ := Option.bind_eq_some_iff.mp hstep
  obtain ⟨⟨dir, task', effect⟩, hadvance, hstep⟩ := Option.bind_eq_some_iff.mp hstep
  obtain rfl := Option.some.inj hstep
  have herror := h.sound holder task hholder htask
  obtain ⟨remaining, error⟩ := task
  obtain rfl : error = none := herror
  cases remaining with
  | nil => cases hadvance
  | cons op rest =>
    obtain ⟨rfl, rfl, rfl⟩ := by simpa [DiskTask.advance] using hadvance
    have hleft : gateway.fileOpsLeft = op :: rest := by simp [fileOpsLeft, hholder, htask]
    obtain ⟨asking, hasking, hhas⟩ := h.asked holder _ hholder htask
    have howner : gateway.diskOwner? = some holder.pid := by simp [diskOwner?, hholder]
    refine ⟨hlocked, h.orphans, fun holder' task' hholder' htask' => ?_,
      fun holder' task' hholder' _ => ?_, fun pid process hprocess hpast => ?_,
      fun pid call snapshot hprocess => ?_, fun store now hfollows => ?_⟩
    · obtain rfl := Option.some.inj hholder'
      obtain rfl := Option.some.inj htask'
      rfl
    · obtain rfl := Option.some.inj hholder'
      exact ⟨asking, hasking, hhas⟩
    · have hnone := h.ended pid process hprocess hpast
      rw [hleft] at hnone
      cases hnone
    · -- a call that plans holds the lock, and it has no task yet
      have hplanning := h.locked pid _ hprocess rfl
      obtain rfl := Option.some.inj (howner.symm.trans hplanning)
      have hnone := h.idle howner hprocess rfl
      rw [hleft] at hnone
      cases hnone
    · have hcoherent := h.coherent store now hfollows
      rw [filesAhead, hleft] at hcoherent
      have howed : owed { gateway with
          dir := gateway.dir.applyDiskOp op
          diskHolder := some { holder with task := some ⟨rest, none⟩ }
          fileLog := gateway.fileLog ++ [(holder.ticket, op)] } = gateway.owed := by
        simp [owed, diskOwner?, hholder]
      show PoolCoherent (applyOps store now (owed { gateway with
          dir := gateway.dir.applyDiskOp op
          diskHolder := some { holder with task := some ⟨rest, none⟩ }
          fileLog := gateway.fileLog ++ [(holder.ticket, op)] })) _
      rw [howed]
      exact hcoherent

/-- Events that leave the processes and the lock alone, and the files and the accounts as they
are. -/
theorem quiet (h : gateway.TokensStored) (hlocked : gateway'.LockHeld)
    (hfollows : gateway.store.Follows gateway'.store)
    (hfiles : ∀ path, gateway'.dir.file? path = gateway.dir.file? path)
    (horphans : gateway'.orphans = gateway.orphans)
    (hholder : gateway'.diskHolder = gateway.diskHolder)
    (hprocesses : gateway'.processes = gateway.processes) : gateway'.TokensStored := by
  have howed : gateway'.owed = gateway.owed := by
    rw [owed, owed, diskOwner?, diskOwner?, hholder, hprocesses]
  have hleft : gateway'.fileOpsLeft = gateway.fileOpsLeft := by
    rw [fileOpsLeft, fileOpsLeft, hholder]
  refine ⟨hlocked, horphans.trans h.orphans, hholder ▸ h.sound, ?_, ?_, ?_, ?_⟩
  · rw [hholder, hprocesses]
    exact h.asked
  · rw [hprocesses, hleft]
    exact h.ended
  · intro pid call snapshot hprocess
    rw [hprocesses] at hprocess
    obtain ⟨dir, hsame, rfl⟩ := h.scanned pid call snapshot hprocess
    exact ⟨dir, fun path => (hsame path).trans (hfiles path).symm, rfl⟩
  · intro store now hlater
    rw [howed, filesAhead, hleft]
    exact (h.coherent store now (hfollows.trans hlater)).congr
      (AccountsDir.file?_applyDiskOps hfiles _)

/-- A new process is outside. -/
theorem spawn (h : gateway.TokensStored) {new : Process} (hnew : new.insideDisk = false)
    {waiters : List ℕ} :
    TokensStored { gateway with
      processes := gateway.processes ++ [new], diskWaiters := waiters } := by
  have howed : owed { gateway with
      processes := gateway.processes ++ [new], diskWaiters := waiters } = gateway.owed := by
    show ((gateway.diskOwner?.bind fun pid => (gateway.processes ++ [new])[pid]?).bind
      Process.owes?).toList = gateway.owed
    rw [owed]
    cases gateway.diskOwner? with
    | none => rfl
    | some pid =>
      rw [Option.bind_some, Option.bind_some]
      exact congrArg Option.toList
        (bind_getElem?_append_singleton (Process.owes?_of_outside hnew) _ _)
  refine ⟨h.locked.append hnew, h.orphans, h.sound, fun holder task hholder htask => ?_,
    fun pid process hprocess hpast => ?_, fun pid call snapshot hprocess => ?_,
    fun store now hfollows => ?_⟩
  · obtain ⟨process, hprocess, hhas⟩ := h.asked holder task hholder htask
    exact ⟨process, getElem?_append_of_some hprocess [new], hhas⟩
  · rcases of_getElem?_append_singleton hprocess with hbefore | ⟨-, rfl⟩
    · exact h.ended pid process hbefore hpast
    · rw [Process.inside_of_pastTask hpast] at hnew
      cases hnew
  · rcases of_getElem?_append_singleton hprocess with hbefore | ⟨-, rfl⟩
    · exact h.scanned pid call snapshot hbefore
    · cases hnew
  · rw [howed]
    exact h.coherent store now hfollows

/-- With no holder nobody is inside, and nothing is owed. -/
theorem free (h : gateway.TokensStored) (hholder : gateway.diskHolder = none) {pid : ℕ}
    {process : Process} (hprocess : gateway.processes[pid]? = some process) :
    process.insideDisk = false := by
  by_contra hinside
  have howner := h.locked pid process hprocess (by simpa using hinside)
  simp [diskOwner?, hholder] at howner

/-- The first waiter gets the lock, when nobody is inside. -/
theorem grant (h : gateway.TokensStored) (hholder : gateway.diskHolder = none)
    {holder : DiskHolder} (htask : holder.task = none) {waiters : List ℕ} {tickets : ℕ}
    (hlocked : LockHeld { gateway with
      diskHolder := some holder, diskWaiters := waiters, tickets := tickets }) :
    TokensStored { gateway with
      diskHolder := some holder, diskWaiters := waiters, tickets := tickets } := by
  have howed : gateway.owed = [] := by simp [owed, diskOwner?, hholder]
  have hleft : gateway.fileOpsLeft = [] := by simp [fileOpsLeft, hholder]
  have howed' : owed { gateway with
      diskHolder := some holder, diskWaiters := waiters, tickets := tickets } = [] := by
    show ((gateway.processes[holder.pid]?).bind Process.owes?).toList = []
    cases hprocess : gateway.processes[holder.pid]? with
    | none => rfl
    | some process =>
      rw [Option.bind_some, Process.owes?_of_outside (h.free hholder hprocess)]
      rfl
  have hleft' : fileOpsLeft { gateway with
      diskHolder := some holder, diskWaiters := waiters, tickets := tickets } = [] := by
    simp [fileOpsLeft, htask]
  refine ⟨hlocked, h.orphans, fun holder' task hsome hasked => ?_,
    fun holder' task hsome hasked => ?_, fun _ _ _ _ => hleft', h.scanned,
    fun store now hfollows => ?_⟩
  · obtain rfl := Option.some.inj hsome
    rw [htask] at hasked
    cases hasked
  · obtain rfl := Option.some.inj hsome
    rw [htask] at hasked
    cases hasked
  · have hcoherent := h.coherent store now hfollows
    rw [howed, filesAhead, hleft] at hcoherent
    rw [howed', filesAhead, hleft']
    exact hcoherent

/-- A drop that ends no task leaves no file operation behind. -/
theorem fileOpsLeft_leaveDisk (h : gateway.TokensStored)
    (hends : gateway.endsTasks (.drop pid)) :
    (gateway.leaveDisk pid).fileOpsLeft = gateway.fileOpsLeft := by
  cases hholder : gateway.diskHolder with
  | none => simp [leaveDisk, fileOpsLeft, hholder]
  | some holder =>
    by_cases hpid : holder.pid = pid
    · have hleft : gateway.fileOpsLeft = [] := by
        cases htask : holder.task with
        | none => simp [fileOpsLeft, hholder, htask]
        | some task =>
          rw [endsTasks, hholder, Option.all_some, hpid, bne_self_eq_false, Bool.false_or,
            htask, Option.all_some] at hends
          obtain ⟨result, hresult⟩ := Option.isSome_iff_exists.mp hends
          have hview : (gateway.view pid).taskResult = some result := by
            simp [view, hholder, hpid, htask, hresult]
          exact (h.done hview).1
      rw [hleft]
      simp [leaveDisk, fileOpsLeft, hholder, hpid]
    · rw [fileOpsLeft, fileOpsLeft, diskHolder_leaveDisk_of_ne hholder hpid, hholder]

/-- A handler that is dropped leaves no file operation behind, and it owes nothing. -/
theorem drop (h : gateway.TokensStored) (hends : gateway.endsTasks (.drop pid))
    {old new : Process} (hold : gateway.processes[pid]? = some old) (howes : old.owes? = none)
    (hafter : old.afterDrop = some new) {gateway' : Gateway} (hlocked : gateway'.LockHeld)
    (hdrop : gateway' =
      { gateway.leaveDisk pid with processes := gateway.processes.set pid new }) :
    gateway'.TokensStored := by
  have houtside := afterDrop_outside hafter
  have hfiles : gateway'.fileOpsLeft = gateway.fileOpsLeft := by
    rw [hdrop]
    exact h.fileOpsLeft_leaveDisk hends
  have hstore : gateway'.store = gateway.store := by
    rw [hdrop]
    exact leaveDisk_store gateway pid
  have hdir : gateway'.dir = gateway.dir := by
    rw [hdrop]
    exact dir_leaveDisk
  have hprocesses {pid' : ℕ} (hne : pid' ≠ pid) :
      gateway'.processes[pid']? = gateway.processes[pid']? := by
    rw [hdrop]
    exact List.getElem?_set_ne hne.symm
  have hremains {holder : DiskHolder} (hholder : gateway'.diskHolder = some holder) :
      gateway.diskHolder = some holder ∧ holder.pid ≠ pid := by
    rw [hdrop] at hholder
    exact diskHolder_leaveDisk hholder
  have howed : gateway'.owed = gateway.owed := by
    cases hholder : gateway.diskHolder with
    | none =>
      have hnone : gateway'.diskHolder = none := by
        cases hsome : gateway'.diskHolder with
        | none => rfl
        | some holder => exact absurd (hremains hsome).1 (by simp [hholder])
      simp [owed, diskOwner?, hholder, hnone]
    | some holder =>
      by_cases hpid : holder.pid = pid
      · have hnone : gateway'.diskHolder = none := by
          cases hsome : gateway'.diskHolder with
          | none => rfl
          | some holder' =>
            obtain ⟨hbefore, hne⟩ := hremains hsome
            obtain rfl := Option.some.inj (hholder.symm.trans hbefore)
            exact absurd hpid hne
        simp [owed, diskOwner?, hholder, hnone, hpid, hold, howes]
      · have hkept : gateway'.diskHolder = some holder := by
          rw [hdrop]
          exact diskHolder_leaveDisk_of_ne hholder hpid
        simp [owed, diskOwner?, hholder, hkept, hprocesses hpid]
  have hothers {pid' : ℕ} {process : Process} (hprocess : gateway'.processes[pid']? = some process)
      (hinside : process.insideDisk = true) : gateway.processes[pid']? = some process := by
    rw [hdrop] at hprocess
    rcases of_getElem?_set hprocess with ⟨-, rfl⟩ | ⟨-, hbefore⟩
    · rw [houtside] at hinside
      cases hinside
    · exact hbefore
  refine ⟨hlocked, ?_, fun holder task hholder htask => ?_, fun holder task hholder htask => ?_,
    fun pid' process hprocess hpast => ?_, fun pid' call snapshot hprocess => ?_,
    fun store now hfollows => ?_⟩
  · rw [hdrop]
    exact (orphans_leaveDisk hends).trans h.orphans
  · exact h.sound holder task (hremains hholder).1 htask
  · obtain ⟨process, hprocess, hhas⟩ := h.asked holder task (hremains hholder).1 htask
    exact ⟨process, (hprocesses (hremains hholder).2).trans hprocess, hhas⟩
  · rw [hfiles]
    exact h.ended pid' process (hothers hprocess (Process.inside_of_pastTask hpast)) hpast
  · obtain ⟨dir, hsame, rfl⟩ := h.scanned pid' call snapshot (hothers hprocess rfl)
    exact ⟨dir, fun path => hdir ▸ hsame path, rfl⟩
  · rw [howed, filesAhead, hdir, hfiles]
    exact h.coherent store now (hstore ▸ hfollows)

end TokensStored

/-- Every such step keeps the pool coherent up to what the holder of the lock is about to do. -/
theorem tokensStored_step (h : gateway.TokensStored) (hkeeps : keepsNewest config gateway event)
    (hstep : step config gateway event = some gateway') : gateway'.TokensStored := by
  have hlocked : gateway'.LockHeld := lockHeld_step h.locked hstep
  cases event with
  | resume pid input =>
    obtain ⟨process, hprocess, hresume⟩ := Option.bind_eq_some_iff.mp hstep
    rw [keepsNewest, hprocess, Option.all_some] at hkeeps
    cases process with
    | request run pc =>
      obtain ⟨next, hnext, rfl⟩ := Option.map_eq_some_iff.mp hresume
      exact h.request hprocess hkeeps hnext hlocked
    | call accountCall pc =>
      obtain ⟨next, hnext, rfl⟩ := Option.map_eq_some_iff.mp hresume
      exact h.call hprocess hkeeps hnext hlocked
  | drop pid =>
    obtain ⟨new, hdrop, hnew⟩ := Option.map_eq_some_iff.mp hstep
    obtain ⟨old, hold, hafter⟩ := Option.bind_eq_some_iff.mp hdrop
    obtain ⟨hends, howes⟩ := hkeeps
    rw [hold, Option.bind_some, Option.isNone_iff_eq_none] at howes
    exact h.drop hends hold howes hafter hlocked hnew.symm
  | spawnRequest | spawnCall =>
    obtain rfl := Option.some.inj hstep
    exact h.spawn rfl
  | grant =>
    simp only [step] at hstep
    split at hstep
    next waiter rest hholder _ =>
      obtain rfl := Option.some.inj hstep
      exact h.grant hholder rfl hlocked
    next => cases hstep
  | runTask outcome =>
    obtain rfl : outcome = .done := hkeeps
    exact h.runTask hlocked hstep
  | runOrphan index outcome =>
    simp [step, h.orphans] at hstep
  | clock | setPolicy =>
    obtain rfl := Option.some.inj hstep
    exact h.quiet hlocked (.refl _) (fun _ => rfl) rfl rfl rfl
  | relist order =>
    obtain rfl := Option.some.inj hstep
    exact h.quiet hlocked (.refl _)
      (fun path => HashMap.lookup_reorder order gateway.dir.files path) rfl rfl rfl
  | background op =>
    simp only [step, Option.ite_none_right_eq_some, Option.some.injEq] at hstep
    obtain ⟨hbackground, rfl⟩ := hstep
    have hroutine : op.routine = true := by
      cases op <;> first | rfl | cases hbackground
    exact h.quiet hlocked (AccountStore.follows_apply hroutine) (fun _ => rfl) rfl rfl rfl

theorem tokensStored_boot {dir : AccountsDir} (htrimmed : dir.Trimmed) (now : Time)
    (policy : RoutingPolicy) : (boot dir now policy).TokensStored where
  locked := lockHeld_boot dir now policy
  orphans := rfl
  sound holder task hholder := by cases hholder
  asked holder task hholder := by cases hholder
  ended pid process hprocess := by simp [boot] at hprocess
  scanned pid call snapshot hprocess := by simp [boot] at hprocess
  coherent _ _ hfollows := (App.coherent_startup htrimmed).follows hfollows

/-- If no handler is dropped while a file operation of it is left, the file operations keep the
order of the lock. If moreover no import inserts its token under the id of a deleted account,
no file of a deleted account is there again. And if the run stores only newest tokens, every
attached account's file will hold its token, except while a store operation is owed. -/
theorem file_operations_keep_order {dir : AccountsDir} {start : Time} {policy : RoutingPolicy}
    {state : Gateway × Finset String}
    (hrun : Run (deletionStep config) (fun state event => state.1.endsTasks event)
      (boot dir start policy, ∅) state) :
    state.1.FilesOrdered ∧
    (Run (deletionStep config)
        (fun state event => state.1.endsTasks event ∧ insertsElsewhere config state event)
        (boot dir start policy, ∅) state →
      ∀ id ∈ state.2, state.1.dir.file? ⟨id⟩ = none) ∧
    (dir.Trimmed → Run (step config) (keepsNewest config) (boot dir start policy) state.1 →
      state.1.owed = [] → ∀ id record, state.1.store.record? id = some record →
        record.detached = false →
          ∃ disk, state.1.filesAhead.file? record.filePath = some (.account disk) ∧
            disk.refreshToken = record.refreshToken) := by
  refine ⟨?_, fun hspares => ?_, fun htrimmed hnewest howed id record hrecord hattached => ?_⟩
  · have hdeletion : ∀ gateway deleted event, deletionStep config (gateway, deleted) event =
        (step config gateway event).map fun gateway' =>
          (gateway', observeDeletion gateway deleted event) := fun _ _ _ => rfl
    have horder : state.1.InOrder := (Run.forget hdeletion hrun).invariant
      (fun _ _ _ h hguard hstep => inOrder_step h hguard hstep) (inOrder_boot dir start policy)
    exact horder.ordered
  · have hdeleted : state.1.StaysDeleted state.2 :=
      hspares.invariant (I := fun state => state.1.StaysDeleted state.2)
        (fun _ _ _ h hguard hstep => staysDeleted_step h hguard.1 hguard.2 hstep)
        (staysDeleted_boot dir start policy)
    exact hdeleted.lacks
  · have hstored : state.1.TokensStored := hnewest.invariant
      (fun _ _ _ h hguard hstep => tokensStored_step h hguard hstep)
      (tokensStored_boot htrimmed start policy)
    have hcoherent := hstored.coherent state.1.store state.1.now (.refl _)
    rw [howed] at hcoherent
    exact ((hcoherent.records id record hrecord).stored hattached).2

/-- A request whose refresh rotates the token submits the write of the account's file. -/
def rotate : List Event :=
  [.spawnRequest .releaseImmediately ∅, .resume 0 .scheduled, .resume 0 .scheduled,
    .resume 0 (.refreshReply (.json (.object
      [("access_token", .string "at_1"), ("refresh_token", .string "rt_2")]))),
    .resume 0 .scheduled, .grant, .resume 0 .scheduled]

/-- It is dropped when the file has been written. -/
def rotateThenDrop : List Event := rotate ++ [.runTask .done, .drop 0]

/-- The account is deleted. -/
def deleteFile (pid : ℕ) : List Event :=
  [.spawnCall (.removeAccount "a"), .grant, .resume pid .scheduled, .runTask .done,
    .resume pid .scheduled, .resume pid .scheduled]

theorem exampleDir_trimmed : exampleDir.Trimmed :=
  trimmed_write App.emptyDir_trimmed (by decide +kernel)

theorem file_operations_keep_order_rotateThenDrop :
    let state := stateAfter (deletionStep exampleConfig) (boot exampleDir 0 .fillFirst, ∅)
      rotateThenDrop
    let deleted := stateAfter (deletionStep exampleConfig) (boot exampleDir 0 .fillFirst, ∅)
      (rotateThenDrop ++ deleteFile 1)
    (∃ record disk, state.1.store.record? "a" = some record ∧
      state.1.filesAhead.file? record.filePath = some (.account disk) ∧
      disk.refreshToken = record.refreshToken) ∧
    deleted.1.FilesOrdered ∧ deleted.1.dir.file? ⟨"a"⟩ = none := by
  intro state deleted
  have hstate : state = stateAfter (deletionStep exampleConfig) (boot exampleDir 0 .fillFirst, ∅)
    rotateThenDrop := rfl
  have hdeleted : deleted = stateAfter (deletionStep exampleConfig)
    (boot exampleDir 0 .fillFirst, ∅) (rotateThenDrop ++ deleteFile 1) := rfl
  have hfirst : state.1 = stateAfter (step exampleConfig) (boot exampleDir 0 .fillFirst)
    rotateThenDrop := rfl
  clear_value state deleted
  have hspares : Run (deletionStep exampleConfig) (fun state event => state.1.endsTasks event ∧
      insertsElsewhere exampleConfig state event) (boot exampleDir 0 .fillFirst, ∅) deleted := by
    rw [hdeleted]
    exact .of_isSome (by decide +kernel)
  have hnewest : Run (step exampleConfig) (keepsNewest exampleConfig)
      (boot exampleDir 0 .fillFirst) state.1 := by
    rw [hfirst]
    exact .of_isSome (by decide +kernel)
  have hrun : Run (deletionStep exampleConfig) (fun state event => state.1.endsTasks event)
      (boot exampleDir 0 .fillFirst, ∅) state := by
    rw [hstate]
    exact .of_isSome (by decide +kernel)
  obtain ⟨record, hrecord, hattached, howed⟩ : ∃ record, state.1.store.record? "a" = some record ∧
      record.detached = false ∧ state.1.owed = [] := by
    rw [hstate]
    exact ⟨_, rfl, rfl, rfl⟩
  obtain ⟨disk, hfile, htoken⟩ := (file_operations_keep_order hrun).2.2 exampleDir_trimmed hnewest
    howed "a" record hrecord hattached
  have hordered := file_operations_keep_order (hspares.mono fun _ _ hguard => hguard.1)
  have hid : "a" ∈ deleted.2 := by
    rw [hdeleted]
    decide +kernel
  exact ⟨⟨record, disk, hrecord, hfile, htoken⟩, hordered.1, hordered.2.1 hspares "a" hid⟩

/-- It is dropped while its write is under way; the account is deleted, and then the write takes
effect. -/
def dropThenDelete : List Event := rotate ++ [.drop 0] ++ deleteFile 1 ++ [.runOrphan 0 .done]

theorem dropped_write_overtaken :
    ∃ state : Gateway × Finset String,
      Run (deletionStep exampleConfig) anyEvent (boot exampleDir 0 .fillFirst, ∅) state ∧
      ¬ state.1.FilesOrdered ∧ "a" ∈ state.2 ∧ (state.1.dir.file? ⟨"a"⟩).isSome = true := by
  refine ⟨stateAfter (deletionStep exampleConfig) _ dropThenDelete, .of_isSome ?_, ?_⟩
  · decide +kernel
  · unfold FilesOrdered
    decide +kernel

end Gateway

end Codaze.Failover
