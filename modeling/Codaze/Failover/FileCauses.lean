import Codaze.Failover.DiskLock
import Codaze.Failover.Rejections
import Codaze.Failover.RescanFrame

/-!
# What moves a file

Every operation on the accounts directory is traced to the moment a process submitted it under the
disk lock, and to what made the process ask for it: a call of the administration interface, a reply
of the token endpoint or the call's own scan of the directory. Tasks do only what was submitted to
them, so the causes of the submitted operations are enough.
-/
namespace Codaze.Failover
open Foundation Accounts

def DiskAction.submitted : DiskAction → List AccountDiskOp
  | submit ops => ops
  | _ => []

namespace Gateway

/-- The file operations an event submits to the task of the lock's holder. -/
def submits (config : Config) (gateway : Gateway) : Event → List AccountDiskOp
  | .resume pid input => match gateway.processes[pid]? with
    | some (.request run pc) =>
      ((resumeRequest config (gateway.view pid) run pc input).map (·.disk.submitted)).getD []
    | some (.call call pc) =>
      ((resumeCall config (gateway.view pid) call pc input).map (·.disk.submitted)).getD []
    | none => []
  | _ => []

/-- The file operations that took effect, or that a task has left to do, by the ticket. -/
inductive Due (gateway : Gateway) (ticket : ℕ) (op : AccountDiskOp) : Prop
  | done (h : (ticket, op) ∈ gateway.fileLog)
  | held {pid : ℕ} {task : DiskTask} (hholder : gateway.diskHolder = some ⟨pid, ticket, some task⟩)
      (h : op ∈ task.remaining)
  | orphaned {task : DiskTask} (horphan : (ticket, task) ∈ gateway.orphans)
      (h : op ∈ task.remaining)

variable {config : Config} {gateway gateway' : Gateway} {event : Event} {ticket : ℕ}
  {op : AccountDiskOp}

/-- A task does what it had left to do. -/
theorem of_advance {task task' : DiskTask} {dir dir' : AccountsDir} {outcome : FileOutcome}
    {effect : List AccountDiskOp} (h : task.advance dir outcome = some (dir', task', effect))
    (hop : op ∈ task'.remaining ∨ op ∈ effect) : op ∈ task.remaining := by
  obtain ⟨remaining, error⟩ := task
  cases error with
  | some => cases h
  | none =>
    cases remaining with
    | nil => cases h
    | cons first rest =>
      cases outcome with
      | done | failedAfter =>
        obtain ⟨-, rfl, rfl⟩ := by simpa [DiskTask.advance] using h
        rcases hop with hrest | heffect
        · exact List.mem_cons_of_mem _ hrest
        · exact List.mem_cons.mpr (.inl (List.mem_singleton.mp heffect))
      | failed =>
        obtain ⟨-, rfl, rfl⟩ := by simpa [DiskTask.advance] using h
        rcases hop with hsame | heffect
        · exact hsame
        · cases heffect

/-- A step that adds no operation to the log or to a task. -/
theorem Due.frame (h : gateway'.Due ticket op) (hlog : gateway'.fileLog = gateway.fileLog)
    (horphans : gateway'.orphans = gateway.orphans)
    (hholder : gateway'.diskHolder = gateway.diskHolder ∨
      ∀ holder, gateway'.diskHolder = some holder → holder.task = none) :
    gateway.Due ticket op := by
  cases h with
  | done hdone => exact .done (hlog ▸ hdone)
  | orphaned horphan hmem => exact .orphaned (horphans ▸ horphan) hmem
  | held hheld hmem =>
    rcases hholder with hsame | hnone
    · exact .held (hsame ▸ hheld) hmem
    · cases hnone _ hheld

/-- What a process submits goes to the holder of the lock. -/
theorem Due.of_perform {pid : ℕ} {process : Process} {ops : List StoreOp} {disk : DiskAction}
    (h : (gateway.perform pid process ops disk).Due ticket op) :
    gateway.Due ticket op ∨ op ∈ disk.submitted ∧ ∃ holder, gateway.diskHolder = some holder ∧
      holder.ticket = ticket := by
  cases disk with
  | keep | enqueue => exact .inl (h.frame rfl rfl (.inl rfl))
  | unlock => exact .inl (h.frame rfl rfl (.inr fun _ hholder => by cases hholder))
  | submit fileOps =>
    cases h with
    | done hdone => exact .inl (.done hdone)
    | orphaned horphan hmem => exact .inl (.orphaned horphan hmem)
    | held hholder hmem =>
      obtain ⟨before, hbefore, heq⟩ := Option.map_eq_some_iff.mp hholder
      obtain ⟨-, rfl, htask⟩ := DiskHolder.mk.inj heq
      obtain rfl := Option.some.inj htask
      exact .inr ⟨hmem, before, hbefore, rfl⟩

/-- A dropped call leaves at most its task. -/
theorem Due.of_leaveDisk {pid : ℕ} {processes : List Process}
    (h : { gateway.leaveDisk pid with processes := processes }.Due ticket op) :
    gateway.Due ticket op := by
  cases hholder : gateway.diskHolder with
  | none =>
    simp only [leaveDisk, hholder] at h
    exact h.frame rfl rfl (.inl hholder.symm)
  | some holder =>
    by_cases hpid : holder.pid = pid
    · simp only [leaveDisk, hholder, hpid, if_true] at h
      cases h with
      | done hdone => exact .done hdone
      | held hheld => cases hheld
      | orphaned horphan hmem =>
        rcases List.mem_append.mp horphan with hold | hnew
        · exact .orphaned hold hmem
        · split at hnew
          next task htask =>
            split at hnew
            next =>
              obtain ⟨rfl, heq⟩ := Prod.mk.inj (List.mem_singleton.mp hnew)
              have hheld : gateway.diskHolder = some ⟨holder.pid, holder.ticket, some task⟩ := by
                rw [hholder, ← htask]
              exact .held hheld (heq ▸ hmem)
            next => cases hnew
          next => cases hnew
    · simp only [leaveDisk, hholder, hpid, if_false] at h
      exact h.frame rfl rfl (.inl hholder.symm)

/-- A file operation takes effect or is left to do after an event only if it was before, or the
event submits it. -/
theorem due_step (hstep : step config gateway event = some gateway')
    (h : gateway'.Due ticket op) : gateway.Due ticket op ∨
      op ∈ gateway.submits config event ∧ ∃ holder, gateway.diskHolder = some holder ∧
        holder.ticket = ticket := by
  cases event with
  | resume pid input =>
    obtain ⟨process, hprocess, hresume⟩ := Option.bind_eq_some_iff.mp hstep
    cases process with
    | request run pc =>
      obtain ⟨next, hnext, rfl⟩ := Option.map_eq_some_iff.mp hresume
      rcases h.of_perform with hbefore | ⟨hop, hholder⟩
      · exact .inl hbefore
      · exact .inr ⟨by simpa [submits, hprocess, hnext] using hop, hholder⟩
    | call call pc =>
      obtain ⟨next, hnext, rfl⟩ := Option.map_eq_some_iff.mp hresume
      rcases h.of_perform with hbefore | ⟨hop, hholder⟩
      · exact .inl hbefore
      · exact .inr ⟨by simpa [submits, hprocess, hnext] using hop, hholder⟩
  | drop pid =>
    obtain ⟨process, -, rfl⟩ := Option.map_eq_some_iff.mp hstep
    exact .inl h.of_leaveDisk
  | grant =>
    simp only [step] at hstep
    split at hstep
    next =>
      obtain rfl := Option.some.inj hstep
      refine .inl (h.frame rfl rfl (.inr fun holder hholder => ?_))
      obtain rfl := Option.some.inj hholder
      rfl
    next => cases hstep
  | runTask outcome =>
    obtain ⟨holder, hholder, hstep⟩ := Option.bind_eq_some_iff.mp hstep
    obtain ⟨task, htask, hstep⟩ := Option.bind_eq_some_iff.mp hstep
    obtain ⟨⟨dir, task', effect⟩, hadvance, hstep⟩ := Option.bind_eq_some_iff.mp hstep
    obtain rfl := Option.some.inj hstep
    have hbefore : gateway.diskHolder = some ⟨holder.pid, holder.ticket, some task⟩ := by
      rw [hholder, ← htask]
    left
    cases h with
    | done hdone =>
      rcases List.mem_append.mp hdone with hold | hnew
      · exact .done hold
      · obtain ⟨effected, heffect, heq⟩ := List.mem_map.mp hnew
        obtain ⟨rfl, rfl⟩ := Prod.mk.inj heq
        exact .held hbefore (of_advance hadvance (.inr heffect))
    | held hheld hmem =>
      obtain ⟨-, rfl, heq⟩ := DiskHolder.mk.inj (Option.some.inj hheld)
      obtain rfl := Option.some.inj heq
      exact .held hbefore (of_advance hadvance (.inl hmem))
    | orphaned horphan hmem => exact .orphaned horphan hmem
  | runOrphan index outcome =>
    obtain ⟨⟨ticket, task⟩, horphan, hstep⟩ := Option.bind_eq_some_iff.mp hstep
    obtain ⟨⟨dir, task', effect⟩, hadvance, hstep⟩ := Option.bind_eq_some_iff.mp hstep
    obtain rfl := Option.some.inj hstep
    have hbefore := List.mem_of_getElem? horphan
    left
    cases h with
    | done hdone =>
      rcases List.mem_append.mp hdone with hold | hnew
      · exact .done hold
      · obtain ⟨effected, heffect, heq⟩ := List.mem_map.mp hnew
        obtain ⟨rfl, rfl⟩ := Prod.mk.inj heq
        exact .orphaned hbefore (of_advance hadvance (.inr heffect))
    | held hheld hmem => exact .held hheld hmem
    | orphaned hother hmem =>
      rcases List.mem_or_eq_of_mem_set hother with hold | hnew
      · exact .orphaned hold hmem
      · obtain ⟨rfl, rfl⟩ := Prod.mk.inj hnew
        exact .orphaned hbefore (of_advance hadvance (.inl hmem))
  | background storeOp =>
    simp only [step, Option.ite_none_right_eq_some, Option.some.injEq] at hstep
    obtain ⟨-, rfl⟩ := hstep
    exact .inl (h.frame rfl rfl (.inl rfl))
  | spawnRequest | spawnCall | clock | setPolicy | relist =>
    obtain rfl := Option.some.inj hstep
    exact .inl (h.frame rfl rfl (.inl rfl))

section history

variable (config : Config) (start : Gateway)

/-- The call scanned the directory and found the snapshot. -/
def Scanned (pid : ℕ) (snapshot : DiskScanSnapshot) : List Event → Prop :=
  Happened fun past event => event = .resume pid .scheduled ∧
    (after config start past).processes[pid]? = some (.call .rescan .scanning) ∧
    snapshot = scanAccountsDir (after config start past).dir

/-- The account is attached and has the refresh token after these events. -/
def HasToken (id token : String) (past : List Event) : Prop :=
  ∃ record, (after config start past).store.record? id = some record ∧
    record.detached = false ∧ record.refreshToken = token

/-- Why a process that is about to be resumed asks for a file operation. -/
inductive FileCause (pid : ℕ) (past : List Event) : AccountDiskOp → Prop
  /-- The token endpoint called the refresh token of the selected account invalid. -/
  | rejected {run selection failure}
      (hprocess : (after config start past).processes[pid]? =
        some (.request run (.selected selection (.preparing failure))))
      (hinvalid : failure.failure = .authInvalid)
      (hreplied : Replied config start pid selection (.error failure) past) :
      FileCause pid past (.moveToTrash ⟨selection.accountId⟩)
  /-- The call removes the account. -/
  | removed {id}
      (hprocess : (after config start past).processes[pid]? =
        some (.call (.removeAccount id) .preparing)) :
      FileCause pid past (.remove ⟨id⟩)
  /-- The call imports the token, for a new account or for the one that has it. -/
  | imported {id refreshToken label email disk}
      (hprocess : (after config start past).processes[pid]? =
        some (.call (.importAccount refreshToken label email) .preparing))
      (htoken : normalizeRefreshToken refreshToken = some disk.refreshToken)
      (hid : id = config.stableAccountId disk.refreshToken ∨
        HasToken config start id disk.refreshToken past) :
      FileCause pid past (.write ⟨id⟩ disk)
  /-- The token endpoint refreshed the selected account, with a new token or without. -/
  | renewed {run selection refreshed disk}
      (hprocess : (after config start past).processes[pid]? =
        some (.request run (.selected selection (.committing refreshed))))
      (hreplied : Replied config start pid selection (.ok refreshed) past)
      (htoken : refreshed.refreshToken = some disk.refreshToken ∨ refreshed.refreshToken = none ∧
        HasToken config start selection.accountId disk.refreshToken past) :
      FileCause pid past (.write ⟨selection.accountId⟩ disk)
  /-- The rescan found the token, in the file of the account or in another one while the account
  has it. -/
  | merged {snapshot id disk}
      (hprocess : (after config start past).processes[pid]? =
        some (.call .rescan (.planning snapshot)))
      (hscan : Scanned config start pid snapshot past)
      (hfound : ∃ entry ∈ snapshot.entries, entry.disk.refreshToken = disk.refreshToken)
      (hid : (∃ entry ∈ snapshot.entries, entry.disk.refreshToken = disk.refreshToken ∧
          entry.id = id) ∨ HasToken config start id disk.refreshToken past) :
      FileCause pid past (.write ⟨id⟩ disk)
  /-- The rescan found the token of the file in another one, or an account of another file has
  it. -/
  | duplicate {snapshot entry}
      (hprocess : (after config start past).processes[pid]? =
        some (.call .rescan (.planning snapshot)))
      (hscan : Scanned config start pid snapshot past) (hentry : entry ∈ snapshot.entries)
      (hkept : (∃ other ∈ snapshot.entries, other.path ≠ entry.path ∧
          other.disk.refreshToken = entry.disk.refreshToken) ∨
        ∃ id, entry.path ≠ ⟨id⟩ ∧ HasToken config start id entry.disk.refreshToken past) :
      FileCause pid past (.remove entry.path)

/-- The process that held the disk lock under the ticket asked for the operation, for a cause. -/
def Submitted (ticket : ℕ) (op : AccountDiskOp) : List Event → Prop :=
  Happened fun past event => ∃ holder, (after config start past).diskHolder = some holder ∧
    holder.ticket = ticket ∧ event = .resume holder.pid .scheduled ∧
    FileCause config start holder.pid past op

/-- What is known of an account call after a history. -/
def CallFound (history : List Event) (pid : ℕ) : Process → Prop
  | .call call .scanning => call = .rescan
  | .call call (.planning snapshot) => call = .rescan ∧ Scanned config start pid snapshot history
  | _ => True

end history

variable {start : Gateway} {history : List Event} {pid : ℕ}

theorem callFound_trace : ProcessTrace config start (CallFound config start) where
  concat {history pid process} event h := by
    cases process with
    | request => trivial
    | call call pc =>
      cases pc with
      | planning snapshot => exact ⟨h.1, h.2.concat event⟩
      | scanning => exact h
      | _ => trivial
  spawnRequest := trivial
  spawnCall := trivial
  resumeRequest _ _ _ := trivial
  resumeCall {history pid call pc input next} hprocess hstep h := by
    cases hstep with
    | lockRescan => rfl
    | scan =>
      obtain rfl : call = .rescan := h
      exact ⟨rfl, .now ⟨rfl, hprocess, rfl⟩⟩
    | _ => trivial
  afterDrop {history pid old new} h hafter := by
    cases old with
    | request run pc =>
      cases new with
      | request => trivial
      | call =>
        cases pc with
        | selected selection stage => cases stage <;> cases hafter
        | _ => cases hafter
    | call call pc =>
      cases pc with
      | finished | dropped => cases hafter
      | _ =>
        obtain rfl := Option.some.inj hafter
        trivial

theorem fileCause_request {run : FailoverRun} {pc : RequestPc} {input : Input}
    {next : Resumption} (hnamed : (after config start history).store.PathsNamed)
    (hprocess : (after config start history).processes[pid]? = some (.request run pc))
    (hstep : RequestStep config ((after config start history).view pid) run pc input next)
    (h : Justified config start history pid (.request run pc))
    (hop : op ∈ next.disk.submitted) :
    input = .scheduled ∧ FileCause config start pid history op := by
  have hpath {id : String} {record : AccountRecord}
      (hrecord : (after config start history).store.record? id = some record) :
      record.filePath = ⟨id⟩ := by
    have hown : record.filePath = ⟨record.id⟩ := hnamed id record hrecord
    rw [hown, AccountStore.id_of_record? hrecord]
  cases hstep with
  | @commit selection refreshed record _ hrecord hattached =>
    obtain rfl := List.mem_singleton.mp hop
    rw [hpath hrecord]
    refine ⟨rfl, .renewed hprocess (h.2.1 _ rfl) ?_⟩
    obtain ⟨-, htoken, -, -⟩ :=
      refreshSuccessRecord_frame (after config start history).now refreshed record
    cases hrotated : refreshed.refreshToken with
    | some token =>
      left
      simp [accountFileFromRecord, htoken, hrotated, Gateway.view]
    | none =>
      right
      simp only [accountFileFromRecord, Gateway.view, htoken, hrotated, Option.getD_none]
      exact ⟨trivial, record, hrecord, hattached, rfl⟩
  | @prepare selection failure record _ hrecord _ =>
    obtain rfl := List.mem_singleton.mp hop
    rw [hpath hrecord]
    exact ⟨rfl, .rejected hprocess h.2.2 (h.2.1 _ rfl)⟩
  | _ => cases hop

section rescan

variable {snapshot : DiskScanSnapshot} {plan : DiskSyncPlan} {path : AccountPath}

/-- A rescan writes a token it found to its canonical place. -/
theorem fileCause_write {disk : AccountFile}
    (hnamed : (after config start history).store.PathsNamed) (hspares : snapshot.Spares ∅)
    (hprocess : (after config start history).processes[pid]? =
      some (.call .rescan (.planning snapshot)))
    (hplan : (after config start history).store.buildDiskSyncPlan snapshot .rescan = some plan)
    (hscan : Scanned config start pid snapshot history) (h : (path, disk) ∈ plan.writes) :
    FileCause config start pid history (.write path disk) := by
  obtain ⟨token, target, htarget, rfl, rfl, -⟩ := (AccountStore.mem_plan_writes hplan).mp h
  have htoken : (mergeDuplicateAccountFiles target.disk
      (tokenGroup snapshot.entries token)).refreshToken = token := htarget.token
  rcases htarget.cases with ⟨record, -, hpreferred, -, hpath, -⟩ | ⟨-, entry, hentry, hgroup, rfl⟩
  · obtain ⟨hrecord, hattached, hrefresh⟩ := AccountStore.preferredExistingRecord_spec hpreferred
    have hnamed' : record.filePath = ⟨record.id⟩ := hnamed _ record hrecord
    rw [hpath, hnamed']
    refine .merged hprocess hscan (by rw [htoken]; exact htarget.1) (.inr ?_)
    rw [htoken, ← hrefresh]
    exact ⟨record, hrecord, hattached, rfl⟩
  · rw [(hspares entry hentry).1]
    refine .merged hprocess hscan (by rw [htoken]; exact htarget.1) (.inl ?_)
    exact ⟨entry, hentry, by rw [htoken, hgroup], rfl⟩

/-- A rescan removes the file of a token whose canonical place is another one. -/
theorem fileCause_removal (hspares : snapshot.Spares ∅)
    (hprocess : (after config start history).processes[pid]? =
      some (.call .rescan (.planning snapshot)))
    (hplan : (after config start history).store.buildDiskSyncPlan snapshot .rescan = some plan)
    (hscan : Scanned config start pid snapshot history) (h : path ∈ plan.removals) :
    FileCause config start pid history (.remove path) := by
  obtain ⟨token, target, htarget, hunmatched, entry, hentry, htoken, rfl⟩ :=
    (AccountStore.mem_plan_removals hplan).mp h
  refine .duplicate hprocess hscan hentry ?_
  rw [htoken]
  rcases htarget.cases with ⟨record, -, hpreferred, -, -, ⟨own, hown, hgroup, -, -, hmatched⟩ |
    ⟨hnone, -, -⟩⟩ | ⟨-, first, hfirst, hgroup, rfl⟩
  · refine .inl ⟨own, hown, fun hpath => hunmatched ?_, hgroup⟩
    rw [hmatched, hpath]
  · obtain ⟨hrecord, hattached, hrefresh⟩ := AccountStore.preferredExistingRecord_spec hpreferred
    refine .inr ⟨record.id, fun hpath => hnone entry hentry htoken ?_,
      record, hrecord, hattached, hrefresh⟩
    rw [(hspares entry hentry).1] at hpath
    exact congrArg AccountPath.stem hpath
  · refine .inl ⟨first, hfirst, fun hpath => hunmatched ?_, hgroup⟩
    rw [← hpath]

end rescan

theorem fileCause_call {call : AccountCall} {pc : AccountCallPc} {input : Input}
    {next : AccountCallResumption} (hnamed : (after config start history).store.PathsNamed)
    (hspares : (Process.call call pc).Spares ∅)
    (hprocess : (after config start history).processes[pid]? = some (.call call pc))
    (hstep : CallStep config ((after config start history).view pid) call pc input next)
    (h : CallFound config start history pid (.call call pc))
    (hop : op ∈ next.disk.submitted) :
    input = .scheduled ∧ FileCause config start pid history op := by
  have hpath {id : String} {record : AccountRecord}
      (hrecord : (after config start history).store.record? id = some record) :
      record.filePath = ⟨id⟩ := by
    have hown : record.filePath = ⟨record.id⟩ := hnamed id record hrecord
    rw [hown, AccountStore.id_of_record? hrecord]
  cases hstep with
  | @writeImport refreshToken label email plan diskOp _ hplan hdisk =>
    obtain rfl := List.mem_singleton.mp hop
    obtain ⟨token, htoken, ⟨record, hrecord, hattached, hrefresh, hmetadata⟩ |
      ⟨-, -, disk, hfile, -, hwrite⟩⟩ := PoolCoherent.prepareImportAccount_cases hplan
    · rcases hmetadata with ⟨-, hnone⟩ | ⟨label', email', -, hwrite⟩
      · rw [hnone] at hdisk
        cases hdisk
      · obtain rfl := Option.some.inj (hdisk.symm.trans hwrite)
        rw [hpath hrecord]
        exact ⟨rfl, .imported hprocess (hrefresh ▸ htoken)
          (.inr ⟨record, hrecord, hattached, rfl⟩)⟩
    · obtain rfl := Option.some.inj (hdisk.symm.trans hwrite)
      exact ⟨rfl, .imported hprocess (hfile ▸ htoken) (.inl (by rw [hfile]))⟩
  | planRemove _ hrecord =>
    obtain rfl := List.mem_singleton.mp hop
    rw [hpath hrecord]
    exact ⟨rfl, .removed hprocess⟩
  | @planSync _ snapshot plan hplan =>
    obtain ⟨rfl, hscan⟩ := h
    rcases List.mem_append.mp hop with hwrite | hremoval
    · obtain ⟨⟨path, disk⟩, hmem, rfl⟩ := List.mem_map.mp hwrite
      exact ⟨rfl, fileCause_write hnamed hspares hprocess hplan hscan hmem⟩
    · obtain ⟨path, hmem, rfl⟩ := List.mem_map.mp hremoval
      exact ⟨rfl, fileCause_removal hspares hprocess hplan hscan hmem⟩
  | _ => cases hop

/-- Who submits has the disk lock. -/
theorem owner_of_submits (hlock : gateway.LockHeld) {input : Input}
    (hstep : step config gateway (.resume pid input) = some gateway')
    (hop : op ∈ gateway.submits config (.resume pid input)) : gateway.diskOwner? = some pid := by
  obtain ⟨process, hprocess, hresume⟩ := Option.bind_eq_some_iff.mp hstep
  have howner {inside : Bool} (hinside : inside = process.insideDisk)
      (hheld : (inside || (gateway.view pid).holdsDiskLock) = true) :
      gateway.diskOwner? = some pid := by
    rcases Bool.or_eq_true_iff.mp hheld with hin | hgranted
    · exact hlock pid process hprocess (hinside ▸ hin)
    · exact holdsDiskLock_iff.mp hgranted
  cases process with
  | request run pc =>
    obtain ⟨next, hnext, -⟩ := Option.map_eq_some_iff.mp hresume
    simp only [submits, hprocess, hnext, Option.map_some, Option.getD_some] at hop
    cases resumeRequest_step hnext with
    | commit hheld | prepare hheld => exact holdsDiskLock_iff.mp hheld
    | _ => cases hop
  | call call pc =>
    obtain ⟨next, hnext, -⟩ := Option.map_eq_some_iff.mp hresume
    simp only [submits, hprocess, hnext, Option.map_some, Option.getD_some] at hop
    cases resumeCall_step hnext with
    | writeImport hheld | planRemove hheld => exact holdsDiskLock_iff.mp hheld
    | planSync => exact hlock pid _ hprocess rfl
    | _ => cases hop

/-- What an event submits has a cause. -/
theorem submitted_of_submits {dir : AccountsDir} {now : Time} {policy : RoutingPolicy}
    {past : List Event} {holder : DiskHolder}
    (hstep : step config (after config (boot dir now policy) past) event = some gateway')
    (hop : op ∈ (after config (boot dir now policy) past).submits config event)
    (hholder : (after config (boot dir now policy) past).diskHolder = some holder) :
    Submitted config (boot dir now policy) holder.ticket op (past ++ [event]) := by
  have hrun : Run (step config) anyEvent (boot dir now policy)
      (after config (boot dir now policy) past) := run_stateAfter (step config) _ past
  have hlock : (after config (boot dir now policy) past).LockHeld :=
    Run.invariant (fun _ _ _ h _ hstep => lockHeld_step h hstep) hrun
      (lockHeld_boot dir now policy)
  have hnamed := named_of_run hrun
  cases event with
  | resume pid input =>
    have howner := owner_of_submits hlock hstep hop
    obtain rfl : holder.pid = pid := by simpa [diskOwner?, hholder] using howner
    have hcause : input = .scheduled ∧
        FileCause config (boot dir now policy) holder.pid past op := by
      simp only [submits] at hop
      split at hop
      next run pc hprocess =>
        cases hnext : resumeRequest config
          ((after config (boot dir now policy) past).view holder.pid) run pc input with
        | none => simp [hnext] at hop
        | some next =>
          refine fileCause_request hnamed.records hprocess (resumeRequest_step hnext)
            (justified_after config dir now policy past _ _ hprocess) ?_
          simpa [hnext] using hop
      next call pc hprocess =>
        cases hnext : resumeCall config
          ((after config (boot dir now policy) past).view holder.pid) call pc input with
        | none => simp [hnext] at hop
        | some next =>
          refine fileCause_call hnamed.records (hnamed.calls _ _ hprocess) hprocess
            (resumeCall_step hnext) (callFound_trace.after rfl past _ _ hprocess) ?_
          simpa [hnext] using hop
      next => cases hop
    obtain ⟨rfl, hcause⟩ := hcause
    exact .now ⟨holder, hholder, rfl, rfl, hcause⟩
  | _ => cases hop

/-- In every run, whatever is interleaved, fails or is dropped, a file is written, removed or
moved to the trash only for a cause, at the moment the process with the disk lock asked for it: a
token endpoint that calls the account's refresh token invalid, a call that removes the account or
imports the token, a refresh of the account, or a rescan that found the token, and another place
that has it where it removes the file. -/
theorem file_ops_caused (config : Config) (dir : AccountsDir) (now : Time) (policy : RoutingPolicy)
    (events : List Event) (ticket : ℕ) (op : AccountDiskOp)
    (h : (ticket, op) ∈ (after config (boot dir now policy) events).fileLog) :
    Submitted config (boot dir now policy) ticket op events := by
  have hdue : ∀ ticket op, (after config (boot dir now policy) events).Due ticket op →
      Submitted config (boot dir now policy) ticket op events := by
    refine stateAfter_history (I := fun past (gateway : Gateway) => ∀ ticket op,
      gateway.Due ticket op → Submitted config (boot dir now policy) ticket op past) ?_ ?_ ?_ events
    · intro ticket op hdue
      cases hdue with
      | done hdone => simp [boot] at hdone
      | held hholder => simp [boot] at hholder
      | orphaned horphan => simp [boot] at horphan
    · exact fun past event _ h ticket op hdue => (h ticket op hdue).concat event
    · intro past event gateway' hstep h ticket op hdue
      rcases due_step hstep hdue with hbefore | ⟨hop, holder, hholder, rfl⟩
      · exact (h ticket op hbefore).concat event
      · exact submitted_of_submits hstep hop hholder
  exact hdue ticket op (.done h)

/-- `file_ops_caused` of a refresh answered with a 401, the trash and all. -/
theorem file_ops_caused_refused :
    Submitted exampleConfig (boot exampleDir 0 .fillFirst) 1 (.moveToTrash ⟨"a"⟩)
      (refusedRefresh ++ [.runTask .done]) :=
  file_ops_caused exampleConfig exampleDir 0 .fillFirst _ 1 _ (by decide +kernel)

end Gateway

end Codaze.Failover
