import Codaze.App.Durability
import Codaze.Failover.Request

/-!
# The running gateway

Requests and account calls over one account store, one accounts directory and one disk
lock. A process is resumed, dropped or left waiting by the scheduler; the file operations
it submits run in a blocking task that nobody can drop. The lock of the disk is handed
out in the order of the requests for it, and each holder gets a ticket.
-/
namespace Codaze.Failover
open Foundation Accounts

/-- The calls of the administration interface that take the disk lock. -/
inductive AccountCall where
  | importAccount (refreshToken : String) (label email : Option String)
  | removeAccount (id : String)
  /-- `sync_accounts_from_disk_rescan`. -/
  | rescan
  deriving DecidableEq, Repr

/-- What an account call does to the store once its file operations are done. -/
inductive CallPlan where
  | importAccount (plan : ImportAccountPlan)
  | removeAccount (plan : RemoveAccountPlan)
  | sync (plan : DiskSyncPlan)
  deriving DecidableEq

def CallPlan.op : CallPlan → StoreOp
  | .importAccount plan => .applyImport plan
  | .removeAccount plan => .applyRemove plan
  | .sync plan => .applySync plan

/-- Where an account call waits. -/
inductive AccountCallPc where
  /-- For the disk lock and the store. -/
  | preparing
  | scanning
  /-- For the store, to plan the sync of a snapshot. -/
  | planning (snapshot : DiskScanSnapshot)
  /-- For the file operations. -/
  | running (plan : CallPlan)
  /-- For the store. -/
  | applying (plan : CallPlan)
  | finished
  | dropped

structure AccountCallResumption where
  pc : AccountCallPc
  ops : List StoreOp
  disk : DiskAction

/-- The start of an account call, with both locks. -/
def prepareCall (config : Config) (view : View) : AccountCall → AccountCallResumption
  | .importAccount refreshToken label email =>
    match view.store.prepareImportAccount config.stableAccountId refreshToken label email with
    | none => { pc := .finished, ops := [], disk := .unlock }
    | some plan => match plan.diskOp with
      | none => { pc := .applying (.importAccount plan), ops := [], disk := .keep }
      | some diskOp =>
        { pc := .running (.importAccount plan), ops := [], disk := .submit [diskOp] }
  | .removeAccount id => match view.store.prepareRemoveAccount id with
    | none => { pc := .finished, ops := [], disk := .unlock }
    | some plan =>
      { pc := .running (.removeAccount plan), ops := [], disk := .submit [plan.diskOp] }
  | .rescan => { pc := .scanning, ops := [], disk := .keep }

/-- One resumption of an account call. -/
def resumeCall (config : Config) (view : View) (call : AccountCall) :
    AccountCallPc → Input → Option AccountCallResumption
  | .preparing, .scheduled =>
    if view.holdsDiskLock then some (prepareCall config view call) else none
  | .scanning, .scheduled =>
    some { pc := .planning (scanAccountsDir view.dir), ops := [], disk := .keep }
  | .scanning, .scanFailed => some { pc := .finished, ops := [], disk := .unlock }
  | .planning snapshot, .scheduled =>
    some <| match view.store.buildDiskSyncPlan snapshot .rescan with
      | none => { pc := .finished, ops := [], disk := .unlock }
      | some plan => { pc := .running (.sync plan), ops := []
                       disk := .submit (AccountsDir.syncOps plan) }
  | .running plan, .scheduled => view.taskResult.map fun
    | .ok () => { pc := .applying plan, ops := [], disk := .keep }
    | .error _ => { pc := .finished, ops := [], disk := .unlock }
  | .applying plan, .scheduled => some { pc := .finished, ops := [plan.op], disk := .unlock }
  | _, _ => none

inductive Process where
  | request (run : FailoverRun) (pc : RequestPc)
  | call (accountCall : AccountCall) (pc : AccountCallPc)

/-- The process after its future is dropped; `none` where it cannot be dropped. A caller that
holds a selection spawns its release. -/
def Process.afterDrop : Process → Option Process
  | .request run .starting | .request run .selecting => some (.request run .dropped)
  | .request run (.selected selection stage) => match stage with
    | .answered _ | .settling _ => none
    | .holding => some (.request run (.selected selection (.settling .release)))
    | _ => some (.request run .dropped)
  | .call _ .finished | .call _ .dropped => none
  | .call accountCall _ => some (.call accountCall .dropped)
  | _ => none

/-- A blocking task: the file operations left, and the error it ended with. -/
structure DiskTask where
  remaining : List AccountDiskOp
  error : Option String
  deriving DecidableEq

def DiskTask.result? (task : DiskTask) : Option (Except String Unit) :=
  match task.error, task.remaining with
  | some error, _ => some (.error error)
  | none, [] => some (.ok ())
  | none, _ :: _ => none

/-- How a file operation ends. A move to the trash may fail after the file has moved. -/
inductive FileOutcome where
  | done
  | failed (error : String)
  | failedAfter (error : String)
  deriving DecidableEq, Repr

/-- The next operation of a task: the directory, the task and the operation that took effect. -/
def DiskTask.advance (task : DiskTask) (dir : AccountsDir) (outcome : FileOutcome) :
    Option (AccountsDir × DiskTask × List AccountDiskOp) :=
  match task.error, task.remaining with
  | none, op :: rest => some <| match outcome with
    | .done => (dir.applyDiskOp op, { task with remaining := rest }, [op])
    | .failed error => (dir, { task with error := some error }, [])
    | .failedAfter error =>
      (dir.applyDiskOp op, { remaining := rest, error := some error }, [op])
  | _, _ => none

structure DiskHolder where
  pid : ℕ
  ticket : ℕ
  task : Option DiskTask
  deriving DecidableEq

/-- The shared state, the processes by number, and the history of the file operations that
took effect, each with the ticket of the call it belongs to. -/
structure Gateway where
  store : AccountStore
  dir : AccountsDir
  now : Time
  routingPolicy : RoutingPolicy
  processes : List Process
  diskHolder : Option DiskHolder
  diskWaiters : List ℕ
  tickets : ℕ
  /-- The tasks of dropped calls that had not ended. -/
  orphans : List (ℕ × DiskTask)
  fileLog : List (ℕ × AccountDiskOp)

inductive Event where
  | spawnRequest (caller : Caller) (triedAccounts : Finset String)
  | spawnCall (call : AccountCall)
  | resume (pid : ℕ) (input : Input)
  | drop (pid : ℕ)
  /-- The first waiter gets the disk lock. -/
  | grant
  | runTask (outcome : FileOutcome)
  | runOrphan (index : ℕ) (outcome : FileOutcome)
  | clock (now : Time)
  | setPolicy (policy : RoutingPolicy)
  /-- A wake, a listing, a read, or a new iteration order. -/
  | background (op : StoreOp)
  /-- The directory lists its files in another order. -/
  | relist (order : List AccountPath)

/-- The operations of the administration interface that take no disk lock. -/
def background : StoreOp → Bool
  | .read | .sweep | .wake _ | .wakeAll | .rehash _ => true
  | _ => false

def FailoverRun.new (caller : Caller) (triedAccounts : Finset String) : FailoverRun where
  caller := caller
  routingPolicy := .roundRobin
  triedAccounts := triedAccounts
  forcedRefreshAttempted := ∅
  lastPoolSummaryCandidate := none
  decodeFailedAccounts := ∅
  lastDecodeFailure := none

namespace Gateway

/-- After the startup sync of a directory. -/
def boot (dir : AccountsDir) (now : Time) (policy : RoutingPolicy) : Gateway where
  store := (App.AppPool.startup dir).store
  dir := (App.AppPool.startup dir).dir
  now := now
  routingPolicy := policy
  processes := []
  diskHolder := none
  diskWaiters := []
  tickets := 0
  orphans := []
  fileLog := []

def view (gateway : Gateway) (pid : ℕ) : View where
  store := gateway.store
  dir := gateway.dir
  now := gateway.now
  routingPolicy := gateway.routingPolicy
  holdsDiskLock := gateway.diskHolder.any fun holder => holder.pid == pid
  taskResult := gateway.diskHolder.bind fun holder =>
    if holder.pid = pid then holder.task.bind DiskTask.result? else none

def applyOps (store : AccountStore) (now : Time) (ops : List StoreOp) : AccountStore :=
  ops.foldl (fun store op => store.apply now op) store

def diskAction (gateway : Gateway) (pid : ℕ) : DiskAction → Gateway
  | .keep => gateway
  | .enqueue => { gateway with diskWaiters := gateway.diskWaiters ++ [pid] }
  | .submit ops => { gateway with diskHolder := gateway.diskHolder.map fun holder =>
      { holder with task := some { remaining := ops, error := none } } }
  | .unlock => { gateway with diskHolder := none }

/-- The end of a resumption. -/
def perform (gateway : Gateway) (pid : ℕ) (process : Process) (ops : List StoreOp)
    (disk : DiskAction) : Gateway :=
  { gateway.diskAction pid disk with
    store := applyOps gateway.store gateway.now ops
    processes := gateway.processes.set pid process }

def resumeProcess (config : Config) (gateway : Gateway) (pid : ℕ) (input : Input) :
    Process → Option Gateway
  | .request run pc => (resumeRequest config (gateway.view pid) run pc input).map fun next =>
      gateway.perform pid (.request next.run next.pc) next.ops next.disk
  | .call call pc => (resumeCall config (gateway.view pid) call pc input).map fun next =>
      gateway.perform pid (.call call next.pc) next.ops next.disk

/-- What a dropped future leaves of the disk lock: its place in the queue is gone, its guard
is released, and a task it waited for runs on. -/
def leaveDisk (gateway : Gateway) (pid : ℕ) : Gateway :=
  match gateway.diskHolder with
  | some holder =>
    if holder.pid = pid then
      { gateway with
        diskHolder := none
        orphans := gateway.orphans ++ match holder.task with
          | some task => if task.result?.isNone then [(holder.ticket, task)] else []
          | none => [] }
    else { gateway with diskWaiters := gateway.diskWaiters.filter (· ≠ pid) }
  | none => { gateway with diskWaiters := gateway.diskWaiters.filter (· ≠ pid) }

def step (config : Config) (gateway : Gateway) : Event → Option Gateway
  | .spawnRequest caller triedAccounts =>
    some { gateway with processes :=
      gateway.processes ++ [.request (.new caller triedAccounts) .starting] }
  | .spawnCall call =>
    some { gateway with
      processes := gateway.processes ++ [.call call .preparing]
      diskWaiters := gateway.diskWaiters ++ [gateway.processes.length] }
  | .resume pid input =>
    gateway.processes[pid]?.bind (gateway.resumeProcess config pid input)
  | .drop pid => (gateway.processes[pid]?.bind Process.afterDrop).map fun process =>
    { gateway.leaveDisk pid with processes := gateway.processes.set pid process }
  | .grant => match gateway.diskHolder, gateway.diskWaiters with
    | none, pid :: rest => some { gateway with
        diskHolder := some { pid, ticket := gateway.tickets + 1, task := none }
        diskWaiters := rest
        tickets := gateway.tickets + 1 }
    | _, _ => none
  | .runTask outcome => do
    let holder ← gateway.diskHolder
    let task ← holder.task
    let (dir, task, effect) ← task.advance gateway.dir outcome
    return { gateway with
      dir
      diskHolder := some { holder with task := some task }
      fileLog := gateway.fileLog ++ effect.map fun op => (holder.ticket, op) }
  | .runOrphan index outcome => do
    let (ticket, task) ← gateway.orphans[index]?
    let (dir, task, effect) ← task.advance gateway.dir outcome
    return { gateway with
      dir
      orphans := gateway.orphans.set index (ticket, task)
      fileLog := gateway.fileLog ++ effect.map fun op => (ticket, op) }
  | .clock now => some { gateway with now }
  | .setPolicy policy => some { gateway with routingPolicy := policy }
  | .background op =>
    if background op then some { gateway with store := gateway.store.apply gateway.now op }
    else none
  | .relist order =>
    some { gateway with dir := { gateway.dir with files := gateway.dir.files.reorder order } }

/-- The operations on the store of one resumption. -/
def performed (config : Config) (gateway : Gateway) (pid : ℕ) (input : Input) : List StoreOp :=
  match gateway.processes[pid]? with
  | some (.request run pc) =>
    ((resumeRequest config (gateway.view pid) run pc input).map (·.ops)).getD []
  | some (.call accountCall pc) =>
    ((resumeCall config (gateway.view pid) accountCall pc input).map (·.ops)).getD []
  | none => []

/-- Every access token parses and expires after a minute. -/
def exampleConfig : Config where
  refreshSkewSeconds := 0
  parsers := { parseChatgptJwtClaims := fun _ => .ok ⟨none, none, none⟩
               parseJwtExpiration := fun _ => .ok (some (fromSecs 60)) }
  stableAccountId := App.exampleStableId

/-- A directory with one account. -/
def exampleDir : AccountsDir :=
  App.emptyDir.applyDiskOp (.write ⟨"a"⟩ ⟨"rt_1", none, none⟩)

@[simp] theorem leaveDisk_store (gateway : Gateway) (pid : ℕ) :
    (gateway.leaveDisk pid).store = gateway.store := by
  unfold leaveDisk
  split
  · split <;> rfl
  · rfl

@[simp] theorem diskAction_store (gateway : Gateway) (pid : ℕ) (disk : DiskAction) :
    (gateway.diskAction pid disk).store = gateway.store := by cases disk <;> rfl

/-- The events that reach neither the store nor a process. -/
def silent : Event → Bool
  | .grant | .runTask _ | .runOrphan .. | .clock _ | .setPolicy _ | .relist _ => true
  | _ => false

def isDrop : Event → Bool
  | .drop _ => true
  | _ => false

theorem step_silent {config : Config} {gateway gateway' : Gateway} {event : Event}
    (hsilent : silent event = true) (h : step config gateway event = some gateway') :
    gateway'.store = gateway.store ∧ gateway'.processes = gateway.processes := by
  cases event with
  | grant =>
    simp only [step] at h
    split at h
    next => obtain rfl := Option.some.inj h; exact ⟨rfl, rfl⟩
    next => cases h
  | runTask outcome =>
    obtain ⟨holder, -, h⟩ := Option.bind_eq_some_iff.mp h
    obtain ⟨task, -, h⟩ := Option.bind_eq_some_iff.mp h
    obtain ⟨result, -, h⟩ := Option.bind_eq_some_iff.mp h
    obtain rfl := Option.some.inj h
    exact ⟨rfl, rfl⟩
  | runOrphan index outcome =>
    obtain ⟨orphan, -, h⟩ := Option.bind_eq_some_iff.mp h
    obtain ⟨result, -, h⟩ := Option.bind_eq_some_iff.mp h
    obtain rfl := Option.some.inj h
    exact ⟨rfl, rfl⟩
  | clock | setPolicy | relist => obtain rfl := Option.some.inj h; exact ⟨rfl, rfl⟩
  | _ => cases hsilent

end Gateway

end Codaze.Failover
