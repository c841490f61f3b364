import Codaze.Failover.Steps
import Codaze.Foundation.Indexed

/-!
# The holder of the disk lock

A process that is past its first await point under the disk lock holds it, in every run.
So no two processes are there at once, whatever is dropped.
-/
namespace Codaze.Failover
open Foundation Accounts

/-- Past the first await point under the disk lock. -/
def Stage.insideDisk : Stage → Bool
  | persisting | trashing _ | noting _ _ | finalizing _ => true
  | _ => false

def RequestPc.insideDisk : RequestPc → Bool
  | selected _ stage => stage.insideDisk
  | _ => false

def AccountCallPc.insideDisk : AccountCallPc → Bool
  | scanning | planning _ | running _ | applying _ => true
  | _ => false

def Process.insideDisk : Process → Bool
  | request _ pc => pc.insideDisk
  | call _ pc => pc.insideDisk

/-- What one resumption does with the lock: who goes in or lets go has it. -/
structure LockMove (granted inside : Bool) (disk : DiskAction) (inside' : Bool) : Prop where
  entered : inside' = true → (inside || granted) = true ∧ disk ≠ .unlock
  left : disk = .unlock → (inside || granted) = true

namespace LockMove

variable {granted inside inside' : Bool} {disk : DiskAction}

theorem outside (h : disk ≠ .unlock) : LockMove granted inside disk false where
  entered h' := by cases h'
  left h' := absurd h' h

theorem inside_of (hheld : (inside || granted) = true) (h : disk ≠ .unlock) :
    LockMove granted inside disk inside' where
  entered _ := ⟨hheld, h⟩
  left h' := absurd h' h

theorem leave (hheld : (inside || granted) = true) : LockMove granted inside disk false where
  entered h' := by cases h'
  left _ := hheld

end LockMove

theorem RequestPc.outside_of_unselected {pc : RequestPc} (h : pc.unselected = true) :
    pc.insideDisk = false := by
  cases pc <;> first | rfl | cases h

theorem resumeRequest_lock {config : Config} {view : View} {run : FailoverRun} {pc : RequestPc}
    {input : Input} {next : Resumption}
    (h : resumeRequest config view run pc input = some next) :
    LockMove view.holdsDiskLock pc.insideDisk next.disk next.pc.insideDisk := by
  have hheld {inside : Bool} (hlock : view.holdsDiskLock = true) :
      (inside || view.holdsDiskLock) = true := by simp [hlock]
  cases resumeRequest_step h with
  | uncommitted hlock | commitDetached hlock | unprepared hlock => exact .leave (hheld hlock)
  | commit hlock | prepareDetached hlock | prepare hlock =>
    exact .inside_of (hheld hlock) (by simp)
  | trashed | untrashed => exact .inside_of rfl (by simp)
  | persisted | note | finalizeGone | finalize => exact .leave rfl
  | refreshFailed hpc | rejectAgain _ _ hpc | fail _ hpc | undecode hpc =>
    simp only [RequestPc.outside_of_unselected hpc]
    exact .outside (by simp)
  | select =>
    dsimp only [RequestPc.insideDisk]
    split <;> exact .outside (by simp)
  | execute decodeError =>
    dsimp only [afterExecute, RequestPc.insideDisk]
    split <;> exact .outside (by simp)
  | _ => exact .outside (by simp)

theorem resumeCall_lock {config : Config} {view : View} {accountCall : AccountCall}
    {pc : AccountCallPc} {input : Input} {next : AccountCallResumption}
    (h : resumeCall config view accountCall pc input = some next) :
    LockMove view.holdsDiskLock pc.insideDisk next.disk next.pc.insideDisk := by
  have hheld {inside : Bool} (hlock : view.holdsDiskLock = true) :
      (inside || view.holdsDiskLock) = true := by simp [hlock]
  cases resumeCall_step h with
  | refuseImport hlock | refuseRemove hlock => exact .leave (hheld hlock)
  | planImport hlock | writeImport hlock | planRemove hlock | lockRescan hlock =>
    exact .inside_of (hheld hlock) (by simp)
  | scan | planSync | ran => exact .inside_of rfl (by simp)
  | scanFailed | planFailed | runFailed | apply => exact .leave rfl

theorem afterDrop_outside {old new : Process} (hdrop : old.afterDrop = some new) :
    new.insideDisk = false := by
  unfold Process.afterDrop at hdrop
  split at hdrop
  next => obtain rfl := Option.some.inj hdrop; rfl
  next => obtain rfl := Option.some.inj hdrop; rfl
  next =>
    split at hdrop
    next => cases hdrop
    next => cases hdrop
    next => obtain rfl := Option.some.inj hdrop; rfl
    next => obtain rfl := Option.some.inj hdrop; rfl
  next => cases hdrop
  next => cases hdrop
  next => obtain rfl := Option.some.inj hdrop; rfl
  next => cases hdrop

namespace Gateway

variable {config : Config} {gateway gateway' : Gateway} {event : Event} {pid : ℕ}

/-- The process that has the disk lock. -/
def diskOwner? (gateway : Gateway) : Option ℕ := gateway.diskHolder.map (·.pid)

theorem holdsDiskLock_iff : (gateway.view pid).holdsDiskLock = true ↔
    gateway.diskOwner? = some pid := by
  cases h : gateway.diskHolder <;> simp [view, diskOwner?, h]

theorem diskOwner?_diskAction {disk : DiskAction} (h : disk ≠ .unlock) :
    (gateway.diskAction pid disk).diskOwner? = gateway.diskOwner? := by
  cases disk with
  | unlock => exact absurd rfl h
  | keep | enqueue => rfl
  | submit ops => cases hholder : gateway.diskHolder <;> simp [diskAction, diskOwner?, hholder]

/-- Whoever is inside has the lock. -/
def LockHeld (gateway : Gateway) : Prop :=
  ∀ pid process, gateway.processes[pid]? = some process → process.insideDisk = true →
    gateway.diskOwner? = some pid

/-- No two processes are inside. -/
theorem LockHeld.unique (h : gateway.LockHeld) {pid' : ℕ} {process process' : Process}
    (hprocess : gateway.processes[pid]? = some process) (hinside : process.insideDisk = true)
    (hprocess' : gateway.processes[pid']? = some process')
    (hinside' : process'.insideDisk = true) : pid = pid' :=
  Option.some.inj ((h pid process hprocess hinside).symm.trans (h pid' process' hprocess' hinside'))

theorem LockHeld.perform (h : gateway.LockHeld) {old new : Process} {ops : List StoreOp}
    {disk : DiskAction} (hold : gateway.processes[pid]? = some old)
    (hmove : LockMove (gateway.view pid).holdsDiskLock old.insideDisk disk new.insideDisk) :
    (gateway.perform pid new ops disk).LockHeld := by
  have howner (hheld : (old.insideDisk || (gateway.view pid).holdsDiskLock) = true) :
      gateway.diskOwner? = some pid := by
    rcases Bool.or_eq_true_iff.mp hheld with hinside | hgranted
    · exact h pid old hold hinside
    · exact holdsDiskLock_iff.mp hgranted
  intro pid' process hprocess hinside
  have hprocesses : (gateway.processes.set pid new)[pid']? = some process := hprocess
  have hdisk : (gateway.perform pid new ops disk).diskOwner? =
      (gateway.diskAction pid disk).diskOwner? := rfl
  rw [hdisk]
  rcases of_getElem?_set hprocesses with ⟨rfl, rfl⟩ | ⟨hpid, hprocess'⟩
  · obtain ⟨hheld, hkeeps⟩ := hmove.entered hinside
    rw [diskOwner?_diskAction hkeeps]
    exact howner hheld
  · have howner' := h pid' process hprocess' hinside
    have hkeeps : disk ≠ .unlock := by
      intro hunlock
      have hpid' := (howner (hmove.left hunlock)).symm.trans howner'
      exact hpid (Option.some.inj hpid').symm
    rw [diskOwner?_diskAction hkeeps]
    exact howner'

theorem LockHeld.append (h : gateway.LockHeld) {new : Process} (hnew : new.insideDisk = false)
    {waiters : List ℕ} :
    LockHeld { gateway with processes := gateway.processes ++ [new], diskWaiters := waiters } := by
  intro pid process hprocess hinside
  rcases of_getElem?_append_singleton hprocess with hprocess' | ⟨-, rfl⟩
  · exact h pid process hprocess' hinside
  · simp [hnew] at hinside

/-- Every step keeps the lock with the process inside. -/
theorem lockHeld_step (h : gateway.LockHeld) (hstep : step config gateway event = some gateway') :
    gateway'.LockHeld := by
  cases event with
  | spawnRequest => obtain rfl := Option.some.inj hstep; exact h.append rfl
  | spawnCall => obtain rfl := Option.some.inj hstep; exact h.append rfl
  | resume pid input =>
    obtain ⟨process, hprocess, hresume⟩ := Option.bind_eq_some_iff.mp hstep
    cases process with
    | request run pc =>
      obtain ⟨next, hnext, rfl⟩ := Option.map_eq_some_iff.mp hresume
      exact h.perform hprocess (resumeRequest_lock hnext)
    | call accountCall pc =>
      obtain ⟨next, hnext, rfl⟩ := Option.map_eq_some_iff.mp hresume
      exact h.perform hprocess (resumeCall_lock hnext)
  | drop pid =>
    obtain ⟨new, hdrop, rfl⟩ := Option.map_eq_some_iff.mp hstep
    obtain ⟨old, hold, hafter⟩ := Option.bind_eq_some_iff.mp hdrop
    intro pid' process hprocess hinside
    rcases of_getElem?_set hprocess with ⟨rfl, rfl⟩ | ⟨hpid, hprocess'⟩
    · simp [afterDrop_outside hafter] at hinside
    · have howner := h pid' process hprocess' hinside
      obtain ⟨holder, hholder, hholderPid⟩ := Option.map_eq_some_iff.mp howner
      have hne : holder.pid ≠ pid := by
        rw [hholderPid]
        exact hpid
      simp only [diskOwner?, leaveDisk, hholder, hne, if_false]
      rw [← hholder]
      exact howner
  | grant =>
    simp only [step] at hstep
    split at hstep
    next waiter rest hholder _ =>
      obtain rfl := Option.some.inj hstep
      intro pid process hprocess hinside
      have howner := h pid process hprocess hinside
      simp [diskOwner?, hholder] at howner
    next => cases hstep
  | runTask outcome =>
    obtain ⟨holder, hholder, hstep⟩ := Option.bind_eq_some_iff.mp hstep
    obtain ⟨task, -, hstep⟩ := Option.bind_eq_some_iff.mp hstep
    obtain ⟨result, -, hstep⟩ := Option.bind_eq_some_iff.mp hstep
    obtain rfl := Option.some.inj hstep
    intro pid process hprocess hinside
    have howner := h pid process hprocess hinside
    simpa [diskOwner?, hholder] using howner
  | runOrphan index outcome =>
    obtain ⟨orphan, -, hstep⟩ := Option.bind_eq_some_iff.mp hstep
    obtain ⟨result, -, hstep⟩ := Option.bind_eq_some_iff.mp hstep
    obtain rfl := Option.some.inj hstep
    exact h
  | background op =>
    simp only [step, Option.ite_none_right_eq_some, Option.some.injEq] at hstep
    obtain ⟨-, rfl⟩ := hstep
    exact h
  | clock | setPolicy | relist => obtain rfl := Option.some.inj hstep; exact h

theorem lockHeld_boot (dir : AccountsDir) (now : Time) (policy : RoutingPolicy) :
    (boot dir now policy).LockHeld := by
  intro pid process hprocess
  simp [boot] at hprocess

end Gateway

end Codaze.Failover
