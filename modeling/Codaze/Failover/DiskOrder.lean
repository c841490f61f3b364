import Codaze.Failover.DiskLock

/-!
# The order of the file operations

Whoever gets the disk lock gets a larger ticket than the holders before. As long as no handler
is dropped while a file operation of it is left, only the holder of the lock has a task, so
the operations take effect in the order of the tickets. A handler dropped too early leaves a
task that runs whenever it likes.
-/
namespace Codaze.Failover
open Foundation Accounts

namespace Gateway

variable {config : Config} {gateway gateway' : Gateway} {event : Event} {pid : ℕ}

/-- A handler is dropped only when no file operation of it is left. -/
def endsTasks (gateway : Gateway) : Event → Prop
  | .drop pid => (gateway.diskHolder.all fun holder =>
      holder.pid != pid || holder.task.all fun task => task.result?.isSome) = true
  | _ => True

instance (gateway : Gateway) (event : Event) : Decidable (gateway.endsTasks event) :=
  match event with
  | .drop _ => inferInstanceAs (Decidable (_ = true))
  | .spawnRequest .. | .spawnCall _ | .resume .. | .grant | .runTask _ | .runOrphan ..
  | .clock _ | .setPolicy _ | .background _ | .relist _ => .isTrue trivial

/-- No operation took effect after one of a later holder. -/
def FilesOrdered (gateway : Gateway) : Prop :=
  gateway.fileLog.Pairwise fun earlier later => earlier.1 ≤ later.1

/-- The operations so far are in order, none is ahead of the last ticket, and no task is left
to run behind the holder's back. -/
structure InOrder (gateway : Gateway) : Prop where
  orphans : gateway.orphans = []
  ordered : gateway.FilesOrdered
  behind : ∀ entry ∈ gateway.fileLog, entry.1 ≤ gateway.tickets
  latest : ∀ holder, gateway.diskHolder = some holder → holder.ticket = gateway.tickets

namespace InOrder

/-- Events that hand out no ticket and let no operation take effect. -/
theorem frame (h : gateway.InOrder) (horphans : gateway'.orphans = gateway.orphans)
    (hlog : gateway'.fileLog = gateway.fileLog) (htickets : gateway'.tickets = gateway.tickets)
    (hholder : ∀ holder', gateway'.diskHolder = some holder' →
      ∃ holder, gateway.diskHolder = some holder ∧ holder.ticket = holder'.ticket) :
    gateway'.InOrder where
  orphans := horphans.trans h.orphans
  ordered := by
    rw [FilesOrdered, hlog]
    exact h.ordered
  behind := by
    rw [hlog, htickets]
    exact h.behind
  latest holder' hholder' := by
    obtain ⟨holder, hbefore, hticket⟩ := hholder holder' hholder'
    rw [htickets, ← h.latest holder hbefore, hticket]

theorem perform (h : gateway.InOrder) {process : Process} {ops : List StoreOp}
    {disk : DiskAction} : (gateway.perform pid process ops disk).InOrder := by
  refine h.frame (by cases disk <;> rfl) (by cases disk <;> rfl) (by cases disk <;> rfl)
    fun holder' hholder' => ?_
  cases disk with
  | keep | enqueue => exact ⟨holder', hholder', rfl⟩
  | submit fileOps =>
    obtain ⟨holder, hbefore, rfl⟩ := Option.map_eq_some_iff.mp hholder'
    exact ⟨holder, hbefore, rfl⟩
  | unlock => cases hholder'

/-- The operations that take effect belong to the latest ticket. -/
theorem append (h : gateway.InOrder) {holder : DiskHolder}
    (hholder : gateway.diskHolder = some holder) {dir : AccountsDir} {task : DiskTask}
    {effect : List AccountDiskOp} :
    InOrder { gateway with
      dir
      diskHolder := some { holder with task := some task }
      fileLog := gateway.fileLog ++ effect.map fun op => (holder.ticket, op) } where
  orphans := h.orphans
  ordered := by
    have hticket := h.latest holder hholder
    rw [FilesOrdered, List.pairwise_append]
    refine ⟨h.ordered, ?_, fun earlier hearlier later hlater => ?_⟩
    · rw [List.pairwise_map]
      exact List.pairwise_of_forall fun _ _ => le_rfl
    · obtain ⟨op, -, rfl⟩ := List.mem_map.mp hlater
      have hbehind := h.behind earlier hearlier
      show earlier.1 ≤ holder.ticket
      omega
  behind entry hentry := by
    have hticket := h.latest holder hholder
    rcases List.mem_append.mp hentry with hbefore | hnew
    · exact h.behind entry hbefore
    · obtain ⟨op, -, rfl⟩ := List.mem_map.mp hnew
      show holder.ticket ≤ gateway.tickets
      omega
  latest holder' hholder' := by
    obtain rfl := Option.some.inj hholder'
    exact h.latest holder hholder

end InOrder

/-- A drop that ends no task leaves none behind. -/
theorem orphans_leaveDisk (hguard : gateway.endsTasks (.drop pid)) :
    (gateway.leaveDisk pid).orphans = gateway.orphans := by
  unfold leaveDisk
  cases hholder : gateway.diskHolder with
  | none => rfl
  | some holder =>
    simp only
    split_ifs with hpid
    · rw [endsTasks, hholder, Option.all_some, hpid, bne_self_eq_false, Bool.false_or] at hguard
      cases htask : holder.task with
      | none => simp
      | some task =>
        rw [htask, Option.all_some] at hguard
        have hended : task.result?.isNone = false := by
          cases hresult : task.result? <;> simp_all
        simp [hended]
    · rfl

/-- What a drop leaves of the lock is what was there, or nothing. -/
theorem diskHolder_leaveDisk {holder : DiskHolder}
    (h : (gateway.leaveDisk pid).diskHolder = some holder) :
    gateway.diskHolder = some holder ∧ holder.pid ≠ pid := by
  unfold leaveDisk at h
  cases hholder : gateway.diskHolder with
  | none =>
    simp only [hholder] at h
    cases h
  | some before =>
    simp only [hholder] at h
    split_ifs at h with hpid
    obtain rfl := Option.some.inj h
    exact ⟨rfl, hpid⟩

theorem diskHolder_leaveDisk_of_ne {holder : DiskHolder} (h : gateway.diskHolder = some holder)
    (hpid : holder.pid ≠ pid) : (gateway.leaveDisk pid).diskHolder = some holder := by
  simp [leaveDisk, h, hpid]

theorem dir_leaveDisk : (gateway.leaveDisk pid).dir = gateway.dir := by
  unfold leaveDisk
  split
  · split <;> rfl
  · rfl

theorem tickets_leaveDisk : (gateway.leaveDisk pid).tickets = gateway.tickets ∧
    (gateway.leaveDisk pid).fileLog = gateway.fileLog := by
  unfold leaveDisk
  split
  · split <;> exact ⟨rfl, rfl⟩
  · exact ⟨rfl, rfl⟩

/-- Every step that drops no running task keeps the operations in order. -/
theorem inOrder_step (h : gateway.InOrder) (hguard : gateway.endsTasks event)
    (hstep : step config gateway event = some gateway') : gateway'.InOrder := by
  cases event with
  | resume pid input =>
    obtain ⟨process, -, hresume⟩ := Option.bind_eq_some_iff.mp hstep
    cases process with
    | request run pc =>
      obtain ⟨next, -, rfl⟩ := Option.map_eq_some_iff.mp hresume
      exact h.perform
    | call accountCall pc =>
      obtain ⟨next, -, rfl⟩ := Option.map_eq_some_iff.mp hresume
      exact h.perform
  | drop pid =>
    obtain ⟨process, -, rfl⟩ := Option.map_eq_some_iff.mp hstep
    refine h.frame (orphans_leaveDisk hguard) tickets_leaveDisk.2 tickets_leaveDisk.1
      fun holder hholder => ?_
    exact ⟨holder, (diskHolder_leaveDisk hholder).1, rfl⟩
  | grant =>
    simp only [step] at hstep
    split at hstep
    next waiter rest hnone _ =>
      obtain rfl := Option.some.inj hstep
      refine ⟨h.orphans, h.ordered, fun entry hentry => ?_, fun holder hholder => ?_⟩
      · have hbehind := h.behind entry hentry
        show entry.1 ≤ gateway.tickets + 1
        omega
      · obtain rfl := Option.some.inj hholder
        rfl
    next => cases hstep
  | runTask outcome =>
    obtain ⟨holder, hholder, hstep⟩ := Option.bind_eq_some_iff.mp hstep
    obtain ⟨task, -, hstep⟩ := Option.bind_eq_some_iff.mp hstep
    obtain ⟨⟨dir, task', effect⟩, -, hstep⟩ := Option.bind_eq_some_iff.mp hstep
    obtain rfl := Option.some.inj hstep
    exact h.append hholder
  | runOrphan index outcome =>
    simp [step, h.orphans] at hstep
  | background op =>
    simp only [step, Option.ite_none_right_eq_some, Option.some.injEq] at hstep
    obtain ⟨-, rfl⟩ := hstep
    exact h.frame rfl rfl rfl fun holder hholder => ⟨holder, hholder, rfl⟩
  | spawnRequest | spawnCall | clock | setPolicy | relist =>
    obtain rfl := Option.some.inj hstep
    exact h.frame rfl rfl rfl fun holder hholder => ⟨holder, hholder, rfl⟩

theorem inOrder_boot (dir : AccountsDir) (now : Time) (policy : RoutingPolicy) :
    (boot dir now policy).InOrder where
  orphans := rfl
  ordered := List.Pairwise.nil
  behind entry hentry := by simp [boot] at hentry
  latest holder hholder := by cases hholder

end Gateway

end Codaze.Failover
