import Codaze.Accounts.Detached
import Codaze.Failover.DiskLock

/-!
# The prepare and finalize pair of an invalid token

`finish_refresh_failure` settles the selection in its prepare step and detaches the
account in its finalize step, with the disk lock held in between.
-/
namespace Codaze.Failover
open Foundation Accounts

/-- The account a process is in a prepare and finalize pair for. -/
def RequestPc.invalidates? : RequestPc → Option String
  | selected selection (.trashing _) | selected selection (.noting _ _)
  | selected selection (.finalizing _) => some selection.accountId
  | _ => none

def Process.invalidates? : Process → Option String
  | request _ pc => pc.invalidates?
  | call _ _ => none

/-- The account whose file a process is moving to the trash. -/
def RequestPc.trashes? : RequestPc → Option String
  | selected selection (.trashing _) | selected selection (.noting _ _) =>
    some selection.accountId
  | _ => none

def Process.trashes? : Process → Option String
  | request _ pc => pc.trashes?
  | call _ _ => none

/-- One resumption of a request, by what it does in a prepare and finalize pair. -/
inductive InvalidationMove (view : View) : RequestPc → List StoreOp → RequestPc → Prop
  | outside {pc ops pc'} (hbefore : pc.invalidates? = none) (hafter : pc'.invalidates? = none)
      (hops : ∀ op ∈ ops, op.retires = false) : InvalidationMove view pc ops pc'
  | prepare {selection failure pc'} (hafter : pc'.invalidates? = some selection.accountId)
      (hattached : ∀ id, pc'.trashes? = some id →
        ∀ record, view.store.record? id = some record → record.detached = false) :
      InvalidationMove view (.selected selection (.preparing failure))
        [.prepareAuthInvalid selection.accountId failure.details] pc'
  | move {pc pc'} (hinside : pc.insideDisk = true)
    (hinvalidates : pc'.invalidates? = pc.invalidates?)
      (htrashes : ∀ id, pc'.trashes? = some id → pc.trashes? = some id) :
      InvalidationMove view pc [] pc'
  | note {selection failure error pc'} (hafter : pc'.invalidates? = none) :
      InvalidationMove view (.selected selection (.noting failure error))
        [.noteTrashFailure selection.accountId error] pc'
  | finalize {selection failure pc'} (hafter : pc'.invalidates? = none) :
      InvalidationMove view (.selected selection (.finalizing failure))
        [.finalizeAuthInvalid selection.accountId] pc'
  | gone {selection failure pc'} (hnone : view.store.record? selection.accountId = none)
      (hafter : pc'.invalidates? = none) :
      InvalidationMove view (.selected selection (.finalizing failure)) [] pc'

theorem RequestPc.invalidates?_of_unselected {pc : RequestPc} (h : pc.unselected = true) :
    pc.invalidates? = none := by
  cases pc <;> first | rfl | cases h

theorem resumeRequest_invalidation {config : Config} {view : View} {run : FailoverRun}
    {pc : RequestPc} {input : Input} {next : Resumption}
    (h : resumeRequest config view run pc input = some next) :
    InvalidationMove view pc next.ops next.pc := by
  have hattached {record : AccountRecord} {id : String}
      (hrecord : view.store.record? id = some record)
      (hdetached : record.detached = false) (record' : AccountRecord)
      (hrecord' : view.store.record? id = some record') : record'.detached = false := by
    rwa [← Option.some.inj (hrecord.symm.trans hrecord')]
  cases resumeRequest_step h with
  | prepareDetached => exact .prepare rfl fun id htrashes => (by cases htrashes)
  | prepare _ hrecord hdetached =>
    refine .prepare rfl fun id htrashes => ?_
    obtain rfl := Option.some.inj htrashes
    exact hattached hrecord hdetached
  | trashed => exact .move rfl rfl fun id htrashes => (by cases htrashes)
  | untrashed => exact .move rfl rfl fun id htrashes => htrashes
  | note => exact .note rfl
  | finalizeGone hnone => exact .gone hnone rfl
  | finalize => exact .finalize rfl
  | select =>
    refine .outside rfl ?_ (by simp [StoreOp.retires, StoreOp.detaches])
    dsimp only
    split <;> rfl
  | execute decodeError =>
    refine .outside rfl ?_ (by simp)
    dsimp only [afterExecute]
    split <;> rfl
  | refreshFailed hpc | rejectAgain _ _ hpc | fail _ hpc | undecode hpc =>
    exact .outside rfl (RequestPc.invalidates?_of_unselected hpc)
      (by simp [StoreOp.retires, StoreOp.detaches])
  | @settle selection settlement =>
    refine .outside rfl rfl ?_
    cases settlement <;> simp [AccountSettlement.op, StoreOp.retires, StoreOp.detaches]
  | _ => exact .outside rfl rfl (by simp [StoreOp.retires, StoreOp.detaches])

end Codaze.Failover
