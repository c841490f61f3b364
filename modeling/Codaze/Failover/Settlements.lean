import Codaze.Failover.Invalidation
import Codaze.Failover.Occupancy

/-!
# Every selection is settled once

A ledger beside the gateway lists the accounts each process selected and those it settled.
In a run without drops, in which no counter is at its maximum at a selection and no deadline
is out of range at a failure, the two differ by the selection the process holds, the
in-flight count of an account is the number of processes that hold it, and no detached
record is left behind.
-/
namespace Codaze.Failover
open Foundation Accounts

/-- The accounts of a process's selections and settlements, in order. -/
structure Settlements where
  selected : ℕ → List String
  settled : ℕ → List String

def Settlements.empty : Settlements where
  selected := fun _ => []
  settled := fun _ => []

/-- The account a selection returns. -/
def selectedBy? (store : AccountStore) (now : Time) : StoreOp → Option String
  | .select policy skew excluded =>
    match (store.selectAccount now policy skew excluded).1 with
    | .ok selection => some selection.accountId
    | .error _ => none
  | _ => none

/-- Adds what a resumption performed. A selection is its first operation. -/
def Settlements.observe (config : Config) (gateway : Gateway) (settlements : Settlements) :
    Event → Settlements
  | .resume pid input =>
    let ops := gateway.performed config pid input
    { selected := fun pid' => settlements.selected pid' ++
        if pid' = pid then ops.filterMap (selectedBy? gateway.store gateway.now) else []
      settled := fun pid' => settlements.settled pid' ++
        if pid' = pid then ops.filterMap StoreOp.settles? else [] }
  | _ => settlements

/-- The gateway with the ledger of its settlements. -/
def settlementStep (config : Config) (state : Gateway × Settlements) (event : Event) :
    Option (Gateway × Settlements) :=
  (Gateway.step config state.1 event).map fun gateway =>
    (gateway, state.2.observe config state.1 event)

variable {store store' : AccountStore} {now : Time} {processes : List Process} {pid : ℕ}
  {old new : Process} {config : Config}

/-- The in-flight count of every account is the number of its occupants. -/
def Counted (store : AccountStore) (processes : List Process) : Prop :=
  ∀ id, (store.load id).1 = occupants processes id

theorem occupants_pos (hold : processes[pid]? = some old) {id : String}
    (hoccupies : old.occupies? = some id) : 0 < occupants processes id :=
  List.countP_pos_iff.mpr ⟨old, List.mem_of_getElem? hold, by simp [hoccupies]⟩

/-- An occupied account is in the store. -/
theorem Counted.exists_record (h : Counted store processes) {id : String}
    (hoccupied : 0 < occupants processes id) : ∃ record, store.record? id = some record := by
  refine AccountStore.exists_record_of_loaded ?_
  rwa [h id]

/-- A step that moves the load of an account as it moves its occupation. -/
theorem Counted.set (h : Counted store processes) (hold : processes[pid]? = some old)
    (hload : ∀ id, (store'.load id).1 + (if old.occupies? == some id then 1 else 0) =
      (store.load id).1 + if new.occupies? == some id then 1 else 0) :
    Counted store' (processes.set pid new) := by
  intro id
  have hcount := occupants_set hold new id
  have hbefore := h id
  have hmoved := hload id
  omega

/-- What a request selected and settled, by what it holds before and after. -/
theorem RequestMove.ledger {view : View} {pc pc' : RequestPc} {ops : List StoreOp}
    (h : RequestMove view pc ops pc')
    (hknown : ∀ id, pc.occupies? = some id → ∃ record, view.store.record? id = some record) :
    pc.occupies?.toList ++ ops.filterMap (selectedBy? view.store view.now) =
      ops.filterMap StoreOp.settles? ++ pc'.occupies?.toList := by
  have hselected {op : StoreOp} (hop : op.selects = false) :
      selectedBy? view.store view.now op = none := by
    cases op <;> first | rfl | cases hop
  have hnone {op : StoreOp} (hop : op.clears? = none) : op.settles? = none := by
    cases hsettles : op.settles? with
    | none => rfl
    | some id => simp [op.clears?_of_settles? hsettles] at hop
  cases h with
  | quiet hops _ hoccupies _ =>
    have hselect : ops.filterMap (selectedBy? view.store view.now) = [] :=
      List.filterMap_eq_nil_iff.mpr fun op hop => hselected (hops op hop).1
    have hsettle : ops.filterMap StoreOp.settles? = [] :=
      List.filterMap_eq_nil_iff.mpr fun op hop => hnone (hops op hop).2
    rw [hselect, hsettle, hoccupies, List.append_nil, List.nil_append]
  | select hselect hoccupies =>
    simp [RequestPc.occupies?, selectedBy?, StoreOp.settles?, hselect, hoccupies]
  | unselected hselect =>
    simp [RequestPc.occupies?, List.filterMap_cons, selectedBy?, StoreOp.settles?, hselect]
  | commit hoccupies =>
    have hcommitting : ∀ refreshed, (Stage.committing refreshed).occupies = true := fun _ => rfl
    simp [RequestPc.occupies?, List.filterMap_cons, selectedBy?, StoreOp.settles?, hoccupies,
      hcommitting]
  | uncommitted => rfl
  | @settle _ _ _ id hoccupies hops hsettled =>
    have hlists : ops.filterMap (selectedBy? view.store view.now) = [] ∧
        ops.filterMap StoreOp.settles? = pc.occupies?.toList := by
      rw [hoccupies]
      cases hops with
      | one hop =>
        have hquiet := StoreOp.selects_of_clears? (StoreOp.clears?_of_settles? hop)
        simp [hselected hquiet, hop]
      | invalidated hop =>
        have hquiet := StoreOp.selects_of_clears? (StoreOp.clears?_of_settles? hop)
        have hinvalidate := @hselected (.invalidate id) rfl
        have hclear : (StoreOp.invalidate id).settles? = none := rfl
        simp [hselected hquiet, hinvalidate, hclear, hop]
    rw [hlists.1, hlists.2, hsettled, Option.toList_none]
  | unprepared hunknown =>
    obtain ⟨record, hrecord⟩ := hknown _ rfl
    simp [hunknown] at hrecord

/-- One move of a request moves the loads as it moves its occupation. -/
theorem RequestMove.load_moved {view : View} {pc pc' : RequestPc} {ops : List StoreOp}
    (h : RequestMove view pc ops pc')
    (hloaded : ∀ id, pc.occupies? = some id → 0 < (view.store.load id).1)
    (hroom : (∃ op ∈ ops, op.selects = true) → ∀ id, (view.store.load id).1 < u32Max)
    (id : String) :
    ((Gateway.applyOps view.store view.now ops).load id).1 +
        (if pc.occupies? == some id then 1 else 0) =
      (view.store.load id).1 + if pc'.occupies? == some id then 1 else 0 := by
  have hknown {selection : AccountSelection} {stage : Stage}
      (hloaded : ∀ id, (RequestPc.selected selection stage).occupies? = some id →
        0 < (view.store.load id).1)
      (hoccupies : stage.occupies = true)
      (hnone : view.store.record? selection.accountId = none) : False := by
    have hpos := hloaded selection.accountId (if_pos hoccupies)
    rw [AccountStore.load_of_unknown hnone] at hpos
    cases hpos
  cases h with
  | quiet hops _ hoccupies _ => rw [load_applyOps_quiet hops, hoccupies]
  | @select _ _ _ selection _ stage hselect hoccupies _ =>
    have hload := (AccountStore.load_select hselect id).2
    have hroomId := hroom ⟨_, List.mem_singleton_self _, rfl⟩ id
    simp only [Gateway.applyOps, List.foldl_cons, List.foldl_nil, AccountStore.apply, hselect]
    rw [hload]
    by_cases hid : selection.accountId = id
    · simp only [RequestPc.occupies?, hoccupies, hid, if_true, beq_self_eq_true, saturatingSucc32]
      simp only [Option.none_beq_some, Bool.false_eq_true, if_false]
      omega
    · simp [RequestPc.occupies?, hoccupies, hid]
  | unselected hselect =>
    have hload := AccountStore.load_select_error hselect id
    simp only [Gateway.applyOps, List.foldl_cons, List.foldl_nil]
    rw [AccountStore.load_apply rfl]
    simp only [AccountStore.apply, hselect]
    rw [← hload]
    rfl
  | @commit selection refreshed stage hoccupies _ =>
    have hclear : ((view.store.apply view.now (.refreshSuccess selection.accountId refreshed)).load
        id).1 = (view.store.load id).1 := by
      rw [AccountStore.load_apply rfl]
      simp only [StoreOp.settles?, reduceCtorEq, if_false]
      split <;> rfl
    have hsame : (RequestPc.selected selection stage).occupies? =
        (RequestPc.selected selection (.committing refreshed)).occupies? := if_pos hoccupies
    simp only [Gateway.applyOps, List.foldl_cons, List.foldl_nil, hclear]
    rw [hsame]
  | uncommitted hnone => exact absurd hnone fun hnone => hknown hloaded rfl hnone
  | @settle _ _ _ settled hoccupies hops hsettled =>
    have hpos := hloaded settled hoccupies
    rw [load_applyOps_settles hops]
    by_cases hid : settled = id
    · subst hid
      simp only [hoccupies, hsettled, if_true, AccountStore.leave, beq_self_eq_true,
        Option.none_beq_some, Bool.false_eq_true, if_false]
      omega
    · simp [hoccupies, hsettled, hid]
  | unprepared hnone _ => exact absurd hnone fun hnone => hknown hloaded rfl hnone

/-- One move of a request keeps the counts. -/
theorem Counted.request {run run' : FailoverRun} {pc pc' : RequestPc} {ops : List StoreOp}
    (view : View) (h : Counted view.store processes)
    (hold : processes[pid]? = some (.request run pc)) (hmove : RequestMove view pc ops pc')
    (hroom : (∃ op ∈ ops, op.selects = true) → ∀ id, (view.store.load id).1 < u32Max) :
    Counted (Gateway.applyOps view.store view.now ops)
      (processes.set pid (.request run' pc')) := by
  have hloaded : ∀ id, pc.occupies? = some id → 0 < (view.store.load id).1 := by
    intro id hoccupies
    rw [h id]
    exact occupants_pos hold hoccupies
  exact h.set hold (hmove.load_moved hloaded hroom)

/-- A detached and idle record belongs to a process that will finalize it, and the file of an
attached record alone is moved to the trash. -/
structure Reaped (store : AccountStore) (processes : List Process) : Prop where
  lingering : ∀ id record, store.record? id = some record →
    AccountStore.removable record = true → ∃ (pid : ℕ) (process : Process),
      processes[pid]? = some process ∧ process.invalidates? = some id
  attached : ∀ (pid : ℕ) (process : Process) id, processes[pid]? = some process →
    process.trashes? = some id → ∀ record, store.record? id = some record → record.detached = false

theorem RequestPc.insideDisk_of_invalidates? {pc : RequestPc} {id : String}
    (h : pc.invalidates? = some id) : pc.insideDisk = true := by
  unfold RequestPc.invalidates? at h
  split at h <;> first | rfl | cases h

theorem RequestPc.invalidates?_of_trashes? {pc : RequestPc} {id : String}
    (h : pc.trashes? = some id) : pc.invalidates? = some id := by
  unfold RequestPc.trashes? at h
  split at h <;> first | exact h | cases h

theorem Process.insideDisk_of_trashes? {process : Process} {id : String}
    (h : process.trashes? = some id) : process.insideDisk = true := by
  cases process with
  | request run pc => exact pc.insideDisk_of_invalidates? (pc.invalidates?_of_trashes? h)
  | call => cases h

namespace Reaped

/-- Operations that neither invalidate nor detach. -/
theorem keep {ops : List StoreOp} (h : Reaped store processes)
    (hops : ∀ op ∈ ops, op.retires = false) (hfits : ∀ op ∈ ops, op.fits now) :
    Reaped (Gateway.applyOps store now ops) processes := by
  induction ops generalizing store with
  | nil => exact h
  | cons op ops ih =>
    have hop := hops op List.mem_cons_self
    refine @ih (store.apply now op) ⟨fun id record hrecord hremovable => ?_,
      fun pid process id hprocess htrashes record hrecord => ?_⟩
      (fun op' hop' => hops op' (List.mem_cons_of_mem _ hop'))
      (fun op' hop' => hfits op' (List.mem_cons_of_mem _ hop'))
    · rcases AccountStore.removable_origin (hfits op List.mem_cons_self) hrecord hremovable with
        ⟨details, rfl⟩ | ⟨old, hold, hremovable'⟩
      · cases hop
      · exact h.lingering id old hold hremovable'
    · have hdetaches : op.detaches = false := by
        cases op <;> first | exact hop | rfl
      exact AccountStore.attached_apply hdetaches (h.attached pid process id hprocess htrashes)
        hrecord

/-- A process moves on and keeps its part in the pair. -/
theorem set (h : Reaped store processes) (hold : processes[pid]? = some old)
    (hinvalidates : ∀ id, old.invalidates? = some id → new.invalidates? = some id ∨
      ∀ record, store.record? id = some record → AccountStore.removable record = false)
    (htrashes : ∀ id, new.trashes? = some id → old.trashes? = some id) :
    Reaped store (processes.set pid new) := by
  refine ⟨fun id record hrecord hremovable => ?_, fun pid' process id hprocess hid record hrecord =>
    ?_⟩
  · obtain ⟨pid', process, hprocess, hid⟩ := h.lingering id record hrecord hremovable
    by_cases hpid : pid' = pid
    · subst hpid
      obtain rfl := Option.some.inj (hold.symm.trans hprocess)
      rcases hinvalidates id hid with hnew | hgone
      · exact ⟨pid', new, getElem?_set_eq hold new, hnew⟩
      · simp [hgone record hrecord] at hremovable
    · exact ⟨pid', process, by rwa [getElem?_set_of_ne hpid], hid⟩
  · rcases of_getElem?_set hprocess with ⟨rfl, rfl⟩ | ⟨-, hprocess'⟩
    · exact h.attached pid' old id hold (htrashes id hid) record hrecord
    · exact h.attached pid' process id hprocess' hid record hrecord

/-- An operation outside the prepare step, while no file is on its way to the trash. -/
theorem apply {op : StoreOp} (h : Reaped store processes) (hfits : op.fits now)
    (hprepare : ∀ id details, op ≠ .prepareAuthInvalid id details)
    (htrashes : ∀ (pid : ℕ) (process : Process), processes[pid]? = some process →
      process.trashes? = none) : Reaped (store.apply now op) processes := by
  refine ⟨fun id record hrecord hremovable => ?_, fun pid process id hprocess hid => ?_⟩
  · rcases AccountStore.removable_origin hfits hrecord hremovable with
      ⟨details, hop⟩ | ⟨old, hold, hremovable'⟩
    · exact absurd hop (hprepare id details)
    · exact h.lingering id old hold hremovable'
  · simp [htrashes pid process hprocess] at hid

/-- One resumption of a request. -/
theorem request {gateway : Gateway} {run run' : FailoverRun} {pc pc' : RequestPc}
    {ops : List StoreOp} (h : Reaped gateway.store gateway.processes) (hlock : gateway.LockHeld)
    (hold : gateway.processes[pid]? = some (.request run pc))
    (hmove : InvalidationMove (gateway.view pid) pc ops pc')
    (hfits : ∀ op ∈ ops, op.fits gateway.now) :
    Reaped (Gateway.applyOps gateway.store gateway.now ops)
      (gateway.processes.set pid (.request run' pc')) := by
  have hnone {id : String} (hpc : pc.invalidates? = none)
      (hid : (Process.request run pc).invalidates? = some id) : False := by
    rw [Process.invalidates?, hpc] at hid
    cases hid
  have hidle {id : String} (hpc' : pc'.invalidates? = none)
      (hid : (Process.request run' pc').trashes? = some id) : False := by
    have hinvalidates := RequestPc.invalidates?_of_trashes? hid
    rw [hpc'] at hinvalidates
    cases hinvalidates
  cases hmove with
  | outside hbefore hafter hops =>
    exact (h.keep hops hfits).set hold (fun id hid => (hnone hbefore hid).elim)
      fun id hid => (hidle hafter hid).elim
  | move hinside hinvalidates htrashes =>
    exact h.set hold (fun id hid => .inl (hinvalidates.trans hid)) htrashes
  | @note selection failure error _ hafter =>
    have hkept : Reaped (Gateway.applyOps gateway.store gateway.now
        [.noteTrashFailure selection.accountId error]) gateway.processes :=
      h.keep (by simp [StoreOp.retires, StoreOp.detaches]) hfits
    refine hkept.set hold (fun id hid => .inr fun record hrecord => ?_)
      fun id hid => (hidle hafter hid).elim
    have hattached := hkept.attached pid _ id hold hid record hrecord
    simp [AccountStore.removable, hattached]
  | gone hmissing hafter =>
    refine h.set hold (fun id hid => .inr fun record hrecord => ?_)
      fun id hid => (hidle hafter hid).elim
    obtain rfl := Option.some.inj hid
    have hmissing' : gateway.store.record? _ = none := hmissing
    rw [hmissing'] at hrecord
    cases hrecord
  | @finalize selection failure _ hafter =>
    have htrashes : ∀ (pid' : ℕ) (process : Process), gateway.processes[pid']? = some process →
        process.trashes? = none := by
      intro pid' process hprocess
      cases hid : process.trashes? with
      | none => rfl
      | some id =>
        have hinside := Process.insideDisk_of_trashes? hid
        obtain rfl := hlock.unique hold rfl hprocess hinside
        obtain rfl := Option.some.inj (hold.symm.trans hprocess)
        cases hid
    have happly :
        Reaped (gateway.store.apply gateway.now (.finalizeAuthInvalid selection.accountId))
        gateway.processes := h.apply trivial (by simp) htrashes
    refine happly.set hold (fun id hid => .inr fun record hrecord => ?_)
      fun id hid => (hidle hafter hid).elim
    obtain rfl := Option.some.inj hid
    have hfits' : (StoreOp.finalizeAuthInvalid selection.accountId).fits gateway.now := trivial
    exact AccountStore.not_removable_of_reaps? rfl hfits' hrecord
  | @prepare selection failure _ hafter hattached =>
    have hsettled : ∀ id record, (gateway.store.apply gateway.now
        (.prepareAuthInvalid selection.accountId failure.details)).record? id = some record →
        (∀ r, gateway.store.record? id = some r → r.detached = false) →
        record.detached = false :=
      fun id record hrecord hbefore => AccountStore.attached_apply rfl hbefore hrecord
    refine ⟨fun id record hrecord hremovable => ?_,
      fun pid' process id hprocess hid record hrecord =>
      hsettled id record hrecord ?_⟩
    · have hfits' : (StoreOp.prepareAuthInvalid selection.accountId failure.details).fits
          gateway.now := trivial
      rcases AccountStore.removable_origin hfits' hrecord hremovable with
        ⟨details, hop⟩ | ⟨before, hbefore, hremovable'⟩
      · obtain ⟨rfl, -⟩ := StoreOp.prepareAuthInvalid.inj hop
        exact ⟨pid, _, getElem?_set_eq hold _, hafter⟩
      · obtain ⟨pid', process, hprocess, hid⟩ := h.lingering id before hbefore hremovable'
        have hpid : pid' ≠ pid := by
          rintro rfl
          obtain rfl := Option.some.inj (hold.symm.trans hprocess)
          cases hid
        exact ⟨pid', process, by rwa [getElem?_set_of_ne hpid], hid⟩
    · rcases of_getElem?_set hprocess with ⟨rfl, rfl⟩ | ⟨-, hprocess'⟩
      · exact hattached id hid
      · exact h.attached pid' process id hprocess' hid

/-- One resumption of an account call. -/
theorem call {gateway : Gateway} {accountCall : AccountCall} {pc : AccountCallPc} {input : Input}
    {next : AccountCallResumption} (h : Reaped gateway.store gateway.processes)
    (hlock : gateway.LockHeld)
    (hold : gateway.processes[pid]? = some (.call accountCall pc))
    (hnext : resumeCall config (gateway.view pid) accountCall pc input = some next) :
    Reaped (Gateway.applyOps gateway.store gateway.now next.ops)
      (gateway.processes.set pid (.call accountCall next.pc)) := by
  have happlied : Reaped (Gateway.applyOps gateway.store gateway.now next.ops)
      gateway.processes := by
    rcases resumeCall_applies hnext with hops | ⟨plan, rfl, hops⟩
    · rw [hops]
      exact h
    · rw [hops]
      refine h.apply (by cases plan <;> trivial)
        (fun id details => by cases plan <;> simp [CallPlan.op])
        fun pid' process hprocess => ?_
      cases hid : process.trashes? with
      | none => rfl
      | some id =>
        obtain rfl := hlock.unique hold rfl hprocess (Process.insideDisk_of_trashes? hid)
        obtain rfl := Option.some.inj (hold.symm.trans hprocess)
        cases hid
  exact happlied.set hold (fun id hid => by cases hid) fun id hid => by cases hid

theorem append (h : Reaped store processes) (hnew : new.trashes? = none) :
    Reaped store (processes ++ [new]) := by
  refine ⟨fun id record hrecord hremovable => ?_, fun pid process id hprocess hid => ?_⟩
  · obtain ⟨pid, process, hprocess, hid⟩ := h.lingering id record hrecord hremovable
    exact ⟨pid, process, getElem?_append_of_some hprocess _, hid⟩
  · rcases of_getElem?_append_singleton hprocess with hprocess' | ⟨-, rfl⟩
    · exact h.attached pid process id hprocess' hid
    · simp [hnew] at hid

end Reaped

namespace Gateway

variable {gateway gateway' : Gateway} {event : Event} {state state' : Gateway × Settlements}

/-- No drop, no selection while a counter is at its maximum, no failure whose deadline cannot
be represented. -/
def settlesCleanly (config : Config) (gateway : Gateway) : Event → Prop
  | .drop _ => False
  | .resume pid input =>
    (∀ op ∈ performed config gateway pid input, op.fits gateway.now) ∧
      ((∃ op ∈ performed config gateway pid input, op.selects = true) →
        ∀ record ∈ gateway.store.records.values, record.inFlightRequests < u32Max)
  | _ => True

/-- The ledger, the counts and the detached records are in order. -/
structure SettledOnce (state : Gateway × Settlements) : Prop where
  lock : state.1.LockHeld
  accounted : state.1.Accounted
  counted : Counted state.1.store state.1.processes
  reaped : Reaped state.1.store state.1.processes
  balanced : ∀ pid, state.2.selected pid =
    state.2.settled pid ++ (state.1.processes[pid]?.bind Process.occupies?).toList

theorem settledOnce_request {pid : ℕ} {input : Input} {run : FailoverRun} {pc : RequestPc}
    {next : Resumption} (h : SettledOnce state)
    (hguard : settlesCleanly config state.1 (.resume pid input))
    (hprocess : state.1.processes[pid]? = some (.request run pc))
    (hnext : resumeRequest config (state.1.view pid) run pc input = some next)
    (hlock : (state.1.perform pid (.request next.run next.pc) next.ops next.disk).LockHeld)
    (haccounted :
      (state.1.perform pid (.request next.run next.pc) next.ops next.disk).Accounted) :
    SettledOnce (state.1.perform pid (.request next.run next.pc) next.ops next.disk,
      state.2.observe config state.1 (.resume pid input)) := by
  have hperformed : performed config state.1 pid input = next.ops := by
    simp [performed, hprocess, hnext]
  obtain ⟨hfits, hroom⟩ := hguard
  rw [hperformed] at hfits hroom
  have hmove := resumeRequest_move hnext
  have hroom' : (∃ op ∈ next.ops, op.selects = true) →
      ∀ id, (state.1.store.load id).1 < u32Max := fun hselects =>
    AccountStore.load_lt_of_records (by decide) (hroom hselects)
  have hknown : ∀ id, pc.occupies? = some id →
      ∃ record, state.1.store.record? id = some record := fun id hoccupies =>
    h.counted.exists_record (occupants_pos hprocess hoccupies)
  refine ⟨hlock, haccounted, ?_, ?_, fun pid' => ?_⟩
  · exact Counted.request (state.1.view pid) h.counted hprocess hmove hroom'
  · exact h.reaped.request h.lock hprocess (resumeRequest_invalidation hnext) hfits
  · have hbefore := h.balanced pid'
    simp only [Settlements.observe, hperformed, perform]
    by_cases hpid : pid' = pid
    · subst hpid
      have hledger := hmove.ledger hknown
      simp only [if_true, getElem?_set_eq hprocess, Option.bind_some, hprocess,
        Process.occupies?] at hbefore ⊢
      rw [hbefore, List.append_assoc, List.append_assoc]
      exact congrArg (state.2.settled pid' ++ ·) hledger
    · simp only [hpid, if_false, List.append_nil, getElem?_set_of_ne hpid]
      exact hbefore

theorem settledOnce_call {pid : ℕ} {input : Input} {accountCall : AccountCall}
    {pc : AccountCallPc} {next : AccountCallResumption} (h : SettledOnce state)
    (hprocess : state.1.processes[pid]? = some (.call accountCall pc))
    (hnext : resumeCall config (state.1.view pid) accountCall pc input = some next)
    (hlock : (state.1.perform pid (.call accountCall next.pc) next.ops next.disk).LockHeld)
    (haccounted :
      (state.1.perform pid (.call accountCall next.pc) next.ops next.disk).Accounted) :
    SettledOnce (state.1.perform pid (.call accountCall next.pc) next.ops next.disk,
      state.2.observe config state.1 (.resume pid input)) := by
  have hperformed : performed config state.1 pid input = next.ops := by
    simp [performed, hprocess, hnext]
  have hquiet := resumeCall_quiet hnext
  refine ⟨hlock, haccounted, ?_, h.reaped.call h.lock hprocess hnext, fun pid' => ?_⟩
  · refine h.counted.set hprocess fun id => ?_
    exact congrArg (·.1 + 0) (load_applyOps_quiet hquiet id)
  · have hselected : next.ops.filterMap (selectedBy? state.1.store state.1.now) = [] := by
      refine List.filterMap_eq_nil_iff.mpr fun op hop => ?_
      have hselects := (hquiet op hop).1
      cases op <;> first | rfl | cases hselects
    have hsettled : next.ops.filterMap StoreOp.settles? = [] := by
      refine List.filterMap_eq_nil_iff.mpr fun op hop => ?_
      have hclears := (hquiet op hop).2
      cases op <;> first | rfl | cases hclears
    have hbefore := h.balanced pid'
    simp only [Settlements.observe, hperformed, hselected, hsettled, ite_self, List.append_nil,
      perform]
    rw [hbefore]
    by_cases hpid : pid' = pid
    · subst hpid
      rw [getElem?_set_eq hprocess, hprocess]
      rfl
    · rw [getElem?_set_of_ne hpid]

/-- Every step keeps the ledger, the counts and the detached records in order. -/
theorem settledOnce_step (h : SettledOnce state) (hguard : settlesCleanly config state.1 event)
    (hstep : settlementStep config state event = some state') : SettledOnce state' := by
  obtain ⟨gateway', hgateway, rfl⟩ := Option.map_eq_some_iff.mp hstep
  have hdrops : dropsFreely state.1 event := by
    cases event with
    | drop => exact hguard.elim
    | _ => trivial
  have hlock := lockHeld_step h.lock hgateway
  have haccounted := accounted_step h.accounted hdrops hgateway
  by_cases hsilent : silent event = true
  · obtain ⟨hstore, hprocesses⟩ := step_silent hsilent hgateway
    have hledger : state.2.observe config state.1 event = state.2 := by
      cases event with
      | resume => cases hsilent
      | _ => rfl
    refine ⟨hlock, haccounted, ?_, ?_, ?_⟩
    · rw [hstore, hprocesses]
      exact h.counted
    · rw [hstore, hprocesses]
      exact h.reaped
    · rw [hledger, hprocesses]
      exact h.balanced
  cases event with
  | spawnRequest | spawnCall =>
    obtain rfl := Option.some.inj hgateway
    refine ⟨hlock, haccounted, fun id => ?_, h.reaped.append rfl, fun pid => ?_⟩
    · rw [h.counted id, occupants, occupants, List.countP_append]
      rfl
    · rw [bind_getElem?_append_singleton rfl]
      exact h.balanced pid
  | resume pid input =>
    obtain ⟨process, hprocess, hresume⟩ := Option.bind_eq_some_iff.mp hgateway
    cases process with
    | request run pc =>
      obtain ⟨next, hnext, rfl⟩ := Option.map_eq_some_iff.mp hresume
      exact settledOnce_request h hguard hprocess hnext hlock haccounted
    | call accountCall pc =>
      obtain ⟨next, hnext, rfl⟩ := Option.map_eq_some_iff.mp hresume
      exact settledOnce_call h hprocess hnext hlock haccounted
  | drop => exact hguard.elim
  | background op =>
    simp only [step, Option.ite_none_right_eq_some, Option.some.injEq] at hgateway
    obtain ⟨hbackground, rfl⟩ := hgateway
    have hquiet : ∀ op' ∈ [op], op'.selects = false ∧ op'.clears? = none := by
      simpa using background_quiet hbackground
    refine ⟨hlock, haccounted, fun id => ?_, ?_, h.balanced⟩
    · rw [← h.counted id]
      exact congrArg Prod.fst (load_applyOps_quiet hquiet id)
    · have hops : ∀ op' ∈ [op], op'.retires = false ∧ op'.fits state.1.now := by
        intro op' hop'
        obtain rfl := List.mem_singleton.mp hop'
        cases op' <;> first | exact ⟨rfl, trivial⟩ | cases hbackground
      exact h.reaped.keep (fun op' hop' => (hops op' hop').1) fun op' hop' => (hops op' hop').2
  | _ => exact absurd rfl hsilent

theorem settledOnce_boot (dir : AccountsDir) (now : Time) (policy : RoutingPolicy) :
    SettledOnce (boot dir now policy, .empty) := by
  have haccounted := accounted_boot dir now policy
  refine ⟨lockHeld_boot dir now policy, haccounted, fun id => ?_, ?_, fun pid => ?_⟩
  · have hle := haccounted.counted id
    have hnone : occupants (boot dir now policy).processes id = 0 := rfl
    exact Nat.le_antisymm hle (hnone ▸ Nat.zero_le _)
  · have hempty : Reaped AccountStore.new [] :=
      ⟨fun id record hrecord => by simp at hrecord,
        fun pid process id hprocess => by simp at hprocess⟩
    simp only [boot, App.AppPool.startup, App.AppPool.syncAccountsFromDisk]
    split
    next => exact hempty
    next plan hplan =>
      have hfits : (StoreOp.applySync plan).fits now := trivial
      exact hempty.apply hfits (by simp) fun pid process hprocess => by simp at hprocess
  · simp [boot, Settlements.empty]

/-- A detached record that no process occupies is being finalized. -/
theorem SettledOnce.lingering (h : SettledOnce state) {id : String} {record : AccountRecord}
    (hrecord : state.1.store.record? id = some record) (hdetached : record.detached = true)
    (hfree : occupants state.1.processes id = 0) :
    ∃ (pid : ℕ) (process : Process), state.1.processes[pid]? = some process ∧
      process.invalidates? = some id := by
  refine h.reaped.lingering id record hrecord (AccountStore.removable_iff.mpr ⟨hdetached, ?_, ?_⟩)
  · have hcount := h.counted id
    rw [hfree, AccountStore.load_of_record? hrecord] at hcount
    exact hcount
  · -- a marked account has a process that refreshes it, and so one that occupies it
    by_contra hmarked
    have hmark : (state.1.store.load id).2 = true := by
      rw [AccountStore.load_of_record? hrecord]
      simpa [AccountRecord.load] using hmarked
    obtain ⟨pid, process, selection, hprocess, hrefreshes, rfl⟩ := h.accounted.watched id hmark
    have hpos := occupants_pos hprocess (Process.occupies?_of_refreshes? hrefreshes)
    exact absurd hfree (Nat.pos_iff_ne_zero.mp hpos)

/-- In a run without drops in which no counter is at its maximum at a selection and no deadline
is out of range at a failure: a request that ended has settled its selections, each once and in
order, and one that holds a response has one left; the in-flight count of an account is the
number of its unsettled selections, an account with one is in the store, and a detached account
without one is being finalized. -/
theorem selections_settled_once {dir : AccountsDir} {now : Time} {policy : RoutingPolicy}
    {settlements : Settlements}
    (hrun : Run (settlementStep config) (fun state event => settlesCleanly config state.1 event)
      (boot dir now policy, .empty) (gateway, settlements)) :
    (∀ pid run, (∃ result, gateway.processes[pid]? = some (.request run (.finished result))) →
      settlements.selected pid = settlements.settled pid) ∧
    (∀ pid run selection,
      gateway.processes[pid]? = some (.request run (.selected selection .holding)) →
      settlements.selected pid = settlements.settled pid ++ [selection.accountId]) ∧
    (∀ id, (gateway.store.load id).1 = occupants gateway.processes id) ∧
    (∀ id, 0 < occupants gateway.processes id →
      ∃ record, gateway.store.record? id = some record) ∧
    ∀ id record, gateway.store.record? id = some record → record.detached = true →
      occupants gateway.processes id = 0 → ∃ (pid : ℕ) (process : Process),
        gateway.processes[pid]? = some process ∧ process.invalidates? = some id := by
  have h : SettledOnce (gateway, settlements) :=
    hrun.invariant (fun _ _ _ h hguard hstep => settledOnce_step h hguard hstep)
      (settledOnce_boot dir now policy)
  refine ⟨fun pid run hfinished => ?_, fun pid run selection hholding => ?_, h.counted,
    fun id => h.counted.exists_record, fun id record hrecord hdetached hfree => ?_⟩
  · obtain ⟨result, hprocess⟩ := hfinished
    have hbalanced := h.balanced pid
    rw [hprocess] at hbalanced
    exact hbalanced.trans (List.append_nil _)
  · have hbalanced := h.balanced pid
    rw [hholding] at hbalanced
    exact hbalanced
  · exact h.lingering hrecord hdetached hfree

instance (config : Config) (gateway : Gateway) (event : Event) :
    Decidable (settlesCleanly config gateway event) :=
  match event with
  | .resume pid input => inferInstanceAs (Decidable (
      (∀ op ∈ performed config gateway pid input, _) ∧
        ((∃ op ∈ performed config gateway pid input, _) →
          ∀ record ∈ gateway.store.records.values, _)))
  | .drop _ => .isFalse fun h => h
  | .spawnRequest .. | .spawnCall _ | .grant | .runTask _ | .runOrphan ..
  | .clock _ | .setPolicy _ | .background _ | .relist _ => .isTrue trivial

/-- A refreshed account is deleted while a request executes with it. -/
def deleteInFlight : List Event :=
  [.spawnRequest .releaseImmediately ∅, .resume 0 .scheduled, .resume 0 .scheduled,
    .resume 0 (.refreshReply (.json (.object [("access_token", .string "at_1")]))),
    .resume 0 .scheduled, .grant, .resume 0 .scheduled, .runTask .done, .resume 0 .scheduled,
    .resume 0 .scheduled, .spawnCall (.removeAccount "a"), .grant, .resume 1 .scheduled,
    .runTask .done, .resume 1 .scheduled, .resume 1 .scheduled]

theorem selections_settled_once_deleteInFlight :
    let state := stateAfter (settlementStep exampleConfig)
      (boot exampleDir 0 .fillFirst, .empty)
      (deleteInFlight ++ [.resume 0 (.executeResult (.ok none)), .resume 0 .scheduled])
    (∃ run result, state.1.processes[0]? = some (.request run (.finished result))) ∧
    state.2.selected 0 = state.2.settled 0 := by
  intro state
  have hrun : Run (settlementStep exampleConfig)
      (fun state event => settlesCleanly exampleConfig state.1 event)
      (boot exampleDir 0 .fillFirst, .empty) state := .of_isSome (by decide +kernel)
  have hfinished : ∃ run result, state.1.processes[0]? = some (.request run (.finished result)) :=
    ⟨_, _, rfl⟩
  obtain ⟨run, hresult⟩ := hfinished
  exact ⟨⟨run, hresult⟩, (selections_settled_once hrun).1 0 run hresult⟩

/-- The request that is left over is rate-limited for longer than the clock can count. -/
def deleteThenPanic : List Event :=
  deleteInFlight ++ [.resume 0 (.executeResult (.error
    ⟨.rateLimited, some (fromSecs 9000000000000), "slow down"⟩)), .resume 0 .scheduled]

/-- The failure panics after it has settled the selection and before the deleted account is
dropped. -/
theorem panic_leaves_detached_record :
    ∃ state : Gateway × Settlements, Run (settlementStep exampleConfig)
        (fun _ event => isDrop event = false) (boot exampleDir 0 .fillFirst, .empty) state ∧
      (state.1.store.record? "a").any (·.detached) = true ∧
      occupants state.1.processes "a" = 0 ∧
      ∀ process ∈ state.1.processes, process.invalidates? = none := by
  refine ⟨stateAfter (settlementStep exampleConfig) _ deleteThenPanic, .of_isSome ?_, ?_, ?_, ?_⟩
    <;> decide +kernel

end Gateway

end Codaze.Failover
