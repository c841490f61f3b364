import Codaze.Failover.Settlements
import Codaze.Failover.Termination

/-!
# An invalid token leads to failover

`finish_refresh_failure` gives up the selection in its prepare step and looks the account up
again in its finalize step. A detached account stays in between as long as nobody settles the
last selection that is counted on it, and then the call returns to the loop with the account
tried.
-/
namespace Codaze.Failover
open Foundation Accounts

/-- In `finish_refresh_failure` on an invalid token. -/
def Stage.invalidating : Stage → Bool
  | preparing _ | trashing _ | noting _ _ | finalizing _ => true
  | _ => false

/-- What the stage waits for is there: the disk lock or the end of the move to the trash. -/
def Stage.ready (view : View) : Stage → Bool
  | preparing _ => view.holdsDiskLock
  | trashing _ => view.taskResult.isSome
  | noting _ _ | finalizing _ => true
  | _ => false

/-- The call goes on, or the loop does, with the account tried. -/
inductive FailsOver (run : FailoverRun) (selection : AccountSelection) (stage : Stage) :
    FailoverRun → RequestPc → Prop
  | stay {stage'} (hinvalidating : stage'.invalidating = true) (hrank : stage'.rank < stage.rank) :
      FailsOver run selection stage run (.selected selection stage')
  | retry {run'} (htried : run'.triedAccounts = insert selection.accountId run.triedAccounts) :
      FailsOver run selection stage run' .selecting

variable {config : Config} {view : View} {run : FailoverRun} {selection : AccountSelection}
  {stage : Stage} {input : Input} {next : Resumption}

/-- The call errs only on an unknown account, in its prepare and in its finalize step. -/
theorem failsOver_resumeStage (hinvalidating : stage.invalidating = true)
    (hknown : ∃ record, view.store.record? selection.accountId = some record)
    (h : resumeStage config view run selection stage input = some next) :
    FailsOver run selection stage next.run next.pc := by
  obtain ⟨record, hrecord⟩ := hknown
  cases stage with
  | preparing failure =>
    cases input with
    | scheduled =>
      simp only [resumeStage, Option.ite_none_right_eq_some, Option.some.injEq] at h
      obtain ⟨-, rfl⟩ := h
      simp only [resumePreparing, AccountStore.prepareAuthInvalidFailure, hrecord, Option.map_some]
      split
      next hnone => cases hnone
      next => exact .stay rfl (by simp [Stage.rank])
      next => exact .stay rfl (by simp [Stage.rank])
    | _ => cases h
  | trashing failure =>
    cases input with
    | scheduled =>
      obtain ⟨result, -, rfl⟩ := Option.map_eq_some_iff.mp h
      cases result with
      | ok => exact .stay rfl (by simp [Stage.rank])
      | error => exact .stay rfl (by simp [Stage.rank])
    | _ => cases h
  | noting failure error =>
    cases input with
    | scheduled =>
      obtain rfl := Option.some.inj h
      exact .retry rfl
    | _ => cases h
  | finalizing failure =>
    cases input with
    | scheduled =>
      simp only [resumeStage, AccountStore.finalizeAuthInvalidFailure, hrecord, Option.map_some]
        at h
      obtain rfl := Option.some.inj h
      exact .retry rfl
    | _ => cases h
  | _ => cases hinvalidating

/-- It waits for nothing else. -/
theorem resumes_of_ready (hready : stage.ready view = true) :
    (resumeStage config view run selection stage .scheduled).isSome = true := by
  cases stage with
  | preparing => exact (congrArg Option.isSome (if_pos hready)).trans rfl
  | trashing => exact Option.isSome_map.trans hready
  | noting => rfl
  | finalizing =>
    simp only [resumeStage]
    split <;> rfl
  | _ => cases hready

/-- Outside the disk lock a request performs routine operations. -/
theorem resumeRequest_routine {pc : RequestPc} (hlock : view.holdsDiskLock = false)
    (houtside : pc.insideDisk = false) (h : resumeRequest config view run pc input = some next) :
    ∀ op ∈ next.ops, op.routine = true := by
  have hcontra {P : Prop} (hheld : view.holdsDiskLock = true) : P := by
    rw [hlock] at hheld
    cases hheld
  cases resumeRequest_step h with
  | commitDetached hheld | commit hheld | prepareDetached hheld | prepare hheld =>
    exact hcontra hheld
  | note | finalize => cases houtside
  | @settle selection settlement =>
    cases settlement <;> simp [AccountSettlement.op, StoreOp.routine]
  | _ => simp [StoreOp.routine]

theorem StoreOp.clears?_of_reaps? {op : StoreOp} {id : String} (hroutine : op.routine = true)
    (h : op.reaps? = some id) : op.clears? = some id := by
  cases op <;> first | exact h | cases hroutine

/-- Such a request drops a record only where it settles its selection of it. -/
theorem RequestMove.settles_of_reaps? {pc pc' : RequestPc} {ops : List StoreOp} {id : String}
    (h : RequestMove view pc ops pc') (hroutine : ∀ op ∈ ops, op.routine = true)
    (hreaps : ∃ op ∈ ops, op.reaps? = some id) : pc.occupies? = some id ∧ Settles id ops := by
  obtain ⟨op, hop, hid⟩ := hreaps
  have hclears := StoreOp.clears?_of_reaps? (hroutine op hop) hid
  cases h with
  | quiet hops _ _ _ => simp [(hops op hop).2] at hclears
  | select | unselected =>
    simp only [List.mem_cons, List.not_mem_nil, or_false] at hop
    rcases hop with rfl | rfl <;> cases hid
  | commit => cases hroutine _ (List.mem_singleton_self _)
  | uncommitted | unprepared => cases hop
  | settle hoccupies hops _ =>
    obtain rfl := Option.some.inj ((hops.clears? op hop).symm.trans hclears)
    exact ⟨hoccupies, hops⟩

/-- Every occupied account is counted, and an account is in the store while it is between the
prepare and the finalize step. -/
structure Backed (store : AccountStore) (processes : List Process) : Prop where
  counted : ∀ id, occupants processes id ≤ (store.load id).1
  kept : ∀ (pid : ℕ) (process : Process) id, processes[pid]? = some process →
    process.invalidates? = some id → ∃ record, store.record? id = some record

variable {store : AccountStore} {now : Time} {processes : List Process} {pid : ℕ} {id : String}

/-- The operations of a request on the account of another that invalidates it. -/
theorem exists_record?_applyOps {ops : List StoreOp} {pc pc' : RequestPc}
    (hmove : RequestMove view pc ops pc') (hroutine : ∀ op ∈ ops, op.routine = true)
    {record : AccountRecord} (hrecord : view.store.record? id = some record)
    (hspared : ∀ op ∈ ops, op.settles? = some id → record.detached = true →
      1 < record.inFlightRequests) :
    ∃ record', (Gateway.applyOps view.store view.now ops).record? id = some record' := by
  by_cases hreaps : ∃ op ∈ ops, op.reaps? = some id
  · obtain ⟨-, hsettles⟩ := hmove.settles_of_reaps? hroutine hreaps
    obtain ⟨op, hop, hsettled⟩ : ∃ op ∈ ops, op.settles? = some id := by
      cases hsettles with
      | one h => exact ⟨_, List.mem_singleton_self _, h⟩
      | invalidated h => exact ⟨_, List.mem_cons_of_mem _ (List.mem_singleton_self _), h⟩
    cases hdetached : record.detached with
    | false => exact AccountStore.exists_record?_foldl hroutine hrecord (.inl hdetached)
    | true =>
      have hcount := hspared op hop hsettled hdetached
      refine AccountStore.exists_record_of_loaded ?_
      rw [load_applyOps_settles hsettles, if_pos rfl, AccountStore.load_of_record? hrecord]
      exact Nat.sub_pos_of_lt hcount
  · refine AccountStore.exists_record?_foldl hroutine hrecord (.inr fun op hop hid => ?_)
    exact hreaps ⟨op, hop, hid⟩

/-- A step that moves the load of an account as it moves its occupation. -/
theorem Backed.counted_set {store' : AccountStore} {old new : Process}
    (h : Backed store processes) (hold : processes[pid]? = some old)
    (hload : ∀ id, (store'.load id).1 + (if old.occupies? == some id then 1 else 0) =
      (store.load id).1 + if new.occupies? == some id then 1 else 0) (id : String) :
    occupants (processes.set pid new) id ≤ (store'.load id).1 := by
  have hcount := occupants_set hold new id
  have hbefore := h.counted id
  have hmoved := hload id
  omega

/-- A request between its own prepare and finalize step: the first found the account, and
nothing else changes the store. -/
theorem exists_record?_invalidated {ops : List StoreOp} {pc pc' : RequestPc}
    (hmove : InvalidationMove view pc ops pc') (hid : pc'.invalidates? = some id)
    (hknown : pc.occupies? = some id ∨ pc.invalidates? = some id →
      ∃ record, view.store.record? id = some record) :
    ∃ record, (Gateway.applyOps view.store view.now ops).record? id = some record := by
  cases hmove with
  | outside _ hafter | note hafter | finalize hafter | gone _ hafter =>
    rw [hafter] at hid
    cases hid
  | prepare hafter =>
    obtain rfl := Option.some.inj (hafter.symm.trans hid)
    obtain ⟨record, hrecord⟩ := hknown (.inl rfl)
    simp only [Gateway.applyOps, List.foldl_cons, List.foldl_nil, AccountStore.apply,
      AccountStore.prepareAuthInvalidFailure, hrecord, Option.map_some, Option.getD_some]
    exact AccountStore.exists_record?_modify hrecord
  | move _ hinvalidates => exact hknown (.inr (hinvalidates ▸ hid))

theorem Process.insideDisk_of_invalidates? {process : Process}
    (h : process.invalidates? = some id) : process.insideDisk = true := by
  cases process with
  | request run pc => exact pc.insideDisk_of_invalidates? h
  | call => cases h

/-- A dropped future occupies what it did before or nothing. -/
theorem Process.occupies?_of_afterDrop {old new : Process} (hdrop : old.afterDrop = some new) :
    new.occupies? = none ∨ new.occupies? = old.occupies? := by
  cases old with
  | call call pc =>
    cases pc <;> first
      | (obtain rfl := Option.some.inj hdrop; exact .inl rfl)
      | cases hdrop
  | request run pc =>
    cases pc with
    | starting | selecting => obtain rfl := Option.some.inj hdrop; exact .inl rfl
    | finished | dropped => cases hdrop
    | selected selection stage =>
      cases stage with
      | answered | settling => cases hdrop
      | holding => obtain rfl := Option.some.inj hdrop; exact .inr rfl
      | _ => obtain rfl := Option.some.inj hdrop; exact .inl rfl

theorem occupants_set_le {old new : Process} (hold : processes[pid]? = some old)
    (hnew : new.occupies? = none ∨ new.occupies? = old.occupies?) (id : String) :
    occupants (processes.set pid new) id ≤ occupants processes id := by
  have hcount := occupants_set hold new id
  rcases hnew with hfree | hsame
  · simp only [hfree, Option.none_beq_some, Bool.false_eq_true, if_false] at hcount
    omega
  · rw [hsame] at hcount
    omega

namespace Gateway

variable {gateway gateway' : Gateway} {event : Event}

abbrev Backed (gateway : Gateway) : Prop := Failover.Backed gateway.store gateway.processes

/-- Nobody settles the last selection counted on a detached account that a request is between
the prepare and the finalize step for, or selects while a counter is at its maximum. -/
def sparesInvalidated (config : Config) (gateway : Gateway) : Event → Prop
  | .resume pid input =>
    (∀ op ∈ performed config gateway pid input, ∀ id ∈ op.settles?,
      (∃ process ∈ gateway.processes, process.invalidates? = some id) →
        ∀ record ∈ gateway.store.record? id, record.detached = true →
          1 < record.inFlightRequests) ∧
      ((∃ op ∈ performed config gateway pid input, op.selects = true) →
        ∀ record ∈ gateway.store.records.values, record.inFlightRequests < u32Max)
  | _ => True

theorem Backed.request {run : FailoverRun} {pc : RequestPc} (h : gateway.Backed)
    (hlock : gateway.LockHeld)
    (hguard : sparesInvalidated config gateway (.resume pid input))
    (hprocess : gateway.processes[pid]? = some (.request run pc))
    (hnext : resumeRequest config (gateway.view pid) run pc input = some next) :
    (gateway.perform pid (.request next.run next.pc) next.ops next.disk).Backed := by
  have hperformed : performed config gateway pid input = next.ops := by
    simp [performed, hprocess, hnext]
  obtain ⟨hspared, hroom⟩ := hguard
  rw [hperformed] at hspared hroom
  have hmove := resumeRequest_move hnext
  have hoccupied : ∀ id, pc.occupies? = some id → 0 < (gateway.store.load id).1 :=
    fun id hoccupies => (occupants_pos hprocess hoccupies).trans_le (h.counted id)
  refine ⟨h.counted_set hprocess (hmove.load_moved hoccupied fun hselects =>
    AccountStore.load_lt_of_records (by decide) (hroom hselects)), ?_⟩
  intro pid' process id hprocess' hid
  rcases of_getElem?_set hprocess' with ⟨rfl, rfl⟩ | ⟨hpid, hother⟩
  · have hknown : pc.occupies? = some id ∨ pc.invalidates? = some id →
        ∃ record, gateway.store.record? id = some record := by
      rintro (hoccupies | hinvalidates)
      · exact AccountStore.exists_record_of_loaded (hoccupied id hoccupies)
      · exact h.kept pid' _ id hprocess hinvalidates
    obtain ⟨record, hrecord⟩ :=
      exists_record?_invalidated (resumeRequest_invalidation hnext) hid hknown
    exact ⟨record, hrecord⟩
  · obtain ⟨record, hrecord⟩ := h.kept pid' process id hother hid
    have hinside := Process.insideDisk_of_invalidates? hid
    have howner := hlock pid' process hother hinside
    have hheld : (gateway.view pid).holdsDiskLock = false := by
      refine Bool.eq_false_iff.mpr fun hheld => hpid ?_
      exact Option.some.inj (howner.symm.trans (holdsDiskLock_iff.mp hheld))
    have houtside : pc.insideDisk = false := by
      refine Bool.eq_false_iff.mpr fun hinside' => hpid ?_
      exact hlock.unique hother hinside hprocess hinside'
    obtain ⟨record', hrecord'⟩ := exists_record?_applyOps hmove
      (resumeRequest_routine hheld houtside hnext) hrecord fun op hop hsettles =>
        hspared op hop id hsettles ⟨process, List.mem_of_getElem? hother, hid⟩ record hrecord
    exact ⟨record', hrecord'⟩

/-- An event that moves no load and at most ends processes outside the disk lock. -/
theorem Backed.frame (h : gateway.Backed)
    (hload : ∀ id, (gateway'.store.load id).1 = (gateway.store.load id).1)
    (hkept : ∀ id, (∃ record, gateway.store.record? id = some record) →
      ∃ record, gateway'.store.record? id = some record)
    (hcount : ∀ id, occupants gateway'.processes id ≤ occupants gateway.processes id)
    (hprocesses : ∀ (pid : ℕ) (process : Process), gateway'.processes[pid]? = some process →
      gateway.processes[pid]? = some process ∨ process.insideDisk = false) : gateway'.Backed := by
  refine ⟨fun id => ?_, fun pid process id hprocess hid => ?_⟩
  · rw [hload]
    exact (hcount id).trans (h.counted id)
  · rcases hprocesses pid process hprocess with hbefore | houtside
    · exact hkept id (h.kept pid process id hbefore hid)
    · simp [Process.insideDisk_of_invalidates? hid] at houtside

/-- Account calls work on the store with the disk lock held, when nobody is invalidating. -/
theorem Backed.call {accountCall : AccountCall} {pc : AccountCallPc}
    {next : AccountCallResumption} (h : gateway.Backed) (hlock : gateway.LockHeld)
    (hprocess : gateway.processes[pid]? = some (.call accountCall pc))
    (hnext : resumeCall config (gateway.view pid) accountCall pc input = some next) :
    (gateway.perform pid (.call accountCall next.pc) next.ops next.disk).Backed := by
  refine ⟨h.counted_set hprocess fun id => ?_, fun pid' process id hprocess' hid => ?_⟩
  · exact congrArg (·.1 + 0) (load_applyOps_quiet (resumeCall_quiet hnext) id)
  · rcases of_getElem?_set hprocess' with ⟨rfl, rfl⟩ | ⟨hpid, hother⟩
    · cases hid
    · obtain ⟨record, hrecord⟩ := h.kept pid' process id hother hid
      have hinside := Process.insideDisk_of_invalidates? hid
      refine ⟨record, ?_⟩
      rcases resumeCall_applies hnext with hops | ⟨plan, rfl, -⟩
      · simp only [perform, hops]
        exact hrecord
      · exact absurd (hlock.unique hother hinside hprocess rfl) hpid

/-- Every guarded step keeps the counts and the accounts that are being invalidated. -/
theorem backed_step (h : gateway.Backed) (hlock : gateway.LockHeld)
    (hguard : sparesInvalidated config gateway event)
    (hstep : step config gateway event = some gateway') : gateway'.Backed := by
  cases event with
  | resume pid input =>
    obtain ⟨process, hprocess, hresume⟩ := Option.bind_eq_some_iff.mp hstep
    cases process with
    | request run pc =>
      obtain ⟨next, hnext, rfl⟩ := Option.map_eq_some_iff.mp hresume
      exact h.request hlock hguard hprocess hnext
    | call accountCall pc =>
      obtain ⟨next, hnext, rfl⟩ := Option.map_eq_some_iff.mp hresume
      exact h.call hlock hprocess hnext
  | spawnRequest | spawnCall =>
    obtain rfl := Option.some.inj hstep
    refine h.frame (fun _ => rfl) (fun _ hrecord => hrecord) (fun id => ?_)
      fun pid process hprocess => ?_
    · rw [occupants, occupants, List.countP_append]
      rfl
    · rcases of_getElem?_append_singleton hprocess with hbefore | ⟨-, rfl⟩
      · exact .inl hbefore
      · exact .inr rfl
  | drop pid =>
    obtain ⟨new, hdrop, rfl⟩ := Option.map_eq_some_iff.mp hstep
    obtain ⟨old, hold, hafter⟩ := Option.bind_eq_some_iff.mp hdrop
    have hstore := leaveDisk_store gateway pid
    refine h.frame (fun id => by rw [hstore]) (fun id hrecord => by rwa [hstore]) (fun id => ?_)
      fun pid' process hprocess => ?_
    · exact occupants_set_le hold (Process.occupies?_of_afterDrop hafter) id
    · rcases of_getElem?_set hprocess with ⟨rfl, rfl⟩ | ⟨-, hbefore⟩
      · exact .inr (afterDrop_outside hafter)
      · exact .inl hbefore
  | background op =>
    simp only [step, Option.ite_none_right_eq_some, Option.some.injEq] at hstep
    obtain ⟨hbackground, rfl⟩ := hstep
    have hroutine : op.routine = true ∧ op.reaps? = none := by
      cases op <;> first | exact ⟨rfl, rfl⟩ | cases hbackground
    refine h.frame (fun id => ?_) (fun id hrecord => ?_) (fun _ => le_rfl)
      fun pid process hprocess => .inl hprocess
    · have hquiet : ∀ op' ∈ [op], op'.selects = false ∧ op'.clears? = none := by
        simpa using background_quiet hbackground
      exact congrArg Prod.fst (load_applyOps_quiet hquiet id)
    · obtain ⟨record, hrecord⟩ := hrecord
      exact AccountStore.exists_record?_apply hroutine.1 hrecord (by simp [hroutine.2])
  | grant | runTask | runOrphan | clock | setPolicy | relist =>
    obtain ⟨hstore, hprocesses⟩ := step_silent rfl hstep
    rw [Backed, hstore, hprocesses]
    exact h

theorem backed_boot (dir : AccountsDir) (now : Time) (policy : RoutingPolicy) :
    (boot dir now policy).Backed :=
  ⟨fun _ => Nat.zero_le _, fun pid process id hprocess => by simp [boot] at hprocess⟩

/-- In every run in which nobody settles the last selection counted on a detached account that
is being invalidated: from its prepare step on, `finish_refresh_failure` resumes as soon as what
it waits for is there, and goes on or returns to the loop with the account tried. -/
theorem auth_invalid_fails_over {dir : AccountsDir} {now : Time} {policy : RoutingPolicy}
    (hrun : Run (step config) (sparesInvalidated config) (boot dir now policy) gateway)
    {run : FailoverRun} {selection : AccountSelection} {stage : Stage}
    (hprocess : gateway.processes[pid]? = some (.request run (.selected selection stage)))
    (hinvalidating : stage.invalidating = true) :
    (stage.ready (gateway.view pid) = true →
      (resumeRequest config (gateway.view pid) run (.selected selection stage)
        .scheduled).isSome = true) ∧
    ∀ input next,
      resumeRequest config (gateway.view pid) run (.selected selection stage) input = some next →
        FailsOver run selection stage next.run next.pc := by
  have hbacked : gateway.LockHeld ∧ gateway.Backed :=
    hrun.invariant (I := fun gateway => gateway.LockHeld ∧ gateway.Backed)
      (fun _ _ _ h hguard hstep => ⟨lockHeld_step h.1 hstep, backed_step h.2 h.1 hguard hstep⟩)
      ⟨lockHeld_boot dir now policy, backed_boot dir now policy⟩
  have hknown : ∃ record, gateway.store.record? selection.accountId = some record := by
    cases stage with
    | preparing failure =>
      refine AccountStore.exists_record_of_loaded ?_
      exact (occupants_pos hprocess rfl).trans_le (hbacked.2.counted selection.accountId)
    | trashing | noting | finalizing => exact hbacked.2.kept pid _ _ hprocess rfl
    | _ => cases hinvalidating
  refine ⟨fun hready => resumes_of_ready hready, fun input next hnext => ?_⟩
  exact failsOver_resumeStage hinvalidating hknown hnext

instance (config : Config) (gateway : Gateway) (event : Event) :
    Decidable (sparesInvalidated config gateway event) :=
  match event with
  | .resume pid input => inferInstanceAs (Decidable (
      (∀ op ∈ performed config gateway pid input, ∀ id ∈ op.settles?, _ →
        ∀ record ∈ gateway.store.record? id, _) ∧
        ((∃ op ∈ performed config gateway pid input, _) →
          ∀ record ∈ gateway.store.records.values, _)))
  | .spawnRequest .. | .spawnCall _ | .drop _ | .grant | .runTask _ | .runOrphan ..
  | .clock _ | .setPolicy _ | .background _ | .relist _ => .isTrue trivial

/-- While one request holds a response, the token of another expires, the account is deleted,
and the refresh of the second finds the refresh token invalid. -/
def invalidatedInFlight : List Event :=
  [.spawnRequest .holdUntilCaller ∅, .resume 0 .scheduled, .resume 0 .scheduled,
    .resume 0 (.refreshReply (.json (.object [("access_token", .string "at_1")]))),
    .resume 0 .scheduled, .grant, .resume 0 .scheduled, .runTask .done, .resume 0 .scheduled,
    .resume 0 .scheduled, .resume 0 (.executeResult (.ok none)), .clock (fromSecs 61),
    .spawnRequest .releaseImmediately ∅, .resume 1 .scheduled, .resume 1 .scheduled,
    .spawnCall (.removeAccount "a"), .grant, .resume 2 .scheduled, .runTask .done,
    .resume 2 .scheduled, .resume 2 .scheduled,
    .resume 1 (.refreshReply (.rejected ⟨"401", "", .authInvalid, none⟩)),
    .resume 1 .scheduled, .grant, .resume 1 .scheduled]

theorem auth_invalid_fails_over_invalidatedInFlight :
    ∃ (gateway : Gateway) (run : FailoverRun) (selection : AccountSelection)
      (failure : RefreshFailure),
      gateway.processes[1]? = some (.request run (.selected selection (.finalizing failure))) ∧
      (gateway.store.record? "a").any (·.detached) = true ∧
      ∀ input next, resumeRequest exampleConfig (gateway.view 1) run
        (.selected selection (.finalizing failure)) input = some next →
          FailsOver run selection (.finalizing failure) next.run next.pc := by
  have hrun : Run (step exampleConfig) (sparesInvalidated exampleConfig)
      (boot exampleDir 0 .fillFirst)
      (stateAfter (step exampleConfig) (boot exampleDir 0 .fillFirst) invalidatedInFlight) :=
    .of_isSome (by decide +kernel)
  exact ⟨_, _, _, _, rfl, by decide +kernel, (auth_invalid_fails_over hrun rfl rfl).2⟩

/-- The first request then settles the last selection that is counted, which drops the deleted
account, and the call of the second returns an error. -/
theorem auth_invalid_ends_request :
    ∃ gateway, Run (step exampleConfig) (fun _ event => isDrop event = false)
        (boot exampleDir 0 .fillFirst) gateway ∧
      ∃ (run : FailoverRun) (selection : AccountSelection) (failure : RefreshFailure)
        (next : Resumption), failure.failure = .authInvalid ∧
        gateway.processes[1]? = some (.request run (.selected selection (.finalizing failure))) ∧
        resumeRequest exampleConfig (gateway.view 1) run
          (.selected selection (.finalizing failure)) .scheduled = some next ∧
        next.pc = .finished (.error (.internal 500 "unknown account a")) ∧
        next.run.triedAccounts = ∅ := by
  refine ⟨stateAfter (step exampleConfig) (boot exampleDir 0 .fillFirst)
    (invalidatedInFlight ++ [.resume 0 (.settle .success), .resume 0 .scheduled]),
    .of_isSome ?_, _, _, _, _, ?_, rfl, rfl, ?_, ?_⟩
  · decide +kernel
  · rfl
  · rfl
  · rfl

end Gateway

end Codaze.Failover
