import Codaze.Failover.Moves
import Codaze.Foundation.Indexed

/-!
# Every counted request is alive

The in-flight count of an account never exceeds the number of processes that occupy it,
and its refresh mark has a process that refreshes it, in every run that drops a future
only where it holds no selection or where the drop spawns the release.
-/
namespace Codaze.Failover
open Foundation Accounts

def Process.occupies? : Process → Option String
  | request _ pc => pc.occupies?
  | call _ _ => none

def Process.refreshes? : Process → Option AccountSelection
  | request _ pc => pc.refreshes?
  | call _ _ => none

theorem Process.occupies?_of_refreshes? {process : Process} {selection : AccountSelection}
    (h : process.refreshes? = some selection) : process.occupies? = some selection.accountId := by
  cases process with
  | request _ pc => exact RequestPc.occupies?_of_refreshes? h
  | call => cases h

/-- A process refreshes the account it occupies. -/
theorem Process.accountId_eq {process : Process} {selection : AccountSelection} {id : String}
    (hrefreshes : process.refreshes? = some selection) (hoccupies : process.occupies? = some id) :
    selection.accountId = id :=
  Option.some.inj ((Process.occupies?_of_refreshes? hrefreshes).symm.trans hoccupies)

/-- The selection whose refresh token is on its way to upstream and not answered. -/
def RequestPc.awaitsReply? : RequestPc → Option AccountSelection
  | selected selection .refreshing => some selection
  | _ => none

def Process.awaitsReply? : Process → Option AccountSelection
  | request _ pc => pc.awaitsReply?
  | call _ _ => none

theorem RequestPc.eq_of_awaitsReply? {pc : RequestPc} {selection : AccountSelection}
    (h : pc.awaitsReply? = some selection) : pc = .selected selection .refreshing := by
  unfold RequestPc.awaitsReply? at h
  split at h
  next => rw [Option.some.inj h]
  next => cases h

theorem Process.refreshes?_of_awaitsReply? {process : Process} {selection : AccountSelection}
    (h : process.awaitsReply? = some selection) : process.refreshes? = some selection := by
  cases process with
  | request run pc => rw [RequestPc.eq_of_awaitsReply? h]; rfl
  | call => cases h

/-- A caller holds the selection and releases it when it is dropped. -/
def Process.holds : Process → Bool
  | request _ (.selected _ .holding) => true
  | _ => false

/-- The processes that occupy an account. -/
def occupants (processes : List Process) (id : String) : ℕ :=
  processes.countP fun process => process.occupies? == some id

/-- Some process is refreshing the account. -/
def Refreshed (processes : List Process) (id : String) : Prop :=
  ∃ (pid : ℕ) (process : Process) (selection : AccountSelection),
    processes[pid]? = some process ∧
    process.refreshes? = some selection ∧ selection.accountId = id

theorem refreshed_iff {processes : List Process} {id : String} : Refreshed processes id ↔
    (processes.any fun process => process.refreshes?.any (·.accountId == id)) = true := by
  simp only [Refreshed, List.any_eq_true, Option.any_eq_true, beq_iff_eq]
  constructor
  · rintro ⟨pid, process, selection, hprocess, hselection, hid⟩
    exact ⟨process, List.mem_of_getElem? hprocess, selection, hselection, hid⟩
  · rintro ⟨process, hmem, selection, hselection, hid⟩
    obtain ⟨pid, hprocess⟩ := List.mem_iff_getElem?.mp hmem
    exact ⟨pid, process, selection, hprocess, hselection, hid⟩

instance (processes : List Process) (id : String) : Decidable (Refreshed processes id) :=
  decidable_of_iff _ refreshed_iff.symm

/-- The loads of the store are accounted for by the processes. -/
structure Accounted (store : AccountStore) (processes : List Process) : Prop where
  counted : ∀ id, (store.load id).1 ≤ occupants processes id
  watched : ∀ id, (store.load id).2 = true → Refreshed processes id

variable {store store' : AccountStore} {now : Time} {processes : List Process} {pid : ℕ}
  {old new : Process} {config : Config}

theorem occupants_set (h : processes[pid]? = some old) (new : Process) (id : String) :
    occupants (processes.set pid new) id + (if old.occupies? == some id then 1 else 0) =
      occupants processes id + if new.occupies? == some id then 1 else 0 :=
  countP_set_add _ h new

/-- A process that stays, or one that goes on refreshing the account. -/
theorem Refreshed.set {id : String} (h : Refreshed processes id)
    (hold : processes[pid]? = some old)
    (hnew : ∀ selection, old.refreshes? = some selection → selection.accountId = id →
      new.refreshes? = some selection) : Refreshed (processes.set pid new) id := by
  obtain ⟨pid', process, selection, hprocess, hrefreshes, hid⟩ := h
  by_cases hpid : pid' = pid
  · subst hpid
    obtain rfl := Option.some.inj (hold.symm.trans hprocess)
    exact ⟨pid', new, selection, getElem?_set_eq hold new, hnew selection hrefreshes hid, hid⟩
  · exact ⟨pid', process, selection, by rwa [getElem?_set_of_ne hpid], hrefreshes, hid⟩

namespace Accounted

/-- A step that changes no load and neither the occupation nor the refresh of its process. -/
theorem quiet (h : Accounted store processes) (hold : processes[pid]? = some old)
    (hload : ∀ id, store'.load id = store.load id) (hoccupies : new.occupies? = old.occupies?)
    (hrefreshes : new.refreshes? = old.refreshes?) :
    Accounted store' (processes.set pid new) := by
  refine ⟨fun id => ?_, fun id hmark => ?_⟩
  · have hcount := occupants_set hold new id
    rw [hoccupies] at hcount
    have hle := h.counted id
    rw [hload]
    omega
  · rw [hload] at hmark
    exact (h.watched id hmark).set hold fun selection hselection _ => hrefreshes.trans hselection

/-- A process takes an account whose mark was clear. -/
theorem select (h : Accounted store processes) (hold : processes[pid]? = some old)
    {selection : AccountSelection} (hfree : old.occupies? = none) (hidle : old.refreshes? = none)
    (hload : ∀ id, store'.load id = if selection.accountId = id then
      (saturatingSucc32 (store.load id).1, selection.needsRefresh) else store.load id)
    (hoccupies : new.occupies? = some selection.accountId)
    (hrefreshes : selection.needsRefresh = true → new.refreshes? = some selection) :
    Accounted store' (processes.set pid new) := by
  refine ⟨fun id => ?_, fun id hmark => ?_⟩
  · have hcount := occupants_set hold new id
    have hle := h.counted id
    rw [hload]
    by_cases hid : selection.accountId = id
    · have hsucc := saturatingSucc32_le (store.load id).1
      simp only [hfree, hoccupies, hid, if_true, beq_self_eq_true] at hcount ⊢
      simp at hcount
      omega
    · simp only [hfree, hoccupies, hid, if_false] at hcount ⊢
      simp [hid] at hcount
      omega
  · rw [hload] at hmark
    by_cases hid : selection.accountId = id
    · rw [if_pos hid] at hmark
      exact ⟨pid, new, selection, getElem?_set_eq hold new, hrefreshes hmark, hid⟩
    · rw [if_neg hid] at hmark
      exact (h.watched id hmark).set hold fun _ hselection => by simp [hidle] at hselection

/-- A process leaves the account: the count goes down with it, and the mark is cleared. -/
theorem settle (h : Accounted store processes) (hold : processes[pid]? = some old) {id : String}
    (hoccupied : old.occupies? = some id)
    (hload : ∀ id', store'.load id' =
      if id = id' then AccountStore.leave (store.load id') else store.load id')
    (hfree : new.occupies? = none) : Accounted store' (processes.set pid new) := by
  refine ⟨fun id' => ?_, fun id' hmark => ?_⟩
  · have hcount := occupants_set hold new id'
    have hle := h.counted id'
    rw [hload]
    by_cases hid : id = id'
    · simp only [hoccupied, hfree, hid, if_true, AccountStore.leave] at hcount ⊢
      simp at hcount
      omega
    · simp only [hoccupied, hfree, hid, if_false] at hcount ⊢
      simp [hid] at hcount
      omega
  · rw [hload] at hmark
    by_cases hid : id = id'
    · simp [hid, AccountStore.leave] at hmark
    · rw [if_neg hid] at hmark
      refine (h.watched id' hmark).set hold fun selection hselection hid' => ?_
      exact absurd ((Process.accountId_eq hselection hoccupied).symm.trans hid') hid

/-- A process ends its refresh and stays on the account. -/
theorem commit (h : Accounted store processes) (hold : processes[pid]? = some old) {id : String}
    (hoccupied : old.occupies? = some id)
    (hload : ∀ id', store'.load id' =
      if id = id' then AccountStore.clear (store.load id') else store.load id')
    (hoccupies : new.occupies? = old.occupies?) : Accounted store' (processes.set pid new) := by
  refine ⟨fun id' => ?_, fun id' hmark => ?_⟩
  · have hcount := occupants_set hold new id'
    rw [hoccupies] at hcount
    have hle := h.counted id'
    have hsame : (store'.load id').1 = (store.load id').1 := by
      rw [hload]
      split <;> rfl
    omega
  · rw [hload] at hmark
    by_cases hid : id = id'
    · simp [hid, AccountStore.clear] at hmark
    · rw [if_neg hid] at hmark
      refine (h.watched id' hmark).set hold fun selection hselection hid' => ?_
      exact absurd ((Process.accountId_eq hselection hoccupied).symm.trans hid') hid

/-- Another process joins. -/
theorem append (h : Accounted store processes) (new : Process) :
    Accounted store (processes ++ [new]) := by
  refine ⟨fun id => ?_, fun id hmark => ?_⟩
  · rw [occupants, List.countP_append]
    exact (h.counted id).trans (Nat.le_add_right _ _)
  · obtain ⟨pid, process, selection, hprocess, hselection⟩ := h.watched id hmark
    exact ⟨pid, process, selection, getElem?_append_of_some hprocess [new], hselection⟩

end Accounted

theorem load_applyOps_quiet {ops : List StoreOp}
    (hops : ∀ op ∈ ops, op.selects = false ∧ op.clears? = none) (id : String) :
    (Gateway.applyOps store now ops).load id = store.load id := by
  induction ops generalizing store with
  | nil => rfl
  | cons op ops ih =>
    obtain ⟨hselects, hclears⟩ := hops op List.mem_cons_self
    have hsettles : op.settles? ≠ some id := fun hsettles => by
      simp [op.clears?_of_settles? hsettles] at hclears
    refine (ih fun op hop => hops op (List.mem_cons_of_mem _ hop)).trans ?_
    rw [AccountStore.load_apply hselects, if_neg hsettles, hclears]
    simp

theorem load_applyOps_settles {id : String} {ops : List StoreOp} (h : Settles id ops)
    (id' : String) : (Gateway.applyOps store now ops).load id' =
      if id = id' then AccountStore.leave (store.load id') else store.load id' := by
  have hsettle {op : StoreOp} (hop : op.settles? = some id) (store : AccountStore) :
      (store.apply now op).load id' =
        if id = id' then AccountStore.leave (store.load id') else store.load id' := by
    have hclears := op.clears?_of_settles? hop
    rw [AccountStore.load_apply (op.selects_of_clears? hclears), hop, hclears]
    simp +contextual
  cases h with
  | one hop => exact hsettle hop store
  | invalidated hop =>
    refine (hsettle hop _).trans ?_
    rw [AccountStore.load_apply rfl]
    split
    next hid =>
      simp [StoreOp.settles?, StoreOp.clears?, hid, AccountStore.leave, AccountStore.clear]
    next hid => simp [StoreOp.settles?, StoreOp.clears?, hid]

/-- One move of a request. -/
theorem Accounted.request {run run' : FailoverRun} {pc pc' : RequestPc} {ops : List StoreOp}
    (view : View) (h : Accounted view.store processes)
    (hold : processes[pid]? = some (.request run pc)) (hmove : RequestMove view pc ops pc') :
    Accounted (Gateway.applyOps view.store view.now ops)
      (processes.set pid (.request run' pc')) := by
  have hunknown {id : String} (hnone : view.store.record? id = none) (g : ℕ × Bool → ℕ × Bool)
      (hg : g (0, false) = (0, false)) (id' : String) : view.store.load id' =
        if id = id' then g (view.store.load id') else view.store.load id' := by
    split
    next hid => subst hid; rw [AccountStore.load_of_unknown hnone, hg]
    next => rfl
  cases hmove with
  | quiet hops _ hoccupies hrefreshes =>
    exact h.quiet hold (load_applyOps_quiet hops) hoccupies hrefreshes
  | select hselect hoccupies hrefreshes =>
    refine h.select hold rfl rfl (fun id => ?_) (if_pos hoccupies)
      fun hneeds => if_pos (hrefreshes.trans hneeds)
    simp only [Gateway.applyOps, List.foldl_cons, List.foldl_nil, AccountStore.apply, hselect]
    exact (AccountStore.load_select hselect id).2
  | unselected hselect =>
    refine h.quiet hold (fun id => ?_) rfl rfl
    simp only [Gateway.applyOps, List.foldl_cons, List.foldl_nil]
    rw [AccountStore.load_apply rfl]
    simp only [AccountStore.apply, hselect]
    exact AccountStore.load_select_error hselect id
  | @commit selection refreshed stage hoccupies hrefreshes =>
    refine h.commit hold rfl (fun id => ?_) (if_pos hoccupies)
    simp only [Gateway.applyOps, List.foldl_cons, List.foldl_nil]
    rw [AccountStore.load_apply rfl]
    simp [StoreOp.settles?, StoreOp.clears?]
  | @uncommitted selection refreshed hnone =>
    exact h.commit hold rfl (hunknown hnone AccountStore.clear rfl) rfl
  | settle hoccupies hops hsettled =>
    exact h.settle hold hoccupies (load_applyOps_settles hops) hsettled
  | @unprepared selection failure pc' hnone hsettled =>
    exact h.settle hold rfl (hunknown hnone AccountStore.leave rfl) hsettled

theorem CallPlan.op_quiet (plan : CallPlan) :
    plan.op.selects = false ∧ plan.op.clears? = none := by
  cases plan <;> exact ⟨rfl, rfl⟩

/-- Account calls select and clear nothing. -/
theorem resumeCall_quiet {view : View} {call : AccountCall} {pc : AccountCallPc} {input : Input}
    {next : AccountCallResumption} (h : resumeCall config view call pc input = some next) :
    ∀ op ∈ next.ops, op.selects = false ∧ op.clears? = none := by
  unfold resumeCall at h
  split at h
  next =>
    simp only [Option.ite_none_right_eq_some, Option.some.injEq] at h
    obtain ⟨-, rfl⟩ := h
    unfold prepareCall
    split <;> (try split) <;> (try split) <;> simp
  next => obtain rfl := Option.some.inj h; simp
  next => obtain rfl := Option.some.inj h; simp
  next =>
    obtain rfl := Option.some.inj h
    split <;> simp
  next =>
    obtain ⟨result, -, rfl⟩ := Option.map_eq_some_iff.mp h
    split <;> simp
  next plan =>
    obtain rfl := Option.some.inj h
    simpa using plan.op_quiet
  next => cases h

namespace Gateway

abbrev Accounted (gateway : Gateway) : Prop :=
  Failover.Accounted gateway.store gateway.processes

/-- A future is dropped where it occupies no account or where its caller holds the selection. -/
def dropsFreely (gateway : Gateway) : Event → Prop
  | .drop pid => ∀ process, gateway.processes[pid]? = some process →
    process.occupies? = none ∨ process.holds = true
  | _ => True

instance (gateway : Gateway) (event : Event) : Decidable (dropsFreely gateway event) :=
  match event with
  | .drop pid => match h : gateway.processes[pid]? with
    | none => .isTrue (by simp [dropsFreely, h])
    | some process => decidable_of_iff (process.occupies? = none ∨ process.holds = true)
        (by simp [dropsFreely, h])
  | .spawnRequest .. | .spawnCall _ | .resume .. | .grant | .runTask _ | .runOrphan ..
  | .clock _ | .setPolicy _ | .background _ | .relist _ => .isTrue trivial

theorem background_quiet {op : StoreOp} (h : background op = true) :
    op.selects = false ∧ op.clears? = none := by
  cases op <;> first | exact ⟨rfl, rfl⟩ | cases h

/-- Such a drop moves neither the occupation nor the refresh of its process. -/
theorem Process.afterDrop_occupies? {old new : Process} (hdrop : old.afterDrop = some new)
    (hfree : old.occupies? = none ∨ old.holds = true) :
    new.occupies? = old.occupies? ∧ new.refreshes? = old.refreshes? := by
  cases old with
  | call call pc =>
    cases pc <;> first
      | (obtain rfl := Option.some.inj hdrop; exact ⟨rfl, rfl⟩)
      | cases hdrop
  | request run pc =>
    cases pc with
    | starting | selecting => obtain rfl := Option.some.inj hdrop; exact ⟨rfl, rfl⟩
    | finished | dropped => cases hdrop
    | selected selection stage =>
      cases stage with
      | answered | settling => cases hdrop
      | holding | trashing | noting | finalizing =>
        obtain rfl := Option.some.inj hdrop
        exact ⟨rfl, rfl⟩
      | _ => rcases hfree with hfree | hfree <;> cases hfree

theorem accounted_step {gateway gateway' : Gateway} {event : Event} (h : gateway.Accounted)
    (hguard : dropsFreely gateway event) (hstep : step config gateway event = some gateway') :
    gateway'.Accounted := by
  by_cases hsilent : silent event = true
  · obtain ⟨hstore, hprocesses⟩ := step_silent hsilent hstep
    rw [Accounted, hstore, hprocesses]
    exact h
  cases event with
  | spawnRequest | spawnCall =>
    obtain rfl := Option.some.inj hstep
    exact h.append _
  | resume pid input =>
    obtain ⟨process, hprocess, hresume⟩ := Option.bind_eq_some_iff.mp hstep
    cases process with
    | request run pc =>
      obtain ⟨next, hnext, rfl⟩ := Option.map_eq_some_iff.mp hresume
      exact Failover.Accounted.request (gateway.view pid) h hprocess (resumeRequest_move hnext)
    | call call pc =>
      obtain ⟨next, hnext, rfl⟩ := Option.map_eq_some_iff.mp hresume
      exact h.quiet hprocess (load_applyOps_quiet (resumeCall_quiet hnext)) rfl rfl
  | drop pid =>
    obtain ⟨new, hdrop, rfl⟩ := Option.map_eq_some_iff.mp hstep
    obtain ⟨old, hold, hafter⟩ := Option.bind_eq_some_iff.mp hdrop
    obtain ⟨hoccupies, hrefreshes⟩ := Process.afterDrop_occupies? hafter (hguard old hold)
    refine h.quiet hold (fun id => ?_) hoccupies hrefreshes
    rw [leaveDisk_store]
  | background op =>
    simp only [step, Option.ite_none_right_eq_some, Option.some.injEq] at hstep
    obtain ⟨hbackground, rfl⟩ := hstep
    have hload (id : String) : (gateway.store.apply gateway.now op).load id =
        gateway.store.load id :=
      @load_applyOps_quiet _ _ [op] (by simpa using background_quiet hbackground) id
    exact ⟨fun id => hload id ▸ h.counted id, fun id => hload id ▸ h.watched id⟩
  | _ => exact absurd rfl hsilent

theorem accounted_boot (dir : AccountsDir) (now : Time) (policy : RoutingPolicy) :
    (boot dir now policy).Accounted := by
  have hload (id : String) : (boot dir now policy).store.load id = (0, false) := by
    simp only [boot, App.AppPool.startup, App.AppPool.syncAccountsFromDisk]
    split
    next => rfl
    next plan hplan =>
      exact (AccountStore.load_retireAllUnseen _ plan id).trans
        (AccountStore.load_applyUpserts _ _ id)
  exact ⟨fun id => by simp [hload], fun id hmark => by simp [hload] at hmark⟩

/-- In such a run every counted request is alive, and a marked account is being refreshed. -/
theorem inFlight_le_occupants {dir : AccountsDir} {now : Time} {policy : RoutingPolicy}
    {gateway : Gateway} (hrun : Run (step config) dropsFreely (boot dir now policy) gateway)
    (id : String) :
    (gateway.store.load id).1 ≤ occupants gateway.processes id ∧
      ((gateway.store.load id).2 = true → Refreshed gateway.processes id) := by
  have haccounted : gateway.Accounted :=
    hrun.invariant (fun _ _ _ h hguard hstep => accounted_step h hguard hstep)
      (accounted_boot dir now policy)
  exact ⟨haccounted.counted id, haccounted.watched id⟩

/-- A caller that is answered and disconnects while it holds the response. -/
def answeredThenDropped : List Event :=
  [.spawnRequest .holdUntilCaller ∅, .resume 0 .scheduled, .resume 0 .scheduled,
    .resume 0 (.refreshReply (.json (.object [("access_token", .string "at_1")]))),
    .resume 0 .scheduled, .grant, .resume 0 .scheduled, .runTask .done, .resume 0 .scheduled,
    .resume 0 .scheduled, .resume 0 (.executeResult (.ok none)), .drop 0, .resume 0 .scheduled]

theorem inFlight_le_occupants_answeredThenDropped :
    let gateway := stateAfter (step exampleConfig) (boot exampleDir 0 .fillFirst)
      answeredThenDropped
    (gateway.store.load "a").1 ≤ occupants gateway.processes "a" ∧
      ((gateway.store.load "a").2 = true → Refreshed gateway.processes "a") :=
  inFlight_le_occupants (.of_isSome (by decide +kernel)) "a"

/-- A client that disconnects during the refresh leaves the account counted and marked: no
process occupies it, and no selection returns it. -/
theorem drop_leaves_account_marked :
    ∃ gateway, Run (step exampleConfig) anyEvent (boot exampleDir 0 .fillFirst) gateway ∧
      gateway.store.load "a" = (1, true) ∧ occupants gateway.processes "a" = 0 ∧
      ¬ Refreshed gateway.processes "a" ∧
      (gateway.store.selectAccount gateway.now .fillFirst 0 ∅).1.isOk = false := by
  refine ⟨stateAfter (step exampleConfig) (boot exampleDir 0 .fillFirst)
    [.spawnRequest .holdUntilCaller ∅, .resume 0 .scheduled, .resume 0 .scheduled, .drop 0],
    .of_isSome ?_, ?_, ?_, ?_, ?_⟩ <;> decide +kernel

end Gateway

end Codaze.Failover
