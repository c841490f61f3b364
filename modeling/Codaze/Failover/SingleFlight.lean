import Codaze.Accounts.Tokens
import Codaze.Failover.Occupancy

/-!
# One refresh of an account at a time

`refresh_in_flight` keeps an account out of the selections while a request refreshes it.
The mark is a boolean that every settlement clears, so it does so as long as no request
settles or commits an account that another request is refreshing.
-/
namespace Codaze.Failover
open Foundation Accounts

/-- The selection a process is refreshing, by number. -/
def refreshing? (processes : List Process) (pid : ℕ) : Option AccountSelection :=
  processes[pid]?.bind Process.refreshes?

theorem refreshing?_set {processes : List Process} {pid : ℕ} {old : Process}
    (hold : processes[pid]? = some old) (new : Process) (pid' : ℕ) :
    refreshing? (processes.set pid new) pid' =
      if pid' = pid then new.refreshes? else refreshing? processes pid' := by
  unfold refreshing?
  split
  next hpid => rw [hpid, getElem?_set_eq hold]; rfl
  next hpid => rw [getElem?_set_of_ne hpid]

/-- The account is marked and still has the token its selection was made with. -/
def Marked (store : AccountStore) (selection : AccountSelection) : Prop :=
  ∃ record, store.record? selection.accountId = some record ∧
    record.refreshInFlight = true ∧ record.refreshToken = selection.refreshToken

theorem Marked.load {store : AccountStore} {selection : AccountSelection}
    (h : Marked store selection) : (store.load selection.accountId).2 = true := by
  obtain ⟨record, hrecord, hmark, -⟩ := h
  rw [AccountStore.load_of_record? hrecord]
  exact hmark

/-- An account that keeps its mark keeps its token, unless a refresh is committed to it. -/
theorem marked_of_apply {store : AccountStore} {now : Time} {op : StoreOp}
    {selection : AccountSelection} {record : AccountRecord}
    (hrecord : store.record? selection.accountId = some record)
    (htoken : record.refreshToken = selection.refreshToken)
    (hcommits : op.commits? ≠ some selection.accountId)
    (hmark : ((store.apply now op).load selection.accountId).2 = true) :
    Marked (store.apply now op) selection := by
  obtain ⟨record', hrecord', hmark'⟩ := AccountStore.exists_record_of_refreshing hmark
  exact ⟨record', hrecord', hmark',
    (AccountStore.refreshToken_apply hrecord hrecord' hcommits).trans htoken⟩

/-- An operation that clears nothing of the account leaves it marked with its token. -/
theorem Marked.apply {store : AccountStore} {now : Time} {op : StoreOp}
    {selection : AccountSelection} (h : Marked store selection) (hselects : op.selects = false)
    (hclears : op.clears? ≠ some selection.accountId) :
    Marked (store.apply now op) selection := by
  have hsettles : op.settles? ≠ some selection.accountId :=
    fun hop => hclears (op.clears?_of_settles? hop)
  have hmark : ((store.apply now op).load selection.accountId).2 = true := by
    rw [AccountStore.load_apply hselects, if_neg hsettles, if_neg hclears]
    exact h.load
  obtain ⟨record, hrecord, -, htoken⟩ := h
  exact marked_of_apply hrecord htoken (fun hop => hclears (op.clears?_of_commits? hop)) hmark

section select

variable {store store' : AccountStore} {now : Time} {policy : RoutingPolicy} {skew : ℤ}
  {excluded : Finset String} {chosen selection : AccountSelection}

/-- A selection of another account, too, leaves it marked with its token. -/
theorem Marked.select
    (hselect : store.selectAccount now policy skew excluded = (.ok chosen, store'))
    (h : Marked store selection) :
    Marked (store.apply now (.select policy skew excluded)) selection := by
  obtain ⟨hquiet, hload⟩ := AccountStore.load_select hselect selection.accountId
  have hid : chosen.accountId ≠ selection.accountId := fun hid => by
    have hmark := h.load
    rw [← hid, hquiet] at hmark
    cases hmark
  rw [if_neg hid] at hload
  have hmark := h.load
  obtain ⟨record, hrecord, -, htoken⟩ := h
  refine marked_of_apply hrecord htoken (by simp [StoreOp.commits?]) ?_
  rw [AccountStore.apply, hselect, hload]
  exact hmark

theorem Marked.unselected {error : SelectionFailure}
    (hselect : store.selectAccount now policy skew excluded = (.error error, store'))
    (h : Marked store selection) :
    Marked (store.apply now (.select policy skew excluded)) selection := by
  have hmark := h.load
  obtain ⟨record, hrecord, -, htoken⟩ := h
  refine marked_of_apply hrecord htoken (by simp [StoreOp.commits?]) ?_
  rw [AccountStore.apply, hselect, AccountStore.load_select_error hselect]
  exact hmark

/-- The chosen account is marked if the selection needs a refresh. -/
theorem marked_of_select
    (hselect : store.selectAccount now policy skew excluded = (.ok chosen, store'))
    (hneeds : chosen.needsRefresh = true) :
    Marked (store.apply now (.select policy skew excluded)) chosen := by
  have hload := (AccountStore.load_select hselect chosen.accountId).2
  obtain ⟨record, hrecord, -, -, htoken, -⟩ := AccountStore.selectAccount_ok hselect
  refine marked_of_apply hrecord htoken.symm (by simp [StoreOp.commits?]) ?_
  rw [AccountStore.apply, hselect, hload, if_pos rfl]
  exact hneeds

end select

theorem Marked.applyOps {store : AccountStore} {now : Time} {ops : List StoreOp}
    {selection : AccountSelection} (h : Marked store selection)
    (hops : ∀ op ∈ ops, op.selects = false ∧ op.clears? ≠ some selection.accountId) :
    Marked (Gateway.applyOps store now ops) selection := by
  induction ops generalizing store with
  | nil => exact h
  | cons op ops ih =>
    obtain ⟨hselects, hclears⟩ := hops op List.mem_cons_self
    exact ih (h.apply hselects hclears) fun op hop => hops op (List.mem_cons_of_mem _ hop)

/-- The accounts being refreshed are marked, each for one process. -/
structure SingleFlight (store : AccountStore) (processes : List Process) : Prop where
  marked : ∀ pid selection, refreshing? processes pid = some selection → Marked store selection
  alone : ∀ pid pid' selection selection', refreshing? processes pid = some selection →
    refreshing? processes pid' = some selection' →
    selection.accountId = selection'.accountId → pid = pid'

namespace SingleFlight

variable {store store' : AccountStore} {now : Time} {processes : List Process} {pid : ℕ}
  {old new : Process}

/-- A step after which its process goes on with its refresh, or refreshes nothing. -/
theorem keep (h : SingleFlight store processes) (hold : processes[pid]? = some old)
    (hmarked : ∀ pid' selection, refreshing? (processes.set pid new) pid' = some selection →
      Marked store selection → Marked store' selection)
    (hrefreshes : new.refreshes? = none ∨ new.refreshes? = old.refreshes?) :
    SingleFlight store' (processes.set pid new) := by
  -- whoever refreshes after the step did so before it
  have hbefore {pid' : ℕ} {selection : AccountSelection}
      (h' : refreshing? (processes.set pid new) pid' = some selection) :
      refreshing? processes pid' = some selection := by
    rw [refreshing?_set hold] at h'
    split at h'
    next hpid =>
      rcases hrefreshes with hnone | hsame
      · simp [hnone] at h'
      · rw [hpid, refreshing?, hold, Option.bind_some, ← hsame, h']
    next => exact h'
  refine ⟨fun pid' selection h' => ?_, fun pid₁ pid₂ s₁ s₂ h₁ h₂ hid => ?_⟩
  · exact hmarked pid' selection h' (h.marked pid' selection (hbefore h'))
  · exact h.alone pid₁ pid₂ s₁ s₂ (hbefore h₁) (hbefore h₂) hid

/-- A selection that needs a refresh finds its account unmarked, so no process refreshes it. -/
theorem select (h : SingleFlight store processes) (hold : processes[pid]? = some old)
    {selection : AccountSelection} (hquiet : (store.load selection.accountId).2 = false)
    (hmarked : ∀ other, other.accountId ≠ selection.accountId → Marked store other →
      Marked store' other)
    (hnew : new.refreshes? = some selection) (hmark : Marked store' selection) :
    SingleFlight store' (processes.set pid new) := by
  have hother {pid' : ℕ} {other : AccountSelection} (hpid : pid' ≠ pid)
      (h' : refreshing? (processes.set pid new) pid' = some other) :
      refreshing? processes pid' = some other ∧ other.accountId ≠ selection.accountId := by
    rw [refreshing?_set hold, if_neg hpid] at h'
    refine ⟨h', fun hid => ?_⟩
    have hload := (h.marked pid' other h').load
    rw [hid, hquiet] at hload
    cases hload
  have hself {other : AccountSelection}
      (h' : refreshing? (processes.set pid new) pid = some other) : other = selection := by
    rw [refreshing?_set hold, if_pos rfl, hnew] at h'
    exact (Option.some.inj h').symm
  refine ⟨fun pid' other h' => ?_, fun pid₁ pid₂ s₁ s₂ h₁ h₂ hid => ?_⟩
  · by_cases hpid : pid' = pid
    · subst hpid
      rw [hself h']
      exact hmark
    · obtain ⟨hbefore, hne⟩ := hother hpid h'
      exact hmarked other hne (h.marked pid' other hbefore)
  · by_cases hpid₁ : pid₁ = pid
    · by_cases hpid₂ : pid₂ = pid
      · rw [hpid₁, hpid₂]
      · subst hpid₁
        exact absurd (hid.symm.trans (congrArg _ (hself h₁))) (hother hpid₂ h₂).2
    · by_cases hpid₂ : pid₂ = pid
      · subst hpid₂
        exact absurd (hid.trans (congrArg _ (hself h₂))) (hother hpid₁ h₁).2
      · exact h.alone pid₁ pid₂ s₁ s₂ (hother hpid₁ h₁).1 (hother hpid₂ h₂).1 hid

/-- One move of a request that clears no mark of another process. -/
theorem request {run run' : FailoverRun} {pc pc' : RequestPc} {ops : List StoreOp} (view : View)
    (h : SingleFlight view.store processes) (hold : processes[pid]? = some (.request run pc))
    (hmove : RequestMove view pc ops pc')
    (hown : ∀ op ∈ ops, ∀ id, op.clears? = some id → ∀ pid' selection, pid' ≠ pid →
      refreshing? processes pid' = some selection → selection.accountId ≠ id) :
    SingleFlight (Gateway.applyOps view.store view.now ops)
      (processes.set pid (.request run' pc')) := by
  have hleaves (hselects : ∀ op ∈ ops, op.selects = false) (hnone : pc'.refreshes? = none) :
      SingleFlight (Gateway.applyOps view.store view.now ops)
        (processes.set pid (.request run' pc')) := by
    refine h.keep hold (fun pid' selection h' hmarked => ?_) (.inl hnone)
    rw [refreshing?_set hold] at h'
    split at h'
    next => simp [Process.refreshes?, hnone] at h'
    next hpid =>
      refine hmarked.applyOps fun op hop => ⟨hselects op hop, fun hclears => ?_⟩
      exact hown op hop _ hclears pid' selection hpid h' rfl
  cases hmove with
  | quiet hops _ _ hrefreshes =>
    refine h.keep hold (fun pid' selection _ hmarked => hmarked.applyOps fun op hop => ?_)
      (.inr hrefreshes)
    exact ⟨(hops op hop).1, by simp [(hops op hop).2]⟩
  | @select policy skew excluded selection store stage hselect _ hrefreshes =>
    have hquiet := (AccountStore.load_select hselect selection.accountId).1
    cases hneeds : selection.needsRefresh with
    | true =>
      exact h.select hold hquiet (fun _ _ hmarked => hmarked.select hselect)
        (if_pos (hrefreshes.trans hneeds)) (marked_of_select hselect hneeds)
    | false =>
      refine h.keep hold (fun _ _ _ hmarked => hmarked.select hselect) (.inl ?_)
      simp [Process.refreshes?, RequestPc.refreshes?, hrefreshes, hneeds]
  | unselected hselect =>
    refine h.keep hold (fun pid' selection _ hmarked => ?_) (.inl rfl)
    have hsweep : StoreOp.sweep.clears? ≠ some selection.accountId := by simp [StoreOp.clears?]
    exact (hmarked.unselected hselect).apply rfl hsweep
  | commit hoccupies hrefreshes =>
    exact hleaves (by simp [StoreOp.selects]) (if_neg (by simp [hrefreshes]))
  | uncommitted => exact hleaves (by simp) rfl
  | settle hoccupies hops hsettled =>
    exact hleaves (fun op hop => op.selects_of_clears? (hops.clears? op hop))
      (RequestPc.refreshes?_of_occupies? hsettled)
  | unprepared _ hsettled => exact hleaves (by simp) (RequestPc.refreshes?_of_occupies? hsettled)

/-- An account call, which marks and clears nothing. -/
theorem call {ops : List StoreOp} {accountCall : AccountCall} {pc pc' : AccountCallPc}
    (h : SingleFlight store processes) (hold : processes[pid]? = some (.call accountCall pc))
    (hops : ∀ op ∈ ops, op.selects = false ∧ op.clears? = none) :
    SingleFlight (Gateway.applyOps store now ops)
      (processes.set pid (.call accountCall pc')) := by
  refine h.keep hold (fun _ _ _ hmarked => hmarked.applyOps fun op hop => ?_) (.inl rfl)
  exact ⟨(hops op hop).1, by simp [(hops op hop).2]⟩

/-- A new process refreshes nothing. -/
theorem append (h : SingleFlight store processes) (hnew : new.refreshes? = none) :
    SingleFlight store (processes ++ [new]) := by
  have hbefore {pid : ℕ} {selection : AccountSelection}
      (h' : refreshing? (processes ++ [new]) pid = some selection) :
      refreshing? processes pid = some selection := by
    rwa [refreshing?, bind_getElem?_append_singleton hnew] at h'
  exact ⟨fun pid s h' => h.marked pid s (hbefore h'),
    fun pid₁ pid₂ s₁ s₂ h₁ h₂ => h.alone pid₁ pid₂ s₁ s₂ (hbefore h₁) (hbefore h₂)⟩

end SingleFlight

/-- Another process is refreshing the account. -/
def OtherRefreshes (processes : List Process) (pid : ℕ) (id : String) : Prop :=
  ∃ pid' < processes.length, pid' ≠ pid ∧
    ((refreshing? processes pid').any fun selection => selection.accountId == id) = true

instance (processes : List Process) (pid : ℕ) (id : String) :
    Decidable (OtherRefreshes processes pid id) :=
  inferInstanceAs (Decidable (∃ pid' < processes.length, _ ∧ _))

theorem otherRefreshes_of {processes : List Process} {pid pid' : ℕ} {selection : AccountSelection}
    (hpid : pid' ≠ pid) (h : refreshing? processes pid' = some selection) :
    OtherRefreshes processes pid selection.accountId := by
  obtain ⟨process, hprocess, -⟩ := Option.bind_eq_some_iff.mp h
  exact ⟨pid', (List.getElem?_eq_some_iff.mp hprocess).1, hpid, by simp [h]⟩

/-- The selection whose reply a process waits for, by number. -/
def awaiting? (processes : List Process) (pid : ℕ) : Option AccountSelection :=
  processes[pid]?.bind Process.awaitsReply?

theorem refreshing?_of_awaiting? {processes : List Process} {pid : ℕ}
    {selection : AccountSelection} (h : awaiting? processes pid = some selection) :
    refreshing? processes pid = some selection := by
  obtain ⟨process, hprocess, hawaits⟩ := Option.bind_eq_some_iff.mp h
  rw [refreshing?, hprocess]
  exact Process.refreshes?_of_awaitsReply? hawaits

def Process.plan? : Process → Option CallPlan
  | call _ (.running plan) | call _ (.applying plan) => some plan
  | _ => none

/-- The plans of the account calls load one file for each token. -/
def PlansDistinct (processes : List Process) : Prop :=
  ∀ process ∈ processes, ∀ plan, process.plan? = some plan → AccountStore.LoadsDistinct plan.op

theorem tokensDistinct_applyOps {store : AccountStore} {now : Time} {ops : List StoreOp}
    (h : store.TokensDistinct) (hops : ∀ op ∈ ops, op.commits? = none ∧ op.upserts = []) :
    (Gateway.applyOps store now ops).TokensDistinct := by
  induction ops generalizing store with
  | nil => exact h
  | cons op ops ih =>
    obtain ⟨hcommits, hupserts⟩ := hops op List.mem_cons_self
    refine ih ?_ fun op hop => hops op (List.mem_cons_of_mem _ hop)
    refine h.load hcommits (by simp [AccountStore.LoadsDistinct, hupserts]) ?_
    cases op with
    | refreshSuccess => cases hcommits
    | _ => intro upsert hmem; simp [hupserts] at hmem

/-- An account call performs nothing or its plan. -/
theorem resumeCall_ops {config : Config} {view : View} {accountCall : AccountCall}
    {pc : AccountCallPc} {input : Input} {next : AccountCallResumption}
    (h : resumeCall config view accountCall pc input = some next) :
    next.ops = [] ∨ ∃ plan, (Process.call accountCall pc).plan? = some plan ∧
      next.ops = [plan.op] := by
  rcases resumeCall_applies h with hops | ⟨plan, rfl, hops⟩
  · exact .inl hops
  · exact .inr ⟨plan, rfl, hops⟩

/-- The plan of an account call is a new one, which loads distinct tokens, or the one it had. -/
theorem resumeCall_plan {config : Config} {view : View} {accountCall : AccountCall}
    {pc : AccountCallPc} {input : Input} {next : AccountCallResumption}
    (h : resumeCall config view accountCall pc input = some next) {plan : CallPlan}
    (hplan : (Process.call accountCall next.pc).plan? = some plan) :
    AccountStore.LoadsDistinct plan.op ∨ (Process.call accountCall pc).plan? = some plan := by
  unfold resumeCall at h
  split at h
  next =>
    simp only [Option.ite_none_right_eq_some, Option.some.injEq] at h
    obtain ⟨-, rfl⟩ := h
    refine .inl ?_
    cases accountCall with
    | importAccount refreshToken label email =>
      simp only [prepareCall] at hplan
      split at hplan
      next => cases hplan
      next importPlan _ =>
        split at hplan <;> cases hplan <;> exact AccountStore.loadsDistinct_import importPlan
    | removeAccount id =>
      simp only [prepareCall] at hplan
      split at hplan
      next => cases hplan
      next => cases hplan; simp [AccountStore.LoadsDistinct, CallPlan.op, StoreOp.upserts]
    | rescan => cases hplan
  next => obtain rfl := Option.some.inj h; cases hplan
  next => obtain rfl := Option.some.inj h; cases hplan
  next =>
    obtain rfl := Option.some.inj h
    split at hplan
    next => cases hplan
    next syncPlan hsync => cases hplan; exact .inl (AccountStore.loadsDistinct_of_plan hsync)
  next =>
    obtain ⟨result, -, rfl⟩ := Option.map_eq_some_iff.mp h
    split at hplan
    next => cases hplan; exact .inr rfl
    next => cases hplan
  next => obtain rfl := Option.some.inj h; cases hplan
  next => cases h

namespace Gateway

variable {config : Config} {gateway gateway' : Gateway} {event : Event}

/-- No resumption clears the mark of an account that another process is refreshing. -/
def clearsOwnMark (config : Config) (gateway : Gateway) : Event → Prop
  | .resume pid input => ∀ op ∈ performed config gateway pid input, ∀ id,
    op.clears? = some id → ¬ OtherRefreshes gateway.processes pid id
  | _ => True

/-- A token that a resumption gives to an account is held by no other account. -/
def assignsFresh (config : Config) (gateway : Gateway) : Event → Prop
  | .resume pid input => ∀ op ∈ performed config gateway pid input,
    AccountStore.AssignsFresh gateway.store op
  | _ => True

abbrev SingleFlight (gateway : Gateway) : Prop :=
  Failover.SingleFlight gateway.store gateway.processes

/-- A dropped process refreshes nothing and has no plan. -/
theorem afterDrop_idle {old new : Process} (hdrop : old.afterDrop = some new) :
    new.refreshes? = none ∧ new.plan? = none := by
  unfold Process.afterDrop at hdrop
  split at hdrop
  next => obtain rfl := Option.some.inj hdrop; exact ⟨rfl, rfl⟩
  next => obtain rfl := Option.some.inj hdrop; exact ⟨rfl, rfl⟩
  next =>
    split at hdrop
    next => cases hdrop
    next => cases hdrop
    next => obtain rfl := Option.some.inj hdrop; exact ⟨rfl, rfl⟩
    next => obtain rfl := Option.some.inj hdrop; exact ⟨rfl, rfl⟩
  next => cases hdrop
  next => cases hdrop
  next => obtain rfl := Option.some.inj hdrop; exact ⟨rfl, rfl⟩
  next => cases hdrop

theorem singleFlight_step (h : gateway.SingleFlight) (hguard : clearsOwnMark config gateway event)
    (hstep : step config gateway event = some gateway') : gateway'.SingleFlight := by
  by_cases hsilent : silent event = true
  · obtain ⟨hstore, hprocesses⟩ := step_silent hsilent hstep
    rw [SingleFlight, hstore, hprocesses]
    exact h
  cases event with
  | spawnRequest | spawnCall =>
    obtain rfl := Option.some.inj hstep
    exact h.append rfl
  | resume pid input =>
    obtain ⟨process, hprocess, hresume⟩ := Option.bind_eq_some_iff.mp hstep
    cases process with
    | request run pc =>
      obtain ⟨next, hnext, rfl⟩ := Option.map_eq_some_iff.mp hresume
      refine Failover.SingleFlight.request (gateway.view pid) h hprocess (resumeRequest_move hnext)
        fun op hop id hclears pid' selection hpid hrefreshing hid => ?_
      have hperformed : op ∈ performed config gateway pid input := by
        simpa [performed, hprocess, hnext] using hop
      exact hguard op hperformed id hclears (hid ▸ otherRefreshes_of hpid hrefreshing)
    | call accountCall pc =>
      obtain ⟨next, hnext, rfl⟩ := Option.map_eq_some_iff.mp hresume
      exact Failover.SingleFlight.call h hprocess (resumeCall_quiet hnext)
  | drop pid =>
    obtain ⟨new, hdrop, rfl⟩ := Option.map_eq_some_iff.mp hstep
    obtain ⟨old, hold, hafter⟩ := Option.bind_eq_some_iff.mp hdrop
    refine Failover.SingleFlight.keep h hold (fun _ _ _ hmarked => ?_)
      (.inl (afterDrop_idle hafter).1)
    rwa [leaveDisk_store]
  | background op =>
    simp only [step, Option.ite_none_right_eq_some, Option.some.injEq] at hstep
    obtain ⟨hbackground, rfl⟩ := hstep
    obtain ⟨hselects, hclears⟩ := background_quiet hbackground
    exact ⟨fun pid selection hrefreshing =>
      (h.marked pid selection hrefreshing).apply hselects (by simp [hclears]), h.alone⟩
  | _ => exact absurd rfl hsilent

/-- The tokens of the accounts are distinct, and so are those the account calls will load. -/
structure Distinct (gateway : Gateway) : Prop where
  tokens : gateway.store.TokensDistinct
  plans : PlansDistinct gateway.processes

theorem distinct_step (h : gateway.Distinct) (hguard : assignsFresh config gateway event)
    (hstep : step config gateway event = some gateway') : gateway'.Distinct := by
  have hset {process new : Process} {pid : ℕ} (hprocess : gateway.processes[pid]? = some process)
      (hplan : ∀ plan, new.plan? = some plan →
        AccountStore.LoadsDistinct plan.op ∨ process.plan? = some plan) :
      PlansDistinct (gateway.processes.set pid new) := by
    intro other hother plan hother'
    rcases List.mem_or_eq_of_mem_set hother with hmem | rfl
    · exact h.plans other hmem plan hother'
    · rcases hplan plan hother' with hdistinct | hold
      · exact hdistinct
      · exact h.plans process (List.mem_of_getElem? hprocess) plan hold
  by_cases hsilent : silent event = true
  · obtain ⟨hstore, hprocesses⟩ := step_silent hsilent hstep
    exact ⟨hstore ▸ h.tokens, hprocesses ▸ h.plans⟩
  cases event with
  | spawnRequest | spawnCall =>
    obtain rfl := Option.some.inj hstep
    refine ⟨h.tokens, fun process hmem plan hplan => ?_⟩
    rcases List.mem_append.mp hmem with hmem | hmem
    · exact h.plans process hmem plan hplan
    · simp only [List.mem_singleton] at hmem
      subst hmem
      cases hplan
  | resume pid input =>
    obtain ⟨process, hprocess, hresume⟩ := Option.bind_eq_some_iff.mp hstep
    cases process with
    | request run pc =>
      obtain ⟨next, hnext, rfl⟩ := Option.map_eq_some_iff.mp hresume
      refine ⟨?_, hset hprocess (fun _ hplan => by cases hplan)⟩
      rcases (resumeRequest_move hnext).ops_cases with ⟨id, refreshed, hops⟩ | hneutral
      · have hfresh := hguard (.refreshSuccess id refreshed)
          (by simp [performed, hprocess, hnext, hops])
        simp only [perform, hops, applyOps, List.foldl_cons, List.foldl_nil]
        exact h.tokens.commit hfresh
      · exact tokensDistinct_applyOps h.tokens hneutral
    | call accountCall pc =>
      obtain ⟨next, hnext, rfl⟩ := Option.map_eq_some_iff.mp hresume
      refine ⟨?_, hset hprocess fun plan hplan => resumeCall_plan hnext hplan⟩
      rcases resumeCall_ops hnext with hops | ⟨plan, hplan, hops⟩
      · simp only [perform, hops, applyOps, List.foldl_nil]
        exact h.tokens
      · have hfresh := hguard plan.op (by simp [performed, hprocess, hnext, hops])
        simp only [perform, hops, applyOps, List.foldl_cons, List.foldl_nil]
        exact h.tokens.apply (h.plans _ (List.mem_of_getElem? hprocess) plan hplan) hfresh
  | drop pid =>
    obtain ⟨new, hdrop, rfl⟩ := Option.map_eq_some_iff.mp hstep
    obtain ⟨old, hold, hafter⟩ := Option.bind_eq_some_iff.mp hdrop
    refine ⟨by simpa using h.tokens, hset hold fun plan hplan => ?_⟩
    simp [(afterDrop_idle hafter).2] at hplan
  | background op =>
    simp only [step, Option.ite_none_right_eq_some, Option.some.injEq] at hstep
    obtain ⟨hbackground, rfl⟩ := hstep
    refine ⟨@tokensDistinct_applyOps _ _ [op] h.tokens fun op' hop' => ?_, h.plans⟩
    obtain rfl := List.mem_singleton.mp hop'
    cases op' <;> first | exact ⟨rfl, rfl⟩ | cases hbackground
  | _ => exact absurd rfl hsilent

theorem distinct_boot (dir : AccountsDir) (now : Time) (policy : RoutingPolicy) :
    (boot dir now policy).Distinct := by
  refine ⟨?_, by simp [boot, PlansDistinct]⟩
  simp only [boot, App.AppPool.startup, App.AppPool.syncAccountsFromDisk]
  split
  next => exact fun _ _ _ _ h => by simp at h
  next plan hplan => exact AccountStore.tokensDistinct_startup hplan

theorem singleFlight_boot (dir : AccountsDir) (now : Time) (policy : RoutingPolicy) :
    (boot dir now policy).SingleFlight :=
  ⟨fun _ _ h => by simp [boot, refreshing?] at h, fun _ _ _ _ h => by simp [boot, refreshing?] at h⟩

/-- In a run in which no settlement clears the mark of another request's refresh, an account is
never refreshed twice at once; and if no two accounts ever come to hold one token, no token is
on its way to upstream twice. -/
theorem refresh_single_flight {dir : AccountsDir} {now : Time} {policy : RoutingPolicy}
    (hrun : Run (step config) (clearsOwnMark config) (boot dir now policy) gateway) :
    (∀ pid pid' selection selection', refreshing? gateway.processes pid = some selection →
      refreshing? gateway.processes pid' = some selection' →
      selection.accountId = selection'.accountId → pid = pid') ∧
    (Run (step config)
        (fun gateway event => clearsOwnMark config gateway event ∧
          assignsFresh config gateway event) (boot dir now policy) gateway →
      ∀ pid pid' selection selection', awaiting? gateway.processes pid = some selection →
        awaiting? gateway.processes pid' = some selection' →
        selection.refreshToken = selection'.refreshToken → pid = pid') := by
  have hflight : gateway.SingleFlight :=
    hrun.invariant (fun _ _ _ h hguard hstep => singleFlight_step h hguard hstep)
      (singleFlight_boot dir now policy)
  refine ⟨hflight.alone, fun hfresh pid pid' selection selection' h h' htoken => ?_⟩
  have hdistinct : gateway.Distinct :=
    hfresh.invariant (fun _ _ _ h hguard hstep => distinct_step h hguard.2 hstep)
      (distinct_boot dir now policy)
  have hrefreshing := refreshing?_of_awaiting? h
  have hrefreshing' := refreshing?_of_awaiting? h'
  obtain ⟨record, hrecord, -, hsame⟩ := hflight.marked pid selection hrefreshing
  obtain ⟨record', hrecord', -, hsame'⟩ := hflight.marked pid' selection' hrefreshing'
  refine hflight.alone pid pid' selection selection' hrefreshing hrefreshing' ?_
  exact hdistinct.tokens _ _ record record' hrecord hrecord'
    (hsame.trans (htoken.trans hsame'.symm))

instance (config : Config) (gateway : Gateway) (event : Event) :
    Decidable (clearsOwnMark config gateway event) :=
  match event with
  | .resume pid input => decidable_of_iff (∀ op ∈ performed config gateway pid input,
      (op.clears?.all fun id => !decide (OtherRefreshes gateway.processes pid id)) = true)
      (by simp [clearsOwnMark, Option.all_eq_true])
  | .spawnRequest .. | .spawnCall _ | .drop _ | .grant | .runTask _ | .runOrphan ..
  | .clock _ | .setPolicy _ | .background _ | .relist _ => .isTrue trivial

instance (config : Config) (gateway : Gateway) (event : Event) :
    Decidable (assignsFresh config gateway event) :=
  match event with
  | .resume pid input => inferInstanceAs (Decidable (∀ op ∈ performed config gateway pid input, _))
  | .spawnRequest .. | .spawnCall _ | .drop _ | .grant | .runTask _ | .runOrphan ..
  | .clock _ | .setPolicy _ | .background _ | .relist _ => .isTrue trivial

/-- A request is refreshing the only account when another one finds none to select. -/
def refreshThenPoolBlocked : List Event :=
  [.spawnRequest .jsonLoop ∅, .resume 0 .scheduled, .resume 0 .scheduled,
    .spawnRequest .jsonLoop ∅, .resume 1 .scheduled, .resume 1 .scheduled]

theorem refresh_single_flight_refreshThenPoolBlocked :
    let gateway := stateAfter (step exampleConfig) (boot exampleDir 0 .fillFirst)
      refreshThenPoolBlocked
    (∀ pid pid' selection selection', refreshing? gateway.processes pid = some selection →
      refreshing? gateway.processes pid' = some selection' →
      selection.accountId = selection'.accountId → pid = pid') ∧
    ∀ pid pid' selection selection', awaiting? gateway.processes pid = some selection →
      awaiting? gateway.processes pid' = some selection' →
      selection.refreshToken = selection'.refreshToken → pid = pid' := by
  intro gateway
  have hrun : Run (step exampleConfig) (clearsOwnMark exampleConfig)
      (boot exampleDir 0 .fillFirst) gateway := .of_isSome (by decide +kernel)
  have hflight := refresh_single_flight hrun
  exact ⟨hflight.1, hflight.2 (.of_isSome (by decide +kernel))⟩

/-- Request 0 holds the account with a token that expires, request 1 refreshes it, request 0
settles and clears the mark, and request 2 sends the same refresh token. -/
theorem settlement_clears_mark_of_refresh :
    ∃ gateway selection selection', Run (step exampleConfig) anyEvent
        (boot exampleDir 0 .fillFirst) gateway ∧
      awaiting? gateway.processes 1 = some selection ∧
      awaiting? gateway.processes 2 = some selection' ∧
      selection.accountId = selection'.accountId ∧
      selection.refreshToken = selection'.refreshToken := by
  let gateway := stateAfter (step exampleConfig) (boot exampleDir 0 .fillFirst)
    [.spawnRequest .holdUntilCaller ∅, .resume 0 .scheduled, .resume 0 .scheduled,
      .resume 0 (.refreshReply (.json (.object [("access_token", .string "at_1")]))),
      .resume 0 .scheduled, .grant, .resume 0 .scheduled, .runTask .done, .resume 0 .scheduled,
      .resume 0 .scheduled, .resume 0 (.executeResult (.ok none)), .clock (fromSecs 61),
      .spawnRequest .holdUntilCaller ∅, .resume 1 .scheduled, .resume 1 .scheduled,
      .resume 0 (.settle .success), .resume 0 .scheduled,
      .spawnRequest .holdUntilCaller ∅, .resume 2 .scheduled, .resume 2 .scheduled]
  refine ⟨gateway, (awaiting? gateway.processes 1).get ?_, (awaiting? gateway.processes 2).get ?_,
    .of_isSome ?_, (Option.some_get _).symm, (Option.some_get _).symm, ?_, ?_⟩ <;> decide +kernel

end Gateway

end Codaze.Failover
