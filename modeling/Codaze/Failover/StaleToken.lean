import Codaze.Accounts.AccessToken
import Codaze.Failover.Occupancy
import Codaze.Failover.Steps

/-!
# Rejected access tokens

A watch beside the gateway keeps the access token a request executes with, and whether a
refresh of its account was committed since the token was read. A rejection clears the token
the account has by then: the one that was rejected, unless there was such a refresh.
-/
namespace Codaze.Failover
open Foundation Accounts

/-- The access tokens the requests execute with. -/
structure TokenWatch where
  token : ℕ → Option String
  /-- A refresh of the account was committed since the token was read. -/
  renewed : ℕ → Bool

def TokenWatch.empty : TokenWatch where
  token := fun _ => none
  renewed := fun _ => false

/-- The access token a resumption reads for its request. -/
def readsToken? (gateway : Gateway) (pid : ℕ) : Option String :=
  match gateway.processes[pid]? with
  | some (.request _ (.selected selection .readingAccount)) =>
    match gateway.store.upstreamAccount selection.accountId with
    | .ok account => some account.accessToken
    | .error _ => none
  | _ => none

def TokenWatch.observe (config : Config) (gateway : Gateway) (watch : TokenWatch) :
    Event → TokenWatch
  | .resume pid input =>
    match readsToken? gateway pid, input with
    | some accessToken, .scheduled =>
      { token := fun pid' => if pid' = pid then some accessToken else watch.token pid'
        renewed := fun pid' => if pid' = pid then false else watch.renewed pid' }
    | _, _ =>
      { watch with renewed := fun pid' => watch.renewed pid' ||
          (gateway.performed config pid input).any fun op =>
            op.commits?.any fun id =>
              gateway.processes[pid']?.bind Process.occupies? == some id }
  | _ => watch

/-- The gateway with its watch. -/
def watchedStep (config : Config) (state : Gateway × TokenWatch) (event : Event) :
    Option (Gateway × TokenWatch) :=
  (Gateway.step config state.1 event).map fun gateway =>
    (gateway, state.2.observe config state.1 event)

/-- The request executes with an access token, or was refused with it. -/
def Process.executes? : Process → Option AccountSelection
  | .request _ (.selected selection (.executing _))
  | .request _ (.selected selection (.executeFailed _)) => some selection
  | _ => none

theorem Process.occupies?_of_executes? {process : Process} {selection : AccountSelection}
    (h : process.executes? = some selection) : process.occupies? = some selection.accountId := by
  unfold executes? at h
  split at h
  · obtain rfl := Option.some.inj h
    rfl
  · obtain rfl := Option.some.inj h
    rfl
  · cases h

/-- The watch holds the token a process executes with, and without a refresh since it was
read the account has that token or none. -/
structure ExecutesWith (store : AccountStore) (process : Process) (token : Option String)
    (renewed : Bool) : Prop where
  reads : ∀ run selection account,
    process = .request run (.selected selection (.executing account)) →
      token = some account.accessToken
  held : ∀ selection, process.executes? = some selection → ∃ accessToken,
    token = some accessToken ∧ (renewed = false → ∀ record,
      store.record? selection.accountId = some record →
        record.accessToken = none ∨ record.accessToken = some accessToken)

/-- A dropped process executes nothing. -/
theorem Process.executes?_afterDrop {old new : Process} (h : old.afterDrop = some new) :
    new.executes? = none := by
  cases old with
  | call accountCall pc =>
    cases pc <;> first
      | (obtain rfl := Option.some.inj h; rfl)
      | cases h
  | request run pc =>
    cases pc with
    | starting | selecting => obtain rfl := Option.some.inj h; rfl
    | finished | dropped => cases h
    | selected selection stage =>
      cases stage <;> first
        | (obtain rfl := Option.some.inj h; rfl)
        | cases h

variable {config : Config} {store : AccountStore} {now : Time} {process : Process}
  {token : Option String} {renewed : Bool}

theorem ExecutesWith.of_idle (h : process.executes? = none) :
    ExecutesWith store process token renewed := by
  refine ⟨fun run selection account hprocess => ?_, fun selection hexecutes => ?_⟩
  · rw [hprocess] at h
    cases h
  · rw [h] at hexecutes
    cases hexecutes

/-- Operations that commit no refresh of the account, or are seen by the watch. -/
theorem ExecutesWith.applyOps {renewed' : Bool} (h : ExecutesWith store process token renewed)
    (ops : List StoreOp)
    (hrenewed : renewed' = false → renewed = false ∧
      ∀ op ∈ ops, ∀ id, op.commits? = some id → process.occupies? ≠ some id) :
    ExecutesWith (Gateway.applyOps store now ops) process token renewed' := by
  refine ⟨h.reads, fun selection hexecutes => ?_⟩
  obtain ⟨accessToken, htoken, hheld⟩ := h.held selection hexecutes
  refine ⟨accessToken, htoken, fun hfalse record hrecord => ?_⟩
  obtain ⟨hbefore, hcommits⟩ := hrenewed hfalse
  have hops : ∀ op ∈ ops, op.commits? ≠ some selection.accountId := by
    intro op hop hcommit
    exact hcommits op hop _ hcommit (Process.occupies?_of_executes? hexecutes)
  rcases AccountStore.accessToken_applyOps hrecord hops with hnone | ⟨old, hold, hkept⟩
  · exact .inl hnone
  · rw [hkept]
    exact hheld hbefore old hold

/-- The account whose rejection a request is about to handle. -/
def Process.rejected? : Process → Option String
  | .request _ (.selected selection (.executeFailed error)) =>
    if error.failure = .accessTokenRejected then some selection.accountId else none
  | _ => none

theorem Process.of_rejected? {process : Process} {id : String} (h : process.rejected? = some id) :
    ∃ run selection error, process = .request run (.selected selection (.executeFailed error)) ∧
      error.failure = .accessTokenRejected ∧ selection.accountId = id := by
  unfold rejected? at h
  split at h
  next run selection error =>
    obtain ⟨hrejected, hid⟩ := Option.ite_none_right_eq_some.mp h
    exact ⟨run, selection, error, rfl, hrejected, Option.some.inj hid⟩
  next => cases h

namespace Gateway

/-- The watch tells the truth about every process. -/
def Watched (state : Gateway × TokenWatch) : Prop :=
  ∀ (pid : ℕ) (process : Process), state.1.processes[pid]? = some process →
    ExecutesWith state.1.store process (state.2.token pid) (state.2.renewed pid)

variable {gateway : Gateway} {watch : TokenWatch} {pid : ℕ}

/-- What a resumption that reads no token leaves in the watch. -/
theorem observe_of_not_reads {input : Input} (h : readsToken? gateway pid = none) :
    watch.observe config gateway (.resume pid input) =
      { watch with renewed := fun pid' => watch.renewed pid' ||
          (gateway.performed config pid input).any fun op =>
            op.commits?.any fun id =>
              gateway.processes[pid']?.bind Process.occupies? == some id } := by
  simp [TokenWatch.observe, h]

theorem observe_of_reads {accessToken : String} (h : readsToken? gateway pid = some accessToken) :
    watch.observe config gateway (.resume pid .scheduled) =
      { token := fun pid' => if pid' = pid then some accessToken else watch.token pid'
        renewed := fun pid' => if pid' = pid then false else watch.renewed pid' } := by
  simp [TokenWatch.observe, h]

/-- The watch after a resumption that reads no token, of a process as it was before. -/
theorem Watched.quiet {pid' : ℕ} (h : Watched (gateway, watch)) (config : Config) (input : Input)
    (hprocess : gateway.processes[pid']? = some process)
    (hreads : readsToken? gateway pid = none) :
    let watch' := watch.observe config gateway (.resume pid input)
    ExecutesWith (applyOps gateway.store gateway.now (gateway.performed config pid input)) process
      (watch'.token pid') (watch'.renewed pid') := by
  intro watch'
  have hwatch : watch' = _ := observe_of_not_reads hreads
  rw [hwatch]
  refine (h pid' process hprocess).applyOps _ fun hrenewed => ?_
  simp only [Bool.or_eq_false_iff, List.any_eq_false] at hrenewed
  refine ⟨hrenewed.1, fun op hop id hcommit hoccupies => ?_⟩
  have hnot := hrenewed.2 op hop
  rw [hcommit, hprocess] at hnot
  simp [hoccupies] at hnot

/-- The resumption that reads a token starts to execute with it. -/
theorem resume_of_reads {gateway' : Gateway} {input : Input} {accessToken : String}
    (hreads : readsToken? gateway pid = some accessToken)
    (hstep : step config gateway (.resume pid input) = some gateway') :
    ∃ run selection account, input = .scheduled ∧
      gateway.store.upstreamAccount selection.accountId = .ok account ∧
      account.accessToken = accessToken ∧
      gateway' = gateway.perform pid
        (.request run (.selected selection (.executing account))) [] .keep := by
  unfold readsToken? at hreads
  split at hreads
  next run selection hprocess =>
    split at hreads
    next account haccount =>
      simp only [step, hprocess, Option.bind_some, resumeProcess] at hstep
      obtain ⟨next, hnext, rfl⟩ := Option.map_eq_some_iff.mp hstep
      cases resumeRequest_step hnext with
      | @read _ account' haccount' =>
        have hsame : account = account' := Except.ok.inj (haccount.symm.trans haccount')
        subst hsame
        exact ⟨run, selection, account, rfl, haccount, Option.some.inj hreads, rfl⟩
      | readNoToken herror | readNoRecord herror =>
        have himpossible := haccount.symm.trans herror
        cases himpossible
    next => cases hreads
  next => cases hreads

/-- A resumption that reads no token leaves a request that executes with none, or one that
was refused with the token it executed with. -/
theorem executes?_of_not_reads {run : FailoverRun} {pc : RequestPc} {input : Input}
    {next : Resumption} (hprocess : gateway.processes[pid]? = some (.request run pc))
    (hreads : readsToken? gateway pid = none)
    (hnext : resumeRequest config (gateway.view pid) run pc input = some next) :
    (Process.request next.run next.pc).executes? = none ∨
      ∃ selection account error, pc = .selected selection (.executing account) ∧
        next.pc = .selected selection (.executeFailed error) ∧ next.ops = [] := by
  have hunselected {pc' : RequestPc} (hpc : pc'.unselected = true) (run' : FailoverRun) :
      (Process.request run' pc').executes? = none := by
    cases pc' with
    | selected => cases hpc
    | _ => rfl
  cases resumeRequest_step hnext with
  | executeError error => exact .inr ⟨_, _, error, rfl, rfl, rfl⟩
  | read haccount =>
    have haccount : gateway.store.upstreamAccount _ = _ := haccount
    simp [readsToken?, hprocess, haccount] at hreads
  | refreshFailed hpc => exact .inl (hunselected hpc _)
  | rejectAgain _ _ hpc => exact .inl (hunselected hpc _)
  | fail _ hpc => exact .inl (hunselected hpc _)
  | undecode hpc => exact .inl (hunselected hpc _)
  | execute decodeError =>
    refine .inl ?_
    show (Process.request run (.selected _ (afterExecute run decodeError))).executes? = none
    unfold afterExecute
    split <;> rfl
  | @select selection _ _ =>
    refine .inl ?_
    dsimp only
    split <;> rfl
  | _ => exact .inl rfl

theorem watched_resume {gateway' : Gateway} {input : Input} (h : Watched (gateway, watch))
    (hstep : step config gateway (.resume pid input) = some gateway') :
    Watched (gateway', watch.observe config gateway (.resume pid input)) := by
  cases hreads : readsToken? gateway pid with
  | some accessToken =>
    obtain ⟨run, selection, account, rfl, haccount, htoken, rfl⟩ := resume_of_reads hreads hstep
    rw [observe_of_reads hreads]
    intro pid' process hprocess
    rcases of_getElem?_set hprocess with ⟨rfl, rfl⟩ | ⟨hne, hold⟩
    · simp only [if_true]
      refine ⟨fun run' selection' account' hprocess' => ?_, fun selection' hexecutes => ?_⟩
      · cases hprocess'
        rw [htoken]
      · obtain rfl : selection = selection' := Option.some.inj hexecutes
        refine ⟨accessToken, rfl, fun _ record hrecord => .inr ?_⟩
        have hrecord : gateway.store.record? selection.accountId = some record := hrecord
        rw [← htoken]
        exact AccountStore.accessToken_of_upstreamAccount haccount hrecord
    · simp only [if_neg hne]
      exact h pid' process hold
  | none =>
    obtain ⟨old, hold, hresume⟩ := Option.bind_eq_some_iff.mp hstep
    cases old with
    | request run pc =>
      obtain ⟨next, hnext, rfl⟩ := Option.map_eq_some_iff.mp hresume
      have hops : gateway.performed config pid input = next.ops := by simp [performed, hold, hnext]
      intro pid' process hprocess
      rcases of_getElem?_set hprocess with ⟨rfl, rfl⟩ | ⟨hne, hbefore⟩
      · rcases executes?_of_not_reads hold hreads hnext with
          hidle | ⟨selection, account, error, rfl, hpc, hnone⟩
        · exact .of_idle hidle
        · have hquiet := h.quiet config input hold hreads
          rw [hops] at hquiet
          refine ⟨fun run' selection' account' hprocess' => ?_, fun selection' hexecutes => ?_⟩
          · rw [hpc] at hprocess'
            cases hprocess'
          · rw [hpc] at hexecutes
            exact hquiet.held selection' hexecutes
      · have hquiet := h.quiet config input hbefore hreads
        rw [hops] at hquiet
        exact hquiet
    | call accountCall pc =>
      obtain ⟨next, hnext, rfl⟩ := Option.map_eq_some_iff.mp hresume
      have hops : gateway.performed config pid input = next.ops := by simp [performed, hold, hnext]
      intro pid' process hprocess
      rcases of_getElem?_set hprocess with ⟨rfl, rfl⟩ | ⟨hne, hbefore⟩
      · exact .of_idle rfl
      · have hquiet := h.quiet config input hbefore hreads
        rw [hops] at hquiet
        exact hquiet

theorem watched_step {state state' : Gateway × TokenWatch} {event : Event} (h : Watched state)
    (hstep : watchedStep config state event = some state') : Watched state' := by
  obtain ⟨gateway, watch⟩ := state
  obtain ⟨gateway', hgateway, rfl⟩ := Option.map_eq_some_iff.mp hstep
  by_cases hsilent : silent event = true
  · obtain ⟨hstore, hprocesses⟩ := step_silent hsilent hgateway
    have hwatch : watch.observe config gateway event = watch := by
      cases event <;> first | rfl | cases hsilent
    intro pid process hprocess
    rw [hwatch, hstore]
    exact h pid process (hprocesses ▸ hprocess)
  cases event with
  | resume pid input => exact watched_resume h hgateway
  | spawnRequest | spawnCall =>
    obtain rfl := Option.some.inj hgateway
    intro pid process hprocess
    rcases of_getElem?_append_singleton hprocess with hold | ⟨-, rfl⟩
    · exact h pid process hold
    · exact .of_idle rfl
  | drop pid =>
    obtain ⟨new, hdrop, rfl⟩ := Option.map_eq_some_iff.mp hgateway
    obtain ⟨old, hold, hafter⟩ := Option.bind_eq_some_iff.mp hdrop
    intro pid' process hprocess
    rcases of_getElem?_set hprocess with ⟨rfl, rfl⟩ | ⟨hne, hbefore⟩
    · exact .of_idle (Process.executes?_afterDrop hafter)
    · have hbefore := h pid' process hbefore
      rw [← leaveDisk_store gateway pid] at hbefore
      exact hbefore
  | background op =>
    simp only [step, Option.ite_none_right_eq_some, Option.some.injEq] at hgateway
    obtain ⟨hbackground, rfl⟩ := hgateway
    intro pid process hprocess
    refine (h pid process hprocess).applyOps [op] fun hrenewed => ⟨hrenewed, ?_⟩
    intro op' hop' id hcommit
    obtain rfl := List.mem_singleton.mp hop'
    have hclears := (background_quiet hbackground).2
    rw [StoreOp.clears?_of_commits? hcommit] at hclears
    cases hclears
  | _ => exact absurd rfl hsilent

/-- What handling a rejection leaves of the account. -/
theorem clears_of_rejected {run : FailoverRun} {selection : AccountSelection}
    {error : TransportError}
    (hprocess : gateway.processes[pid]? =
      some (.request run (.selected selection (.executeFailed error))))
    (hrejected : error.failure = .accessTokenRejected) :
    ∃ gateway', step config gateway (.resume pid .scheduled) = some gateway' ∧
      ∀ record, gateway'.store.record? selection.accountId = some record →
        record.accessToken = none ∧ (selection.accountId ∈ run.forcedRefreshAttempted →
          record.routingState = .temporarilyUnavailable) := by
  have hnext : resumeRequest config (gateway.view pid) run
      (.selected selection (.executeFailed error)) .scheduled =
        some (resumeExecuteFailed (gateway.view pid) run selection error) := rfl
  generalize resumeExecuteFailed (gateway.view pid) run selection error = next at hnext
  refine ⟨gateway.perform pid (.request next.run next.pc) next.ops next.disk, ?_, ?_⟩
  · simp [step, hprocess, resumeProcess, hnext]
  · intro record hrecord
    cases resumeRequest_step hnext with
    | fail hother => exact absurd hrejected hother
    | reject _ hfirst =>
      refine ⟨?_, fun hagain => absurd hagain hfirst⟩
      -- The release keeps the token the invalidation left.
      have hrecord : ((gateway.store.apply gateway.now (.invalidate selection.accountId)).apply
          gateway.now (.release selection.accountId)).record? selection.accountId = some record :=
        hrecord
      rcases AccountStore.accessToken_apply hrecord (by simp [StoreOp.commits?]) with
        hnone | ⟨middle, hmiddle, hkept⟩
      · exact hnone
      · rw [hkept]
        exact AccountStore.accessToken_invalidate hmiddle
    | rejectAgain _ hagain =>
      rw [hrejected] at hrecord
      obtain ⟨hnone, hstate⟩ := AccountStore.rejected_of_fail hrecord
      exact ⟨hnone, fun _ => hstate⟩

/-- In every run, whatever is dropped: a request executes with the token the watch holds. When
that token is rejected, the account has it or none, unless a refresh was committed since it was
read. Handling the rejection clears the token the account has, and the second rejection makes
the account unavailable. -/
theorem rejection_clears_current_token {dir : AccountsDir} {start : Time} {policy : RoutingPolicy}
    {state : Gateway × TokenWatch}
    (hrun : Run (watchedStep config) anyEvent (boot dir start policy, .empty) state) :
    (∀ pid run selection account,
      state.1.processes[pid]? = some (.request run (.selected selection (.executing account))) →
        state.2.token pid = some account.accessToken) ∧
    ∀ pid run selection error,
      state.1.processes[pid]? = some (.request run (.selected selection (.executeFailed error))) →
      error.failure = .accessTokenRejected →
        (∃ accessToken, state.2.token pid = some accessToken ∧
          (state.2.renewed pid = false → ∀ record,
            state.1.store.record? selection.accountId = some record →
              record.accessToken = none ∨ record.accessToken = some accessToken)) ∧
        ∃ gateway, step config state.1 (.resume pid .scheduled) = some gateway ∧
          ∀ record, gateway.store.record? selection.accountId = some record →
            record.accessToken = none ∧ (selection.accountId ∈ run.forcedRefreshAttempted →
              record.routingState = .temporarilyUnavailable) := by
  have hwatched : Watched state :=
    hrun.invariant (fun _ _ _ h _ hstep => watched_step h hstep)
      (by intro pid process hprocess; cases hprocess)
  refine ⟨fun pid run selection account hprocess => ?_,
    fun pid run selection error hprocess hrejected => ⟨?_, ?_⟩⟩
  · exact (hwatched pid _ hprocess).reads run selection account rfl
  · exact (hwatched pid _ hprocess).held selection rfl
  · exact clears_of_rejected hprocess hrejected

/-- Two requests execute with the same token. One is rejected and refreshes the account before
the other is rejected. -/
def rejectedTwice : List Event :=
  let reply := fun accessToken =>
    Input.refreshReply (.json (.object [("access_token", accessToken)]))
  let rejected := Input.executeResult (.error ⟨.accessTokenRejected, none, "expired"⟩)
  [.spawnRequest .holdUntilCaller ∅, .resume 0 .scheduled, .resume 0 .scheduled,
    .resume 0 (reply (.string "at_1")), .resume 0 .scheduled, .grant, .resume 0 .scheduled,
    .runTask .done, .resume 0 .scheduled, .resume 0 .scheduled,
    .spawnRequest .holdUntilCaller ∅, .resume 1 .scheduled, .resume 1 .scheduled,
    .resume 1 .scheduled, .resume 1 rejected, .resume 1 .scheduled, .resume 1 .scheduled,
    .resume 1 (reply (.string "at_2")), .resume 1 .scheduled, .grant, .resume 1 .scheduled,
    .runTask .done, .resume 1 .scheduled, .resume 1 .scheduled, .resume 0 rejected]

theorem rejection_clears_current_token_rejectedTwice :
    let state := stateAfter (watchedStep exampleConfig) (boot exampleDir 0 .fillFirst, .empty)
      rejectedTwice
    ∃ gateway, step exampleConfig state.1 (.resume 0 .scheduled) = some gateway ∧
      ∀ record, gateway.store.record? "a" = some record → record.accessToken = none := by
  intro state
  have hrun : Run (watchedStep exampleConfig) anyEvent (boot exampleDir 0 .fillFirst, .empty)
      state := .of_isSome (by decide +kernel)
  have hrejected : state.1.processes[0]?.bind Process.rejected? = some "a" := by decide +kernel
  obtain ⟨process, hprocess, hrejected⟩ := Option.bind_eq_some_iff.mp hrejected
  obtain ⟨run, selection, error, rfl, hrejected, hid⟩ := Process.of_rejected? hrejected
  obtain ⟨gateway, hstep, hcleared⟩ :=
    ((rejection_clears_current_token hrun).2 0 run selection error hprocess hrejected).2
  exact ⟨gateway, hstep, fun record hrecord => (hcleared record (hid ▸ hrecord)).1⟩

/-- The second rejection is of the old token, and clears the new one. -/
theorem stale_rejection_clears_newer_token :
    ∃ state : Gateway × TokenWatch, Run (watchedStep exampleConfig) anyEvent
        (boot exampleDir 0 .fillFirst, .empty) state ∧
      state.1.processes[0]?.bind Process.rejected? = some "a" ∧
      state.2.token 0 = some "at_1" ∧
      (state.1.store.record? "a").bind (·.accessToken) = some "at_2" ∧
      ((step exampleConfig state.1 (.resume 0 .scheduled)).bind (·.store.record? "a")).map
        (·.accessToken) = some none := by
  refine ⟨stateAfter (watchedStep exampleConfig) _ rejectedTwice, .of_isSome ?_, ?_, ?_, ?_, ?_⟩
    <;> decide +kernel

end Gateway

end Codaze.Failover
