import Codaze.Accounts.Attached
import Codaze.Failover.DiskLock
import Codaze.Failover.SingleFlight

/-!
# The refresh tokens of attached accounts, with a directory that others edit

Account files are created, replaced and deleted from outside while the gateway runs. No two
attached accounts come to hold one refresh token, as long as no detached account is attached
again with a token that another one has by then.
-/
namespace Codaze.Failover
open Foundation Accounts

/-- An event of the gateway, or a file written or deleted by somebody else. -/
inductive OpenEvent where
  | gateway (event : Event)
  | edit (path : AccountPath) (content : Option FileContent)

def Gateway.edit (gateway : Gateway) (path : AccountPath) (content : Option FileContent) :
    Gateway :=
  { gateway with dir := { gateway.dir with files := match content with
    | some content => gateway.dir.files.insert path content
    | none => gateway.dir.files.erase path } }

/-- The gateway in a directory that others edit. -/
def openStep (config : Config) (gateway : Gateway) : OpenEvent → Option Gateway
  | .gateway event => gateway.step config event
  | .edit path content => some (gateway.edit path content)

variable {store : AccountStore} {now : Time} {config : Config}

/-- An operation that commits no refresh and loads no file attaches nothing. -/
theorem attached_applyOps {ops : List StoreOp}
    (hops : ∀ op ∈ ops, op.commits? = none ∧ op.upserts = []) {id : String} {r : AccountRecord}
    (h : (Gateway.applyOps store now ops).record? id = some r) (hattached : r.detached = false) :
    ∃ old, store.record? id = some old ∧ old.detached = false ∧
      r.refreshToken = old.refreshToken := by
  induction ops generalizing store with
  | nil => exact ⟨r, h, hattached, rfl⟩
  | cons op ops ih =>
    obtain ⟨hcommits, hupserts⟩ := hops op List.mem_cons_self
    obtain ⟨middle, hmiddle, hdetached, htoken⟩ :=
      ih (fun op' hop' => hops op' (List.mem_cons_of_mem _ hop')) h
    rcases AccountStore.attached_origin hmiddle hdetached (by simp [hcommits]) with
      ⟨old, hold, hattached', hsame⟩ | ⟨upsert, hmem, -⟩
    · exact ⟨old, hold, hattached', htoken.trans hsame⟩
    · simp [hupserts] at hmem

theorem attachedDistinct_applyOps {ops : List StoreOp} (h : store.AttachedDistinct)
    (hops : ∀ op ∈ ops, op.commits? = none ∧ op.upserts = []) :
    (Gateway.applyOps store now ops).AttachedDistinct := by
  intro id id' r r' hr hr' hattached hattached' htoken
  obtain ⟨old, hold, hdetached, hsame⟩ := attached_applyOps hops hr hattached
  obtain ⟨old', hold', hdetached', hsame'⟩ := attached_applyOps hops hr' hattached'
  exact h id id' old old' hold hold' hdetached hdetached' (hsame.symm.trans (htoken.trans hsame'))

/-- A refresh is committed under the disk lock. -/
theorem holdsDiskLock_of_commits {view : View} {run : FailoverRun} {pc : RequestPc} {input : Input}
    {next : Resumption} (h : resumeRequest config view run pc input = some next) {id : String}
    {refreshed : RefreshedAccount} (hops : next.ops = [.refreshSuccess id refreshed]) :
    view.holdsDiskLock = true := by
  cases resumeRequest_step h with
  | commit hlock | commitDetached hlock => exact hlock
  | @settle _ settlement => cases settlement <;> cases hops
  | _ => cases hops

/-- A call that has a plan holds the disk lock. -/
theorem Process.insideDisk_of_plan? {process : Process} {plan : CallPlan}
    (h : process.plan? = some plan) : process.insideDisk = true := by
  cases process with
  | request => cases h
  | call accountCall pc => cases pc <;> first | rfl | cases h

namespace Gateway

variable {gateway gateway' : Gateway} {pid : ℕ}

/-- The attached tokens are distinct, and the plans of the account calls keep them so. -/
structure TokensApart (gateway : Gateway) : Prop where
  tokens : gateway.store.AttachedDistinct
  locked : gateway.LockHeld
  plans : ∀ (pid : ℕ) (process : Process) (plan : CallPlan),
    gateway.processes[pid]? = some process →
    process.plan? = some plan → gateway.store.LoadsApart plan.op

/-- What a rotation yields and what a loaded file attaches is held by no other attached account. -/
def attachesApart (config : Config) (gateway : Gateway) : OpenEvent → Prop
  | .gateway (.resume pid input) => ∀ op ∈ performed config gateway pid input,
    gateway.store.RotatesApart op ∧ gateway.store.ResurrectsApart op
  | _ => True

instance (config : Config) (gateway : Gateway) (event : OpenEvent) :
    Decidable (attachesApart config gateway event) :=
  match event with
  | .gateway (.resume pid input) =>
    inferInstanceAs (Decidable (∀ op ∈ performed config gateway pid input, _))
  | .gateway (.spawnRequest ..) | .gateway (.spawnCall _) | .gateway (.drop _) | .gateway .grant
  | .gateway (.runTask _) | .gateway (.runOrphan ..) | .gateway (.clock _)
  | .gateway (.setPolicy _) | .gateway (.background _) | .gateway (.relist _)
  | .edit .. => .isTrue trivial

/-- The only process with a plan is the one that holds the disk lock. -/
theorem TokensApart.pid_eq_of_plan (h : gateway.TokensApart)
    (hlock : gateway.diskOwner? = some pid) {pid' : ℕ} {process : Process} {plan : CallPlan}
    (hprocess : gateway.processes[pid']? = some process) (hplan : process.plan? = some plan) :
    pid' = pid := by
  have howner := h.locked pid' process hprocess (Process.insideDisk_of_plan? hplan)
  exact Option.some.inj (howner.symm.trans hlock)

/-- A resumption that attaches nothing. -/
theorem TokensApart.quiet (h : gateway.TokensApart) {old new : Process} {ops : List StoreOp}
    {disk : DiskAction} (hold : gateway.processes[pid]? = some old)
    (hops : ∀ op ∈ ops, op.commits? = none ∧ op.upserts = [])
    (hplan : ∀ plan, new.plan? = some plan →
      gateway.store.LoadsApart plan.op ∨ old.plan? = some plan)
    (hlocked : (gateway.perform pid new ops disk).LockHeld) :
    (gateway.perform pid new ops disk).TokensApart where
  tokens := attachedDistinct_applyOps h.tokens hops
  locked := hlocked
  plans pid' process plan hprocess hprocessPlan := by
    have hloads : gateway.store.LoadsApart plan.op := by
      rcases of_getElem?_set hprocess with ⟨rfl, rfl⟩ | ⟨hne, hbefore⟩
      · rcases hplan plan hprocessPlan with hnew | hkept
        · exact hnew
        · exact h.plans _ old plan hold hkept
      · exact h.plans pid' process plan hbefore hprocessPlan
    exact hloads.frame fun id r hr hattached => attached_applyOps hops hr hattached

/-- A resumption under the disk lock that may attach: it leaves no plan behind. -/
theorem TokensApart.locked_step (h : gateway.TokensApart) {new : Process} {op : StoreOp}
    {disk : DiskAction} (hlock : gateway.diskOwner? = some pid)
    (htokens : (gateway.store.apply gateway.now op).AttachedDistinct)
    (hplan : new.plan? = none) (hlocked : (gateway.perform pid new [op] disk).LockHeld) :
    (gateway.perform pid new [op] disk).TokensApart where
  tokens := htokens
  locked := hlocked
  plans pid' process plan hprocess hprocessPlan := by
    rcases of_getElem?_set hprocess with ⟨rfl, rfl⟩ | ⟨hne, hbefore⟩
    · rw [hplan] at hprocessPlan
      cases hprocessPlan
    · exact absurd (h.pid_eq_of_plan hlock hbefore hprocessPlan) hne

theorem tokensApart_request {run : FailoverRun} {pc : RequestPc} {input : Input}
    {next : Resumption} (h : gateway.TokensApart)
    (hprocess : gateway.processes[pid]? = some (.request run pc))
    (hnext : resumeRequest config (gateway.view pid) run pc input = some next)
    (hguard : attachesApart config gateway (.gateway (.resume pid input)))
    (hlocked : (gateway.perform pid (.request next.run next.pc) next.ops next.disk).LockHeld) :
    (gateway.perform pid (.request next.run next.pc) next.ops next.disk).TokensApart := by
  rcases (resumeRequest_move hnext).ops_cases with ⟨id, refreshed, hops⟩ | hneutral
  · have hlock := holdsDiskLock_iff.mp (holdsDiskLock_of_commits hnext hops)
    have hrotates := (hguard (.refreshSuccess id refreshed)
      (by simp [performed, hprocess, hnext, hops])).1
    rw [hops] at hlocked ⊢
    exact h.locked_step hlock (h.tokens.commit hrotates) rfl hlocked
  · exact h.quiet hprocess hneutral (fun _ hplan => by cases hplan) hlocked

theorem tokensApart_call {accountCall : AccountCall} {pc : AccountCallPc} {input : Input}
    {next : AccountCallResumption} (h : gateway.TokensApart)
    (hprocess : gateway.processes[pid]? = some (.call accountCall pc))
    (hnext : resumeCall config (gateway.view pid) accountCall pc input = some next)
    (hguard : attachesApart config gateway (.gateway (.resume pid input)))
    (hlocked : (gateway.perform pid (.call accountCall next.pc) next.ops next.disk).LockHeld) :
    (gateway.perform pid (.call accountCall next.pc) next.ops next.disk).TokensApart := by
  have hquiet {pc' : AccountCallPc} {disk : DiskAction}
      (hplan : ∀ plan, (Process.call accountCall pc').plan? = some plan →
        gateway.store.LoadsApart plan.op ∨ (Process.call accountCall pc).plan? = some plan)
      (hlocked : (gateway.perform pid (.call accountCall pc') [] disk).LockHeld) :
      (gateway.perform pid (.call accountCall pc') [] disk).TokensApart :=
    h.quiet hprocess (by simp) hplan hlocked
  cases resumeCall_step hnext with
  | refuseImport | refuseRemove | lockRescan | scan | scanFailed | planFailed | runFailed =>
    exact hquiet (fun _ hplan => by cases hplan) hlocked
  | planImport _ hplan _ | writeImport _ hplan _ =>
    refine hquiet (fun plan hsome => .inl ?_) hlocked
    obtain rfl := Option.some.inj hsome
    exact AccountStore.loadsApart_import hplan
  | planRemove =>
    refine hquiet (fun plan hsome => .inl ?_) hlocked
    obtain rfl := Option.some.inj hsome
    exact AccountStore.loadsApart_of_upserts rfl
  | planSync hplan =>
    refine hquiet (fun plan hsome => .inl ?_) hlocked
    obtain rfl := Option.some.inj hsome
    exact AccountStore.loadsApart_rescan h.tokens hplan
  | ran => exact hquiet (fun plan hsome => .inr hsome) hlocked
  | @apply _ plan =>
    have hlock := h.locked pid _ hprocess rfl
    have hresurrects := (hguard plan.op (by simp [performed, hprocess, hnext])).2
    have hloads := h.plans pid _ plan hprocess rfl
    exact h.locked_step hlock (h.tokens.load (by cases plan <;> rfl) hloads hresurrects) rfl hlocked

theorem tokensApart_step {event : OpenEvent} (h : gateway.TokensApart)
    (hguard : attachesApart config gateway event)
    (hstep : openStep config gateway event = some gateway') : gateway'.TokensApart := by
  cases event with
  | edit path content =>
    obtain rfl := Option.some.inj hstep
    exact ⟨h.tokens, h.locked, h.plans⟩
  | gateway event =>
    have hstep : step config gateway event = some gateway' := hstep
    have hlocked : gateway'.LockHeld := lockHeld_step h.locked hstep
    by_cases hsilent : silent event = true
    · obtain ⟨hstore, hprocesses⟩ := step_silent hsilent hstep
      refine ⟨hstore ▸ h.tokens, hlocked, fun pid process plan hprocess hplan => ?_⟩
      rw [hstore]
      exact h.plans pid process plan (hprocesses ▸ hprocess) hplan
    cases event with
    | spawnRequest | spawnCall =>
      obtain rfl := Option.some.inj hstep
      refine ⟨h.tokens, hlocked, fun pid process plan hprocess hplan => ?_⟩
      rcases of_getElem?_append_singleton hprocess with hold | ⟨-, rfl⟩
      · exact h.plans pid process plan hold hplan
      · cases hplan
    | resume pid input =>
      obtain ⟨process, hprocess, hresume⟩ := Option.bind_eq_some_iff.mp hstep
      cases process with
      | request run pc =>
        obtain ⟨next, hnext, rfl⟩ := Option.map_eq_some_iff.mp hresume
        exact tokensApart_request h hprocess hnext hguard hlocked
      | call accountCall pc =>
        obtain ⟨next, hnext, rfl⟩ := Option.map_eq_some_iff.mp hresume
        exact tokensApart_call h hprocess hnext hguard hlocked
    | drop pid =>
      obtain ⟨new, hdrop, rfl⟩ := Option.map_eq_some_iff.mp hstep
      obtain ⟨old, hold, hafter⟩ := Option.bind_eq_some_iff.mp hdrop
      refine ⟨by simpa using h.tokens, hlocked, fun pid' process plan hprocess hplan => ?_⟩
      rcases of_getElem?_set hprocess with ⟨rfl, rfl⟩ | ⟨hne, hbefore⟩
      · have hinside := Process.insideDisk_of_plan? hplan
        rw [afterDrop_outside hafter] at hinside
        cases hinside
      · simpa using h.plans pid' process plan hbefore hplan
    | background op =>
      simp only [step, Option.ite_none_right_eq_some, Option.some.injEq] at hstep
      obtain ⟨hbackground, rfl⟩ := hstep
      have hneutral : ∀ op' ∈ [op], op'.commits? = none ∧ op'.upserts = [] := by
        intro op' hop'
        obtain rfl := List.mem_singleton.mp hop'
        cases op' <;> first | exact ⟨rfl, rfl⟩ | cases hbackground
      refine ⟨attachedDistinct_applyOps h.tokens hneutral, hlocked,
        fun pid process plan hprocess hplan => ?_⟩
      exact (h.plans pid process plan hprocess hplan).frame
        fun id r hr hattached => attached_applyOps hneutral hr hattached
    | _ => exact absurd rfl hsilent

theorem tokensApart_boot (dir : AccountsDir) (now : Time) (policy : RoutingPolicy) :
    (boot dir now policy).TokensApart where
  tokens := .of_tokensDistinct (distinct_boot dir now policy).tokens
  locked := lockHeld_boot dir now policy
  plans pid process plan hprocess := by simp [boot] at hprocess

/-- In every run, whatever is dropped and whatever is done to the account files: if rotations
yield tokens of no other attached account, and no account is attached again with such a token,
then no two attached accounts hold the same token. -/
theorem attached_tokens_distinct {dir : AccountsDir} {start : Time} {policy : RoutingPolicy}
    (hrun : Run (openStep config) (attachesApart config) (boot dir start policy) gateway) :
    ∀ id id' r r', gateway.store.record? id = some r → gateway.store.record? id' = some r' →
      r.detached = false → r'.detached = false → r.refreshToken = r'.refreshToken → id = id' := by
  have hapart : gateway.TokensApart :=
    hrun.invariant (fun _ _ _ h hguard hstep => tokensApart_step h hguard hstep)
      (tokensApart_boot dir start policy)
  exact hapart.tokens

/-- The events of an account call that runs alone to its end. -/
def callEvents (call : AccountCall) (pid : ℕ) : List OpenEvent :=
  [.gateway (.spawnCall call), .gateway .grant, .gateway (.resume pid .scheduled),
    .gateway (.runTask .done), .gateway (.resume pid .scheduled),
    .gateway (.resume pid .scheduled)]

/-- The account of the first token is imported, selected by a request and refreshed, which
rotates its token, and deleted while the request executes. -/
def deleteRotated : List OpenEvent :=
  callEvents (.importAccount "rt_1" none none) 0 ++
  ([.spawnRequest .holdUntilCaller ∅, .resume 1 .scheduled, .resume 1 .scheduled,
    .resume 1 (.refreshReply (.json (.object
      [("access_token", .string "at_1"), ("refresh_token", .string "rt_2")]))),
    .resume 1 .scheduled, .grant, .resume 1 .scheduled, .runTask .done, .resume 1 .scheduled,
    .resume 1 .scheduled].map .gateway) ++
  callEvents (.removeAccount "0c779dddf03d7056e175aae7e34329dd") 2

theorem attached_tokens_distinct_deleteRotated :
    let gateway := stateAfter (openStep exampleConfig) (boot App.emptyDir 0 .fillFirst)
      (deleteRotated ++ callEvents (.importAccount "rt_2" none none) 3)
    ∀ id id' r r', gateway.store.record? id = some r → gateway.store.record? id' = some r' →
      r.detached = false → r'.detached = false → r.refreshToken = r'.refreshToken → id = id' :=
  attached_tokens_distinct (.of_isSome (by decide +kernel))

/-- The token is in the store or in an account file. -/
def holdsToken (gateway : Gateway) (token : String) : Bool :=
  gateway.store.records.values.any (fun r => r.refreshToken = token) ||
    (scanAccountsDir gateway.dir).entries.any fun entry => entry.disk.refreshToken = token

/-- A rotation yields a token that is neither in the store nor in the directory. -/
def rotatesFresh (config : Config) (gateway : Gateway) : OpenEvent → Bool
  | .gateway (.resume pid input) => (performed config gateway pid input).all fun
    | .refreshSuccess _ refreshed =>
      refreshed.refreshToken.all fun token => !gateway.holdsToken token
    | _ => true
  | _ => true

/-- The rotated token is imported as a new account, and then the first token once more: its
account is detached and comes back with the token it was rotated to. -/
theorem import_resurrects_rotated_token :
    ∃ gateway, Run (openStep exampleConfig)
        (fun gateway event => rotatesFresh exampleConfig gateway event = true)
        (boot App.emptyDir 0 .fillFirst) gateway ∧
      ((gateway.store.record? "0c779dddf03d7056e175aae7e34329dd").any fun r =>
        !r.detached && decide (r.refreshToken = "rt_2")) = true ∧
      ((gateway.store.record? "8d3ac014580eb3cf031f7e76f08b427c").any fun r =>
        !r.detached && decide (r.refreshToken = "rt_2")) = true := by
  refine ⟨stateAfter (openStep exampleConfig) _ (deleteRotated ++
    callEvents (.importAccount "rt_2" none none) 3 ++
    callEvents (.importAccount "rt_1" none none) 4), .of_isSome ?_, ?_, ?_⟩ <;> decide +kernel

end Gateway

end Codaze.Failover
