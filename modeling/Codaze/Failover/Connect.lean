import Codaze.Accounts.FailureTimes
import Codaze.Failover.Steps

/-!
# One call of the failover loop

A caller that holds its selection, as `connect_responses_websocket_with_failover`, hands
the loop the accounts it has tried and waits for an account or a failure. The account is
none of those, and the loop only adds to them.
-/
namespace Codaze.Failover
open Foundation Accounts

/-- Resumes a request with what reaches it, one input after the other. -/
def runRequest (config : Config) : FailoverRun → RequestPc → List (View × Input) →
    FailoverRun × RequestPc
  | run, pc, [] => (run, pc)
  | run, pc, (view, input) :: script =>
    match resumeRequest config view run pc input with
    | none => runRequest config run pc script
    | some next => runRequest config next.run next.pc script

inductive ConnectResult where
  | connected (accountId : String)
  | refused
  | panicked
  deriving DecidableEq, Repr

/-- The result of a call that holds its selection, with the accounts tried by then; `none`
where it has not returned. -/
def connectWithFailover (config : Config) (tried : Finset String) (script : List (View × Input)) :
    Option (ConnectResult × Finset String) :=
  match runRequest config (.new .holdUntilCaller tried) .starting script with
  | (run, .selected selection .holding) => some (.connected selection.accountId, run.triedAccounts)
  | (run, .finished _) => some (.refused, run.triedAccounts)
  | (run, .dropped) => some (.panicked, run.triedAccounts)
  | _ => none

variable {config : Config} {view : View} {run : FailoverRun} {pc : RequestPc} {input : Input}
  {next : Resumption}

/-- The deadline an operation sets, if it is a failure that sets one, can be represented. -/
def InTime (view : View) : StoreOp → Prop
  | .fail id failure retryAfter _ => view.store.SettlesInTime view.now id failure retryAfter
  | _ => True

instance (view : View) (op : StoreOp) : Decidable (InTime view op) := by
  unfold InTime
  split <;> infer_instance

/-- A resumption forgets no account that was tried, and panics only at a deadline that cannot
be represented. -/
structure Continues (view : View) (run : FailoverRun) (next : Resumption) : Prop where
  tried : run.triedAccounts ⊆ next.run.triedAccounts
  alive : (∀ op ∈ next.ops, InTime view op) → next.pc ≠ .dropped

/-- Where the request goes on after a failure, what it has tried is what was handed on. -/
theorem continues_settleFailure {store : AccountStore} {run' : FailoverRun} {before : List StoreOp}
    {id : String} {failure : FailureClass} {retryAfter : Option StdDuration} {details : String}
    (hstore : view.store.SettlesInTime view.now id failure retryAfter →
      store.SettlesInTime view.now id failure retryAfter)
    (htried : run.triedAccounts ⊆ run'.triedAccounts) (hpc : pc ≠ .dropped) :
    Continues view run (settleFailure view store run' pc before id failure retryAfter details) where
  tried := htried
  alive hfits := by
    have hfail : view.store.SettlesInTime view.now id failure retryAfter :=
      hfits _ (List.mem_append_right before List.mem_cons_self)
    obtain ⟨store', hreturned⟩ :=
      (@AccountStore.completes_markRequestFailure_iff store view.now id failure retryAfter
        details).mpr (hstore hfail)
    simp only [settleFailure, hreturned]
    exact hpc

/-- An access token that is rejected costs every record the same minute. -/
theorem settlesInTime_invalidateAccessToken {store : AccountStore} {now : Time} {id : String}
    {retryAfter : Option StdDuration}
    (h : store.SettlesInTime now id .accessTokenRejected retryAfter) :
    (store.invalidateAccessToken now id).SettlesInTime now id .accessTokenRejected retryAfter := by
  intro record delay hrecord hdelay
  obtain ⟨old, hold, -⟩ := AccountStore.of_record?_update hrecord
  exact h old delay hold hdelay

theorem tries_subset (run : FailoverRun) (id : String) :
    run.triedAccounts ⊆ (run.tries id).triedAccounts := Finset.subset_insert _ _

theorem fails_ne_dropped (run : FailoverRun) (failure : FailoverFailure) :
    run.fails failure ≠ .dropped := by
  unfold FailoverRun.fails
  simp

theorem continues_resumeFailingRefresh (selection : AccountSelection) (failure : RefreshFailure) :
    Continues view run (resumeFailingRefresh view run selection failure) := by
  unfold resumeFailingRefresh
  dsimp only
  split
  · exact continues_settleFailure id (tries_subset run _) (by simp)
  · exact continues_settleFailure id subset_rfl (fails_ne_dropped run _)

theorem continues_resumeExecuteFailed (selection : AccountSelection) (error : TransportError) :
    Continues view run (resumeExecuteFailed view run selection error) := by
  unfold resumeExecuteFailed
  dsimp only
  split
  next hrejected =>
    split
    · rw [hrejected]
      exact continues_settleFailure settlesInTime_invalidateAccessToken (tries_subset run _)
        (by simp)
    · exact ⟨subset_rfl, fun _ => by simp⟩
  next =>
    split
    · exact continues_settleFailure id (tries_subset run _) (by simp)
    · exact continues_settleFailure id subset_rfl (fails_ne_dropped run _)

/-- The other stages keep the accounts tried or add the selected one, and do not panic. -/
theorem resumeStage_continues {selection : AccountSelection} {stage : Stage}
    (h : resumeStage config view run selection stage input = some next) :
    Continues view run next := by
  cases stage with
  | failingRefresh failure =>
    cases input with
    | scheduled =>
      obtain rfl := Option.some.inj h
      exact continues_resumeFailingRefresh selection failure
    | _ => cases h
  | executeFailed error =>
    cases input with
    | scheduled =>
      obtain rfl := Option.some.inj h
      exact continues_resumeExecuteFailed selection error
    | _ => cases h
  | undecoded details =>
    cases input with
    | scheduled =>
      obtain rfl := Option.some.inj h
      exact continues_settleFailure id (tries_subset run _) (by simp)
    | _ => cases h
  | noting failure error =>
    cases input with
    | scheduled =>
      obtain rfl := Option.some.inj h
      exact ⟨tries_subset run _, fun _ => by simp⟩
    | _ => cases h
  | finalizing failure =>
    have htried : run.triedAccounts ⊆ (afterAuthInvalid run selection).triedAccounts :=
      tries_subset run _
    cases input with
    | scheduled =>
      simp only [resumeStage] at h
      split at h
      · obtain rfl := Option.some.inj h
        exact ⟨subset_rfl, fun _ => fails_ne_dropped run _⟩
      · obtain rfl := Option.some.inj h
        exact ⟨htried, fun _ => by simp⟩
    | _ => cases h
  | missingToken | missingRecord =>
    cases input with
    | scheduled =>
      obtain rfl := Option.some.inj h
      exact ⟨tries_subset run _, fun _ => by simp⟩
    | _ => cases h
  | _ => cases resumeStage_step h <;> exact ⟨subset_rfl, fun _ => by simp⟩

theorem resumeRequest_continues (h : resumeRequest config view run pc input = some next) :
    Continues view run next := by
  cases pc with
  | selected selection stage => exact resumeStage_continues h
  | starting =>
    cases input with
    | scheduled =>
      obtain rfl := Option.some.inj h
      exact ⟨subset_rfl, fun _ => by simp⟩
    | _ => cases h
  | _ => cases resumeRequest_step h <;> exact ⟨subset_rfl, fun _ => by simp⟩

/-- The account a request has selected is not one of those it has tried. -/
def Untried (run : FailoverRun) (pc : RequestPc) : Prop :=
  ∀ selection stage, pc = .selected selection stage → selection.accountId ∉ run.triedAccounts

theorem untried_resumeRequest (huntried : Untried run pc)
    (h : resumeRequest config view run pc input = some next) : Untried next.run next.pc := by
  intro selection' stage' hpc
  cases resumeRequest_step h with
  | select hselect =>
    obtain ⟨rfl, rfl⟩ := RequestPc.selected.inj hpc
    obtain ⟨-, -, -, hexcluded, -⟩ := AccountStore.selectAccount_ok hselect
    exact hexcluded
  | refreshFailed hunselected | rejectAgain _ _ hunselected | fail _ hunselected
  | undecode hunselected =>
    obtain rfl := hpc
    cases hunselected
  | start | unselected | abandon | unprepared | note | finalizeGone | finalize | missingToken
  | missingRecord | reject | succeed | settle => cases hpc
  | _ =>
    obtain ⟨rfl, -⟩ := RequestPc.selected.inj hpc
    exact huntried _ _ rfl

/-- A script every failure of which can be given its deadline. -/
def ScriptInTime (config : Config) : FailoverRun → RequestPc → List (View × Input) → Prop
  | _, _, [] => True
  | run, pc, (view, input) :: script =>
    match resumeRequest config view run pc input with
    | none => ScriptInTime config run pc script
    | some next =>
      (∀ op ∈ next.ops, InTime view op) ∧ ScriptInTime config next.run next.pc script

instance decidableScriptInTime (config : Config) (run : FailoverRun) (pc : RequestPc) :
    (script : List (View × Input)) → Decidable (ScriptInTime config run pc script)
  | [] => .isTrue trivial
  | (view, input) :: script => by
    unfold ScriptInTime
    split
    next => exact decidableScriptInTime config run pc script
    next next _ =>
      have := decidableScriptInTime config next.run next.pc script
      infer_instance

theorem runRequest_spec (script : List (View × Input)) (huntried : Untried run pc) :
    run.triedAccounts ⊆ (runRequest config run pc script).1.triedAccounts ∧
      Untried (runRequest config run pc script).1 (runRequest config run pc script).2 ∧
      (ScriptInTime config run pc script → pc ≠ .dropped →
        (runRequest config run pc script).2 ≠ .dropped) := by
  induction script generalizing run pc with
  | nil => exact ⟨subset_rfl, huntried, fun _ hpc => hpc⟩
  | cons entry script ih =>
    obtain ⟨view, input⟩ := entry
    simp only [runRequest, ScriptInTime]
    cases hnext : resumeRequest config view run pc input with
    | none => exact ih huntried
    | some next =>
      have hcontinues := resumeRequest_continues hnext
      obtain ⟨htried, huntried', halive⟩ := ih (untried_resumeRequest huntried hnext)
      exact ⟨hcontinues.tried.trans htried, huntried',
        fun hfits _ => halive hfits.2 (hcontinues.alive hfits.1)⟩

/-- A call forgets no account it has tried. -/
theorem connectWithFailover_tried {tried tried' : Finset String} {script : List (View × Input)}
    {result : ConnectResult}
    (h : connectWithFailover config tried script = some (result, tried')) : tried ⊆ tried' := by
  have hspec := @runRequest_spec config (.new .holdUntilCaller tried) .starting script
    (fun _ _ hpc => by cases hpc)
  have htried := hspec.1
  cases hrun : runRequest config (.new .holdUntilCaller tried) .starting script with
  | mk run pc =>
    rw [hrun] at htried
    obtain rfl : run.triedAccounts = tried' := by
      unfold connectWithFailover at h
      rw [hrun] at h
      split at h <;> simp_all
    exact htried

/-- The account a call is given is one it has not tried. -/
theorem connectWithFailover_connected {tried tried' : Finset String} {script : List (View × Input)}
    {accountId : String}
    (h : connectWithFailover config tried script = some (.connected accountId, tried')) :
    accountId ∉ tried' := by
  have hspec := @runRequest_spec config (.new .holdUntilCaller tried) .starting script
    (fun _ _ hpc => by cases hpc)
  obtain ⟨-, huntried, -⟩ := hspec
  unfold connectWithFailover at h
  split at h
  next run selection hrun =>
    rw [hrun] at huntried
    obtain ⟨hresult, rfl⟩ := Prod.mk.inj (Option.some.inj h)
    obtain rfl := ConnectResult.connected.inj hresult
    exact huntried _ _ rfl
  next => simp at h
  next => simp at h
  next => cases h

/-- A call does not panic where its deadlines can be represented. -/
theorem connectWithFailover_ne_panicked {tried tried' : Finset String}
    {script : List (View × Input)}
    (hfits : ScriptInTime config (.new .holdUntilCaller tried) .starting script) :
    connectWithFailover config tried script ≠ some (.panicked, tried') := by
  have hspec := @runRequest_spec config (.new .holdUntilCaller tried) .starting script
    (fun _ _ hpc => by cases hpc)
  have halive := hspec.2.2 hfits (by simp)
  unfold connectWithFailover
  split
  next => simp
  next => simp
  next run hrun =>
    rw [hrun] at halive
    exact absurd rfl halive
  next => simp

end Codaze.Failover
