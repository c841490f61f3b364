import Codaze.Accounts.Operations
import Codaze.Failover.Steps
import Codaze.Foundation.Amortized
import Mathlib.Data.Finset.Card

/-!
# The failover loops end

Between two selections a request either tries its account, which excludes it from then on, or
marks it for a forced refresh, which it does once. So the accounts of the pool that are not
tried, counted twice while they are not marked, pay for the iterations of the loop.
-/
namespace Codaze.Failover
open Foundation Accounts

/-- The most resumptions a request takes from a stage to its next selection or its end. -/
def Stage.rank : Stage → ℕ
  | refreshing => 8
  | answered _ => 7
  | committing _ => 6
  | persisting => 5
  | readingAccount => 4
  | executing _ | preparing _ => 3
  | holding | trashing _ => 2
  | abandoning | noting .. | finalizing _ | failingRefresh _ | missingToken | missingRecord
  | executeFailed _ | succeeded | undecoded _ | settling _ => 1

theorem Stage.rank_pos (stage : Stage) : 0 < stage.rank := by
  cases stage <;> simp [rank]

theorem Stage.rank_le (stage : Stage) : stage.rank ≤ 8 := by
  cases stage <;> simp [rank]

def RequestPc.ended : RequestPc → Bool
  | finished _ | dropped => true
  | _ => false

def RequestPc.isStarting : RequestPc → Bool
  | starting => true
  | _ => false

/-- The variables of a request and where it waits. -/
abbrev LoopState := FailoverRun × RequestPc

/-- The variables at the start of `execute_with_failover_from_inner`. -/
def FailoverRun.enter (run : FailoverRun) (policy : RoutingPolicy) : FailoverRun :=
  { run with
    routingPolicy := policy, forcedRefreshAttempted := ∅, lastPoolSummaryCandidate := none }

/-- A resumption, whatever the shared state has become. -/
def requestStep (config : Config) (state : LoopState) (entry : View × Input) : Option LoopState :=
  (resumeRequest config entry.1 state.1 state.2 entry.2).map fun next => (next.run, next.pc)

/-- A resumption within one call of the inner loop. -/
def innerStep (config : Config) (state : LoopState) (entry : View × Input) : Option LoopState :=
  if state.2.isStarting then none else requestStep config state entry

/-- The account an iteration of the loop selects. -/
def selects? (step : LoopState × LoopState) : Option String :=
  match step.1.2, step.2.2 with
  | .selecting, .selected selection _ => some selection.accountId
  | _, _ => none

/-- An iteration of the loop begins. -/
def iterates (step : LoopState × LoopState) : Bool :=
  match step.1.2 with
  | .selecting => true
  | _ => false

/-- The access token of an account is rejected, and a refresh of it is forced. -/
def ForcesRefresh (id : String) (step : LoopState × LoopState) : Prop :=
  ∃ selection error, step.1.2 = .selected selection (.executeFailed error) ∧
    selection.accountId = id ∧ error.failure = .accessTokenRejected ∧
    id ∉ step.1.1.forcedRefreshAttempted ∧ id ∈ step.2.1.forcedRefreshAttempted

section moves

variable (view : View) (run : FailoverRun)

/-- What a resumption does to the variables that decide how the loop goes on. -/
inductive LoopMove : RequestPc → FailoverRun → RequestPc → Prop
  | start : LoopMove .starting (run.enter view.routingPolicy) .selecting
  | select {selection stage} (huntried : selection.accountId ∉ run.triedAccounts)
      (hpool : (view.store.record? selection.accountId).isSome = true) :
      LoopMove .selecting run (.selected selection stage)
  | refuse {result} : LoopMove .selecting run (.finished result)
  | stay {selection stage stage'} (hrank : stage'.rank < stage.rank) :
      LoopMove (.selected selection stage) run (.selected selection stage')
  | retry {selection stage run'}
      (htried : run'.triedAccounts = insert selection.accountId run.triedAccounts)
      (hforced : run'.forcedRefreshAttempted = run.forcedRefreshAttempted) :
      LoopMove (.selected selection stage) run' .selecting
  | restart {selection stage run'}
      (htried : run'.triedAccounts = insert selection.accountId run.triedAccounts)
      (hforced : run'.forcedRefreshAttempted = run.forcedRefreshAttempted) :
      LoopMove (.selected selection stage) run' .starting
  | force {selection error} (hrejected : error.failure = .accessTokenRejected)
      (hfirst : selection.accountId ∉ run.forcedRefreshAttempted) :
      LoopMove (.selected selection (.executeFailed error))
        { run with
          forcedRefreshAttempted := insert selection.accountId run.forcedRefreshAttempted }
        .selecting
  | finish {selection stage run' pc'} (htried : run.triedAccounts ⊆ run'.triedAccounts)
      (hforced : run'.forcedRefreshAttempted = run.forcedRefreshAttempted)
      (hpc : pc'.ended = true) : LoopMove (.selected selection stage) run' pc'

end moves

variable {config : Config} {view : View} {run : FailoverRun} {pc : RequestPc} {input : Input}
  {next : Resumption}

/-- A failure goes on where it was sent, or the request is gone with a panic. -/
theorem loopMove_settleFailure {store : AccountStore} {run' : FailoverRun}
    {selection : AccountSelection} {stage : Stage} {before : List StoreOp} {id : String}
    {failure : FailureClass} {retryAfter : Option StdDuration} {details : String}
    (htried : run.triedAccounts ⊆ run'.triedAccounts)
    (hforced : run'.forcedRefreshAttempted = run.forcedRefreshAttempted)
    (hmove : LoopMove view run (.selected selection stage) run' pc) :
    LoopMove view run (.selected selection stage)
      (settleFailure view store run' pc before id failure retryAfter details).run
      (settleFailure view store run' pc before id failure retryAfter details).pc := by
  unfold settleFailure
  dsimp only
  split
  · exact hmove
  · exact .finish htried hforced rfl

theorem ended_fails (run : FailoverRun) (failure : FailoverFailure) :
    (run.fails failure).ended = true := rfl

theorem loopMove_resumeFailingRefresh (selection : AccountSelection) (failure : RefreshFailure) :
    LoopMove view run (.selected selection (.failingRefresh failure))
      (resumeFailingRefresh view run selection failure).run
      (resumeFailingRefresh view run selection failure).pc := by
  unfold resumeFailingRefresh
  dsimp only
  split
  · exact loopMove_settleFailure (Finset.subset_insert _ _) rfl (.retry rfl rfl)
  · exact loopMove_settleFailure subset_rfl rfl (.finish subset_rfl rfl (ended_fails run _))

theorem loopMove_resumeExecuteFailed (selection : AccountSelection) (error : TransportError) :
    LoopMove view run (.selected selection (.executeFailed error))
      (resumeExecuteFailed view run selection error).run
      (resumeExecuteFailed view run selection error).pc := by
  unfold resumeExecuteFailed
  dsimp only
  split
  next hrejected =>
    split
    next => exact loopMove_settleFailure (Finset.subset_insert _ _) rfl (.retry rfl rfl)
    next hfirst => exact .force hrejected hfirst
  next =>
    split
    · exact loopMove_settleFailure (Finset.subset_insert _ _) rfl (.retry rfl rfl)
    · exact loopMove_settleFailure subset_rfl rfl (.finish subset_rfl rfl (ended_fails run _))

theorem loopMove_resumeStage {selection : AccountSelection} {stage : Stage}
    (h : resumeStage config view run selection stage input = some next) :
    LoopMove view run (.selected selection stage) next.run next.pc := by
  cases stage with
  | failingRefresh failure =>
    cases input with
    | scheduled =>
      obtain rfl := Option.some.inj h
      exact loopMove_resumeFailingRefresh selection failure
    | _ => cases h
  | executeFailed error =>
    cases input with
    | scheduled =>
      obtain rfl := Option.some.inj h
      exact loopMove_resumeExecuteFailed selection error
    | _ => cases h
  | undecoded details =>
    cases input with
    | scheduled =>
      obtain rfl := Option.some.inj h
      exact loopMove_settleFailure (Finset.subset_insert _ _) rfl (.restart rfl rfl)
    | _ => cases h
  | noting failure error =>
    cases input with
    | scheduled => obtain rfl := Option.some.inj h; exact .retry rfl rfl
    | _ => cases h
  | finalizing failure =>
    cases input with
    | scheduled =>
      simp only [resumeStage] at h
      split at h
      · obtain rfl := Option.some.inj h
        exact .finish subset_rfl rfl (ended_fails run _)
      · obtain rfl := Option.some.inj h
        exact .retry rfl rfl
    | _ => cases h
  | missingToken | missingRecord =>
    cases input with
    | scheduled => obtain rfl := Option.some.inj h; exact .retry rfl rfl
    | _ => cases h
  | executing account =>
    have hafter (decodeError : Option String) : (afterExecute run decodeError).rank < 3 := by
      unfold afterExecute
      split <;> simp [Stage.rank]
    cases resumeStage_step h with
    | execute decodeError => exact .stay (hafter decodeError)
    | executeError error => exact .stay (by simp [Stage.rank])
  | abandoning | succeeded | settling =>
    cases resumeStage_step h
    exact .finish subset_rfl rfl rfl
  | preparing failure =>
    cases resumeStage_step h with
    | unprepared => exact .finish subset_rfl rfl rfl
    | prepareDetached | prepare => exact .stay (by simp [Stage.rank])
  | _ => cases resumeStage_step h <;> exact .stay (by simp [Stage.rank])

theorem loopMove_resumeRequest (h : resumeRequest config view run pc input = some next) :
    LoopMove view run pc next.run next.pc := by
  cases pc with
  | selected selection stage => exact loopMove_resumeStage h
  | starting =>
    cases input with
    | scheduled => obtain rfl := Option.some.inj h; exact .start
    | _ => cases h
  | selecting =>
    cases resumeRequest_step h with
    | select hselect =>
      obtain ⟨record, hrecord, -, hexcluded, -⟩ := AccountStore.selectAccount_ok hselect
      exact .select hexcluded (by rw [hrecord]; rfl)
    | unselected => exact .refuse
  | finished | dropped => cases h

/-- The selections that the accounts of a pool allow for: two of an account, one once a refresh
of it was forced, none once it was tried. -/
def selectionsLeft (pool : Finset String) (run : FailoverRun) : ℕ :=
  (pool \ run.triedAccounts).card +
    (pool \ (run.triedAccounts ∪ run.forcedRefreshAttempted)).card

theorem selectionsLeft_mono (pool : Finset String) {run run' : FailoverRun}
    (htried : run.triedAccounts ⊆ run'.triedAccounts)
    (hforced : run.forcedRefreshAttempted ⊆ run'.forcedRefreshAttempted) :
    selectionsLeft pool run' ≤ selectionsLeft pool run :=
  Nat.add_le_add (Finset.card_le_card (Finset.sdiff_subset_sdiff subset_rfl htried))
    (Finset.card_le_card
      (Finset.sdiff_subset_sdiff subset_rfl (Finset.union_subset_union htried hforced)))

theorem card_sdiff_insert_lt {pool tried : Finset String} {id : String} (hpool : id ∈ pool)
    (huntried : id ∉ tried) : (pool \ insert id tried).card < (pool \ tried).card := by
  refine Finset.card_lt_card (Finset.ssubset_iff_of_subset ?_ |>.mpr ⟨id, ?_, ?_⟩)
  · exact Finset.sdiff_subset_sdiff subset_rfl (Finset.subset_insert id tried)
  · exact Finset.mem_sdiff.mpr ⟨hpool, huntried⟩
  · simp

/-- An account that is tried leaves one selection less. -/
theorem selectionsLeft_tried {pool : Finset String} {run run' : FailoverRun} {id : String}
    (hpool : id ∈ pool) (huntried : id ∉ run.triedAccounts)
    (htried : run'.triedAccounts = insert id run.triedAccounts)
    (hforced : run'.forcedRefreshAttempted = run.forcedRefreshAttempted) :
    selectionsLeft pool run' < selectionsLeft pool run := by
  have hfewer := card_sdiff_insert_lt hpool huntried
  have hmono : (pool \ (run'.triedAccounts ∪ run'.forcedRefreshAttempted)).card ≤
      (pool \ (run.triedAccounts ∪ run.forcedRefreshAttempted)).card := by
    refine Finset.card_le_card (Finset.sdiff_subset_sdiff subset_rfl ?_)
    rw [htried, hforced]
    exact Finset.union_subset_union (Finset.subset_insert id _) subset_rfl
  simp only [selectionsLeft, htried] at hmono ⊢
  omega

/-- An account whose refresh is forced leaves one selection less. -/
theorem selectionsLeft_forced {pool : Finset String} {run : FailoverRun} {id : String}
    (hpool : id ∈ pool) (huntried : id ∉ run.triedAccounts)
    (hfirst : id ∉ run.forcedRefreshAttempted) :
    selectionsLeft pool
        { run with forcedRefreshAttempted := insert id run.forcedRefreshAttempted } <
      selectionsLeft pool run := by
  have hunion : id ∉ run.triedAccounts ∪ run.forcedRefreshAttempted := by simp [huntried, hfirst]
  have hfewer := card_sdiff_insert_lt hpool hunion
  simp only [selectionsLeft, Finset.union_insert]
  omega

/-- The selections left to a request; one that is under way is paid for. -/
def potential (pool : Finset String) (state : LoopState) : ℕ :=
  match state.2 with
  | .selected selection _ =>
    selectionsLeft pool state.1 - if selection.accountId ∈ pool then 1 else 0
  | .starting | .selecting => selectionsLeft pool state.1
  | .finished _ | .dropped => 0

/-- A request that has not ended still has its last iteration. -/
def lastIteration (state : LoopState) : ℕ := if state.2.ended then 0 else 1

def RequestPc.rank : RequestPc → ℕ
  | selected _ stage => stage.rank
  | _ => 0

/-- The account that is selected is in the pool and not one of those that were tried. -/
structure FreshSelection (pool : Finset String) (state : LoopState) : Prop where
  pool : ∀ selection stage, state.2 = .selected selection stage → selection.accountId ∈ pool
  untried : ∀ selection stage, state.2 = .selected selection stage →
    selection.accountId ∉ state.1.triedAccounts

theorem FreshSelection.of_unselected {pool : Finset String}
    (h : ∀ selection stage, pc ≠ .selected selection stage) : FreshSelection pool (run, pc) :=
  ⟨fun selection stage hpc => absurd hpc (h selection stage),
    fun selection stage hpc => absurd hpc (h selection stage)⟩

section

variable {pool : Finset String} {run' : FailoverRun} {pc' : RequestPc}

theorem FreshSelection.of_move (h : FreshSelection pool (run, pc))
    (hmove : LoopMove view run pc run' pc')
    (hpool : ∀ id, (view.store.record? id).isSome = true → id ∈ pool) :
    FreshSelection pool (run', pc') := by
  cases hmove with
  | select huntried hrecord =>
    constructor
    · rintro _ _ ⟨⟩
      exact hpool _ hrecord
    · rintro _ _ ⟨⟩
      exact huntried
  | stay =>
    constructor
    · rintro _ _ ⟨⟩
      exact h.pool _ _ rfl
    · rintro _ _ ⟨⟩
      exact h.untried _ _ rfl
  | finish _ _ hpc => exact .of_unselected fun _ _ heq => by simp [heq, RequestPc.ended] at hpc
  | start | refuse | retry | restart | force => exact .of_unselected fun _ _ heq => by cases heq

/-- Within a call of the inner loop a selection of an account of the pool is paid for. -/
theorem potential_move (accounts : Finset String) (hmove : LoopMove view run pc run' pc')
    (hinner : pc.isStarting = false) (h : FreshSelection pool (run, pc)) :
    potential accounts (run', pc') +
        (if (selects? ((run, pc), (run', pc'))).any (· ∈ accounts) then 1 else 0) ≤
      potential accounts (run, pc) := by
  cases hmove with
  | start => cases hinner
  | @select selection stage huntried _ =>
    show selectionsLeft accounts run - (if selection.accountId ∈ accounts then 1 else 0) +
      (if decide (selection.accountId ∈ accounts) then 1 else 0) ≤ selectionsLeft accounts run
    by_cases hmem : selection.accountId ∈ accounts
    · have hfewer := card_sdiff_insert_lt hmem huntried
      simp only [hmem, decide_true, if_true, selectionsLeft]
      omega
    · simp [hmem]
  | refuse => simp [potential, selects?]
  | stay => simp [potential, selects?]
  | @retry selection stage _ htried hforced | @restart selection stage _ htried hforced =>
    have huntried : selection.accountId ∉ run.triedAccounts := h.untried _ _ rfl
    have hmono := selectionsLeft_mono accounts (htried ▸ Finset.subset_insert _ _) hforced.ge
    show selectionsLeft accounts run' + 0 ≤
      selectionsLeft accounts run - if selection.accountId ∈ accounts then 1 else 0
    by_cases hmem : selection.accountId ∈ accounts
    · have hless := selectionsLeft_tried hmem huntried htried hforced
      rw [if_pos hmem]
      omega
    · rw [if_neg hmem]
      omega
  | @force selection error hrejected hfirst =>
    have huntried : selection.accountId ∉ run.triedAccounts := h.untried _ _ rfl
    generalize hforced : ({ run with
      forcedRefreshAttempted := insert selection.accountId run.forcedRefreshAttempted } :
        FailoverRun) = run'
    have hmono : selectionsLeft accounts run' ≤ selectionsLeft accounts run :=
      hforced ▸ selectionsLeft_mono accounts subset_rfl (Finset.subset_insert _ _)
    show selectionsLeft accounts run' + 0 ≤
      selectionsLeft accounts run - if selection.accountId ∈ accounts then 1 else 0
    by_cases hmem : selection.accountId ∈ accounts
    · have hless := selectionsLeft_forced hmem huntried hfirst
      rw [hforced] at hless
      rw [if_pos hmem]
      omega
    · rw [if_neg hmem]
      omega
  | finish _ _ hpc =>
    cases pc' with
    | finished | dropped => simp [potential, selects?]
    | _ => cases hpc

/-- Within a call of the inner loop an iteration is paid for by its selection, or it is the
last one. -/
theorem lastIteration_move (hmove : LoopMove view run pc run' pc')
    (hinner : pc.isStarting = false) (h : FreshSelection pool (run, pc))
    (hpool : ∀ id, (view.store.record? id).isSome = true → id ∈ pool) :
    potential pool (run', pc') + lastIteration (run', pc') +
        (if iterates ((run, pc), (run', pc')) then 1 else 0) ≤
      potential pool (run, pc) + lastIteration (run, pc) := by
  have hpaid := potential_move pool hmove hinner h
  have hlast : lastIteration (run', pc') ≤ 1 := by
    unfold lastIteration
    split <;> omega
  cases hmove with
  | start => cases hinner
  | select _ hrecord =>
    have hmem := hpool _ hrecord
    simp only [selects?, Option.any_some, hmem, decide_true, if_true] at hpaid
    show _ + 1 + 1 ≤ _ + 1
    omega
  | refuse =>
    show _ + 0 + 1 ≤ _ + 1
    omega
  | stay | retry | restart | force | finish =>
    show _ + lastIteration _ + 0 ≤ _ + 1
    omega

/-- Between two iterations every resumption brings the request closer to the next one. -/
theorem rank_move (hmove : LoopMove view run pc run' pc') (hinner : pc.isStarting = false) :
    iterates ((run, pc), (run', pc')) = true ∨ pc'.rank < pc.rank := by
  cases hmove with
  | start => cases hinner
  | select | refuse => exact .inl rfl
  | stay hrank => exact .inr hrank
  | retry | restart => exact .inr (Stage.rank_pos _)
  | force => exact .inr Nat.one_pos
  | finish _ _ hpc =>
    cases pc' with
    | finished | dropped => exact .inr (Stage.rank_pos _)
    | _ => cases hpc

theorem rank_le (pc : RequestPc) : pc.rank ≤ 8 := by
  cases pc with
  | selected selection stage => exact stage.rank_le
  | _ => exact Nat.zero_le 8

/-- What is selected is in the pool and was not tried. -/
theorem untried_move {id : String} (hmove : LoopMove view run pc run' pc')
    (hpool : ∀ id, (view.store.record? id).isSome = true → id ∈ pool)
    (hselects : selects? ((run, pc), (run', pc')) = some id) :
    id ∈ pool ∧ id ∉ run.triedAccounts := by
  cases hmove with
  | select huntried hrecord =>
    obtain rfl := Option.some.inj hselects
    exact ⟨hpool _ hrecord, huntried⟩
  | start | refuse | stay | retry | restart | force | finish => cases hselects

/-- No resumption forgets an account that was tried. -/
theorem tried_move (hmove : LoopMove view run pc run' pc') :
    run.triedAccounts ⊆ run'.triedAccounts := by
  cases hmove with
  | retry htried | restart htried => exact htried ▸ Finset.subset_insert _ _
  | finish htried => exact htried
  | start | select | refuse | stay | force => exact subset_rfl

/-- The accounts that are not tried pay for the calls of the inner loop. -/
theorem starts_move (hmove : LoopMove view run pc run' pc') (h : FreshSelection pool (run, pc)) :
    (pool \ run'.triedAccounts).card + (if pc'.isStarting then 1 else 0) ≤
      (pool \ run.triedAccounts).card := by
  have hmono : (pool \ run'.triedAccounts).card ≤ (pool \ run.triedAccounts).card :=
    Finset.card_le_card (Finset.sdiff_subset_sdiff subset_rfl (tried_move hmove))
  cases hmove with
  | @restart selection stage _ htried =>
    have hfewer := card_sdiff_insert_lt (h.pool selection stage rfl) (h.untried selection stage rfl)
    rw [htried]
    exact hfewer
  | finish _ _ hpc =>
    cases pc' with
    | finished | dropped => exact hmono
    | _ => cases hpc
  | start | select | refuse | stay | retry | force => exact hmono

/-- The account is selected, or it was tried, or the request has ended. -/
def Engaged (id : String) (state : LoopState) : Prop :=
  (∃ selection stage, state.2 = .selected selection stage ∧ selection.accountId = id) ∨
    id ∈ state.1.triedAccounts ∨ state.2.ended = true

/-- Only a forced refresh gives an account that was selected another chance. -/
theorem engaged_move {id : String} (hmove : LoopMove view run pc run' pc')
    (h : Engaged id (run, pc)) :
    ForcesRefresh id ((run, pc), (run', pc')) ∨ Engaged id (run', pc') := by
  rcases h with ⟨selection, stage, hpc, rfl⟩ | htried | hended
  · obtain rfl : pc = .selected selection stage := hpc
    cases hmove with
    | stay => exact .inr (.inl ⟨selection, _, rfl, rfl⟩)
    | retry htried | restart htried =>
      exact .inr (.inr (.inl (htried ▸ Finset.mem_insert_self _ _)))
    | @force _ error hrejected hfirst =>
      exact .inl ⟨selection, error, rfl, rfl, hrejected, hfirst, Finset.mem_insert_self _ _⟩
    | finish _ _ hpc => exact .inr (.inr (.inr hpc))
  · exact .inr (.inr (.inl (tried_move hmove htried)))
  · cases hmove <;> cases hended

end

/-- The resumptions of one call of the inner loop, on a pool of which some accounts had been
tried. -/
structure InnerCall (pool tried : Finset String) (steps : List (LoopState × LoopState)) :
    Prop where
  untried : ∀ step ∈ steps, ∀ id, selects? step = some id →
    id ∈ pool ∧ id ∉ tried ∧ id ∉ step.1.1.triedAccounts
  twice : ∀ id, steps.countP (fun step => selects? step = some id) ≤ 2
  forced : ∀ before first between second after id,
    steps = before ++ first :: (between ++ second :: after) → selects? first = some id →
      selects? second = some id → ∃ step ∈ between, ForcesRefresh id step
  selections : steps.countP (fun step => (selects? step).isSome) ≤ 2 * (pool \ tried).card
  iterations : steps.countP iterates ≤ 2 * (pool \ tried).card + 1
  returns : steps.length ≤ 9 * (2 * (pool \ tried).card + 1)

/-- The resumptions of a request with all the calls of the inner loop. -/
structure OuterLoop (pool tried : Finset String) (steps : List (LoopState × LoopState)) :
    Prop where
  untried : ∀ step ∈ steps, step.1.1.triedAccounts ⊆ step.2.1.triedAccounts ∧
    ∀ id, selects? step = some id → id ∉ tried ∧ id ∉ step.1.1.triedAccounts
  innerCalls : steps.countP (fun step => step.1.2.isStarting) ≤ (pool \ tried).card + 1

section loops

variable {pool : Finset String} {s t : LoopState} {entry : View × Input}

/-- The accounts of a store are in the pool. -/
def PoolHolds (pool : Finset String) (entry : View × Input) : Prop :=
  ∀ id, (entry.1.store.record? id).isSome = true → id ∈ pool

theorem move_of_requestStep (h : requestStep config s entry = some t) :
    LoopMove entry.1 s.1 s.2 t.1 t.2 := by
  obtain ⟨next, hnext, rfl⟩ := Option.map_eq_some_iff.mp h
  exact loopMove_resumeRequest hnext

theorem move_of_innerStep (h : innerStep config s entry = some t) :
    s.2.isStarting = false ∧ LoopMove entry.1 s.1 s.2 t.1 t.2 := by
  unfold innerStep at h
  split at h
  next => cases h
  next hinner => exact ⟨by simpa using hinner, move_of_requestStep h⟩

section inner

variable {script : List (View × Input)} (hs : FreshSelection pool s)
  (hscript : ∀ entry ∈ script, PoolHolds pool entry)

include hs hscript

theorem countP_selects_le (accounts : Finset String) :
    (triggered (innerStep config) s script).countP
        (fun step => (selects? step).any (· ∈ accounts)) ≤ potential accounts s := by
  refine countP_triggered_le (fun s entry t hs hentry hstep => ?_) hs hscript
  obtain ⟨hinner, hmove⟩ := move_of_innerStep hstep
  exact ⟨hs.of_move hmove hentry, potential_move accounts hmove hinner hs⟩

theorem countP_iterates_le :
    (triggered (innerStep config) s script).countP iterates ≤
      potential pool s + lastIteration s := by
  let paid (s : LoopState) : ℕ := potential pool s + lastIteration s
  refine @countP_triggered_le _ _ (innerStep config) _ _ _ _ _ paid
    (fun s entry t hs hentry hstep => ?_) hs hscript
  obtain ⟨hinner, hmove⟩ := move_of_innerStep hstep
  exact ⟨hs.of_move hmove hentry, lastIteration_move hmove hinner hs hentry⟩

theorem length_inner_le :
    (triggered (innerStep config) s script).length ≤
      9 * (potential pool s + lastIteration s) + s.2.rank := by
  let paid (s : LoopState) : ℕ := 9 * (potential pool s + lastIteration s) + s.2.rank
  refine @length_triggered_le _ _ (innerStep config) _ _ _ _ paid
    (fun s entry t hs hentry hstep => ?_) hs hscript
  obtain ⟨hinner, hmove⟩ := move_of_innerStep hstep
  refine ⟨hs.of_move hmove hentry, ?_⟩
  have hpaid : potential pool t + lastIteration t + (if iterates (s, t) then 1 else 0) ≤
    potential pool s + lastIteration s := lastIteration_move hmove hinner hs hentry
  have hrank := rank_le t.2
  show 9 * (potential pool t + lastIteration t) + t.2.rank <
    9 * (potential pool s + lastIteration s) + s.2.rank
  rcases rank_move hmove hinner with hiterates | hcloser
  · rw [if_pos hiterates] at hpaid
    omega
  · omega

end inner

theorem selecting_of_selects {step : LoopState × LoopState} {id : String}
    (h : selects? step = some id) : step.1.2 = .selecting ∧ Engaged id step.2 := by
  unfold selects? at h
  split at h
  next selection stage hbefore hafter =>
    exact ⟨hbefore, .inl ⟨selection, stage, hafter, Option.some.inj h⟩⟩
  next => cases h

/-- What holds of the moves of a request holds of its resumptions. -/
theorem forall_inner {script : List (View × Input)} {P : LoopState × LoopState → Prop}
    (hscript : ∀ entry ∈ script, PoolHolds pool entry)
    (hmove : ∀ (s t : LoopState) (entry : View × Input), PoolHolds pool entry →
      LoopMove entry.1 s.1 s.2 t.1 t.2 → P (s, t)) :
    ∀ step ∈ triggered (innerStep config) s script, P step :=
  forall_triggered (I := fun _ => True)
    (fun s entry t _ hentry hstep => ⟨trivial, hmove s t entry hentry (move_of_innerStep hstep).2⟩)
    trivial hscript

/-- An account is selected again only after its refresh was forced. -/
theorem forced_between {script : List (View × Input)}
    (hscript : ∀ entry ∈ script, PoolHolds pool entry)
    {before between after : List (LoopState × LoopState)} {first second : LoopState × LoopState}
    {id : String}
    (hsteps : triggered (innerStep config) s script =
      before ++ first :: (between ++ second :: after))
    (hfirst : selects? first = some id) (hsecond : selects? second = some id) :
    ∃ step ∈ between, ForcesRefresh id step := by
  have huntried : id ∉ second.1.1.triedAccounts := by
    have hmem : second ∈ triggered (innerStep config) s script := by
      rw [hsteps]
      simp
    have hall := @forall_inner config pool s script
      (fun step => ∀ id, selects? step = some id → id ∉ step.1.1.triedAccounts) hscript
      fun s t entry hentry hmove id hselects => (untried_move hmove hentry hselects).2
    exact hall second hmem id hsecond
  obtain ⟨script', hscript', hbehind⟩ := triggered_behind hsteps
  have hengaged := (selecting_of_selects hfirst).2
  have hselecting := (selecting_of_selects hsecond).1
  rcases holds_or_broken (J := Engaged id)
    (fun s entry t _ hstep hs => engaged_move (move_of_innerStep hstep).2 hs) hengaged
    (fun entry hentry => hscript entry (hscript' entry hentry)) hbehind with hforced | hstill
  · exact hforced
  · rcases hstill with ⟨selection, stage, hpc, -⟩ | htried | hended
    · rw [hselecting] at hpc
      cases hpc
    · exact absurd htried huntried
    · rw [hselecting] at hended
      cases hended

/-- One call of the inner loop. -/
theorem innerCall_bounds (config : Config) (run : FailoverRun) (policy : RoutingPolicy)
    {script : List (View × Input)} (hscript : ∀ entry ∈ script, PoolHolds pool entry) :
    InnerCall pool run.triedAccounts
      (triggered (innerStep config) (run.enter policy, .selecting) script) := by
  have hfresh : FreshSelection pool (run.enter policy, .selecting) :=
    .of_unselected fun _ _ hpc => by cases hpc
  have hstart (accounts : Finset String) :
      potential accounts (run.enter policy, .selecting) =
        2 * (accounts \ run.triedAccounts).card := by
    simp [potential, selectionsLeft, FailoverRun.enter, Nat.two_mul]
  have huntried : ∀ step ∈ triggered (innerStep config) (run.enter policy, .selecting) script,
      ∀ id, selects? step = some id →
        id ∈ pool ∧ id ∉ run.triedAccounts ∧ id ∉ step.1.1.triedAccounts := by
    refine forall_triggered (I := fun s => run.triedAccounts ⊆ s.1.triedAccounts)
      (fun s entry t hs hentry hstep => ?_) subset_rfl hscript
    obtain ⟨-, hmove⟩ := move_of_innerStep hstep
    refine ⟨hs.trans (tried_move hmove), fun id hselects => ?_⟩
    obtain ⟨hpool, hnew⟩ := untried_move hmove hentry hselects
    exact ⟨hpool, fun htried => hnew (hs htried), hnew⟩
  refine ⟨huntried, fun id => ?_, fun before first second between after id hsteps hfirst hsecond =>
    forced_between hscript hsteps hfirst hsecond, ?_, ?_, ?_⟩
  · have hcount := @countP_selects_le config pool _ script hfresh hscript {id}
    rw [hstart] at hcount
    have hone : ({id} \ run.triedAccounts).card ≤ 1 :=
      (Finset.card_le_card Finset.sdiff_subset).trans (Finset.card_singleton id).le
    have hmono : (triggered (innerStep config) (run.enter policy, .selecting) script).countP
        (fun step => selects? step = some id) ≤ _ :=
      (List.countP_mono_left fun step _ hselects => by simp_all).trans hcount
    omega
  · have hcount := @countP_selects_le config pool _ script hfresh hscript pool
    rw [hstart] at hcount
    refine (List.countP_mono_left fun step hmem hselects => ?_).trans hcount
    obtain ⟨id, hid⟩ := Option.isSome_iff_exists.mp hselects
    simp [hid, (huntried step hmem id hid).1]
  · have hcount := @countP_iterates_le config pool _ script hfresh hscript
    rwa [hstart] at hcount
  · have hlength := @length_inner_le config pool _ script hfresh hscript
    rwa [hstart] at hlength

/-- A request with all its calls of the inner loop. -/
theorem outerLoop_bounds (config : Config) (run : FailoverRun) {script : List (View × Input)}
    (hscript : ∀ entry ∈ script, PoolHolds pool entry) :
    OuterLoop pool run.triedAccounts (triggered (requestStep config) (run, .starting) script) := by
  have hfresh : FreshSelection pool (run, .starting) :=
    .of_unselected fun _ _ hpc => by cases hpc
  constructor
  · refine forall_triggered (I := fun s => run.triedAccounts ⊆ s.1.triedAccounts)
      (fun s entry t hs hentry hstep => ?_) subset_rfl hscript
    have hmove := move_of_requestStep hstep
    refine ⟨hs.trans (tried_move hmove), tried_move hmove, fun id hselects => ?_⟩
    obtain ⟨-, hnew⟩ := untried_move hmove hentry hselects
    exact ⟨fun htried => hnew (hs htried), hnew⟩
  · let paid (s : LoopState) : ℕ :=
      (pool \ s.1.triedAccounts).card + if s.2.isStarting then 1 else 0
    have hcount := @countP_triggered_le _ _ (requestStep config) _ _ (run, .starting) script
      (fun step => step.1.2.isStarting) paid
      (fun s entry t hs hentry hstep => ?_) hfresh hscript
    · exact hcount
    · have hmove := move_of_requestStep hstep
      exact ⟨hs.of_move hmove hentry, Nat.add_le_add_right (starts_move hmove hs) _⟩

end loops

/-- A request that has not ended goes on when what it waits for is there. -/
theorem resumes_when_served (config : Config) {state : LoopState} (h : state.2.ended = false) :
    ∃ input, ∀ view : View, view.holdsDiskLock = true → view.taskResult.isSome = true →
      (requestStep config state (view, input)).isSome = true := by
  obtain ⟨run, pc⟩ := state
  simp only [requestStep, Option.isSome_map]
  cases pc with
  | starting | selecting => exact ⟨.scheduled, fun _ _ _ => rfl⟩
  | finished | dropped => cases h
  | selected selection stage =>
    cases stage with
    | refreshing => exact ⟨.refreshReply (.unsent "timeout"), fun _ _ _ => rfl⟩
    | executing => exact ⟨.executeResult (.ok none), fun _ _ _ => rfl⟩
    | holding => exact ⟨.settle .release, fun _ _ _ => rfl⟩
    | committing | preparing =>
      exact ⟨.scheduled, fun view hlock _ => by simp [resumeRequest, resumeStage, hlock]⟩
    | persisting | trashing =>
      refine ⟨.scheduled, fun view _ htask => ?_⟩
      obtain ⟨result, hresult⟩ := Option.isSome_iff_exists.mp htask
      simp [resumeRequest, resumeStage, hresult]
    | finalizing =>
      refine ⟨.scheduled, fun view _ _ => ?_⟩
      simp only [resumeRequest, resumeStage]
      split <;> rfl
    | _ => exact ⟨.scheduled, fun _ _ _ => rfl⟩

/-- A pool of one account whose access token is good for a minute. -/
def oneAccount : View where
  store := AccountStore.new.insert
    { AccountStore.newRecord "a" ⟨"a"⟩ ⟨"rt_1", none, none⟩ with
      accessToken := some "at_1", accessTokenExpiresAt := some (fromSecs 60) }
  dir := Gateway.exampleDir
  now := 0
  routingPolicy := .fillFirst
  holdsDiskLock := false
  taskResult := none

/-- The upstream rejects the access token each time. -/
def rejections : List Input :=
  let rejected : Input := .executeResult (.error ⟨.accessTokenRejected, none, "unauthorized"⟩)
  [.scheduled, .scheduled, rejected, .scheduled, .scheduled, .scheduled, rejected, .scheduled,
    .scheduled]

end Codaze.Failover
