import Codaze.Accounts.PoolAdvice
import Codaze.Failover.Connect
import Codaze.Failover.Termination

/-!
# What a request is answered

A request goes on behind failures of its accounts only, and each answer has its reason in the
last thing that happened to the request: a success, a failure for which no other account is
tried, or a selection that found no account. In that case every account that could be selected
was excluded by the caller, or it has failed the request.
-/
namespace Codaze.Failover
open Foundation Accounts

/-- What became of an attempt of a request to be served by an account. -/
inductive AttemptOutcome where
  | served
  | refreshFailed (failure : RefreshFailure)
  | missingToken
  | missingRecord
  | executionFailed (error : TransportError)
  | undecoded (details : String)
  /-- The account was deleted meanwhile. -/
  | vanished
  deriving DecidableEq, Repr

inductive RequestRecord where
  | attempted (accountId : String) (outcome : AttemptOutcome)
  /-- A selection found no account, in the store it has swept. -/
  | refused (store : AccountStore) (now : Time)

/-- Another account may be tried. -/
def AttemptOutcome.retryable : AttemptOutcome → Bool
  | served | vanished => false
  | missingToken | missingRecord | undecoded _ => true
  | refreshFailed failure => shouldFailoverFailureClass failure.failure
  | executionFailed error => shouldFailoverFailureClass error.failure

/-- The access token was rejected. -/
def AttemptOutcome.rejected : AttemptOutcome → Bool
  | executionFailed error => decide (error.failure = .accessTokenRejected)
  | _ => false

/-- What the end of a stage says of the attempt. -/
def Stage.outcome? : Stage → RequestPc → Option AttemptOutcome
  | .failingRefresh failure, _ | .noting failure _, _ => some (.refreshFailed failure)
  | .finalizing failure, .selecting => some (.refreshFailed failure)
  | .finalizing _, _ | .preparing _, _ | .abandoning, _ => some .vanished
  | .missingToken, _ => some .missingToken
  | .missingRecord, _ => some .missingRecord
  | .executeFailed error, _ => some (.executionFailed error)
  | .undecoded details, _ => some (.undecoded details)
  | .succeeded, _ | .settling _, _ => some .served
  | _, _ => none

/-- What a resumption tells of the request, by where it waits next. -/
def recordOf (view : View) : RequestPc → RequestPc → Option RequestRecord
  -- the selection sweeps the store, and the summary once more
  | .selecting, .finished _ => some
    (.refused ((view.store.refreshExpiredBlocks view.now).refreshExpiredBlocks view.now) view.now)
  | .selected selection stage, pc =>
    if pc.unselected then (stage.outcome? pc).map (.attempted selection.accountId) else none
  | _, _ => none

/-- The records of a request, the oldest first. -/
def requestHistory (config : Config) : FailoverRun → RequestPc → List (View × Input) →
    List RequestRecord
  | _, _, [] => []
  | run, pc, (view, input) :: script =>
    match resumeRequest config view run pc input with
    | none => requestHistory config run pc script
    | some next => (recordOf view pc next.pc).toList ++
      requestHistory config next.run next.pc script

/-! ## Reasons -/

def isRejection (accountId : String) : RequestRecord → Bool
  | .attempted id outcome => decide (id = accountId) && outcome.rejected
  | .refused _ _ => false

/-- The account has failed the request: if it is for its access token, then a second time. -/
def Failed (past : List RequestRecord) (accountId : String) : Prop :=
  ∃ outcome, .attempted accountId outcome ∈ past ∧ outcome.retryable = true ∧
    (outcome.rejected = true → 2 ≤ past.countP (isRejection accountId))

def Undecoded (past : List RequestRecord) (accountId : String) : Prop :=
  ∃ details, .attempted accountId (.undecoded details) ∈ past

/-- What is told of the pool where a selection found no account. -/
inductive PoolVerdict (past : List RequestRecord) (store : AccountStore) (now : Time)
    (tried : Finset String) : FailoverFailure → Prop
  | summary {summary} (h : store.summarizeSelectionFailure now tried = some summary) :
      PoolVerdict past store now tried (.poolBlocked summary)
  | authInvalid {id failure} (h : store.summarizeSelectionFailure now tried = none)
      (hfailed : .attempted id (.refreshFailed failure) ∈ past)
      (hinvalid : failure.failure = .authInvalid) :
      PoolVerdict past store now tried (.poolBlocked ⟨.authInvalid, none, none⟩)
  | unavailable (h : store.summarizeSelectionFailure now tried = none) :
      PoolVerdict past store now tried (.poolBlocked ⟨.temporarilyUnavailable, none, none⟩)
  | undecoded {id details} (hsome : .attempted id (.undecoded details) ∈ past)
      (hall : ∀ id ∈ tried, Undecoded past id) :
      PoolVerdict past store now tried (.internal 502 details)

/-- The answer follows from the last record and the records before it. -/
inductive Verdict (before : Finset String) (past : List RequestRecord) :
    RequestRecord → Except FailoverFailure Unit → Prop
  | served {id} : Verdict before past (.attempted id .served) (.ok ())
  | transport {id error} (h : shouldFailoverFailureClass error.failure = false) :
      Verdict before past (.attempted id (.executionFailed error)) (.error (.transport error))
  | refresh {id failure} (h : shouldFailoverFailureClass failure.failure = false) :
      Verdict before past (.attempted id (.refreshFailed failure)) (.error (.refresh failure))
  | vanished {id} : Verdict before past (.attempted id .vanished) (.error (unknownAccount id))
  | exhausted {store now tried failure} (hbefore : before ⊆ tried)
      (htried : ∀ id ∈ tried, id ∈ before ∨ Failed past id)
      (hnone : ∀ id ∈ store.eligibleIds now ∅, id ∈ tried)
      (hverdict : PoolVerdict past store now tried failure) :
      Verdict before past (.refused store now) (.error failure)

/-- The request went on behind it. -/
def GoesOn : RequestRecord → Prop
  | .attempted _ outcome => outcome.retryable = true
  | .refused _ _ => False

/-! ## The variables of the loops and the records -/

/-- The variables of a request that has no answer yet say what its records say. -/
structure Pending (before : Finset String) (history : List RequestRecord) (run : FailoverRun) :
    Prop where
  goesOn : ∀ record ∈ history, GoesOn record
  excluded : before ⊆ run.triedAccounts
  tried : ∀ id ∈ run.triedAccounts, id ∈ before ∨ Failed history id
  forced : ∀ id ∈ run.forcedRefreshAttempted, 0 < history.countP (isRejection id)
  decodeFailed : ∀ id ∈ run.decodeFailedAccounts, Undecoded history id
  lastDecode : ∀ details, run.lastDecodeFailure = some details →
    ∃ id, .attempted id (.undecoded details) ∈ history
  candidate : ∀ summary, run.lastPoolSummaryCandidate = some summary →
    summary = ⟨.authInvalid, none, none⟩ ∧ ∃ id failure,
      .attempted id (.refreshFailed failure) ∈ history ∧ failure.failure = .authInvalid

/-- A request with an answer: its last record, and the records before it. -/
def Answered (before : Finset String) (history : List RequestRecord)
    (result : Except FailoverFailure Unit) : Prop :=
  ∃ past last, history = past ++ [last] ∧ (∀ record ∈ past, GoesOn record) ∧
    Verdict before past last result

/-- The stages of an account that is given up hold an invalid token. -/
def Stage.HoldsInvalid : Stage → Prop
  | .preparing failure | .trashing failure | .noting failure _ | .finalizing failure =>
    failure.failure = .authInvalid
  | _ => True

def Accountable (before : Finset String) (history : List RequestRecord) (run : FailoverRun) :
    RequestPc → Prop
  | .finished result => Answered before history result
  | .dropped => True
  | .selected _ stage => Pending before history run ∧ stage.HoldsInvalid
  | .starting | .selecting => Pending before history run

section

variable {config : Config} {view : View} {run run' : FailoverRun} {pc : RequestPc} {input : Input}
  {next : Resumption} {before : Finset String} {history : List RequestRecord} {id : String}
  {outcome : AttemptOutcome} {record : RequestRecord}

theorem Failed.mono (h : Failed history id) (more : List RequestRecord) :
    Failed (history ++ more) id := by
  obtain ⟨outcome, hmem, hretryable, hcount⟩ := h
  refine ⟨outcome, List.mem_append_left _ hmem, hretryable, fun hrejected => ?_⟩
  rw [List.countP_append]
  exact (hcount hrejected).trans (Nat.le_add_right _ _)

theorem Undecoded.mono (h : Undecoded history id) (more : List RequestRecord) :
    Undecoded (history ++ more) id := by
  obtain ⟨details, hmem⟩ := h
  exact ⟨details, List.mem_append_left _ hmem⟩

namespace Pending

/-- One more record, with the variables as they were. -/
theorem add (h : Pending before history run) (hgoesOn : GoesOn record) :
    Pending before (history ++ [record]) run where
  goesOn record' hmem := by
    rcases List.mem_append.mp hmem with hmem | hmem
    · exact h.goesOn record' hmem
    · rw [List.mem_singleton.mp hmem]
      exact hgoesOn
  excluded := h.excluded
  tried id hid := (h.tried id hid).imp_right fun hfailed => hfailed.mono _
  forced id hid := by
    rw [List.countP_append]
    exact Nat.lt_of_lt_of_le (h.forced id hid) (Nat.le_add_right _ _)
  decodeFailed id hid := (h.decodeFailed id hid).mono _
  lastDecode details hdetails := by
    obtain ⟨id, hmem⟩ := h.lastDecode details hdetails
    exact ⟨id, List.mem_append_left _ hmem⟩
  candidate summary hsummary := by
    obtain ⟨hsame, id, failure, hmem, hinvalid⟩ := h.candidate summary hsummary
    exact ⟨hsame, id, failure, List.mem_append_left _ hmem, hinvalid⟩

/-- The account of the last record is excluded from then on. -/
theorem tries (h : Pending before history run) (hfailed : Failed history id) :
    Pending before history (run.tries id) where
  goesOn := h.goesOn
  excluded := h.excluded.trans (Finset.subset_insert _ _)
  tried id' hid' := by
    rcases Finset.mem_insert.mp hid' with rfl | hmem
    · exact .inr hfailed
    · exact h.tried id' hmem
  forced := h.forced
  decodeFailed := h.decodeFailed
  lastDecode := h.lastDecode
  candidate := h.candidate

/-- An attempt that excludes its account, for any reason but its access token. -/
theorem fails (h : Pending before history run) (id : String)
    (hretryable : outcome.retryable = true) (haccepted : outcome.rejected = false) :
    Pending before (history ++ [.attempted id outcome]) (run.tries id) :=
  (h.add (show GoesOn (.attempted id outcome) from hretryable)).tries
    ⟨outcome, by simp, hretryable, fun h => by rw [haccepted] at h; cases h⟩

theorem enter (h : Pending before history run) (policy : RoutingPolicy) :
    Pending before history
      { run with
        routingPolicy := policy, forcedRefreshAttempted := ∅,
        lastPoolSummaryCandidate := none } where
  goesOn := h.goesOn
  excluded := h.excluded
  tried := h.tried
  forced id hid := absurd hid (Finset.notMem_empty id)
  decodeFailed := h.decodeFailed
  lastDecode := h.lastDecode
  candidate _ hsummary := nomatch hsummary

end Pending

theorem Pending.ends (h : Pending before history run) {result : Except FailoverFailure Unit}
    (hverdict : Verdict before history record result) :
    Answered before (history ++ [record]) result := ⟨history, record, rfl, h.goesOn, hverdict⟩

/-! ## One resumption -/

/-- A failure that is settled sends the request on, if settling it does not panic. -/
theorem accountable_settleFailure {store : AccountStore} {ops : List StoreOp} {details : String}
    {failure : FailureClass} {retryAfter : Option StdDuration}
    (h : Accountable before history run pc) :
    Accountable before history
      (settleFailure view store run pc ops id failure retryAfter details).run
      (settleFailure view store run pc ops id failure retryAfter details).pc := by
  unfold settleFailure
  dsimp only
  split
  · exact h
  · trivial

/-- An error that is not about the pool is the answer of every caller. -/
theorem fails_eq {failure : FailoverFailure} (hpool : ∀ summary, failure ≠ .poolBlocked summary) :
    run.fails failure = .finished (.error failure) := by
  have hinner : resolveInnerFailure run failure = failure := by
    unfold resolveInnerFailure
    split
    next => exact absurd rfl (hpool _)
    next => rfl
  unfold FailoverRun.fails
  rw [hinner]
  cases run.caller <;> rfl

/-- What is told of a pool that was summed up. -/
theorem poolVerdict_resolveSelectionFailure {store : AccountStore}
    (h : Pending before history run) :
    PoolVerdict history store view.now run.triedAccounts
      (resolveSelectionFailure view run .noEligibleAccount store) := by
  unfold resolveSelectionFailure
  dsimp only
  cases hsummary : store.summarizeSelectionFailure view.now run.triedAccounts with
  | some summary => exact .summary hsummary
  | none =>
    cases hcandidate : run.lastPoolSummaryCandidate with
    | none => exact .unavailable hsummary
    | some summary =>
      obtain ⟨rfl, id, failure, hmem, hinvalid⟩ := h.candidate summary hcandidate
      exact .authInvalid hsummary hmem hinvalid

/-- The JSON loops tell of the body instead, if no account has sent one that decodes. -/
theorem PoolVerdict.resolveInner {store : AccountStore} {now : Time} {failure : FailoverFailure}
    (hverdict : PoolVerdict history store now run.triedAccounts failure)
    (h : Pending before history run) :
    PoolVerdict history store now run.triedAccounts (resolveInnerFailure run failure) := by
  unfold resolveInnerFailure
  split
  next summary message hmessage =>
    split
    next hall =>
      obtain ⟨id, hmem⟩ := h.lastDecode message hmessage
      refine .undecoded hmem fun id hid => h.decodeFailed id ?_
      rw [hall.2]
      exact hid
    next => exact hverdict
  next => exact hverdict

theorem answered_selecting {error : SelectionFailure} {store : AccountStore}
    (h : Pending before history run)
    (hselect : view.store.selectAccount view.now run.routingPolicy config.refreshSkewSeconds
      run.triedAccounts = (.error error, store)) :
    Accountable before (history ++ [.refused
        ((view.store.refreshExpiredBlocks view.now).refreshExpiredBlocks view.now) view.now]) run
      (run.fails (resolveSelectionFailure view run error
        (store.refreshExpiredBlocks view.now))) := by
  have hnoEligible := @AccountStore.error_of_selectedId? view.store view.now run.routingPolicy
    config.refreshSkewSeconds run.triedAccounts (by rw [hselect]; rfl)
  rw [hselect] at hnoEligible
  obtain rfl : error = .noEligibleAccount := Except.error.inj hnoEligible
  obtain ⟨rfl, hempty⟩ := AccountStore.eligibleIds_of_failed hselect
  set swept := (view.store.refreshExpiredBlocks view.now).refreshExpiredBlocks view.now
  have hverdict : PoolVerdict history swept view.now run.triedAccounts
      (resolveSelectionFailure view run .noEligibleAccount swept) :=
    poolVerdict_resolveSelectionFailure h
  refine h.ends (.exhausted h.excluded h.tried (fun id hid => ?_) ?_)
  · by_contra huntried
    obtain ⟨record, hrecord, heligible, -⟩ := AccountStore.mem_eligibleIds.mp hid
    have hmem := AccountStore.mem_eligibleIds.mpr ⟨record, hrecord, heligible, huntried⟩
    rw [hempty] at hmem
    exact Finset.notMem_empty id hmem
  · cases run.caller with
    | jsonLoop => exact hverdict.resolveInner h
    | releaseImmediately | holdUntilCaller => exact hverdict

theorem accountable_resumeFailingRefresh {selection : AccountSelection} {failure : RefreshFailure}
    (h : Pending before history run) :
    let next := resumeFailingRefresh view run selection failure
    Accountable before
      (history ++ [.attempted selection.accountId (.refreshFailed failure)]) next.run next.pc := by
  unfold resumeFailingRefresh
  dsimp only
  split
  next hretryable =>
    have hfails := h.fails selection.accountId (show AttemptOutcome.retryable
      (.refreshFailed failure) = true from hretryable) rfl
    exact accountable_settleFailure (show Accountable _ _ _ .selecting from hfails)
  next hfinal =>
    refine accountable_settleFailure ?_
    rw [fails_eq (by simp)]
    exact h.ends (.refresh (by simpa using hfinal))

/-- A first rejection of the access token forces a refresh, a second one excludes the account. -/
theorem accountable_resumeExecuteFailed {selection : AccountSelection} {error : TransportError}
    (h : Pending before history run) :
    let next := resumeExecuteFailed view run selection error
    Accountable before
      (history ++ [.attempted selection.accountId (.executionFailed error)]) next.run next.pc := by
  unfold resumeExecuteFailed
  dsimp only
  split
  next hrejected =>
    have hretryable : AttemptOutcome.retryable (.executionFailed error) = true := by
      simp [AttemptOutcome.retryable, hrejected, shouldFailoverFailureClass]
    have hrejection : AttemptOutcome.rejected (.executionFailed error) = true := by
      simp [AttemptOutcome.rejected, hrejected]
    have hadd := h.add (show GoesOn (.attempted selection.accountId (.executionFailed error)) from
      hretryable)
    have hcount :
        (history ++ [RequestRecord.attempted selection.accountId (.executionFailed error)]).countP
        (isRejection selection.accountId) =
          history.countP (isRejection selection.accountId) + 1 := by
      simp [isRejection, hrejection]
    split
    next hforced =>
      have hbefore := h.forced _ hforced
      have htries : Pending before _ (run.tries selection.accountId) := hadd.tries
        ⟨.executionFailed error, by simp, hretryable, fun _ => by omega⟩
      exact accountable_settleFailure (show Accountable _ _ _ .selecting from htries)
    next hfirst =>
      show Pending before _ _
      exact {
        goesOn := hadd.goesOn
        excluded := hadd.excluded
        tried := hadd.tried
        forced := fun id hid => by
          rcases Finset.mem_insert.mp hid with rfl | hmem
          · omega
          · exact hadd.forced id hmem
        decodeFailed := hadd.decodeFailed
        lastDecode := hadd.lastDecode
        candidate := hadd.candidate }
  next haccepted =>
    have hnot : AttemptOutcome.rejected (.executionFailed error) = false := by
      simpa [AttemptOutcome.rejected] using haccepted
    split
    next hretryable =>
      have hfails := h.fails selection.accountId (show AttemptOutcome.retryable
        (.executionFailed error) = true from hretryable) hnot
      exact accountable_settleFailure (show Accountable _ _ _ .selecting from hfails)
    next hfinal =>
      refine accountable_settleFailure ?_
      rw [fails_eq (by simp)]
      exact h.ends (.transport (by simpa using hfinal))

theorem accountable_resumeUndecoded {selection : AccountSelection} {details : String}
    (h : Pending before history run) :
    let next := resumeUndecoded view run selection details
    Accountable before
      (history ++ [.attempted selection.accountId (.undecoded details)]) next.run next.pc := by
  have hfails := h.fails selection.accountId (show AttemptOutcome.retryable
    (.undecoded details) = true from rfl) rfl
  unfold resumeUndecoded
  refine accountable_settleFailure (show Accountable _ _ _ .starting from ?_)
  exact {
    goesOn := hfails.goesOn
    excluded := hfails.excluded
    tried := hfails.tried
    forced := hfails.forced
    decodeFailed := fun id hid => by
      rcases Finset.mem_insert.mp hid with rfl | hmem
      · exact ⟨details, by simp⟩
      · exact hfails.decodeFailed id hmem
    lastDecode := fun details' hdetails => by
      obtain rfl := Option.some.inj hdetails
      exact ⟨selection.accountId, by simp⟩
    candidate := hfails.candidate }

/-- The account of an invalid token is excluded, and told of if nothing else is. -/
theorem accountable_afterAuthInvalid {selection : AccountSelection} {failure : RefreshFailure}
    (h : Pending before history run) (hinvalid : failure.failure = .authInvalid) :
    Pending before (history ++ [.attempted selection.accountId (.refreshFailed failure)])
      (afterAuthInvalid run selection) := by
  have hretryable : AttemptOutcome.retryable (.refreshFailed failure) = true := by
    simp [AttemptOutcome.retryable, hinvalid, shouldFailoverFailureClass]
  have hfails := h.fails selection.accountId hretryable rfl
  exact {
    goesOn := hfails.goesOn
    excluded := hfails.excluded
    tried := hfails.tried
    forced := hfails.forced
    decodeFailed := hfails.decodeFailed
    lastDecode := hfails.lastDecode
    candidate := fun summary hsummary => by
      obtain rfl := Option.some.inj hsummary
      exact ⟨rfl, selection.accountId, failure, by simp, hinvalid⟩ }

theorem recordOf_unselected {selection : AccountSelection} {stage : Stage}
    (hpc : pc.unselected = true) (houtcome : stage.outcome? pc = some outcome) :
    (recordOf view (.selected selection stage) pc).toList =
      [.attempted selection.accountId outcome] := by
  simp [recordOf, hpc, houtcome]

/-- Between two stages there is nothing to tell. -/
theorem accountable_stay {selection : AccountSelection} {stage stage' : Stage}
    (h : Pending before history run) (hstage : stage'.HoldsInvalid) :
    Accountable before (history ++ (recordOf view (.selected selection stage)
      (.selected selection stage')).toList) run (.selected selection stage') := by
  rw [show recordOf view (.selected selection stage) (.selected selection stage') = none from rfl,
    Option.toList_none, List.append_nil]
  exact ⟨h, hstage⟩

/-- The account was deleted, which every caller is told. -/
theorem accountable_vanished {selection : AccountSelection} {stage : Stage}
    (h : Pending before history run)
    (houtcome : ∀ result, stage.outcome? (.finished result) = some .vanished) :
    Accountable before (history ++ (recordOf view (.selected selection stage)
      (run.fails (unknownAccount selection.accountId))).toList) run
      (run.fails (unknownAccount selection.accountId)) := by
  rw [fails_eq (by simp [unknownAccount]), recordOf_unselected rfl (houtcome _)]
  exact h.ends .vanished

theorem accountable_resumeStage {selection : AccountSelection} {stage : Stage}
    (h : Pending before history run) (hstage : stage.HoldsInvalid)
    (hnext : resumeStage config view run selection stage input = some next) :
    Accountable before (history ++ (recordOf view (.selected selection stage) next.pc).toList)
      next.run next.pc := by
  cases stage with
  | failingRefresh failure =>
    cases input with
    | scheduled =>
      have hpc : next.pc.unselected = true := by cases resumeStage_step hnext; assumption
      rw [recordOf_unselected hpc rfl]
      obtain rfl := Option.some.inj hnext
      exact accountable_resumeFailingRefresh h
    | _ => cases hnext
  | executeFailed error =>
    cases input with
    | scheduled =>
      have hpc : next.pc.unselected = true := by
        cases resumeStage_step hnext <;> first | rfl | assumption
      rw [recordOf_unselected hpc rfl]
      obtain rfl := Option.some.inj hnext
      exact accountable_resumeExecuteFailed h
    | _ => cases hnext
  | undecoded details =>
    cases input with
    | scheduled =>
      have hpc : next.pc.unselected = true := by cases resumeStage_step hnext; assumption
      rw [recordOf_unselected hpc rfl]
      obtain rfl := Option.some.inj hnext
      exact accountable_resumeUndecoded h
    | _ => cases hnext
  | answered result =>
    cases resumeStage_step hnext with
    | askCommit => exact accountable_stay h trivial
    | askPrepare hinvalid => exact accountable_stay h hinvalid
    | refuse => exact accountable_stay h trivial
  | preparing failure =>
    cases input with
    | scheduled =>
      simp only [resumeStage, resumePreparing] at hnext
      split at hnext
      · split at hnext
        · obtain rfl := Option.some.inj hnext
          exact accountable_vanished h fun _ => rfl
        · obtain rfl := Option.some.inj hnext
          exact accountable_stay h hstage
        · obtain rfl := Option.some.inj hnext
          exact accountable_stay h hstage
      · cases hnext
    | _ => cases hnext
  | trashing failure =>
    cases resumeStage_step hnext with
    | trashed => exact accountable_stay h hstage
    | untrashed => exact accountable_stay h hstage
  | noting failure error =>
    cases input with
    | scheduled =>
      obtain rfl := Option.some.inj hnext
      exact accountable_afterAuthInvalid h hstage
    | _ => cases hnext
  | finalizing failure =>
    cases input with
    | scheduled =>
      simp only [resumeStage] at hnext
      split at hnext
      · obtain rfl := Option.some.inj hnext
        exact accountable_vanished h fun _ => rfl
      · obtain rfl := Option.some.inj hnext
        exact accountable_afterAuthInvalid h hstage
    | _ => cases hnext
  | abandoning =>
    cases input with
    | scheduled =>
      obtain rfl := Option.some.inj hnext
      exact accountable_vanished h fun _ => rfl
    | _ => cases hnext
  | missingToken | missingRecord =>
    cases input with
    | scheduled =>
      obtain rfl := Option.some.inj hnext
      exact h.fails _ rfl rfl
    | _ => cases hnext
  | succeeded | settling =>
    cases resumeStage_step hnext
    exact h.ends .served
  | executing account =>
    have hafter (decodeError : Option String) : (afterExecute run decodeError).HoldsInvalid := by
      unfold afterExecute
      split <;> trivial
    cases resumeStage_step hnext with
    | execute decodeError => exact accountable_stay h (hafter decodeError)
    | executeError error => exact accountable_stay h trivial
  | _ => cases resumeStage_step hnext <;> exact accountable_stay h trivial

theorem accountable_resumeRequest (h : Accountable before history run pc)
    (hnext : resumeRequest config view run pc input = some next) :
    Accountable before (history ++ (recordOf view pc next.pc).toList) next.run next.pc := by
  cases pc with
  | starting =>
    cases input with
    | scheduled =>
      obtain rfl := Option.some.inj hnext
      rw [show recordOf view .starting .selecting = none from rfl, Option.toList_none,
        List.append_nil]
      exact Pending.enter h view.routingPolicy
    | _ => cases hnext
  | selecting =>
    cases input with
    | scheduled =>
      obtain rfl := Option.some.inj hnext
      unfold resumeSelecting
      dsimp only
      split
      next selection store hselect =>
        refine (congrArg (Accountable before · run _) (List.append_nil history)).mpr ⟨h, ?_⟩
        split <;> trivial
      next error store hselect => exact answered_selecting h hselect
    | _ => cases hnext
  | selected selection stage => exact accountable_resumeStage h.1 h.2 hnext
  | finished | dropped => cases hnext

theorem accountable_runRequest (script : List (View × Input))
    (h : Accountable before history run pc) :
    Accountable before (history ++ requestHistory config run pc script)
      (runRequest config run pc script).1 (runRequest config run pc script).2 := by
  induction script generalizing history run pc with
  | nil =>
    rw [requestHistory, List.append_nil]
    exact h
  | cons entry script ih =>
    obtain ⟨view, input⟩ := entry
    simp only [runRequest, requestHistory]
    cases hnext : resumeRequest config view run pc input with
    | none => exact ih h
    | some next =>
      rw [← List.append_assoc]
      exact ih (accountable_resumeRequest h hnext)

end

theorem pending_new (caller : Caller) (before : Finset String) :
    Pending before [] (.new caller before) where
  goesOn _ hmem := nomatch hmem
  excluded := subset_rfl
  tried _ hid := .inl hid
  forced id hid := absurd hid (Finset.notMem_empty id)
  decodeFailed id hid := absurd hid (Finset.notMem_empty id)
  lastDecode _ hdetails := nomatch hdetails
  candidate _ hsummary := nomatch hsummary

/-- Whatever becomes of the accounts meanwhile: a request that is answered has gone on behind
failures that allow for another account, and its answer follows from its last attempt, or from
a selection that found no account. Then every account that could be selected was excluded by
the caller or has failed the request, and one whose access token was rejected has failed it
twice. -/
theorem answer_justified (config : Config) (caller : Caller) (before : Finset String)
    (script : List (View × Input)) {result : Except FailoverFailure Unit}
    (hfinished : (runRequest config (.new caller before) .starting script).2 = .finished result) :
    Answered before (requestHistory config (.new caller before) .starting script) result := by
  have h : Accountable before ([] ++ requestHistory config (.new caller before) .starting script)
      _ (runRequest config (.new caller before) .starting script).2 :=
    accountable_runRequest script (show Accountable before [] _ .starting from
      pending_new caller before)
  rw [hfinished, List.nil_append] at h
  exact h

/-- The access token of the one account is rejected twice. -/
theorem answer_justified_rejected :
    Answered ∅
      (requestHistory Gateway.exampleConfig (.new .releaseImmediately ∅) .starting
        ((oneAccount, .scheduled) :: rejections.map fun input => (oneAccount, input)))
      (.error (.poolBlocked ⟨.temporarilyUnavailable, none, none⟩)) :=
  answer_justified Gateway.exampleConfig .releaseImmediately ∅
    ((oneAccount, .scheduled) :: rejections.map fun input => (oneAccount, input)) (by rfl)

end Codaze.Failover
