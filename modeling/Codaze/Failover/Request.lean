import Codaze.Accounts.Operations
import Codaze.Failover.Refresh

/-!
# A request in the failover loop

`execute_with_failover_from_inner` and the loops around it, cut at their await points. A
request waits in a state of `RequestPc`; `resumeRequest` is the code from one await point
to the next, which sees the account store under its lock and hands back the operations it
performed on it and what it asked of the disk lock.
-/
namespace Codaze.Failover
open Foundation Accounts

structure Config where
  refreshSkewSeconds : ℤ
  parsers : TokenParsers
  /-- The first half of the SHA-256 digest of a token in hex. -/
  stableAccountId : String → String

/-- What becomes of a successful execution. -/
inductive Caller where
  /-- `SuccessDisposition::ReleaseImmediately`. -/
  | releaseImmediately
  /-- `SuccessDisposition::HoldUntilCaller`, for a response stream or a websocket. -/
  | holdUntilCaller
  /-- The loops of `execute_unary_json_with_failover_shaped` and `fetch_models_snapshot`. -/
  | jsonLoop
  deriving DecidableEq, Repr

inductive AccountSettlement where
  | success
  | release
  | failure (failureClass : FailureClass) (retryAfter : Option StdDuration) (details : String)
  deriving DecidableEq, Repr

/-- `apply_account_settlement`. -/
def AccountSettlement.op (accountId : String) : AccountSettlement → StoreOp
  | .success => .markSuccess accountId
  | .release => .release accountId
  | .failure failureClass retryAfter details => .fail accountId failureClass retryAfter details

/-- An upstream error with what `classify_request_error`, `extract_retry_after` and
`extract_failure_reason` make of it. -/
structure TransportError where
  failure : FailureClass
  retryAfter : Option StdDuration
  details : String
  deriving DecidableEq, Repr

inductive FailoverFailure where
  | refresh (failure : RefreshFailure)
  | transport (error : TransportError)
  | poolBlocked (summary : PoolBlockSummary)
  | internal (status : ℕ) (detail : String)
  deriving DecidableEq, Repr

/-- Where a request that has selected an account waits. -/
inductive Stage where
  /-- For the reply of `refresh_access_token`. -/
  | refreshing
  /-- Not at an await point: the reply is there, the disk lock is not yet asked for. -/
  | answered (result : Except RefreshFailure RefreshedAccount)
  /-- In `finish_refresh_success`: for the disk lock and the store, -/
  | committing (refreshed : RefreshedAccount)
  /-- for the account file. -/
  | persisting
  /-- To release the selection of an account that vanished. -/
  | abandoning
  /-- In `finish_refresh_failure` on an invalid token: for the disk lock and the store, -/
  | preparing (failure : RefreshFailure)
  /-- for the move to the trash, -/
  | trashing (failure : RefreshFailure)
  /-- for the store, to note that the move failed, -/
  | noting (failure : RefreshFailure) (error : String)
  /-- for the store, to detach the account. -/
  | finalizing (failure : RefreshFailure)
  /-- In `finish_refresh_failure` on any other class. -/
  | failingRefresh (failure : RefreshFailure)
  | readingAccount
  | missingToken
  | missingRecord
  | executing (account : UpstreamAccount)
  | executeFailed (error : TransportError)
  /-- To settle a success. -/
  | succeeded
  /-- To settle a body that does not decode. -/
  | undecoded (details : String)
  /-- The caller holds the selection. -/
  | holding
  /-- In the task of `spawn_account_settlement`. -/
  | settling (settlement : AccountSettlement)

inductive RequestPc where
  /-- For the routing policy. -/
  | starting
  | selecting
  | selected (selection : AccountSelection) (stage : Stage)
  | finished (result : Except FailoverFailure Unit)
  /-- The future was dropped, or it panicked. -/
  | dropped

/-- The variables of the loops. -/
structure FailoverRun where
  caller : Caller
  routingPolicy : RoutingPolicy
  triedAccounts : Finset String
  forcedRefreshAttempted : Finset String
  lastPoolSummaryCandidate : Option PoolBlockSummary
  decodeFailedAccounts : Finset String
  lastDecodeFailure : Option String

/-- What a resumed process finds. -/
structure View where
  store : AccountStore
  dir : AccountsDir
  now : Time
  routingPolicy : RoutingPolicy
  holdsDiskLock : Bool
  /-- The result of the file operation it waits for. -/
  taskResult : Option (Except String Unit)

inductive DiskAction where
  | keep
  /-- `account_disk_lock.lock()`. -/
  | enqueue
  /-- `spawn_blocking` with file operations. -/
  | submit (ops : List AccountDiskOp)
  /-- The guard goes out of scope. -/
  | unlock
  deriving DecidableEq, Repr

/-- What reaches a process at its await point. -/
inductive Input where
  /-- A lock, a channel or a blocking task. -/
  | scheduled
  | refreshReply (reply : RefreshReply)
  /-- The upstream response; for a JSON body also how decoding it fails. -/
  | executeResult (result : Except TransportError (Option String))
  /-- The outcome of the response stream or the websocket session. -/
  | settle (settlement : AccountSettlement)
  /-- Scanning the accounts directory failed. -/
  | scanFailed

structure Resumption where
  run : FailoverRun
  pc : RequestPc
  ops : List StoreOp
  disk : DiskAction

def shouldFailoverFailureClass : FailureClass → Bool
  | .accessTokenRejected | .authInvalid | .rateLimited | .quotaExhausted | .riskControlled
  | .temporaryFailure => true
  | .requestRejected | .internalFailure => false

/-- `resolve_selection_failure`, on the store after its sweep. -/
def resolveSelectionFailure (view : View) (run : FailoverRun) (error : SelectionFailure)
    (swept : AccountStore) : FailoverFailure :=
  match error with
  | .internal => .internal 500 "selected account disappeared"
  | .noEligibleAccount =>
    match swept.summarizeSelectionFailure view.now run.triedAccounts with
    | some summary => .poolBlocked summary
    | none => .poolBlocked (run.lastPoolSummaryCandidate.getD
        { blockedReason := .temporarilyUnavailable, blockedUntil := none, retryAfter := none })

/-- What the JSON loops make of an error of the inner loop. -/
def resolveInnerFailure (run : FailoverRun) (failure : FailoverFailure) : FailoverFailure :=
  match failure, run.lastDecodeFailure with
  | .poolBlocked summary, some message =>
    if run.decodeFailedAccounts.Nonempty ∧ run.decodeFailedAccounts = run.triedAccounts then
      .internal 502 message
    else .poolBlocked summary
  | _, _ => failure

/-- The request after an error of the inner loop. -/
def FailoverRun.fails (run : FailoverRun) (failure : FailoverFailure) : RequestPc :=
  .finished (.error (match run.caller with
    | .jsonLoop => resolveInnerFailure run failure
    | _ => failure))

def FailoverRun.tries (run : FailoverRun) (accountId : String) : FailoverRun :=
  { run with triedAccounts := insert accountId run.triedAccounts }

def unknownAccount (accountId : String) : FailoverFailure :=
  .internal 500 ("unknown account " ++ accountId)

/-- The `details` of `apply_refresh_failure`. -/
def RefreshFailure.details (failure : RefreshFailure) : String :=
  "refresh failed: status=" ++ failure.status ++ " body=" ++ failure.body

/-- Applies a failure and goes on unless computing the block panics, which unwinds the request. -/
def settleFailure (view : View) (store : AccountStore) (run : FailoverRun) (pc : RequestPc)
    (before : List StoreOp) (accountId : String) (failure : FailureClass)
    (retryAfter : Option StdDuration) (details : String) : Resumption where
  run := run
  pc := match store.markRequestFailure view.now accountId failure retryAfter details with
    | .returned _ => pc
    | .panicked _ => .dropped
  ops := before ++ [.fail accountId failure retryAfter details]
  disk := .keep

def resumeSelecting (config : Config) (view : View) (run : FailoverRun) : Resumption :=
  let select := .select run.routingPolicy config.refreshSkewSeconds run.triedAccounts
  match view.store.selectAccount view.now run.routingPolicy config.refreshSkewSeconds
      run.triedAccounts with
  | (.ok selection, _) => {
      run
      pc := .selected selection (if selection.needsRefresh then .refreshing else .readingAccount)
      ops := [select]
      disk := .keep }
  | (.error error, store) => {
      run
      pc := run.fails
        (resolveSelectionFailure view run error (store.refreshExpiredBlocks view.now))
      ops := [select, .sweep]
      disk := .keep }

/-- The first step after `refresh_access_token` returned. -/
def resumeAnswered (run : FailoverRun) (selection : AccountSelection) :
    Except RefreshFailure RefreshedAccount → Resumption
  | .ok refreshed =>
    { run, pc := .selected selection (.committing refreshed), ops := [], disk := .enqueue }
  | .error failure =>
    if failure.failure = .authInvalid then
      { run, pc := .selected selection (.preparing failure), ops := [], disk := .enqueue }
    else { run, pc := .selected selection (.failingRefresh failure), ops := [], disk := .keep }

/-- `finish_refresh_success` with both locks, up to the file operation. -/
def resumeCommitting (view : View) (run : FailoverRun) (selection : AccountSelection)
    (refreshed : RefreshedAccount) : Resumption :=
  let commit := .refreshSuccess selection.accountId refreshed
  match view.store.finishRefreshSuccessWithoutPersist view.now selection.accountId refreshed with
  | none => { run, pc := .selected selection .abandoning, ops := [], disk := .unlock }
  | some (_, none) =>
    { run, pc := .selected selection .readingAccount, ops := [commit], disk := .unlock }
  | some (_, some persistOp) =>
    { run, pc := .selected selection .persisting, ops := [commit], disk := .submit [persistOp] }

/-- `finish_refresh_failure` on an invalid token, with both locks, up to the file operation. -/
def resumePreparing (view : View) (run : FailoverRun) (selection : AccountSelection)
    (failure : RefreshFailure) : Resumption :=
  let prepare := .prepareAuthInvalid selection.accountId failure.details
  match view.store.prepareAuthInvalidFailure view.now selection.accountId failure.details with
  | none =>
    { run, pc := run.fails (unknownAccount selection.accountId), ops := [], disk := .unlock }
  | some (_, none) =>
    { run, pc := .selected selection (.finalizing failure), ops := [prepare], disk := .keep }
  | some (_, some trashOp) =>
    { run, pc := .selected selection (.trashing failure), ops := [prepare],
      disk := .submit [trashOp] }

/-- The loop after `finish_refresh_failure` returned on an invalid token. -/
def afterAuthInvalid (run : FailoverRun) (selection : AccountSelection) : FailoverRun :=
  { run.tries selection.accountId with
    lastPoolSummaryCandidate := some
      { blockedReason := .authInvalid, blockedUntil := none, retryAfter := none } }

def resumeFailingRefresh (view : View) (run : FailoverRun) (selection : AccountSelection)
    (failure : RefreshFailure) : Resumption :=
  let settle := fun run pc => settleFailure view view.store run pc [] selection.accountId
    failure.failure failure.retryAfter failure.details
  if shouldFailoverFailureClass failure.failure then
    settle (run.tries selection.accountId) .selecting
  else settle run (run.fails (.refresh failure))

def resumeExecuteFailed (view : View) (run : FailoverRun) (selection : AccountSelection)
    (error : TransportError) : Resumption :=
  let id := selection.accountId
  match error.failure with
  | .accessTokenRejected =>
    if id ∈ run.forcedRefreshAttempted then
      settleFailure view (view.store.invalidateAccessToken view.now id) (run.tries id) .selecting
        [.invalidate id] id error.failure error.retryAfter error.details
    else
      { run := { run with forcedRefreshAttempted := insert id run.forcedRefreshAttempted }
        pc := .selecting, ops := [.invalidate id, .release id], disk := .keep }
  | _ =>
    let settle := fun run pc =>
      settleFailure view view.store run pc [] id error.failure error.retryAfter error.details
    if shouldFailoverFailureClass error.failure then settle (run.tries id) .selecting
    else settle run (run.fails (.transport error))

def resumeUndecoded (view : View) (run : FailoverRun) (selection : AccountSelection)
    (details : String) : Resumption :=
  let run := { run.tries selection.accountId with
    decodeFailedAccounts := insert selection.accountId run.decodeFailedAccounts
    lastDecodeFailure := some details }
  settleFailure view view.store run .starting [] selection.accountId .temporaryFailure none
    details

/-- A successful execution, by caller. -/
def afterExecute (run : FailoverRun) (decodeError : Option String) : Stage :=
  match run.caller, decodeError with
  | .releaseImmediately, _ => .succeeded
  | .holdUntilCaller, _ => .holding
  | .jsonLoop, none => .succeeded
  | .jsonLoop, some details => .undecoded details

/-- One resumption of a request that has selected an account; `none` where it stays asleep. -/
def resumeStage (config : Config) (view : View) (run : FailoverRun)
    (selection : AccountSelection) : Stage → Input → Option Resumption
  | .refreshing, .refreshReply reply =>
    some { run, pc := .selected selection (.answered (refreshAccessToken config.parsers reply))
           ops := [], disk := .keep }
  | .answered result, .scheduled => some (resumeAnswered run selection result)
  | .committing refreshed, .scheduled =>
    if view.holdsDiskLock then some (resumeCommitting view run selection refreshed) else none
  | .persisting, .scheduled =>
    -- A failed write is only a warning.
    view.taskResult.map fun _ =>
      { run, pc := .selected selection .readingAccount, ops := [], disk := .unlock }
  | .abandoning, .scheduled =>
    some { run, pc := run.fails (unknownAccount selection.accountId)
           ops := [.release selection.accountId], disk := .keep }
  | .preparing failure, .scheduled =>
    if view.holdsDiskLock then some (resumePreparing view run selection failure) else none
  | .trashing failure, .scheduled => view.taskResult.map fun
    | .ok () => { run, pc := .selected selection (.finalizing failure), ops := [], disk := .keep }
    | .error error =>
      { run, pc := .selected selection (.noting failure error), ops := [], disk := .keep }
  | .noting _ error, .scheduled =>
    some { run := afterAuthInvalid run selection, pc := .selecting
           ops := [.noteTrashFailure selection.accountId error], disk := .unlock }
  | .finalizing _, .scheduled =>
    match view.store.finalizeAuthInvalidFailure view.now selection.accountId with
    | none =>
      some { run, pc := run.fails (unknownAccount selection.accountId), ops := []
             disk := .unlock }
    | some _ =>
      some { run := afterAuthInvalid run selection, pc := .selecting
             ops := [.finalizeAuthInvalid selection.accountId], disk := .unlock }
  | .failingRefresh failure, .scheduled => some (resumeFailingRefresh view run selection failure)
  | .readingAccount, .scheduled =>
    let stage := match view.store.upstreamAccount selection.accountId with
      | .ok account => .executing account
      | .error .missingAccessToken => .missingToken
      | .error .missingRecord => .missingRecord
    some { run, pc := .selected selection stage, ops := [], disk := .keep }
  | .missingToken, .scheduled =>
    some { run := run.tries selection.accountId, pc := .selecting
           ops := [.invalidate selection.accountId, .release selection.accountId]
           disk := .keep }
  | .missingRecord, .scheduled =>
    some { run := run.tries selection.accountId, pc := .selecting
           ops := [.release selection.accountId], disk := .keep }
  | .executing _, .executeResult (.ok decodeError) =>
    some { run, pc := .selected selection (afterExecute run decodeError), ops := []
           disk := .keep }
  | .executing _, .executeResult (.error error) =>
    some { run, pc := .selected selection (.executeFailed error), ops := [], disk := .keep }
  | .executeFailed error, .scheduled => some (resumeExecuteFailed view run selection error)
  | .succeeded, .scheduled =>
    some { run, pc := .finished (.ok ()), ops := [.markSuccess selection.accountId]
           disk := .keep }
  | .undecoded details, .scheduled => some (resumeUndecoded view run selection details)
  | .holding, .settle settlement =>
    some { run, pc := .selected selection (.settling settlement), ops := [], disk := .keep }
  | .settling settlement, .scheduled =>
    some { run, pc := .finished (.ok ()), ops := [settlement.op selection.accountId]
           disk := .keep }
  | _, _ => none

def resumeRequest (config : Config) (view : View) (run : FailoverRun) :
    RequestPc → Input → Option Resumption
  | .starting, .scheduled =>
    some { run := { run with routingPolicy := view.routingPolicy, forcedRefreshAttempted := ∅,
                             lastPoolSummaryCandidate := none }
           pc := .selecting, ops := [], disk := .keep }
  | .selecting, .scheduled => some (resumeSelecting config view run)
  | .selected selection stage, input => resumeStage config view run selection stage input
  | _, _ => none

end Codaze.Failover
