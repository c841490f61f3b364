import Codaze.Failover.Gateway

/-!
# The resumptions of requests and account calls

Every resumption is one of the steps below, with what it found in the store. Invariants of
the gateway are proved by cases on them.
-/
namespace Codaze.Failover
open Foundation Accounts

/-- The request holds no selection. -/
def RequestPc.unselected : RequestPc → Bool
  | selected _ _ => false
  | _ => true

section request

variable (config : Config) (view : View) (run : FailoverRun)

/-- One resumption of a request. A failure ends the request or sends it back to selecting. -/
inductive RequestStep : RequestPc → Input → Resumption → Prop
  | start {run'} : RequestStep .starting .scheduled ⟨run', .selecting, [], .keep⟩
  | select {selection store}
      (h : view.store.selectAccount view.now run.routingPolicy config.refreshSkewSeconds
        run.triedAccounts = (.ok selection, store)) :
      RequestStep .selecting .scheduled ⟨run,
        .selected selection (if selection.needsRefresh then .refreshing else .readingAccount),
        [.select run.routingPolicy config.refreshSkewSeconds run.triedAccounts], .keep⟩
  | unselected {error store result}
      (h : view.store.selectAccount view.now run.routingPolicy config.refreshSkewSeconds
        run.triedAccounts = (.error error, store)) :
      RequestStep .selecting .scheduled ⟨run, .finished (.error result),
        [.select run.routingPolicy config.refreshSkewSeconds run.triedAccounts, .sweep], .keep⟩
  | reply {selection} (reply : RefreshReply) :
      RequestStep (.selected selection .refreshing) (.refreshReply reply)
        ⟨run, .selected selection (.answered (refreshAccessToken config.parsers reply)), [], .keep⟩
  | askCommit {selection refreshed} :
      RequestStep (.selected selection (.answered (.ok refreshed))) .scheduled
        ⟨run, .selected selection (.committing refreshed), [], .enqueue⟩
  | askPrepare {selection failure} (h : failure.failure = .authInvalid) :
      RequestStep (.selected selection (.answered (.error failure))) .scheduled
        ⟨run, .selected selection (.preparing failure), [], .enqueue⟩
  | refuse {selection failure} (h : failure.failure ≠ .authInvalid) :
      RequestStep (.selected selection (.answered (.error failure))) .scheduled
        ⟨run, .selected selection (.failingRefresh failure), [], .keep⟩
  | uncommitted {selection refreshed} (hlock : view.holdsDiskLock = true)
      (hnone : view.store.record? selection.accountId = none) :
      RequestStep (.selected selection (.committing refreshed)) .scheduled
        ⟨run, .selected selection .abandoning, [], .unlock⟩
  | commitDetached {selection refreshed record} (hlock : view.holdsDiskLock = true)
      (hrecord : view.store.record? selection.accountId = some record)
      (hdetached : record.detached = true) :
      RequestStep (.selected selection (.committing refreshed)) .scheduled
        ⟨run, .selected selection .readingAccount,
          [.refreshSuccess selection.accountId refreshed], .unlock⟩
  | commit {selection refreshed record} (hlock : view.holdsDiskLock = true)
      (hrecord : view.store.record? selection.accountId = some record)
      (hattached : record.detached = false) :
      RequestStep (.selected selection (.committing refreshed)) .scheduled
        ⟨run, .selected selection .persisting,
          [.refreshSuccess selection.accountId refreshed],
          .submit [.write record.filePath
            (accountFileFromRecord (refreshSuccessRecord view.now refreshed record))]⟩
  | persisted {selection result} (hresult : view.taskResult = some result) :
      RequestStep (.selected selection .persisting) .scheduled
        ⟨run, .selected selection .readingAccount, [], .unlock⟩
  | abandon {selection result} :
      RequestStep (.selected selection .abandoning) .scheduled
        ⟨run, .finished (.error result), [.release selection.accountId], .keep⟩
  | unprepared {selection failure result} (hlock : view.holdsDiskLock = true)
      (hnone : view.store.record? selection.accountId = none) :
      RequestStep (.selected selection (.preparing failure)) .scheduled
        ⟨run, .finished (.error result), [], .unlock⟩
  | prepareDetached {selection failure record} (hlock : view.holdsDiskLock = true)
      (hrecord : view.store.record? selection.accountId = some record)
      (hdetached : record.detached = true) :
      RequestStep (.selected selection (.preparing failure)) .scheduled
        ⟨run, .selected selection (.finalizing failure),
          [.prepareAuthInvalid selection.accountId failure.details], .keep⟩
  | prepare {selection failure record} (hlock : view.holdsDiskLock = true)
      (hrecord : view.store.record? selection.accountId = some record)
      (hattached : record.detached = false) :
      RequestStep (.selected selection (.preparing failure)) .scheduled
        ⟨run, .selected selection (.trashing failure),
          [.prepareAuthInvalid selection.accountId failure.details],
          .submit [.moveToTrash record.filePath]⟩
  | trashed {selection failure} (hresult : view.taskResult = some (.ok ())) :
      RequestStep (.selected selection (.trashing failure)) .scheduled
        ⟨run, .selected selection (.finalizing failure), [], .keep⟩
  | untrashed {selection failure error} (hresult : view.taskResult = some (.error error)) :
      RequestStep (.selected selection (.trashing failure)) .scheduled
        ⟨run, .selected selection (.noting failure error), [], .keep⟩
  | note {selection failure error run'} :
      RequestStep (.selected selection (.noting failure error)) .scheduled
        ⟨run', .selecting, [.noteTrashFailure selection.accountId error], .unlock⟩
  | finalizeGone {selection failure result}
      (hnone : view.store.record? selection.accountId = none) :
      RequestStep (.selected selection (.finalizing failure)) .scheduled
        ⟨run, .finished (.error result), [], .unlock⟩
  | finalize {selection failure record run'}
      (hrecord : view.store.record? selection.accountId = some record) :
      RequestStep (.selected selection (.finalizing failure)) .scheduled
        ⟨run', .selecting, [.finalizeAuthInvalid selection.accountId], .unlock⟩
  | refreshFailed {selection failure run' pc'} (hpc : pc'.unselected = true) :
      RequestStep (.selected selection (.failingRefresh failure)) .scheduled
        ⟨run', pc', [.fail selection.accountId failure.failure failure.retryAfter
          failure.details], .keep⟩
  | read {selection account}
      (haccount : view.store.upstreamAccount selection.accountId = .ok account) :
      RequestStep (.selected selection .readingAccount) .scheduled
        ⟨run, .selected selection (.executing account), [], .keep⟩
  | readNoToken {selection}
      (herror : view.store.upstreamAccount selection.accountId = .error .missingAccessToken) :
      RequestStep (.selected selection .readingAccount) .scheduled
        ⟨run, .selected selection .missingToken, [], .keep⟩
  | readNoRecord {selection}
      (herror : view.store.upstreamAccount selection.accountId = .error .missingRecord) :
      RequestStep (.selected selection .readingAccount) .scheduled
        ⟨run, .selected selection .missingRecord, [], .keep⟩
  | missingToken {selection run'} :
      RequestStep (.selected selection .missingToken) .scheduled
        ⟨run', .selecting, [.invalidate selection.accountId, .release selection.accountId], .keep⟩
  | missingRecord {selection run'} :
      RequestStep (.selected selection .missingRecord) .scheduled
        ⟨run', .selecting, [.release selection.accountId], .keep⟩
  | execute {selection account} (decodeError : Option String) :
      RequestStep (.selected selection (.executing account)) (.executeResult (.ok decodeError))
        ⟨run, .selected selection (afterExecute run decodeError), [], .keep⟩
  | executeError {selection account} (error : TransportError) :
      RequestStep (.selected selection (.executing account)) (.executeResult (.error error))
        ⟨run, .selected selection (.executeFailed error), [], .keep⟩
  | reject {selection error run'} (hrejected : error.failure = .accessTokenRejected)
      (hfirst : selection.accountId ∉ run.forcedRefreshAttempted) :
      RequestStep (.selected selection (.executeFailed error)) .scheduled
        ⟨run', .selecting, [.invalidate selection.accountId, .release selection.accountId], .keep⟩
  | rejectAgain {selection error run' pc'} (hrejected : error.failure = .accessTokenRejected)
      (hagain : selection.accountId ∈ run.forcedRefreshAttempted)
      (hpc : pc'.unselected = true) :
      RequestStep (.selected selection (.executeFailed error)) .scheduled
        ⟨run', pc', [.invalidate selection.accountId, .fail selection.accountId error.failure
          error.retryAfter error.details], .keep⟩
  | fail {selection error run' pc'} (hrejected : error.failure ≠ .accessTokenRejected)
      (hpc : pc'.unselected = true) :
      RequestStep (.selected selection (.executeFailed error)) .scheduled
        ⟨run', pc', [.fail selection.accountId error.failure error.retryAfter error.details],
          .keep⟩
  | succeed {selection} :
      RequestStep (.selected selection .succeeded) .scheduled
        ⟨run, .finished (.ok ()), [.markSuccess selection.accountId], .keep⟩
  | undecode {selection details run' pc'} (hpc : pc'.unselected = true) :
      RequestStep (.selected selection (.undecoded details)) .scheduled
        ⟨run', pc', [.fail selection.accountId .temporaryFailure none details], .keep⟩
  | spawnSettlement {selection} (settlement : AccountSettlement) :
      RequestStep (.selected selection .holding) (.settle settlement)
        ⟨run, .selected selection (.settling settlement), [], .keep⟩
  | settle {selection settlement} :
      RequestStep (.selected selection (.settling settlement)) .scheduled
        ⟨run, .finished (.ok ()), [settlement.op selection.accountId], .keep⟩

end request

variable {config : Config} {view : View} {run : FailoverRun}

/-- A failure goes on where it was sent, or the request is gone with a panic. -/
theorem settleFailure_cases {P : Resumption → Prop} {store : AccountStore} {run : FailoverRun}
    {pc : RequestPc} {before : List StoreOp} {id : String} {failure : FailureClass}
    {retryAfter : Option StdDuration} {details : String} (hpc : pc.unselected = true)
    (h : ∀ pc', pc'.unselected = true →
      P ⟨run, pc', before ++ [.fail id failure retryAfter details], .keep⟩) :
    P (settleFailure view store run pc before id failure retryAfter details) := by
  unfold settleFailure
  split
  · exact h pc hpc
  · exact h .dropped rfl

theorem resumeStage_step {selection : AccountSelection} {stage : Stage} {input : Input}
    {next : Resumption} (h : resumeStage config view run selection stage input = some next) :
    RequestStep config view run (.selected selection stage) input next := by
  cases stage with
  | refreshing =>
    cases input with
    | refreshReply reply => obtain rfl := Option.some.inj h; exact .reply reply
    | _ => cases h
  | answered result =>
    cases input with
    | scheduled =>
      obtain rfl := Option.some.inj h
      unfold resumeAnswered
      split
      next => exact .askCommit
      next =>
        split
        next hinvalid => exact .askPrepare hinvalid
        next hvalid => exact .refuse hvalid
    | _ => cases h
  | committing refreshed =>
    cases input with
    | scheduled =>
      simp only [resumeStage, Option.ite_none_right_eq_some, Option.some.injEq] at h
      obtain ⟨hlock, rfl⟩ := h
      unfold resumeCommitting AccountStore.finishRefreshSuccessWithoutPersist
      cases hrecord : view.store.record? selection.accountId with
      | none => exact .uncommitted hlock hrecord
      | some record =>
        obtain ⟨hpath, -, -, hdetached⟩ := refreshSuccessRecord_frame view.now refreshed record
        cases hbefore : record.detached with
        | true =>
          simp only [Option.map_some, hdetached, hbefore, if_true]
          exact .commitDetached hlock hrecord hbefore
        | false =>
          simp only [Option.map_some, hdetached, hbefore, Bool.false_eq_true, if_false, hpath]
          exact .commit hlock hrecord hbefore
    | _ => cases h
  | persisting =>
    cases input with
    | scheduled =>
      obtain ⟨result, hresult, rfl⟩ := Option.map_eq_some_iff.mp h
      exact .persisted hresult
    | _ => cases h
  | abandoning =>
    cases input with
    | scheduled => obtain rfl := Option.some.inj h; exact .abandon
    | _ => cases h
  | preparing failure =>
    cases input with
    | scheduled =>
      simp only [resumeStage, Option.ite_none_right_eq_some, Option.some.injEq] at h
      obtain ⟨hlock, rfl⟩ := h
      unfold resumePreparing AccountStore.prepareAuthInvalidFailure
      cases hrecord : view.store.record? selection.accountId with
      | none => exact .unprepared hlock hrecord
      | some record =>
        cases hbefore : record.detached with
        | true =>
          simp only [Option.map_some, hbefore, if_true]
          exact .prepareDetached hlock hrecord hbefore
        | false =>
          simp only [Option.map_some, hbefore, Bool.false_eq_true, if_false]
          exact .prepare hlock hrecord hbefore
    | _ => cases h
  | trashing failure =>
    cases input with
    | scheduled =>
      obtain ⟨result, hresult, rfl⟩ := Option.map_eq_some_iff.mp h
      cases result with
      | ok => exact .trashed hresult
      | error error => exact .untrashed hresult
    | _ => cases h
  | noting failure error =>
    cases input with
    | scheduled => obtain rfl := Option.some.inj h; exact .note
    | _ => cases h
  | finalizing failure =>
    cases input with
    | scheduled =>
      simp only [resumeStage, AccountStore.finalizeAuthInvalidFailure] at h
      cases hrecord : view.store.record? selection.accountId with
      | none =>
        simp only [hrecord, Option.map_none] at h
        obtain rfl := Option.some.inj h
        exact .finalizeGone hrecord
      | some record =>
        simp only [hrecord, Option.map_some] at h
        obtain rfl := Option.some.inj h
        exact .finalize hrecord
    | _ => cases h
  | failingRefresh failure =>
    cases input with
    | scheduled =>
      obtain rfl := Option.some.inj h
      unfold resumeFailingRefresh
      dsimp only
      split
      next =>
        exact settleFailure_cases (P := RequestStep config view run _ _) rfl
          fun pc' hpc => .refreshFailed hpc
      next =>
        exact settleFailure_cases (P := RequestStep config view run _ _) rfl
          fun pc' hpc => .refreshFailed hpc
    | _ => cases h
  | readingAccount =>
    cases input with
    | scheduled =>
      obtain rfl := Option.some.inj h
      cases haccount : view.store.upstreamAccount selection.accountId with
      | ok account => exact .read haccount
      | error error =>
        cases error with
        | missingAccessToken => exact .readNoToken haccount
        | missingRecord => exact .readNoRecord haccount
    | _ => cases h
  | missingToken =>
    cases input with
    | scheduled => obtain rfl := Option.some.inj h; exact .missingToken
    | _ => cases h
  | missingRecord =>
    cases input with
    | scheduled => obtain rfl := Option.some.inj h; exact .missingRecord
    | _ => cases h
  | executing account =>
    cases input with
    | executeResult result =>
      cases result with
      | error error => obtain rfl := Option.some.inj h; exact .executeError error
      | ok decodeError => obtain rfl := Option.some.inj h; exact .execute decodeError
    | _ => cases h
  | executeFailed error =>
    cases input with
    | scheduled =>
      obtain rfl := Option.some.inj h
      unfold resumeExecuteFailed
      dsimp only
      split
      next hrejected =>
        split
        next hagain =>
          exact settleFailure_cases (P := RequestStep config view run _ _) rfl
            fun pc' hpc => .rejectAgain hrejected hagain hpc
        next hfirst => exact .reject hrejected hfirst
      next hother =>
        split
        next =>
          exact settleFailure_cases (P := RequestStep config view run _ _) rfl
            fun pc' hpc => .fail hother hpc
        next =>
          exact settleFailure_cases (P := RequestStep config view run _ _) rfl
            fun pc' hpc => .fail hother hpc
    | _ => cases h
  | succeeded =>
    cases input with
    | scheduled => obtain rfl := Option.some.inj h; exact .succeed
    | _ => cases h
  | undecoded details =>
    cases input with
    | scheduled =>
      obtain rfl := Option.some.inj h
      exact settleFailure_cases (P := RequestStep config view run _ _) rfl
        fun pc' hpc => .undecode hpc
    | _ => cases h
  | holding =>
    cases input with
    | settle settlement => obtain rfl := Option.some.inj h; exact .spawnSettlement settlement
    | _ => cases h
  | settling settlement =>
    cases input with
    | scheduled => obtain rfl := Option.some.inj h; exact .settle
    | _ => cases h

/-- Every resumption of a request is one of the steps. -/
theorem resumeRequest_step {pc : RequestPc} {input : Input} {next : Resumption}
    (h : resumeRequest config view run pc input = some next) :
    RequestStep config view run pc input next := by
  cases pc with
  | starting =>
    cases input with
    | scheduled => obtain rfl := Option.some.inj h; exact .start
    | _ => cases h
  | selecting =>
    cases input with
    | scheduled =>
      obtain rfl := Option.some.inj h
      unfold resumeSelecting
      dsimp only
      split
      next hselect => exact .select hselect
      next hselect => exact .unselected hselect
    | _ => cases h
  | selected selection stage => exact resumeStage_step h
  | finished | dropped => cases h

section call

variable (config view)

/-- One resumption of an account call. -/
inductive CallStep : AccountCall → AccountCallPc → Input → AccountCallResumption → Prop
  | refuseImport {refreshToken label email} (hlock : view.holdsDiskLock = true) :
      CallStep (.importAccount refreshToken label email) .preparing .scheduled
        ⟨.finished, [], .unlock⟩
  | planImport {refreshToken label email plan} (hlock : view.holdsDiskLock = true)
      (hplan : view.store.prepareImportAccount config.stableAccountId refreshToken label email =
        some plan) (hdisk : plan.diskOp = none) :
      CallStep (.importAccount refreshToken label email) .preparing .scheduled
        ⟨.applying (.importAccount plan), [], .keep⟩
  | writeImport {refreshToken label email plan diskOp} (hlock : view.holdsDiskLock = true)
      (hplan : view.store.prepareImportAccount config.stableAccountId refreshToken label email =
        some plan) (hdisk : plan.diskOp = some diskOp) :
      CallStep (.importAccount refreshToken label email) .preparing .scheduled
        ⟨.running (.importAccount plan), [], .submit [diskOp]⟩
  | refuseRemove {id} (hlock : view.holdsDiskLock = true)
      (hnone : view.store.record? id = none) :
      CallStep (.removeAccount id) .preparing .scheduled ⟨.finished, [], .unlock⟩
  | planRemove {id record} (hlock : view.holdsDiskLock = true)
      (hrecord : view.store.record? id = some record) :
      CallStep (.removeAccount id) .preparing .scheduled
        ⟨.running (.removeAccount ⟨id, .remove record.filePath⟩), [],
          .submit [.remove record.filePath]⟩
  | lockRescan (hlock : view.holdsDiskLock = true) :
      CallStep .rescan .preparing .scheduled ⟨.scanning, [], .keep⟩
  | scan {accountCall} :
      CallStep accountCall .scanning .scheduled
        ⟨.planning (scanAccountsDir view.dir), [], .keep⟩
  | scanFailed {accountCall} :
      CallStep accountCall .scanning .scanFailed ⟨.finished, [], .unlock⟩
  | planFailed {accountCall snapshot} :
      CallStep accountCall (.planning snapshot) .scheduled ⟨.finished, [], .unlock⟩
  | planSync {accountCall snapshot plan}
      (hplan : view.store.buildDiskSyncPlan snapshot .rescan = some plan) :
      CallStep accountCall (.planning snapshot) .scheduled
        ⟨.running (.sync plan), [], .submit (AccountsDir.syncOps plan)⟩
  | ran {accountCall plan} (hresult : view.taskResult = some (.ok ())) :
      CallStep accountCall (.running plan) .scheduled ⟨.applying plan, [], .keep⟩
  | runFailed {accountCall plan error} (hresult : view.taskResult = some (.error error)) :
      CallStep accountCall (.running plan) .scheduled ⟨.finished, [], .unlock⟩
  | apply {accountCall plan} :
      CallStep accountCall (.applying plan) .scheduled ⟨.finished, [plan.op], .unlock⟩

end call

theorem resumeCall_step {accountCall : AccountCall} {pc : AccountCallPc} {input : Input}
    {next : AccountCallResumption} (h : resumeCall config view accountCall pc input = some next) :
    CallStep config view accountCall pc input next := by
  unfold resumeCall at h
  split at h
  next =>
    simp only [Option.ite_none_right_eq_some, Option.some.injEq] at h
    obtain ⟨hlock, rfl⟩ := h
    cases accountCall with
    | importAccount refreshToken label email =>
      simp only [prepareCall]
      split
      next => exact .refuseImport hlock
      next plan hplan =>
        split
        next hdisk => exact .planImport hlock hplan hdisk
        next diskOp hdisk => exact .writeImport hlock hplan hdisk
    | removeAccount id =>
      simp only [prepareCall, AccountStore.prepareRemoveAccount]
      cases hrecord : view.store.record? id with
      | none => exact .refuseRemove hlock hrecord
      | some record => exact .planRemove hlock hrecord
    | rescan => exact .lockRescan hlock
  next => obtain rfl := Option.some.inj h; exact .scan
  next => obtain rfl := Option.some.inj h; exact .scanFailed
  next =>
    obtain rfl := Option.some.inj h
    split
    next => exact .planFailed
    next plan hplan => exact .planSync hplan
  next =>
    obtain ⟨result, hresult, rfl⟩ := Option.map_eq_some_iff.mp h
    split
    next => exact .ran hresult
    next => exact .runFailed hresult
  next => obtain rfl := Option.some.inj h; exact .apply
  next => cases h

end Codaze.Failover
