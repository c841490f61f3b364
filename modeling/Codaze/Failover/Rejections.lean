import Codaze.Failover.Steps
import Codaze.Foundation.Indexed
import Codaze.Foundation.Provenance
import Codaze.Responses.ErrorSemantics

/-!
# What costs an account

An account is given up for good, and its file moved to the trash, once its tombstone is
set. The tombstone of every record is traced to one reply of the token endpoint, to a
request that asked it with a refresh token of the account, and the reply to what it says.
-/
namespace Codaze.Responses
open Foundation Accounts

def refreshBodyIndicatesInvalidToken (body : String) : Bool :=
  let lowered := toAsciiLowercase body
  contains lowered "refresh_token_expired" || contains lowered "invalid refresh token" ||
    contains lowered "could not validate your refresh token" ||
    contains lowered "\"invalid_grant\""

namespace Libraries

variable (libs : Libraries) (now : Time) (status : StatusCode) (headers : Option HeaderMap)
  (body : Option String)

/-- The `Display` of a status. -/
def statusText (status : StatusCode) : String :=
  toString status.code ++ " " ++ (libs.canonicalReason status).getD "<unknown status code>"

def analyzeRefreshHttp : UpstreamErrorSemantics :=
  let semantics := libs.analyzeError now
    { status, headers, body, unauthorizedFailure := .authInvalid }
  if semantics.failure = .requestRejected ∧ body.any refreshBodyIndicatesInvalidToken = true then
    { semantics with failure := .authInvalid }
  else semantics

/-- Only the status 401 depends on what an unauthorized request means. -/
theorem classifyError_eq {status : StatusCode} (h : status ≠ .unauthorized)
    (code errorType fallbackText : Option String) (unauthorized unauthorized' : FailureClass) :
    classifyError status code errorType fallbackText unauthorized =
      classifyError status code errorType fallbackText unauthorized' := by
  rw [classifyError, classifyError, if_neg h, if_neg h]

theorem classifyStructuredError_ne (code errorType : Option String) :
    classifyStructuredError code errorType ≠ some .authInvalid := by
  unfold classifyStructuredError
  split_ifs
  · simp
  · simp
  · split <;> simp

theorem classifyHttpFromStatusAndText_ne (status : StatusCode) (body : Option String) :
    classifyHttpFromStatusAndText status body ≠ .authInvalid := by
  unfold classifyHttpFromStatusAndText
  dsimp only
  split_ifs <;> simp

/-- No request makes an account invalid. -/
theorem analyzeRequestHttp_ne :
    (libs.analyzeRequestHttp now status headers body).failure ≠ .authInvalid := by
  simp only [analyzeRequestHttp, analyzeError, classifyError]
  split
  · simp
  · cases hstructured : classifyStructuredError _ _ with
    | none => exact classifyHttpFromStatusAndText_ne _ _
    | some failure =>
      intro hinvalid
      exact classifyStructuredError_ne _ _ (hstructured.trans (congrArg some hinvalid))

/-- A reply to a refresh makes an account invalid if it is a 401, or if a request with the
same reply were rejected and the body names an invalid token. -/
theorem analyzeRefreshHttp_authInvalid_iff :
    (libs.analyzeRefreshHttp now status headers body).failure = .authInvalid ↔
      status = .unauthorized ∨
        (libs.analyzeRequestHttp now status headers body).failure = .requestRejected ∧
          body.any refreshBodyIndicatesInvalidToken = true := by
  by_cases hstatus : status = .unauthorized
  · refine iff_of_true ?_ (.inl hstatus)
    simp [analyzeRefreshHttp, analyzeError, classifyError, hstatus]
  · have hsame : (libs.analyzeError now
        { status, headers, body, unauthorizedFailure := .authInvalid }).failure =
          (libs.analyzeRequestHttp now status headers body).failure :=
      classifyError_eq hstatus _ _ _ _ _
    have hne := libs.analyzeRequestHttp_ne now status headers body
    simp only [analyzeRefreshHttp, hsame, hstatus, false_or]
    split
    next hrejected => exact iff_of_true rfl hrejected
    next hother =>
      refine iff_of_false ?_ hother
      rw [hsame]
      exact hne

end Libraries

end Codaze.Responses

namespace Codaze.Accounts
open Foundation

/-- The accounts an operation gives up for good. -/
def StoreOp.entombs? : StoreOp → Option String
  | prepareAuthInvalid id _ | finalizeAuthInvalid id => some id
  | _ => none

theorem RecordChange.tombstone_eq {now : Time} {op : StoreOp} {r r' : AccountRecord}
    (hchange : RecordChange now op r r') (hop : op.entombs? ≠ some r.id) :
    r'.authInvalidTombstone = r.authInvalidTombstone := by
  cases hchange with
  | prepareAuthInvalid | finalizeAuthInvalid => exact absurd rfl hop
  | refreshSuccess => exact (refreshSuccessRecord_frame now _ r).2.2.1
  | updateMetadata | upsert | remove | retire => rfl
  | expire | expireBeforeSelect => exact (expireRecord_same now r).authInvalidTombstone
  | select => exact (selectRecord_same now _ r).authInvalidTombstone
  | wake | wakeAll =>
    exact ((applyWake_same r now).sameAccount (.refl r)).authInvalidTombstone
  | markSuccess => exact (markSuccessRecord_same now r).authInvalidTombstone
  | invalidate => exact (invalidateRecord_same now r).authInvalidTombstone
  | release => exact (releaseRecord_same now r).authInvalidTombstone
  | fail => exact (failRecord_same now _ _ _ r).authInvalidTombstone
  | noteTrashFailure => exact (noteTrashFailureRecord_same now _ r).authInvalidTombstone

/-- A tombstone was there before, or the operation set it. -/
theorem AccountStore.tombstone_apply {store : AccountStore} {now : Time} {op : StoreOp}
    {id : String} {r' : AccountRecord} (hr' : (store.apply now op).record? id = some r')
    (htombstone : r'.authInvalidTombstone = true) :
    (∃ r, store.record? id = some r ∧ r.authInvalidTombstone = true) ∨ op.entombs? = some id := by
  by_cases hop : op.entombs? = some id
  · exact .inr hop
  left
  rcases traced_apply hr' with ⟨r, hr, hchanges⟩ | ⟨-, upsert, -, rfl, hchanges⟩
  · have hsame := hchanges.invariant
      (P := fun s => s.id = id ∧ s.authInvalidTombstone = r.authInvalidTombstone)
      (fun s s' hchange hs => ⟨hchange.id_eq.trans hs.1,
        (hchange.tombstone_eq (hs.1 ▸ hop)).trans hs.2⟩) ⟨id_of_record? hr, rfl⟩
    exact ⟨r, hr, hsame.2.symm.trans htombstone⟩
  · have hsame := hchanges.invariant
      (P := fun s => s.id = upsert.id ∧ s.authInvalidTombstone = false)
      (fun s s' hchange hs => ⟨hchange.id_eq.trans hs.1,
        (hchange.tombstone_eq (hs.1 ▸ hop)).trans hs.2⟩) ⟨rfl, rfl⟩
    rw [hsame.2] at htombstone
    cases htombstone

end Codaze.Accounts

namespace Codaze.Failover
open Foundation Accounts

namespace Gateway

/-- What `refresh_access_token` makes of a reply outside 2xx. -/
def refreshRejection (libs : Responses.Libraries) (now : Time) (status : Responses.StatusCode)
    (headers : HeaderMap) (body : String) : RefreshFailure :=
  let semantics := libs.analyzeRefreshHttp now status (some headers) (some body)
  { status := libs.statusText status, body
    failure := semantics.failure, retryAfter := semantics.retryAfter }

/-- The gateway after a list of events, those that are not enabled left out. -/
def after (config : Config) (gateway : Gateway) (events : List Event) : Gateway :=
  stateAfter (step config) gateway events

section history

variable (config : Config) (start : Gateway)

/-- Something known of a process and the events so far that every resumption keeps. -/
structure ProcessTrace (K : List Event → ℕ → Process → Prop) : Prop where
  concat {history pid process} (event : Event) (h : K history pid process) :
    K (history ++ [event]) pid process
  spawnRequest {history pid caller triedAccounts} :
    K history pid (.request (.new caller triedAccounts) .starting)
  spawnCall {history pid call} : K history pid (.call call .preparing)
  resumeRequest {history pid run pc input next}
    (hprocess : (after config start history).processes[pid]? = some (.request run pc))
    (hstep : RequestStep config ((after config start history).view pid) run pc input next)
    (h : K history pid (.request run pc)) :
    K (history ++ [.resume pid input]) pid (.request next.run next.pc)
  resumeCall {history pid call pc input next}
    (hprocess : (after config start history).processes[pid]? = some (.call call pc))
    (hstep : CallStep config ((after config start history).view pid) call pc input next)
    (h : K history pid (.call call pc)) :
    K (history ++ [.resume pid input]) pid (.call call next.pc)
  afterDrop {history pid old new} (h : K history pid old) (hafter : old.afterDrop = some new) :
    K history pid new

/-- The request selected the account, with the refresh token the account had at that moment. -/
def Selected (pid : ℕ) (selection : AccountSelection) : List Event → Prop :=
  Happened fun past event => event = .resume pid .scheduled ∧ ∃ run store record,
    (after config start past).processes[pid]? = some (.request run .selecting) ∧
      (after config start past).store.selectAccount (after config start past).now
        run.routingPolicy config.refreshSkewSeconds run.triedAccounts = (.ok selection, store) ∧
      (after config start past).store.record? selection.accountId = some record ∧
      record.refreshToken = selection.refreshToken

/-- The token endpoint answered a request that had selected the account. -/
def Replied (pid : ℕ) (selection : AccountSelection)
    (result : Except RefreshFailure RefreshedAccount) : List Event → Prop :=
  Happened fun past event => ∃ run reply, event = .resume pid (.refreshReply reply) ∧
    refreshAccessToken config.parsers reply = result ∧
    (after config start past).processes[pid]? =
      some (.request run (.selected selection .refreshing)) ∧
    Selected config start pid selection past

/-- The token endpoint called a refresh token of the account invalid. -/
def Rejected (id : String) (history : List Event) : Prop :=
  ∃ pid selection failure, selection.accountId = id ∧ failure.failure = .authInvalid ∧
    Replied config start pid selection (.error failure) history

end history

/-- The reply of the token endpoint a request acts on. -/
def reply? : Stage → Option (Except RefreshFailure RefreshedAccount)
  | .answered result => some result
  | .committing refreshed => some (.ok refreshed)
  | .preparing failure | .trashing failure | .noting failure _ | .finalizing failure
  | .failingRefresh failure => some (.error failure)
  | _ => none

/-- An account is given up on an invalid token only. -/
def GivesUpRightly : Stage → Prop
  | .preparing failure | .trashing failure | .noting failure _ | .finalizing failure =>
    failure.failure = .authInvalid
  | _ => True

/-- What is known of a selection a process holds after a history. -/
def Justified (config : Config) (start : Gateway) (history : List Event) (pid : ℕ) :
    Process → Prop
  | .request _ (.selected selection stage) => Selected config start pid selection history ∧
      (∀ result, reply? stage = some result →
        Replied config start pid selection result history) ∧
      GivesUpRightly stage
  | _ => True

variable {config : Config} {start gateway : Gateway} {history : List Event} {event : Event}

/-- Every event leaves what is known of the processes. -/
theorem ProcessTrace.step {K : List Event → ℕ → Process → Prop}
    (hkeeps : ProcessTrace config start K) (hgateway : gateway = after config start history)
    (h : ∀ pid process, gateway.processes[pid]? = some process → K history pid process)
    {gateway' : Gateway} (hstep : Gateway.step config gateway event = some gateway') :
    ∀ pid process, gateway'.processes[pid]? = some process →
      K (history ++ [event]) pid process := by
  have hconcat : ∀ pid process, gateway.processes[pid]? = some process →
      K (history ++ [event]) pid process :=
    fun pid process hprocess => hkeeps.concat event (h pid process hprocess)
  by_cases hsilent : silent event = true
  · rw [(step_silent hsilent hstep).2]
    exact hconcat
  intro pid' process' hprocess'
  cases event with
  | grant | runTask | runOrphan | clock | setPolicy | relist => exact absurd rfl hsilent
  | background op =>
    simp only [Gateway.step, Option.ite_none_right_eq_some, Option.some.injEq] at hstep
    obtain ⟨-, rfl⟩ := hstep
    exact hconcat pid' process' hprocess'
  | spawnRequest =>
    obtain rfl := Option.some.inj hstep
    rcases of_getElem?_append_singleton hprocess' with hold | ⟨-, rfl⟩
    · exact hconcat pid' process' hold
    · exact hkeeps.spawnRequest
  | spawnCall =>
    obtain rfl := Option.some.inj hstep
    rcases of_getElem?_append_singleton hprocess' with hold | ⟨-, rfl⟩
    · exact hconcat pid' process' hold
    · exact hkeeps.spawnCall
  | drop pid =>
    obtain ⟨new, hdrop, rfl⟩ := Option.map_eq_some_iff.mp hstep
    obtain ⟨old, hold, hafter⟩ := Option.bind_eq_some_iff.mp hdrop
    rcases of_getElem?_set hprocess' with ⟨rfl, rfl⟩ | ⟨-, hother⟩
    · exact hkeeps.afterDrop (hconcat _ old hold) hafter
    · exact hconcat pid' process' hother
  | resume pid input =>
    obtain ⟨process, hprocess, hresume⟩ := Option.bind_eq_some_iff.mp hstep
    subst hgateway
    cases process with
    | request run pc =>
      obtain ⟨next, hnext, rfl⟩ := Option.map_eq_some_iff.mp hresume
      rcases of_getElem?_set hprocess' with ⟨rfl, rfl⟩ | ⟨-, hother⟩
      · exact hkeeps.resumeRequest hprocess (resumeRequest_step hnext) (h _ _ hprocess)
      · exact hconcat pid' process' hother
    | call call pc =>
      obtain ⟨next, hnext, rfl⟩ := Option.map_eq_some_iff.mp hresume
      rcases of_getElem?_set hprocess' with ⟨rfl, rfl⟩ | ⟨-, hother⟩
      · exact hkeeps.resumeCall hprocess (resumeCall_step hnext) (h _ _ hprocess)
      · exact hconcat pid' process' hother

/-- What every event keeps is known of all processes after any events. -/
theorem ProcessTrace.after {K : List Event → ℕ → Process → Prop}
    (hkeeps : ProcessTrace config start K) (hstart : start.processes = []) (events : List Event) :
    ∀ pid process, (after config start events).processes[pid]? = some process →
      K events pid process := by
  refine stateAfter_history (I := fun past (gateway : Gateway) => ∀ (pid : ℕ) (process : Process),
    gateway.processes[pid]? = some process → K past pid process) ?_ ?_ ?_ events
  · intro pid process hprocess
    rw [hstart] at hprocess
    cases hprocess
  · exact fun past event _ h pid process hprocess => hkeeps.concat event (h pid process hprocess)
  · exact fun past event gateway' hstep h => hkeeps.step rfl h hstep

theorem Rejected.concat {id : String} (h : Rejected config start id history) (event : Event) :
    Rejected config start id (history ++ [event]) := by
  obtain ⟨pid, selection, failure, hid, hinvalid, hreplied⟩ := h
  exact ⟨pid, selection, failure, hid, hinvalid, hreplied.concat event⟩

/-- Only a rejection makes a reply invalid. -/
theorem rejected_of_refreshAccessToken {parsers : TokenParsers} {reply : RefreshReply}
    {failure : RefreshFailure} (h : refreshAccessToken parsers reply = .error failure)
    (hinvalid : failure.failure = .authInvalid) : reply = .rejected failure := by
  have hgateway (error : String) (heq : gatewayFailure error = failure) : False := by
    rw [← heq] at hinvalid
    cases hinvalid
  cases reply with
  | rejected failure' => rw [Except.error.inj h]
  | unsent error | unreadable error => exact (hgateway _ (Except.error.inj h)).elim
  | json body =>
    simp only [refreshAccessToken] at h
    split at h
    · exact (hgateway _ (Except.error.inj h)).elim
    · split at h
      · exact (hgateway _ (Except.error.inj h)).elim
      · split at h
        · exact (hgateway _ (Except.error.inj h)).elim
        · split at h
          · exact (hgateway _ (Except.error.inj h)).elim
          · cases h

theorem tombstone_applyOps {store : AccountStore} {now : Time} {ops : List StoreOp} {id : String}
    {r' : AccountRecord} (hr' : (applyOps store now ops).record? id = some r')
    (htombstone : r'.authInvalidTombstone = true) :
    (∃ r, store.record? id = some r ∧ r.authInvalidTombstone = true) ∨
      ∃ op ∈ ops, op.entombs? = some id := by
  induction ops using List.reverseRecOn generalizing r' with
  | nil => exact .inl ⟨r', hr', htombstone⟩
  | append_singleton ops op ih =>
    rw [applyOps, List.foldl_append] at hr'
    rcases AccountStore.tombstone_apply hr' htombstone with ⟨r, hr, hr_tombstone⟩ | hop
    · exact (ih hr hr_tombstone).imp_right fun ⟨op', hmem, hop'⟩ => ⟨op', by simp [hmem], hop'⟩
    · exact .inr ⟨op, by simp, hop⟩

/-- The operations of a resumption give up accounts that the endpoint rejected. -/
theorem entombs?_resumeRequest {view : View} {pid : ℕ} {run : FailoverRun} {pc : RequestPc}
    {input : Input} {next : Resumption} (hstep : RequestStep config view run pc input next)
    (h : Justified config start history pid (.request run pc)) {op : StoreOp} (hop : op ∈ next.ops)
    {id : String} (hid : op.entombs? = some id) : Rejected config start id history := by
  cases hstep with
  | prepareDetached | prepare | finalize =>
    obtain rfl := List.mem_singleton.mp hop
    obtain rfl := Option.some.inj hid
    exact ⟨pid, _, _, rfl, h.2.2, h.2.1 _ rfl⟩
  | settle =>
    obtain rfl := List.mem_singleton.mp hop
    cases ‹AccountSettlement› <;> cases hid
  | select | commitDetached | commit | abandon | note | refreshFailed | missingRecord | fail
  | succeed | undecode =>
    obtain rfl := List.mem_singleton.mp hop
    cases hid
  | unselected | missingToken | reject | rejectAgain =>
    rcases List.mem_pair.mp hop with rfl | rfl <;> cases hid
  | _ => cases hop

theorem justified_of_unselected {pid : ℕ} {run : FailoverRun} {pc : RequestPc}
    (h : pc.unselected = true) : Justified config start history pid (.request run pc) := by
  cases pc with
  | selected => cases h
  | _ => trivial

/-- One resumption of a request leaves its selection justified. -/
theorem justified_resumeRequest {run : FailoverRun} {pc : RequestPc} {input : Input}
    {next : Resumption} {pid : ℕ}
    (hprocess : (after config start history).processes[pid]? = some (.request run pc))
    (hstep : RequestStep config ((after config start history).view pid) run pc input next)
    (h : Justified config start history pid (.request run pc)) :
    Justified config start (history ++ [.resume pid input]) pid (.request next.run next.pc) := by
  have hlater (selection : AccountSelection) (stage stage' : Stage)
      (hold : Justified config start history pid (.request run (.selected selection stage)))
      (hreply : ∀ result, reply? stage' = some result → reply? stage = some result)
      (hgives : GivesUpRightly stage → GivesUpRightly stage') :
      Justified config start (history ++ [.resume pid input]) pid
        (.request run (.selected selection stage')) :=
    ⟨hold.1.concat _, fun result hresult => (hold.2.1 result (hreply result hresult)).concat _,
      hgives hold.2.2⟩
  cases hstep with
  | select hselect =>
    obtain ⟨record, hrecord, -, -, htoken, -⟩ := AccountStore.selectAccount_ok hselect
    refine ⟨.now ⟨rfl, run, _, record, hprocess, hselect, hrecord, htoken.symm⟩,
      fun result hresult => ?_, ?_⟩
    · split at hresult <;> cases hresult
    · split <;> trivial
  | reply reply =>
    refine ⟨h.1.concat _, fun result hresult => ?_, trivial⟩
    obtain rfl := Option.some.inj hresult
    exact .now ⟨run, reply, rfl, rfl, hprocess, h.1⟩
  | askPrepare hinvalid => exact hlater _ _ _ h (fun _ hresult => hresult) fun _ => hinvalid
  | askCommit | refuse => exact hlater _ _ _ h (fun _ hresult => hresult) fun _ => trivial
  | prepareDetached | prepare | trashed | untrashed =>
    exact hlater _ _ _ h (fun _ hresult => hresult) id
  | uncommitted | commitDetached | commit | persisted | read | readNoToken | readNoRecord
  | executeError | spawnSettlement =>
    exact hlater _ _ _ h (fun _ hresult => by cases hresult) fun _ => trivial
  | execute decodeError =>
    have hafter : reply? (afterExecute run decodeError) = none ∧
        GivesUpRightly (afterExecute run decodeError) := by
      unfold afterExecute
      split <;> exact ⟨rfl, trivial⟩
    exact hlater _ _ _ h (fun _ hresult => by rw [hafter.1] at hresult; cases hresult)
      fun _ => hafter.2
  | refreshFailed hpc | rejectAgain _ _ hpc | fail _ hpc | undecode hpc =>
    exact justified_of_unselected hpc
  | start | unselected | abandon | unprepared | note | finalizeGone | finalize | missingToken
  | missingRecord | reject | succeed | settle => trivial

theorem Justified.afterDrop {pid : ℕ} {old new : Process}
    (h : Justified config start history pid old) (hafter : old.afterDrop = some new) :
    Justified config start history pid new := by
  cases old with
  | call call pc =>
    cases pc <;> first
      | (obtain rfl := Option.some.inj hafter; trivial)
      | cases hafter
  | request run pc =>
    cases pc with
    | starting | selecting => obtain rfl := Option.some.inj hafter; trivial
    | finished | dropped => cases hafter
    | selected selection stage =>
      cases stage with
      | answered | settling => cases hafter
      | holding =>
        obtain rfl := Option.some.inj hafter
        refine ⟨h.1, fun _ hresult => ?_, trivial⟩
        cases hresult
      | _ => obtain rfl := Option.some.inj hafter; trivial

theorem justified_trace : ProcessTrace config start (Justified config start) where
  concat {history pid process} event h := by
    cases process with
    | call => trivial
    | request run pc =>
      cases pc with
      | selected selection stage =>
        exact ⟨h.1.concat event, fun result hresult => (h.2.1 result hresult).concat event, h.2.2⟩
      | _ => trivial
  spawnRequest := trivial
  spawnCall := trivial
  resumeRequest hprocess hstep h := justified_resumeRequest hprocess hstep h
  resumeCall _ _ _ := trivial
  afterDrop h hafter := h.afterDrop hafter

/-- The tombstones of a store have their causes in a history. -/
def Blamed (config : Config) (start : Gateway) (history : List Event) (store : AccountStore) :
    Prop :=
  ∀ id record, store.record? id = some record → record.authInvalidTombstone = true →
    Rejected config start id history

/-- The operations of a resumption that give up rejected accounts only. -/
theorem Blamed.applyOps {store : AccountStore} (h : Blamed config start history store) {now : Time}
    {ops : List StoreOp}
    (hops : ∀ op ∈ ops, ∀ id, op.entombs? = some id → Rejected config start id history) :
    Blamed config start history (applyOps store now ops) := by
  intro id record hrecord htombstone
  rcases tombstone_applyOps hrecord htombstone with ⟨r, hr, hr_tombstone⟩ | ⟨op, hop, hid⟩
  · exact h id r hr hr_tombstone
  · exact hops op hop id hid

/-- Every event leaves the tombstones traced. -/
theorem blamed_step
    (hjustified : ∀ pid process, gateway.processes[pid]? = some process →
      Justified config start history pid process)
    (h : Blamed config start history gateway.store) {gateway' : Gateway}
    (hstep : step config gateway event = some gateway') :
    Blamed config start (history ++ [event]) gateway'.store := by
  have hconcat : Blamed config start (history ++ [event]) gateway.store :=
    fun id record hrecord htombstone => (h id record hrecord htombstone).concat event
  by_cases hsilent : silent event = true
  · rw [(step_silent hsilent hstep).1]
    exact hconcat
  cases event with
  | grant | runTask | runOrphan | clock | setPolicy | relist => exact absurd rfl hsilent
  | spawnRequest | spawnCall =>
    obtain rfl := Option.some.inj hstep
    exact hconcat
  | resume pid input =>
    obtain ⟨process, hprocess, hresume⟩ := Option.bind_eq_some_iff.mp hstep
    cases process with
    | request run pc =>
      obtain ⟨next, hnext, rfl⟩ := Option.map_eq_some_iff.mp hresume
      exact hconcat.applyOps fun op hop id hid => (entombs?_resumeRequest
        (resumeRequest_step hnext) (hjustified pid _ hprocess) hop hid).concat _
    | call call pc =>
      obtain ⟨next, hnext, rfl⟩ := Option.map_eq_some_iff.mp hresume
      refine hconcat.applyOps fun op hop id hid => ?_
      cases resumeCall_step hnext with
      | @apply _ plan =>
        obtain rfl := List.mem_singleton.mp hop
        cases plan <;> cases hid
      | _ => cases hop
  | drop pid =>
    obtain ⟨process, -, rfl⟩ := Option.map_eq_some_iff.mp hstep
    rw [show (_ : Gateway).store = gateway.store from leaveDisk_store gateway pid]
    exact hconcat
  | background op =>
    simp only [step, Option.ite_none_right_eq_some, Option.some.injEq] at hstep
    obtain ⟨hbackground, rfl⟩ := hstep
    intro id record hrecord htombstone
    rcases AccountStore.tombstone_apply hrecord htombstone with ⟨r, hr, hr_tombstone⟩ | hop
    · exact hconcat id r hr hr_tombstone
    · cases op with
      | prepareAuthInvalid | finalizeAuthInvalid => cases hbackground
      | _ => cases hop

/-- The startup sync loads records without a tombstone. -/
theorem boot_tombstone (dir : AccountsDir) (now : Time) (policy : RoutingPolicy) {id : String}
    {record : AccountRecord} (hrecord : (boot dir now policy).store.record? id = some record) :
    record.authInvalidTombstone = false := by
  by_contra htombstone
  rw [Bool.not_eq_false] at htombstone
  simp only [boot, App.AppPool.startup, App.AppPool.syncAccountsFromDisk] at hrecord
  split at hrecord
  next => simp at hrecord
  next plan _ =>
    have hsync : (AccountStore.new.apply now (.applySync plan)).record? id = some record := hrecord
    rcases AccountStore.tombstone_apply hsync htombstone with ⟨r, hr, -⟩ | hop
    · simp at hr
    · cases hop

theorem justified_after (config : Config) (dir : AccountsDir) (now : Time) (policy : RoutingPolicy)
    (events : List Event) (pid : ℕ) (process : Process)
    (hprocess : (after config (boot dir now policy) events).processes[pid]? = some process) :
    Justified config (boot dir now policy) events pid process :=
  justified_trace.after rfl events pid process hprocess

theorem blamed_after (config : Config) (dir : AccountsDir) (now : Time) (policy : RoutingPolicy)
    (events : List Event) :
    Blamed config (boot dir now policy) events
      (after config (boot dir now policy) events).store := by
  refine stateAfter_history (I := fun past (gateway : Gateway) =>
    Blamed config (boot dir now policy) past gateway.store) ?_ ?_ ?_ events
  · intro id record hrecord htombstone
    rw [boot_tombstone dir now policy hrecord] at htombstone
    cases htombstone
  · exact fun past event _ h id record hrecord htombstone =>
      (h id record hrecord htombstone).concat event
  · exact fun past event gateway' hstep h =>
      blamed_step (justified_after config dir now policy past) h hstep

/-- An account is given up for good only because the token endpoint answered a refresh of it
with a 401, or with a rejection whose body names an invalid refresh token: in every run, to
a request that had selected the account with the refresh token it had at that moment. -/
theorem given_up_rejected {config : Config} {dir : AccountsDir} {now : Time}
    {policy : RoutingPolicy} {libs : Responses.Libraries} {events : List Event}
    (hreplies : ∀ pid failure, .resume pid (.refreshReply (.rejected failure)) ∈ events →
      ∃ clock status headers body, failure = refreshRejection libs clock status headers body)
    {id : String} {record : AccountRecord}
    (hrecord : (after config (boot dir now policy) events).store.record? id = some record)
    (htombstone : record.authInvalidTombstone = true) :
    ∃ past later pid run selection clock status headers body,
      events = past ++ .resume pid (.refreshReply
        (.rejected (refreshRejection libs clock status headers body))) :: later ∧
      (status = .unauthorized ∨
        (libs.analyzeRequestHttp clock status (some headers) (some body)).failure =
            .requestRejected ∧
          Responses.refreshBodyIndicatesInvalidToken body = true) ∧
      (after config (boot dir now policy) past).processes[pid]? =
        some (.request run (.selected selection .refreshing)) ∧
      selection.accountId = id ∧ Selected config (boot dir now policy) pid selection past := by
  obtain ⟨pid, selection, failure, rfl, hinvalid, hreplied⟩ :=
    blamed_after config dir now policy events id record hrecord htombstone
  obtain ⟨past, event, later, hevents, run, reply, rfl, hresult, hprocess, hselected⟩ := hreplied
  obtain rfl := rejected_of_refreshAccessToken hresult hinvalid
  obtain ⟨clock, status, headers, body, rfl⟩ := hreplies pid failure (by rw [hevents]; simp)
  have hrejected := (libs.analyzeRefreshHttp_authInvalid_iff clock status (some headers)
    (some body)).mp hinvalid
  exact ⟨past, later, pid, run, selection, clock, status, headers, body, hevents, hrejected,
    hprocess, rfl, hselected⟩

/-- A refresh answered with a 401. -/
def refusedRefresh : List Event :=
  [.spawnRequest .releaseImmediately ∅, .resume 0 .scheduled, .resume 0 .scheduled,
    .resume 0 (.refreshReply (.rejected
      (refreshRejection (.ofTexts []) 0 .unauthorized [] "gone"))),
    .resume 0 .scheduled, .grant, .resume 0 .scheduled]

/-- `given_up_rejected` after the account is given up. -/
theorem given_up_rejected_refused :
    ∃ past later pid run selection clock status headers body,
      refusedRefresh = past ++ .resume pid (.refreshReply
        (.rejected (refreshRejection (.ofTexts []) clock status headers body))) :: later ∧
      (status = .unauthorized ∨
        ((Responses.Libraries.ofTexts []).analyzeRequestHttp clock status (some headers)
            (some body)).failure = .requestRejected ∧
          Responses.refreshBodyIndicatesInvalidToken body = true) ∧
      (after exampleConfig (boot exampleDir 0 .fillFirst) past).processes[pid]? =
        some (.request run (.selected selection .refreshing)) ∧
      selection.accountId = "a" ∧
      Selected exampleConfig (boot exampleDir 0 .fillFirst) pid selection past := by
  have hentombed : ((after exampleConfig (boot exampleDir 0 .fillFirst)
      refusedRefresh).store.record? "a").map (·.authInvalidTombstone) = some true := by
    decide +kernel
  obtain ⟨record, hrecord, htombstone⟩ := Option.map_eq_some_iff.mp hentombed
  have hreplies : ∀ pid failure,
      Event.resume pid (.refreshReply (.rejected failure)) ∈ refusedRefresh →
      ∃ clock status headers body,
        failure = refreshRejection (.ofTexts []) clock status headers body := by
    intro pid failure hmem
    simp only [refusedRefresh, List.mem_cons, List.not_mem_nil, reduceCtorEq, Event.resume.injEq,
      Input.refreshReply.injEq, RefreshReply.rejected.injEq, and_false, false_or, or_false] at hmem
    exact ⟨0, .unauthorized, [], "gone", hmem.2⟩
  exact given_up_rejected hreplies hrecord htombstone

end Gateway

end Codaze.Failover
