import Codaze.Accounts.Block
import Codaze.Foundation.Text

/-!
# Settlements, refresh results and wakes

Each operation of the store is a mutation of one record followed, on most paths,
by `maybe_remove_detached`. The record mutations come first, under the name of the
operation they belong to; every clock reading of an operation is its `now`.
-/
namespace Codaze.Accounts
open Foundation

/-- `in_flight_requests.saturating_sub(1)` and `refresh_in_flight = false`. -/
def leaveRequest (record : AccountRecord) : AccountRecord :=
  { record with inFlightRequests := record.inFlightRequests - 1, refreshInFlight := false }

def markSuccessRecord (now : Time) (record : AccountRecord) : AccountRecord :=
  let record := leaveRequest record
  let record :=
    if record.routingState ≠ .authInvalid ∧ hasActiveBlockAt record now = false then
      { record with routingState := restingState record, localBackoffLevel := 0,
                    lastError := none }
    else record
  { record with lastSuccessAt := some now }

def invalidateRecord (now : Time) (record : AccountRecord) : AccountRecord :=
  let record := { record with
    accessToken := none, accessTokenExpiresAt := none, refreshInFlight := false }
  if record.routingState ≠ .authInvalid ∧ hasActiveBlockAt record now = false then
    { record with routingState := .cold }
  else record

def releaseRecord (now : Time) (record : AccountRecord) : AccountRecord :=
  let record := leaveRequest record
  if record.routingState = .warming ∧ hasActiveBlockAt record now = false then
    { record with routingState := restingState record }
  else record

/-- The record part of `apply_failure`. -/
def failRecord (now : Time) (failure : FailureClass) (retryAfter : Option StdDuration)
    (details : String) (record : AccountRecord) : Outcome AccountRecord :=
  let record := { leaveRequest record with lastErrorAt := some now, lastError := some details }
  match failure with
  | .accessTokenRejected =>
    applyFixedBlock { record with accessToken := none, accessTokenExpiresAt := none,
                                  routingState := .temporarilyUnavailable }
      now .temporarilyUnavailable (deltaSeconds temporaryFailureCooldownSeconds)
  | .authInvalid =>
    .returned <| applyAuthInvalidBlock { record with
      routingState := .authInvalid, accessToken := none, accessTokenExpiresAt := none } now
  | .rateLimited =>
    (applyRetryableBlock record now .rateLimited retryAfter).andThen fun record =>
      .returned { record with routingState := .cooldown }
  | .quotaExhausted =>
    (applyRetryableBlock record now .quotaExhausted retryAfter).andThen fun record =>
      .returned { record with routingState := .cooldown }
  | .riskControlled =>
    applyFixedBlock { record with routingState := .riskControlled } now .riskControlled
      (deltaSeconds riskCooldownSeconds)
  | .temporaryFailure =>
    let record := { record with routingState := .temporarilyUnavailable }
    if retryAfter.isSome then
      applyRetryableBlock record now .temporarilyUnavailable retryAfter
    else
      applyFixedBlock record now .temporarilyUnavailable
        (deltaSeconds temporaryFailureCooldownSeconds)
  | .requestRejected | .internalFailure =>
    let record := applyBlockTransition record now .noChange
    .returned <|
      if hasActiveBlockAt record now = false ∧ record.routingState ≠ .authInvalid then
        { record with routingState := restingState record }
      else record

def refreshSuccessRecord (now : Time) (refreshed : RefreshedAccount) (record : AccountRecord) :
    AccountRecord :=
  let record := { record with
    accessToken := some refreshed.accessToken
    refreshToken := refreshed.refreshToken.getD record.refreshToken
    accountId := refreshed.accountId.or record.accountId
    planType := refreshed.planType.or record.planType
    email := refreshed.email.or record.email
    accessTokenExpiresAt := refreshed.accessTokenExpiresAt
    lastRefreshAt := some now
    refreshInFlight := false }
  if hasActiveBlockAt record now = false then
    { clearBlock { record with routingState := .ready } now with
      localBackoffLevel := 0, lastError := none }
  else record

def prepareAuthInvalidRecord (now : Time) (details : String) (record : AccountRecord) :
    AccountRecord :=
  { applyAuthInvalidBlock { leaveRequest record with
      lastErrorAt := some now, lastError := some details, accessToken := none,
      accessTokenExpiresAt := none, routingState := .authInvalid } now with
    authInvalidTombstone := true }

def finalizeAuthInvalidRecord (now : Time) (record : AccountRecord) : AccountRecord :=
  { applyAuthInvalidBlock { record with
      routingState := .authInvalid, accessToken := none, accessTokenExpiresAt := none } now with
    authInvalidTombstone := true, detached := true }

def noteTrashFailureRecord (now : Time) (error : String) (record : AccountRecord) :
    AccountRecord :=
  let suffix := "move invalid account file to trash failed: " ++ error
  let nextError := match record.lastError with
    | some current => if contains current suffix then current else current ++ "; " ++ suffix
    | none => suffix
  { record with lastError := some nextError, lastErrorAt := some now }

/-- The body of the loop of `refresh_expired_blocks`. -/
def expireRecord (now : Time) (record : AccountRecord) : AccountRecord :=
  let record :=
    if record.blockedUntil.any (fun deadline => decide (deadline ≤ now)) then
      let record := clearBlock record now
      if record.routingState ≠ .authInvalid ∧ record.refreshInFlight = false then
        { record with routingState := restingState record }
      else record
    else record
  if record.routingState = .cold ∧ record.accessToken.isSome then
    { record with routingState := .ready }
  else record

/-- `account_file_from_record`. -/
def accountFileFromRecord (record : AccountRecord) : AccountFile :=
  ⟨record.refreshToken, record.label, record.email⟩

theorem prepareAuthInvalidRecord_id (now : Time) (details : String) (r : AccountRecord) :
    (prepareAuthInvalidRecord now details r).id = r.id := rfl

theorem finalizeAuthInvalidRecord_id (now : Time) (r : AccountRecord) :
    (finalizeAuthInvalidRecord now r).id = r.id := rfl

theorem refreshSuccessRecord_id (now : Time) (refreshed : RefreshedAccount) (r : AccountRecord) :
    (refreshSuccessRecord now refreshed r).id = r.id := by
  simp only [refreshSuccessRecord]
  split <;> rfl

/-- What a refresh leaves of the identity of an account. -/
theorem refreshSuccessRecord_frame (now : Time) (refreshed : RefreshedAccount)
    (r : AccountRecord) :
    (refreshSuccessRecord now refreshed r).filePath = r.filePath ∧
      (refreshSuccessRecord now refreshed r).refreshToken =
        refreshed.refreshToken.getD r.refreshToken ∧
      (refreshSuccessRecord now refreshed r).authInvalidTombstone = r.authInvalidTombstone ∧
      (refreshSuccessRecord now refreshed r).detached = r.detached := by
  simp only [refreshSuccessRecord]
  split <;> exact ⟨rfl, rfl, rfl, rfl⟩

/-- The identity of an account: what settlements, wakes and selections leave alone. -/
structure SameAccount (r r' : AccountRecord) : Prop where
  id : r'.id = r.id
  filePath : r'.filePath = r.filePath
  label : r'.label = r.label
  email : r'.email = r.email
  refreshToken : r'.refreshToken = r.refreshToken
  authInvalidTombstone : r'.authInvalidTombstone = r.authInvalidTombstone
  detached : r'.detached = r.detached

theorem SameAccount.refl (r : AccountRecord) : SameAccount r r :=
  ⟨rfl, rfl, rfl, rfl, rfl, rfl, rfl⟩

theorem SameAccount.trans {r s t : AccountRecord} (h : SameAccount r s) (h' : SameAccount s t) :
    SameAccount r t :=
  ⟨h'.id.trans h.id, h'.filePath.trans h.filePath, h'.label.trans h.label,
    h'.email.trans h.email, h'.refreshToken.trans h.refreshToken,
    h'.authInvalidTombstone.trans h.authInvalidTombstone, h'.detached.trans h.detached⟩

theorem SameButBlock.sameAccount {r s t : AccountRecord} (h : SameButBlock s t)
    (hr : SameAccount r s) : SameAccount r t :=
  ⟨h.id.trans hr.id, h.filePath.trans hr.filePath, h.label.trans hr.label,
    h.email.trans hr.email, h.refreshToken.trans hr.refreshToken,
    h.authInvalidTombstone.trans hr.authInvalidTombstone, h.detached.trans hr.detached⟩

theorem markSuccessRecord_same (now : Time) (r : AccountRecord) :
    SameAccount r (markSuccessRecord now r) := by
  simp only [markSuccessRecord]
  split <;> constructor <;> rfl

theorem invalidateRecord_same (now : Time) (r : AccountRecord) :
    SameAccount r (invalidateRecord now r) := by
  simp only [invalidateRecord]
  split <;> constructor <;> rfl

theorem releaseRecord_same (now : Time) (r : AccountRecord) :
    SameAccount r (releaseRecord now r) := by
  simp only [releaseRecord]
  split <;> constructor <;> rfl

theorem expireRecord_same (now : Time) (r : AccountRecord) :
    SameAccount r (expireRecord now r) := by
  simp only [expireRecord]
  split_ifs <;> constructor <;> rfl

theorem noteTrashFailureRecord_same (now : Time) (error : String) (r : AccountRecord) :
    SameAccount r (noteTrashFailureRecord now error r) := by constructor <;> rfl

theorem failRecord_same (now : Time) (failure : FailureClass) (retryAfter : Option StdDuration)
    (details : String) (r : AccountRecord) :
    SameAccount r (failRecord now failure retryAfter details r).state := by
  have hleave : SameAccount r
      { leaveRequest r with lastErrorAt := some now, lastError := some details } := by
    constructor <;> rfl
  cases failure with
  | accessTokenRejected | riskControlled =>
    exact (applyFixedBlock_same _ now _ _).sameAccount (by constructor <;> rfl)
  | authInvalid => constructor <;> rfl
  | rateLimited | quotaExhausted =>
    have hblock (reason) := (applyRetryableBlock_same _ now reason retryAfter).sameAccount hleave
    refine Outcome.andThen_induction (hblock _) fun s hs => ?_
    exact ⟨hs.1, hs.2, hs.3, hs.4, hs.5, hs.6, hs.7⟩
  | temporaryFailure =>
    simp only [failRecord]
    split
    · exact (applyRetryableBlock_same _ now _ _).sameAccount (by constructor <;> rfl)
    · exact (applyFixedBlock_same _ now _ _).sameAccount (by constructor <;> rfl)
  | requestRejected | internalFailure =>
    simp only [failRecord, Outcome.state_returned]
    split <;> constructor <;> rfl

namespace AccountStore

def wakeAccount (store : AccountStore) (now : Time) (id : String) :
    Option (AccountStore × WakeDisposition) :=
  (store.record? id).map fun record =>
    (store.modify id (fun record => (applyWake record now).1)
      fun record => (applyWake_same record now).id, (applyWake record now).2)

def wakeAllAccounts (store : AccountStore) (now : Time) : AccountStore :=
  store.modifyAll (fun record => (applyWake record now).1)
    fun record => (applyWake_same record now).id

def refreshExpiredBlocks (store : AccountStore) (now : Time) : AccountStore :=
  store.modifyAll (expireRecord now) fun record => (expireRecord_same now record).id

def markRequestSuccess (store : AccountStore) (now : Time) (id : String) : AccountStore :=
  store.update id (markSuccessRecord now) fun record => (markSuccessRecord_same now record).id

def invalidateAccessToken (store : AccountStore) (now : Time) (id : String) : AccountStore :=
  store.update id (invalidateRecord now) fun record => (invalidateRecord_same now record).id

def releaseSelection (store : AccountStore) (now : Time) (id : String) : AccountStore :=
  store.update id (releaseRecord now) fun record => (releaseRecord_same now record).id

/-- A panic in the block computation skips the rest of the operation, the removal of a
detached record included. -/
def applyFailure (store : AccountStore) (now : Time) (id : String) (failure : FailureClass)
    (retryAfter : Option StdDuration) (details : String) : Outcome AccountStore :=
  let failed := fun record => (failRecord now failure retryAfter details record).state
  let hfailed := fun record => (failRecord_same now failure retryAfter details record).id
  match (store.record? id).map (failRecord now failure retryAfter details) with
  | none => .returned store
  | some (.returned _) => .returned (store.update id failed hfailed)
  | some (.panicked _) => .panicked (store.modify id failed hfailed)

def markRequestFailure (store : AccountStore) (now : Time) (id : String)
    (failure : FailureClass) (retryAfter : Option StdDuration) (details : String) :
    Outcome AccountStore := store.applyFailure now id failure retryAfter details

def upstreamAccount (store : AccountStore) (id : String) :
    Except UpstreamAccountError UpstreamAccount :=
  match store.record? id with
  | none => .error .missingRecord
  | some record => match record.accessToken with
    | none => .error .missingAccessToken
    | some accessToken => .ok ⟨accessToken, record.accountId⟩

/-- The store after a refresh response was committed, and the file operation that
persists it; `none` is the error on an unknown account. -/
def finishRefreshSuccessWithoutPersist (store : AccountStore) (now : Time) (id : String)
    (refreshed : RefreshedAccount) : Option (AccountStore × Option AccountDiskOp) :=
  (store.record? id).map fun record =>
    let record := refreshSuccessRecord now refreshed record
    (store.update id (refreshSuccessRecord now refreshed) (refreshSuccessRecord_id now refreshed),
      if record.detached then none
      else some (.write record.filePath (accountFileFromRecord record)))

def prepareAuthInvalidFailure (store : AccountStore) (now : Time) (id details : String) :
    Option (AccountStore × Option AccountDiskOp) :=
  (store.record? id).map fun record =>
    (store.modify id (prepareAuthInvalidRecord now details)
        (prepareAuthInvalidRecord_id now details),
      if record.detached then none else some (.moveToTrash record.filePath))

def finalizeAuthInvalidFailure (store : AccountStore) (now : Time) (id : String) :
    Option AccountStore :=
  (store.record? id).map fun _ =>
    store.update id (finalizeAuthInvalidRecord now) (finalizeAuthInvalidRecord_id now)

def noteAuthInvalidTrashFailure (store : AccountStore) (now : Time) (id error : String) :
    AccountStore :=
  store.modify id (noteTrashFailureRecord now error)
    fun record => (noteTrashFailureRecord_same now error record).id

end AccountStore

end Codaze.Accounts
