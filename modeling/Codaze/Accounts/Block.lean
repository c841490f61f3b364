import Codaze.Accounts.Record

/-!
# Block transitions

The `blocked_*` fields of a record change only through `applyBlockTransition`. A
timed block yields to a later deadline and to an expired one; a permanent block,
a reason without a deadline, yields to nothing but a clear.
-/
namespace Codaze.Accounts
open Foundation

def temporaryFailureCooldownSeconds : ℤ := 60
def riskCooldownSeconds : ℤ := 1800
def localBackoffBaseSeconds : ℕ := 1
def localBackoffMaxSeconds : ℕ := 30 * 60

structure RetryableBlock where
  reason : BlockedReason
  source : BlockedSource
  deadline : Time
  deriving DecidableEq, Repr

inductive BlockTransition where
  | noChange
  | clear
  | permanent (reason : BlockedReason) (source : BlockedSource)
  | timed (candidate : RetryableBlock)
  deriving DecidableEq, Repr

def hasActiveBlockAt (record : AccountRecord) (now : Time) : Bool :=
  match record.blockedUntil with
  | some deadline => decide (now < deadline)
  | none => record.blockedReason.isSome

/-- Whether a timed candidate replaces the block a record carries. -/
def shouldReplaceExisting (record : AccountRecord) (now : Time) (candidate : RetryableBlock) :
    Bool :=
  match record.blockedUntil with
  | some existing => if now < existing then decide (existing ≤ candidate.deadline) else true
  | none => !hasActiveBlockAt record now

def applyBlockTransition (record : AccountRecord) (now : Time) :
    BlockTransition → AccountRecord
  | .noChange => record
  | .clear => { record with blockedReason := none, blockedSource := none, blockedUntil := none }
  | .permanent reason source =>
    { record with blockedReason := some reason, blockedSource := some source,
                  blockedUntil := none }
  | .timed candidate =>
    if shouldReplaceExisting record now candidate then
      { record with blockedReason := some candidate.reason
                    blockedSource := some candidate.source
                    blockedUntil := some candidate.deadline }
    else record

def clearBlock (record : AccountRecord) (now : Time) : AccountRecord :=
  applyBlockTransition record now .clear

def applyAuthInvalidBlock (record : AccountRecord) (now : Time) : AccountRecord :=
  applyBlockTransition record now (.permanent .authInvalid .fixedPolicy)

def nextLocalBackoff (level : ℕ) : StdDuration :=
  let multiplier := if level < 64 then 1 <<< level else u64Max
  let seconds := min (min (localBackoffBaseSeconds * multiplier) u64Max) localBackoffMaxSeconds
  fromSecs seconds

/-- `duration_from_std`: past the largest `chrono::Duration` the fallback
`Duration::seconds(i64::MAX)` panics itself. -/
def durationFromStd (duration : StdDuration) : Option TimeDelta :=
  if (duration : ℤ) ≤ maxDelta then some duration else none

/-- The record with the backoff level counted, and the block, or `none` where the
deadline cannot be represented and the code panics. -/
def buildRetryableBlock (record : AccountRecord) (now : Time) (reason : BlockedReason)
    (retryAfter : Option StdDuration) : AccountRecord × Option RetryableBlock :=
  match retryAfter with
  | some retryAfter =>
    (record, ((durationFromStd retryAfter).bind (addDelta now)).map fun deadline =>
      { reason, source := .upstreamRetryAfter, deadline })
  | none =>
    let cooldown := nextLocalBackoff record.localBackoffLevel
    ({ record with localBackoffLevel := saturatingSucc32 record.localBackoffLevel },
      ((durationFromStd cooldown).bind (addDelta now)).map fun deadline =>
        { reason, source := .localBackoff, deadline })

def applyRetryableBlock (record : AccountRecord) (now : Time) (reason : BlockedReason)
    (retryAfter : Option StdDuration) : Outcome AccountRecord :=
  match buildRetryableBlock record now reason retryAfter with
  | (record, some candidate) => .returned (applyBlockTransition record now (.timed candidate))
  | (record, none) => .panicked record

def applyFixedBlock (record : AccountRecord) (now : Time) (reason : BlockedReason)
    (duration : TimeDelta) : Outcome AccountRecord :=
  match addDelta now duration with
  | some deadline =>
    .returned (applyBlockTransition record now (.timed ⟨reason, .fixedPolicy, deadline⟩))
  | none => .panicked record

/-- The routing state an unblocked record rests in. -/
def restingState (record : AccountRecord) : RoutingState :=
  if record.accessToken.isSome then .ready else .cold

inductive WakeDisposition where
  | woken | skippedAuthInvalid
  deriving DecidableEq, Repr

def applyWake (record : AccountRecord) (now : Time) : AccountRecord × WakeDisposition :=
  if record.routingState = .authInvalid ∨ record.blockedReason = some .authInvalid then
    (record, .skippedAuthInvalid)
  else
    let record := { clearBlock record now with localBackoffLevel := 0 }
    ({ record with
        routingState := if record.refreshInFlight then .warming else restingState record },
      .woken)

/-- The fields a block transition, a backoff count and a wake may write. -/
structure SameButBlock (r r' : AccountRecord) : Prop where
  id : r'.id = r.id
  filePath : r'.filePath = r.filePath
  label : r'.label = r.label
  email : r'.email = r.email
  refreshToken : r'.refreshToken = r.refreshToken
  accessToken : r'.accessToken = r.accessToken
  accessTokenExpiresAt : r'.accessTokenExpiresAt = r.accessTokenExpiresAt
  refreshInFlight : r'.refreshInFlight = r.refreshInFlight
  inFlightRequests : r'.inFlightRequests = r.inFlightRequests
  lastSelectedAt : r'.lastSelectedAt = r.lastSelectedAt
  authInvalidTombstone : r'.authInvalidTombstone = r.authInvalidTombstone
  detached : r'.detached = r.detached

theorem SameButBlock.refl (r : AccountRecord) : SameButBlock r r :=
  ⟨rfl, rfl, rfl, rfl, rfl, rfl, rfl, rfl, rfl, rfl, rfl, rfl⟩

theorem SameButBlock.trans {r s t : AccountRecord} (h : SameButBlock r s) (h' : SameButBlock s t) :
    SameButBlock r t := by
  constructor <;> simp only [h'.1, h'.2, h'.3, h'.4, h'.5, h'.6, h'.7, h'.8, h'.9, h'.10, h'.11,
    h'.12, h.1, h.2, h.3, h.4, h.5, h.6, h.7, h.8, h.9, h.10, h.11, h.12]

theorem applyBlockTransition_same (r : AccountRecord) (now : Time) (t : BlockTransition) :
    SameButBlock r (applyBlockTransition r now t) := by
  cases t with
  | noChange => exact .refl r
  | clear => constructor <;> rfl
  | permanent reason source => constructor <;> rfl
  | timed candidate =>
    simp only [applyBlockTransition]
    split
    · constructor <;> rfl
    · exact .refl r

theorem applyRetryableBlock_same (r : AccountRecord) (now : Time) (reason : BlockedReason)
    (retryAfter : Option StdDuration) :
    SameButBlock r (applyRetryableBlock r now reason retryAfter).state := by
  have hbuild : SameButBlock r (buildRetryableBlock r now reason retryAfter).1 := by
    cases retryAfter <;> constructor <;> rfl
  unfold applyRetryableBlock
  split
  next record candidate heq =>
    rw [heq] at hbuild
    simpa using hbuild.trans (applyBlockTransition_same record now (.timed candidate))
  next record heq =>
    rw [heq] at hbuild
    exact hbuild

theorem applyFixedBlock_same (r : AccountRecord) (now : Time) (reason : BlockedReason)
    (duration : TimeDelta) : SameButBlock r (applyFixedBlock r now reason duration).state := by
  unfold applyFixedBlock
  split
  next deadline _ =>
    simpa using applyBlockTransition_same r now (.timed ⟨reason, .fixedPolicy, deadline⟩)
  next => exact .refl r

theorem applyWake_same (r : AccountRecord) (now : Time) : SameButBlock r (applyWake r now).1 := by
  unfold applyWake
  split
  · exact .refl r
  · constructor <;> rfl

theorem applyBlockTransition_rest (r : AccountRecord) (now : Time) (t : BlockTransition) :
    (applyBlockTransition r now t).localBackoffLevel = r.localBackoffLevel ∧
      (applyBlockTransition r now t).routingState = r.routingState := by
  cases t with
  | noChange | clear | permanent => exact ⟨rfl, rfl⟩
  | timed candidate =>
    simp only [applyBlockTransition]
    split <;> exact ⟨rfl, rfl⟩

/-- A timed candidate never displaces a permanent block. -/
theorem applyBlockTransition_timed_of_permanent {r : AccountRecord} (now : Time)
    (candidate : RetryableBlock) (hreason : r.blockedReason.isSome = true)
    (huntil : r.blockedUntil = none) :
    applyBlockTransition r now (.timed candidate) = r := by
  simp [applyBlockTransition, shouldReplaceExisting, hasActiveBlockAt, huntil, hreason]

end Codaze.Accounts
