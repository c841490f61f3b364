import Codaze.Accounts.BlockFields
import Codaze.Accounts.Detached

/-!
# The deadlines of a failure

A failure adds at most one delay to the clock. It completes exactly where the sum can be
represented, and the block it leaves then ends no earlier than now.
-/
namespace Codaze.Accounts
open Foundation

/-- The delay a failure adds to the clock, if it adds one. -/
def FailureClass.delay (failure : FailureClass) (retryAfter : Option StdDuration)
    (record : AccountRecord) : Option StdDuration :=
  match failure with
  | accessTokenRejected => some (fromSecs 60)
  | riskControlled => some (fromSecs 1800)
  | rateLimited | quotaExhausted =>
    some (retryAfter.getD (nextLocalBackoff record.localBackoffLevel))
  | temporaryFailure => some (retryAfter.getD (fromSecs 60))
  | authInvalid | requestRejected | internalFailure => none

/-- `chrono` can hold the delay and the instant it ends at. -/
def Representable (now : Time) (delay : StdDuration) : Prop :=
  (delay : ℤ) ≤ maxDelta ∧ now + delay ≤ maxUtc

instance (now : Time) (delay : StdDuration) : Decidable (Representable now delay) :=
  inferInstanceAs (Decidable (_ ∧ _))

/-- The failures that set a timed block. -/
def FailureClass.cools : FailureClass → Bool
  | rateLimited | quotaExhausted | temporaryFailure => true
  | _ => false

/-- A mutation that does not panic. -/
def Completes {σ : Type*} (o : Outcome σ) : Prop := ∃ s, o = .returned s

section Completes

variable {r : AccountRecord} {now : Time} {reason : BlockedReason}

theorem completes_returned {σ : Type*} (s : σ) : Completes (.returned s) := ⟨s, rfl⟩

theorem not_completes_panicked {σ : Type*} (s : σ) : ¬ Completes (.panicked s) := by
  rintro ⟨t, h⟩
  cases h

theorem completes_andThen_returned {σ : Type*} {o : Outcome σ} {f : σ → σ} :
    Completes (o.andThen fun s => .returned (f s)) ↔ Completes o := by
  cases o with
  | returned s => exact iff_of_true (completes_returned _) (completes_returned s)
  | panicked s => exact iff_of_false (not_completes_panicked s) (not_completes_panicked s)

theorem deadline_isSome_iff (now : Time) (delay : StdDuration) :
    ((durationFromStd delay).bind (addDelta now)).isSome = true ↔ Representable now delay := by
  unfold durationFromStd Representable
  by_cases hmax : (delay : ℤ) ≤ maxDelta
  · by_cases hutc : now + delay ≤ maxUtc <;> simp [addDelta, hmax, hutc]
  · simp [hmax]

theorem completes_applyRetryableBlock (retryAfter : Option StdDuration) :
    Completes (applyRetryableBlock r now reason retryAfter) ↔
      Representable now (retryAfter.getD (nextLocalBackoff r.localBackoffLevel)) := by
  have hbuild : (buildRetryableBlock r now reason retryAfter).2.isSome = true ↔
      Representable now (retryAfter.getD (nextLocalBackoff r.localBackoffLevel)) := by
    cases retryAfter with
    | none | some delay =>
      rw [buildRetryableBlock, Option.isSome_map]
      exact deadline_isSome_iff now _
  rw [← hbuild]
  unfold applyRetryableBlock
  rcases buildRetryableBlock r now reason retryAfter with ⟨counted, _ | candidate⟩
  · exact iff_of_false (not_completes_panicked _) (by simp)
  · exact iff_of_true (completes_returned _) rfl

/-- A fixed block is never longer than what `chrono` can hold. -/
theorem completes_applyFixedBlock {seconds : ℕ} (hseconds : (fromSecs seconds : ℤ) ≤ maxDelta) :
    Completes (applyFixedBlock r now reason (deltaSeconds seconds)) ↔
      Representable now (fromSecs seconds) := by
  have hdelta : deltaSeconds seconds = ((fromSecs seconds : ℕ) : ℤ) := by
    simp [deltaSeconds, fromSecs]
  unfold applyFixedBlock Representable
  rw [hdelta]
  by_cases hutc : now + (fromSecs seconds : ℕ) ≤ maxUtc
  · simp only [addDelta, if_pos hutc]
    exact iff_of_true (completes_returned _) ⟨hseconds, hutc⟩
  · simp only [addDelta, if_neg hutc]
    exact iff_of_false (not_completes_panicked _) fun h => hutc h.2

end Completes

theorem completes_failRecord {now : Time} {failure : FailureClass}
    {retryAfter : Option StdDuration} {details : String} {r : AccountRecord} :
    Completes (failRecord now failure retryAfter details r) ↔
      ∀ delay, failure.delay retryAfter r = some delay → Representable now delay := by
  cases failure with
  | accessTokenRejected =>
    simp only [FailureClass.delay, Option.some.injEq, forall_eq']
    exact @completes_applyFixedBlock _ now _ 60 (by decide)
  | riskControlled =>
    simp only [FailureClass.delay, Option.some.injEq, forall_eq']
    exact @completes_applyFixedBlock _ now _ 1800 (by decide)
  | rateLimited | quotaExhausted =>
    simp only [FailureClass.delay, Option.some.injEq, forall_eq']
    exact completes_andThen_returned.trans (completes_applyRetryableBlock retryAfter)
  | temporaryFailure =>
    simp only [FailureClass.delay, Option.some.injEq, forall_eq']
    cases retryAfter with
    | none =>
      simp only [failRecord, Option.isSome_none, Bool.false_eq_true, if_false]
      exact @completes_applyFixedBlock _ now _ 60 (by decide)
    | some delay =>
      simp only [failRecord, Option.isSome_some, if_true, Option.getD_some]
      exact completes_applyRetryableBlock (some delay)
  | authInvalid | requestRejected | internalFailure =>
    exact iff_of_true (completes_returned _) (by simp [FailureClass.delay])

/-- An instant as the end of a block. -/
abbrev instant (t : Time) : WithBot (WithTop Time) := ((t : WithTop Time) : WithBot (WithTop Time))

theorem BlockFields.le_endsAt_of_active {block : BlockFields} {now : Time}
    (h : block.activeAt now = true) : instant now ≤ block.endsAt := by
  cases hdeadline : block.deadline with
  | none =>
    have hreason : block.reason.isSome = true := by simpa [activeAt, hdeadline] using h
    obtain ⟨reason, hreason⟩ := Option.isSome_iff_exists.mp hreason
    have htop : block.endsAt = ⊤ := by
      simp only [endsAt, hdeadline, hreason]
      rfl
    rw [htop]
    exact le_top
  | some deadline =>
    have hnow : now < deadline := by simpa [activeAt, hdeadline] using h
    simpa [endsAt, hdeadline] using hnow.le

theorem le_endsAt_timed {r : AccountRecord} {now : Time} {candidate : RetryableBlock}
    (hnow : now ≤ candidate.deadline) :
    instant now ≤ (applyBlockTransition r now (.timed candidate)).block.endsAt := by
  simp only [applyBlockTransition]
  split
  next => simpa [AccountRecord.block, BlockFields.endsAt] using hnow
  next hkept =>
    refine BlockFields.le_endsAt_of_active ?_
    rw [← hasActiveBlockAt_eq]
    unfold shouldReplaceExisting at hkept
    cases huntil : r.blockedUntil with
    | none => simpa [huntil] using hkept
    | some existing =>
      by_cases hactive : now < existing
      · simpa [hasActiveBlockAt, huntil] using hactive
      · simp [huntil, hactive] at hkept

theorem le_endsAt_retryable {r r' : AccountRecord} {now : Time} {reason : BlockedReason}
    {retryAfter : Option StdDuration}
    (h : applyRetryableBlock r now reason retryAfter = .returned r') :
    instant now ≤ r'.block.endsAt := by
  have hbuild : ∀ candidate, (buildRetryableBlock r now reason retryAfter).2 = some candidate →
      now ≤ candidate.deadline := by
    intro candidate hcandidate
    cases retryAfter with
    | none | some delay =>
      obtain ⟨deadline, hdeadline, rfl⟩ := Option.map_eq_some_iff.mp hcandidate
      obtain ⟨delta, hdelta, hadd⟩ := Option.bind_eq_some_iff.mp hdeadline
      obtain rfl := addDelta_eq_some hadd
      unfold durationFromStd at hdelta
      split at hdelta
      next =>
        obtain rfl := Option.some.inj hdelta
        exact Int.le_add_of_nonneg_right (Int.natCast_nonneg _)
      next => cases hdelta
  unfold applyRetryableBlock at h
  rcases hbuilt : buildRetryableBlock r now reason retryAfter with ⟨counted, _ | candidate⟩
  · simp [hbuilt] at h
  · rw [hbuilt] at h hbuild
    obtain rfl := Outcome.returned.inj h
    exact le_endsAt_timed (hbuild candidate rfl)

theorem le_endsAt_fixed {r r' : AccountRecord} {now : Time} {reason : BlockedReason}
    {duration : TimeDelta} (hduration : 0 ≤ duration)
    (h : applyFixedBlock r now reason duration = .returned r') :
    instant now ≤ r'.block.endsAt := by
  unfold applyFixedBlock at h
  split at h
  next deadline hdeadline =>
    obtain rfl := addDelta_eq_some hdeadline
    obtain rfl := Outcome.returned.inj h
    refine le_endsAt_timed ?_
    exact Int.le_add_of_nonneg_right hduration
  next => cases h

/-- A failure that cools an account down and completes leaves a block that is not over. -/
theorem le_endsAt_failRecord {now : Time} {failure : FailureClass}
    {retryAfter : Option StdDuration} {details : String} {r r' : AccountRecord}
    (hcools : failure.cools = true)
    (h : failRecord now failure retryAfter details r = .returned r') :
    instant now ≤ r'.block.endsAt := by
  cases failure with
  | accessTokenRejected | authInvalid | riskControlled | requestRejected | internalFailure =>
    cases hcools
  | rateLimited | quotaExhausted =>
    simp only [failRecord] at h
    generalize hblocked : applyRetryableBlock _ now _ retryAfter = blocked at h
    cases blocked with
    | returned s =>
      obtain rfl := Outcome.returned.inj h
      have hblock : instant now ≤ s.block.endsAt := le_endsAt_retryable hblocked
      exact hblock
    | panicked s => cases h
  | temporaryFailure =>
    simp only [failRecord] at h
    split at h
    · exact le_endsAt_retryable h
    · exact le_endsAt_fixed (by decide) h

namespace AccountStore

/-- `finish_refresh_failure` under one lock; `trashed` is how the move to the trash goes. An
error leaves the store as it is. -/
def finishRefreshFailure (store : AccountStore) (now : Time) (id : String)
    (failure : FailureClass) (retryAfter : Option StdDuration) (details : String)
    (trashed : Except String Unit) : Outcome AccountStore :=
  if failure = .authInvalid then
    match store.prepareAuthInvalidFailure now id details with
    | none => .returned store
    | some (store, trashOp) =>
      match trashOp, trashed with
      | some _, .error error => .returned (store.noteAuthInvalidTrashFailure now id error)
      | _, _ => .returned ((store.finalizeAuthInvalidFailure now id).getD store)
  else store.applyFailure now id failure retryAfter details

variable {store store' : AccountStore} {now : Time} {id : String} {failure : FailureClass}
  {retryAfter : Option StdDuration} {details : String}

theorem completes_applyFailure {record : AccountRecord} (hrecord : store.record? id = some record) :
    Completes (store.applyFailure now id failure retryAfter details) ↔
      ∀ delay, failure.delay retryAfter record = some delay → Representable now delay := by
  have hiff := @completes_failRecord now failure retryAfter details record
  rw [← hiff]
  unfold applyFailure
  cases hfailed : failRecord now failure retryAfter details record with
  | returned s =>
    simp only [hrecord, Option.map_some, hfailed]
    exact iff_of_true (completes_returned _) (completes_returned s)
  | panicked s =>
    simp only [hrecord, Option.map_some, hfailed]
    exact iff_of_false (not_completes_panicked _) (not_completes_panicked s)

theorem le_endsAt_applyFailure {record' : AccountRecord} (hcools : failure.cools = true)
    (h : store.applyFailure now id failure retryAfter details = .returned store')
    (hrecord' : store'.record? id = some record') : instant now ≤ record'.block.endsAt := by
  have hstate : (store.applyFailure now id failure retryAfter details).state = store' := by
    rw [h]; rfl
  obtain ⟨record, hrecord, rfl⟩ := of_record?_applyFailure (hstate ▸ hrecord')
  have hdelay := (completes_applyFailure hrecord).mp ⟨store', h⟩
  obtain ⟨s, hfailed⟩ := (@completes_failRecord now failure retryAfter details record).mpr hdelay
  rw [if_pos rfl, hfailed]
  exact le_endsAt_failRecord hcools hfailed

/-- A failure can be settled at this moment: the delay it adds to the clock can be represented. -/
def SettlesInTime (store : AccountStore) (now : Time) (id : String) (failure : FailureClass)
    (retryAfter : Option StdDuration) : Prop :=
  ∀ record delay, store.record? id = some record → failure.delay retryAfter record = some delay →
    Representable now delay

instance : Decidable (SettlesInTime store now id failure retryAfter) :=
  decidable_of_iff (∀ record ∈ store.record? id, ∀ delay ∈ failure.delay retryAfter record,
    Representable now delay)
    ⟨fun h record delay hrecord hdelay => h record hrecord delay hdelay,
      fun h record hrecord delay hdelay => h record delay hrecord hdelay⟩

theorem completes_markRequestFailure_iff :
    Completes (store.markRequestFailure now id failure retryAfter details) ↔
      SettlesInTime store now id failure retryAfter := by
  unfold markRequestFailure SettlesInTime
  cases hrecord : store.record? id with
  | none =>
    refine iff_of_true ⟨store, ?_⟩ (by simp)
    simp [applyFailure, hrecord]
  | some record =>
    rw [completes_applyFailure hrecord]
    constructor
    · intro hdelay record' delay hrecord'
      obtain rfl := Option.some.inj hrecord'
      exact hdelay delay
    · exact fun hdelay delay => hdelay record delay rfl

theorem finishRefreshFailure_of_ne {trashed : Except String Unit} (h : failure ≠ .authInvalid) :
    store.finishRefreshFailure now id failure retryAfter details trashed =
      store.applyFailure now id failure retryAfter details := if_neg h

/-- The settlement of an invalid token computes no deadline. -/
theorem completes_finishRefreshFailure_authInvalid {trashed : Except String Unit} :
    Completes (store.finishRefreshFailure now id .authInvalid retryAfter details trashed) := by
  unfold finishRefreshFailure
  rw [if_pos rfl]
  split
  next => exact completes_returned _
  next => split <;> exact completes_returned _

end AccountStore

end Codaze.Accounts
