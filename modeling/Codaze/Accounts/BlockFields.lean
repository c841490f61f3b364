import Codaze.Accounts.Operations
import Mathlib.Data.Int.ConditionallyCompleteOrder
import Mathlib.Order.ConditionallyCompleteLattice.Basic

/-!
# The block a record carries

The three `blocked_*` fields move together. `BlockChange` lists what an operation can do to
them; that they stay coherent and that an active block is not shortened is read off the
list. A permanent block has an infinite deadline.
-/
namespace Codaze.Accounts
open Foundation

structure BlockFields where
  reason : Option BlockedReason
  source : Option BlockedSource
  deadline : Option Time
  deriving DecidableEq, Repr

namespace BlockFields

def none : BlockFields := ⟨.none, .none, .none⟩

def activeAt (block : BlockFields) (now : Time) : Bool :=
  match block.deadline with
  | some deadline => decide (now < deadline)
  | .none => block.reason.isSome

/-- Reason and source come together, a deadline has a reason, and the permanent blocks are
those of invalid accounts. -/
structure Coherent (block : BlockFields) : Prop where
  reason_iff_source : block.reason.isSome = true ↔ block.source.isSome = true
  reason_of_deadline : block.deadline.isSome = true → block.reason.isSome = true
  permanent_iff : block.reason.isSome = true ∧ block.deadline = .none ↔
    block.reason = some .authInvalid

/-- When the block ends: never for a permanent one, always for no block. -/
def endsAt (block : BlockFields) : WithBot (WithTop Time) :=
  match block.deadline, block.reason with
  | some deadline, _ => ((deadline : WithTop Time) : WithBot (WithTop Time))
  | .none, some _ => ((⊤ : WithTop Time) : WithBot (WithTop Time))
  | .none, .none => ⊥

theorem coherent_none : BlockFields.none.Coherent := by
  constructor <;> simp [BlockFields.none]

theorem coherent_permanent (source : BlockedSource) :
    (⟨some .authInvalid, some source, .none⟩ : BlockFields).Coherent := by
  constructor <;> simp

theorem coherent_timed {reason : BlockedReason} (hreason : reason ≠ .authInvalid)
    (source : BlockedSource) (deadline : Time) :
    (⟨some reason, some source, some deadline⟩ : BlockFields).Coherent := by
  constructor
  · simp
  · simp
  · simpa using hreason

end BlockFields

def AccountRecord.block (record : AccountRecord) : BlockFields :=
  ⟨record.blockedReason, record.blockedSource, record.blockedUntil⟩

theorem hasActiveBlockAt_eq (record : AccountRecord) (now : Time) :
    hasActiveBlockAt record now = record.block.activeAt now := rfl

/-- What an operation can do to a block. -/
inductive BlockChange (wakes : Bool) (now : Time) (block : BlockFields) : BlockFields → Prop
  | same : BlockChange wakes now block block
  | clear (hidle : wakes = false → block.activeAt now = false) :
      BlockChange wakes now block .none
  | permanent (source : BlockedSource) :
      BlockChange wakes now block ⟨some .authInvalid, some source, none⟩
  | timed {reason : BlockedReason} (source : BlockedSource) {deadline : Time}
      (hreason : reason ≠ .authInvalid)
      (hlater : ∀ existing, block.deadline = some existing → now < existing →
        existing ≤ deadline)
      (hpermanent : block.deadline = none → block.activeAt now = false) :
      BlockChange wakes now block ⟨some reason, some source, some deadline⟩

namespace BlockChange

variable {wakes : Bool} {now : Time} {block block' : BlockFields}

theorem coherent (h : BlockChange wakes now block block') (hblock : block.Coherent) :
    block'.Coherent := by
  cases h with
  | same => exact hblock
  | clear => exact BlockFields.coherent_none
  | permanent source => exact BlockFields.coherent_permanent source
  | timed source hreason => exact BlockFields.coherent_timed hreason source _

/-- An active block is only replaced by one that ends no earlier. -/
theorem endsAt_le (h : BlockChange false now block block') (hactive : block.activeAt now = true) :
    block.endsAt ≤ block'.endsAt := by
  cases h with
  | same => exact le_rfl
  | clear hidle => exact absurd (hactive.symm.trans (hidle rfl)) (by simp)
  | permanent source =>
    have htop : (⟨some .authInvalid, some source, none⟩ : BlockFields).endsAt = ⊤ := rfl
    rw [htop]
    exact le_top
  | @timed reason source deadline hreason hlater hpermanent =>
    cases hdeadline : block.deadline with
    | none => exact absurd (hactive.symm.trans (hpermanent hdeadline)) (by simp)
    | some existing =>
      have hnow : now < existing := by simpa [BlockFields.activeAt, hdeadline] using hactive
      have hle := hlater existing hdeadline hnow
      simpa [BlockFields.endsAt, hdeadline] using hle

theorem active (h : BlockChange false now block block') (hactive : block.activeAt now = true) :
    block'.activeAt now = true := by
  cases h with
  | same => exact hactive
  | clear hidle => exact absurd (hactive.symm.trans (hidle rfl)) (by simp)
  | permanent source => rfl
  | @timed reason source deadline hreason hlater hpermanent =>
    cases hdeadline : block.deadline with
    | none => exact absurd (hactive.symm.trans (hpermanent hdeadline)) (by simp)
    | some existing =>
      have hnow : now < existing := by simpa [BlockFields.activeAt, hdeadline] using hactive
      have hle := hlater existing hdeadline hnow
      simpa [BlockFields.activeAt] using hnow.trans_le hle

/-- A timed candidate, taken or not. -/
theorem of_timed {r : AccountRecord} (hblock : r.block = block) {candidate : RetryableBlock}
    (hreason : candidate.reason ≠ .authInvalid) :
    BlockChange wakes now block (applyBlockTransition r now (.timed candidate)).block := by
  subst hblock
  simp only [applyBlockTransition]
  split
  next hreplace =>
    refine .timed candidate.source hreason (fun existing hexisting hnow => ?_) fun hnone => ?_
    · have huntil : r.blockedUntil = some existing := hexisting
      simpa [shouldReplaceExisting, huntil, hnow] using hreplace
    · have huntil : r.blockedUntil = none := hnone
      simpa [shouldReplaceExisting, huntil, hasActiveBlockAt_eq] using hreplace
  next => exact .same

theorem of_retryable {r : AccountRecord} (hblock : r.block = block) {reason : BlockedReason}
    (hreason : reason ≠ .authInvalid) (retryAfter : Option StdDuration) :
    BlockChange wakes now block (applyRetryableBlock r now reason retryAfter).state.block := by
  have hbuild : (buildRetryableBlock r now reason retryAfter).1.block = r.block ∧
      ∀ candidate, (buildRetryableBlock r now reason retryAfter).2 = some candidate →
        candidate.reason = reason := by
    refine ⟨by cases retryAfter <;> rfl, fun candidate hcandidate => ?_⟩
    cases retryAfter with
    | none | some delay =>
      obtain ⟨deadline, -, rfl⟩ := Option.map_eq_some_iff.mp hcandidate
      rfl
  unfold applyRetryableBlock
  split
  next counted candidate heq =>
    rw [heq] at hbuild
    exact of_timed (hbuild.1.trans hblock) (hbuild.2 candidate rfl ▸ hreason)
  next counted heq =>
    rw [heq] at hbuild
    rw [Outcome.state_panicked, hbuild.1.trans hblock]
    exact .same

theorem of_fixed {r : AccountRecord} (hblock : r.block = block) {reason : BlockedReason}
    (hreason : reason ≠ .authInvalid) (duration : TimeDelta) :
    BlockChange wakes now block (applyFixedBlock r now reason duration).state.block := by
  unfold applyFixedBlock
  split
  next deadline _ => exact of_timed hblock hreason
  next => exact hblock ▸ .same

theorem of_failRecord (now : Time) (failure : FailureClass) (retryAfter : Option StdDuration)
    (details : String) (r : AccountRecord) :
    BlockChange wakes now r.block (failRecord now failure retryAfter details r).state.block := by
  cases failure with
  | accessTokenRejected | riskControlled =>
    simp only [failRecord]
    refine of_fixed ?_ ?_ _
    · rfl
    · decide
  | authInvalid => exact .permanent .fixedPolicy
  | rateLimited | quotaExhausted =>
    -- the routing state is written after the block
    refine Outcome.andThen_induction
      (P := fun s : AccountRecord => BlockChange wakes now r.block s.block) ?_ fun s hs => hs
    refine of_retryable ?_ ?_ retryAfter
    · rfl
    · decide
  | temporaryFailure =>
    simp only [failRecord]
    split
    · refine of_retryable ?_ ?_ retryAfter
      · rfl
      · decide
    · refine of_fixed ?_ ?_ _
      · rfl
      · decide
  | requestRejected | internalFailure =>
    simp only [failRecord, Outcome.state_returned]
    split <;> exact .same

theorem of_expireRecord (now : Time) (r : AccountRecord) :
    BlockChange wakes now r.block (expireRecord now r).block := by
  have hreset (record : AccountRecord) :
      (if record.routingState = .cold ∧ record.accessToken.isSome then
        { record with routingState := .ready } else record).block = record.block := by
    split <;> rfl
  rw [expireRecord, hreset]
  split
  next hexpired =>
    obtain ⟨deadline, huntil, hdeadline⟩ := (Option.any_eq_true _ _).mp hexpired
    have hidle : r.block.activeAt now = false := by
      have hblock : r.block.deadline = some deadline := huntil
      simpa [BlockFields.activeAt, hblock] using hdeadline
    dsimp only
    split <;> exact .clear fun _ => hidle
  next => exact .same

end BlockChange

/-- The two operations that clear a block before its time. -/
def StoreOp.wakes : StoreOp → Bool
  | wake _ | wakeAll => true
  | _ => false

theorem RecordChange.block {now : Time} {op : StoreOp} {r r' : AccountRecord}
    (h : RecordChange now op r r') : BlockChange op.wakes now r.block r'.block := by
  cases h with
  | expire | expireBeforeSelect => exact .of_expireRecord now r
  | select =>
    simp only [selectRecord]
    split <;> exact .same
  | wake | wakeAll =>
    unfold applyWake
    split
    · exact .same
    · exact .clear fun hwakes => (by cases hwakes)
  | markSuccess =>
    simp only [markSuccessRecord]
    split <;> exact .same
  | invalidate =>
    simp only [invalidateRecord]
    split <;> exact .same
  | release =>
    simp only [releaseRecord]
    split <;> exact .same
  | fail => exact .of_failRecord now _ _ _ r
  | refreshSuccess =>
    simp only [refreshSuccessRecord]
    split
    next hidle => exact .clear fun _ => hidle
    next => exact .same
  | prepareAuthInvalid | finalizeAuthInvalid => exact .permanent .fixedPolicy
  | noteTrashFailure | updateMetadata | upsert | remove | retire => exact .same

/-- An active block stays active through the moves of one operation and ends no earlier. -/
theorem RecordChanges.endsAt_le {now : Time} {op : StoreOp} {r r' : AccountRecord}
    (hwakes : op.wakes = false) (hrun : RecordChanges now op r r')
    (hactive : r.block.activeAt now = true) :
    r.block.endsAt ≤ r'.block.endsAt ∧ r'.block.activeAt now = true := by
  induction hrun with
  | refl => exact ⟨le_rfl, hactive⟩
  | tail _ hlast ih =>
    obtain ⟨hle, hstill⟩ := ih
    have hchange := hlast.block
    rw [hwakes] at hchange
    exact ⟨hle.trans (hchange.endsAt_le hstill), hchange.active hstill⟩

open AccountStore

theorem blocks_coherent_apply {store : AccountStore} (now : Time) (op : StoreOp)
    (h : Holds (fun r => r.block.Coherent) store) :
    Holds (fun r => r.block.Coherent) (store.apply now op) :=
  h.apply (fun _ _ hchange hr => hchange.block.coherent hr)
    fun _ _ _ => BlockFields.coherent_none

/-- In every run of the store, whatever its clock, the blocks are coherent and none that is
active is shortened but by a wake. -/
theorem blocks_coherent_and_kept {store : AccountStore} (hrun : Run storeStep anyEvent .new store) :
    (∀ id record, store.record? id = some record → record.block.Coherent) ∧
    ∀ now op id record record', op.wakes = false → store.record? id = some record →
      (store.apply now op).record? id = some record' → hasActiveBlockAt record now = true →
      record.block.endsAt ≤ record'.block.endsAt := by
  refine ⟨hrun.invariant (fun a e b ha _ hstep => ?_) (holds_new _), ?_⟩
  · obtain rfl := Option.some.inj hstep
    exact blocks_coherent_apply e.1 e.2 ha
  · intro now op id record record' hwakes hrecord hrecord' hactive
    rcases traced_apply hrecord' with ⟨old, hold, hchanges⟩ | ⟨hnone, -⟩
    · obtain rfl := Option.some.inj (hrecord.symm.trans hold)
      exact (hchanges.endsAt_le hwakes hactive).1
    · exact absurd (hrecord.symm.trans hnone) (by simp)

/-- An account is imported, selected and rate limited for a minute. -/
def importedAndLimited : List (Time × StoreOp) :=
  let disk : AccountFile := ⟨"rt_1", none, none⟩
  [(0, .applyImport ⟨"a", false, .insert "a" ⟨"a"⟩ disk, some (.write ⟨"a"⟩ disk)⟩),
    (0, .select .fillFirst 0 ∅),
    (0, .fail "a" .rateLimited (some (fromSecs 60)) "slow down")]

/-- `blocks_coherent_and_kept` after the rate limit. -/
theorem blocks_coherent_and_kept_limited :
    let store := stateAfter storeStep .new importedAndLimited
    (∀ id record, store.record? id = some record → record.block.Coherent) ∧
    ∀ now op id record record', op.wakes = false → store.record? id = some record →
      (store.apply now op).record? id = some record' → hasActiveBlockAt record now = true →
      record.block.endsAt ≤ record'.block.endsAt :=
  blocks_coherent_and_kept (.of_isSome (by decide +kernel))

end Codaze.Accounts
