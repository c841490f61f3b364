import Codaze.Accounts.FailureTimes
import Codaze.Foundation.Provenance

/-!
# Why an account is blocked

A block is set by a failure of its account and stands until it is lifted. `asks` is the
block a failure asks for, `Withstands` says which events leave a block as it is. From what
one operation does, the block of every record is traced to one event of the history, and
the local backoff to the failures counted before it.
-/
namespace Codaze.Accounts
open Foundation

/-- A block that ends `delay` from now; `none` where `chrono` cannot hold its end. -/
def BlockFields.lasting (reason : BlockedReason) (source : BlockedSource) (now : Time)
    (delay : StdDuration) : Option BlockFields :=
  if Representable now delay then some ⟨some reason, some source, some (now + delay)⟩
  else Option.none

/-- The block of an account whose refresh token is invalid. -/
def BlockFields.invalid : BlockFields := ⟨some .authInvalid, some .fixedPolicy, .none⟩

/-- As long as the upstream says, or the next local backoff. -/
def BlockFields.retryable (reason : BlockedReason) (retryAfter : Option StdDuration) (level : ℕ)
    (now : Time) : Option BlockFields :=
  match retryAfter with
  | some delay => lasting reason .upstreamRetryAfter now delay
  | .none => lasting reason .localBackoff now (nextLocalBackoff level)

/-- The block a failure asks for when the account has counted `level` local backoffs. -/
def FailureClass.asks (failure : FailureClass) (retryAfter : Option StdDuration) (level : ℕ)
    (now : Time) : Option BlockFields :=
  match failure with
  | accessTokenRejected =>
    BlockFields.lasting .temporarilyUnavailable .fixedPolicy now (fromSecs 60)
  | authInvalid => some .invalid
  | rateLimited => BlockFields.retryable .rateLimited retryAfter level now
  | quotaExhausted => BlockFields.retryable .quotaExhausted retryAfter level now
  | riskControlled => BlockFields.lasting .riskControlled .fixedPolicy now (fromSecs 1800)
  | temporaryFailure =>
    if retryAfter.isSome then BlockFields.retryable .temporarilyUnavailable retryAfter level now
    else BlockFields.lasting .temporarilyUnavailable .fixedPolicy now (fromSecs 60)
  | requestRejected | internalFailure => none

/-- The failures that count a local backoff of the account. -/
def StoreOp.backsOff (id : String) : StoreOp → Bool
  | fail id' .rateLimited none _ | fail id' .quotaExhausted none _ => decide (id' = id)
  | _ => false

def backoffs (id : String) (history : List (Time × StoreOp)) : ℕ :=
  history.countP fun event => event.2.backsOff id

/-- The local backoffs counted in the record of the account after a history. -/
def levelAfter (id : String) (past : List (Time × StoreOp)) : Option ℕ :=
  ((stateAfter storeStep .new past).record? id).map (·.localBackoffLevel)

/-- The event set the block of the account. -/
def BlockFields.SetBy (block : BlockFields) (id : String) (past : List (Time × StoreOp)) :
    Time × StoreOp → Prop
  | (now, .fail id' failure retryAfter _) => id' = id ∧
    ∃ level ∈ levelAfter id past, level ≤ backoffs id past ∧
      failure.asks retryAfter level now = some block
  | (_, .prepareAuthInvalid id' _) | (_, .finalizeAuthInvalid id') => id' = id ∧ block = .invalid
  | _ => False

/-- A block without a deadline lasts for good. -/
def BlockFields.LastsPast (block : BlockFields) (now : Time) : Prop :=
  ∀ deadline, block.deadline = some deadline → now < deadline

/-- The event left the block of the account as it was: no look at it after its end, no wake
unless it is for good, no failure that asked for a block as long. -/
def BlockFields.Withstands (block : BlockFields) (id : String) (past : List (Time × StoreOp)) :
    Time × StoreOp → Prop
  | (now, .sweep) | (now, .select ..) => block.LastsPast now
  | (now, .refreshSuccess id' _) => id' = id → block.LastsPast now
  | (_, .wake id') => id' = id → block.reason = some .authInvalid
  | (_, .wakeAll) => block.reason = some .authInvalid
  | (now, .fail id' failure retryAfter _) => id' = id → ∃ level ∈ levelAfter id past,
    ∀ asked, failure.asks retryAfter level now = some asked → asked.endsAt < block.endsAt
  | _ => True

/-- An account routed away for good is blocked for good. -/
def RoutedAway (r : AccountRecord) : Prop := r.routingState = .authInvalid → r.block = .invalid

/-- What is known of a record after a history: its block is explained, its local backoffs
are counted, and an auth-invalid record is blocked for good. -/
structure Explained (history : List (Time × StoreOp)) (r : AccountRecord) : Prop where
  block : r.block = .none ∨ Since (r.block.SetBy r.id) (r.block.Withstands r.id) history
  level : r.localBackoffLevel ≤ backoffs r.id history
  routed : RoutedAway r

/-- What one event can do to the block of a record after a history. -/
structure BlockStep (past : List (Time × StoreOp)) (event : Time × StoreOp)
    (r r' : AccountRecord) : Prop where
  id : r'.id = r.id
  block : r'.block = .none ∨ r'.block = r.block ∧ r.block.Withstands r.id past event ∨
    r'.block.SetBy r.id past event
  level : r'.localBackoffLevel ≤
    r.localBackoffLevel + if event.2.backsOff r.id = true then 1 else 0
  routed : RoutedAway r'

theorem backoffs_concat (id : String) (history : List (Time × StoreOp)) (event : Time × StoreOp) :
    backoffs id (history ++ [event]) =
      backoffs id history + if event.2.backsOff id = true then 1 else 0 := by
  simp [backoffs, List.countP_singleton]

theorem Explained.step {past : List (Time × StoreOp)} {event : Time × StoreOp}
    {r r' : AccountRecord} (h : Explained past r) (hstep : BlockStep past event r r') :
    Explained (past ++ [event]) r' where
  block := by
    rw [hstep.id]
    rcases hstep.block with hnone | ⟨hsame, hkept⟩ | hset
    · exact .inl hnone
    · rw [hsame]
      exact h.block.imp_right fun hsince => hsince.keep hkept
    · exact .inr (.now hset)
  level := by
    rw [hstep.id, backoffs_concat]
    exact hstep.level.trans (Nat.add_le_add_right h.level _)
  routed := hstep.routed

theorem explained_newRecord (history : List (Time × StoreOp)) (id : String) (path : AccountPath)
    (disk : AccountFile) : Explained history (AccountStore.newRecord id path disk) :=
  ⟨.inl rfl, Nat.zero_le _, fun h => by cases h⟩

section Failures

variable {r : AccountRecord} {now : Time}

/-- A timed candidate is taken unless an active block ends later. -/
theorem applyTimed_block (r : AccountRecord) (now : Time) (candidate : RetryableBlock) :
    let asked : BlockFields := ⟨some candidate.reason, some candidate.source,
      some candidate.deadline⟩
    (applyBlockTransition r now (.timed candidate)).block = asked ∨
      (applyBlockTransition r now (.timed candidate)).block = r.block ∧
        asked.endsAt < r.block.endsAt := by
  simp only [applyBlockTransition]
  split
  next => exact .inl rfl
  next hkept =>
    refine .inr ⟨rfl, ?_⟩
    cases huntil : r.blockedUntil with
    | none =>
      have hactive : r.blockedReason ≠ none := by
        simpa [shouldReplaceExisting, hasActiveBlockAt, huntil] using hkept
      obtain ⟨reason, hreason⟩ := Option.ne_none_iff_exists'.mp hactive
      have htop : r.block.endsAt = ⊤ := by
        simp only [AccountRecord.block, BlockFields.endsAt, huntil, hreason]
        rfl
      rw [htop]
      exact WithBot.coe_lt_coe.mpr (WithTop.coe_lt_top candidate.deadline)
    | some existing =>
      have hlater : candidate.deadline < existing := by
        by_cases hnow : now < existing
        · simpa [shouldReplaceExisting, huntil, hnow] using hkept
        · simp [shouldReplaceExisting, huntil, hnow] at hkept
      simpa [AccountRecord.block, BlockFields.endsAt, huntil] using hlater

/-- The answer of a record to the block a failure asks for. -/
def Answers (asked : Option BlockFields) (block block' : BlockFields) : Prop :=
  (∃ fields, asked = some fields ∧ block' = fields) ∨
    block' = block ∧ ∀ fields, asked = some fields → fields.endsAt < block.endsAt

theorem answers_timed (reason : BlockedReason) (source : BlockedSource) {delay : StdDuration}
    {deadline : Time} (hdeadline : (durationFromStd delay).bind (addDelta now) = some deadline) :
    Answers (BlockFields.lasting reason source now delay) r.block
      (applyBlockTransition r now (.timed ⟨reason, source, deadline⟩)).block := by
  have hrepresentable := (deadline_isSome_iff now delay).mp (by rw [hdeadline]; rfl)
  obtain rfl : deadline = now + delay := by
    obtain ⟨delta, hdelta, hadd⟩ := Option.bind_eq_some_iff.mp hdeadline
    obtain rfl := addDelta_eq_some hadd
    rw [durationFromStd, if_pos hrepresentable.1] at hdelta
    rw [Option.some.inj hdelta]
  rw [BlockFields.lasting, if_pos hrepresentable]
  rcases applyTimed_block r now ⟨reason, source, now + delay⟩ with htaken | ⟨hkept, hlater⟩
  · exact .inl ⟨_, rfl, htaken⟩
  · refine .inr ⟨hkept, fun fields hfields => ?_⟩
    obtain rfl := Option.some.inj hfields
    exact hlater

/-- Where the deadline cannot be represented nothing is asked for and nothing changes. -/
theorem answers_panicked (reason : BlockedReason) (source : BlockedSource) {delay : StdDuration}
    {block : BlockFields} (hdeadline : (durationFromStd delay).bind (addDelta now) = none) :
    Answers (BlockFields.lasting reason source now delay) block block := by
  have hnot : ¬ Representable now delay := by
    intro hrepresentable
    have hsome := (deadline_isSome_iff now delay).mpr hrepresentable
    rw [hdeadline] at hsome
    cases hsome
  rw [BlockFields.lasting, if_neg hnot]
  exact .inr ⟨rfl, by simp⟩

theorem answers_build {s : AccountRecord} {now : Time} {reason : BlockedReason}
    {source : BlockedSource} {delay : StdDuration} {retryAfter : Option StdDuration}
    {counted : AccountRecord} (hcounted : counted.block = s.block)
    (hbuild : buildRetryableBlock s now reason retryAfter =
      (counted, ((durationFromStd delay).bind (addDelta now)).map fun deadline =>
        ⟨reason, source, deadline⟩)) :
    Answers (BlockFields.lasting reason source now delay) s.block
      (applyRetryableBlock s now reason retryAfter).state.block := by
  unfold applyRetryableBlock
  rw [hbuild, ← hcounted]
  cases hdeadline : (durationFromStd delay).bind (addDelta now) with
  | some deadline => exact answers_timed reason source hdeadline
  | none => exact answers_panicked reason source hdeadline

theorem answers_retryable {s : AccountRecord} {block : BlockFields} {level : ℕ}
    (hblock : s.block = block) (hlevel : s.localBackoffLevel = level) (now : Time)
    (reason : BlockedReason) (retryAfter : Option StdDuration) :
    Answers (BlockFields.retryable reason retryAfter level now) block
      (applyRetryableBlock s now reason retryAfter).state.block := by
  subst hblock hlevel
  cases retryAfter with
  | some delay =>
    have hcounted : s.block = s.block := rfl
    exact answers_build hcounted rfl
  | none =>
    let counted := { s with localBackoffLevel := saturatingSucc32 s.localBackoffLevel }
    have hcounted : counted.block = s.block := rfl
    exact answers_build hcounted rfl

theorem answers_fixed {s : AccountRecord} {block : BlockFields} (hblock : s.block = block)
    (now : Time) (reason : BlockedReason) {seconds : ℕ}
    (hseconds : (fromSecs seconds : ℤ) ≤ maxDelta) :
    Answers (BlockFields.lasting reason .fixedPolicy now (fromSecs seconds)) block
      (applyFixedBlock s now reason (deltaSeconds seconds)).state.block := by
  subst hblock
  have hdelta : deltaSeconds seconds = ((fromSecs seconds : ℕ) : ℤ) := by
    simp [deltaSeconds, fromSecs]
  have hfrom : durationFromStd (fromSecs seconds) = some (deltaSeconds seconds) := by
    rw [durationFromStd, if_pos hseconds, hdelta]
  unfold applyFixedBlock
  cases hdeadline : addDelta now (deltaSeconds seconds) with
  | some deadline => exact answers_timed reason _ (by rw [hfrom]; exact hdeadline)
  | none => exact answers_panicked reason _ (by rw [hfrom]; exact hdeadline)

theorem answers_failRecord (now : Time) (failure : FailureClass) (retryAfter : Option StdDuration)
    (details : String) (r : AccountRecord) :
    Answers (failure.asks retryAfter r.localBackoffLevel now) r.block
      (failRecord now failure retryAfter details r).state.block := by
  have hcooldown : (fromSecs 60 : ℤ) ≤ maxDelta := by decide
  cases failure with
  | accessTokenRejected =>
    refine answers_fixed ?_ now _ hcooldown
    rfl
  | authInvalid => exact .inl ⟨_, rfl, rfl⟩
  | rateLimited | quotaExhausted =>
    -- the routing state is written after the block
    refine Outcome.andThen_induction
      (P := fun s : AccountRecord => Answers _ r.block s.block) ?_ fun s hs => hs
    refine answers_retryable ?_ ?_ now _ retryAfter <;> rfl
  | riskControlled =>
    refine answers_fixed ?_ now _ (by decide)
    rfl
  | temporaryFailure =>
    simp only [failRecord, FailureClass.asks]
    split
    · refine answers_retryable ?_ ?_ now _ retryAfter <;> rfl
    · refine answers_fixed ?_ now _ hcooldown
      rfl
  | requestRejected | internalFailure =>
    simp only [failRecord, Outcome.state_returned]
    refine .inr ⟨?_, by simp [FailureClass.asks]⟩
    split <;> rfl

theorem applyFixedBlock_rest (r : AccountRecord) (now : Time) (reason : BlockedReason)
    (duration : TimeDelta) :
    (applyFixedBlock r now reason duration).state.localBackoffLevel = r.localBackoffLevel ∧
      (applyFixedBlock r now reason duration).state.routingState = r.routingState := by
  unfold applyFixedBlock
  split
  next deadline _ => exact applyBlockTransition_rest r now (.timed ⟨reason, .fixedPolicy, deadline⟩)
  next => exact ⟨rfl, rfl⟩

theorem buildRetryableBlock_rest (r : AccountRecord) (now : Time) (reason : BlockedReason)
    (retryAfter : Option StdDuration) :
    let counted := (buildRetryableBlock r now reason retryAfter).1
    counted.localBackoffLevel =
        (if retryAfter.isSome then r.localBackoffLevel else saturatingSucc32 r.localBackoffLevel) ∧
      counted.routingState = r.routingState ∧ counted.block = r.block := by
  cases retryAfter <;> exact ⟨rfl, rfl, rfl⟩

theorem applyRetryableBlock_rest (r : AccountRecord) (now : Time) (reason : BlockedReason)
    (retryAfter : Option StdDuration) :
    (applyRetryableBlock r now reason retryAfter).state.localBackoffLevel =
        (if retryAfter.isSome then r.localBackoffLevel else saturatingSucc32 r.localBackoffLevel) ∧
      (applyRetryableBlock r now reason retryAfter).state.routingState = r.routingState := by
  obtain ⟨hlevel, hrouting, -⟩ := buildRetryableBlock_rest r now reason retryAfter
  unfold applyRetryableBlock
  split
  next counted candidate heq =>
    rw [heq] at hlevel hrouting
    have hrest := applyBlockTransition_rest counted now (.timed candidate)
    exact ⟨hrest.1.trans hlevel, hrest.2.trans hrouting⟩
  next counted heq =>
    rw [heq] at hlevel hrouting
    exact ⟨hlevel, hrouting⟩

/-- A block for good stays whatever block is asked for. -/
theorem applyRetryableBlock_invalid {r : AccountRecord} (h : r.block = .invalid) (now : Time)
    (reason : BlockedReason) (retryAfter : Option StdDuration) :
    (applyRetryableBlock r now reason retryAfter).state.block = .invalid := by
  obtain ⟨-, -, hblock⟩ := buildRetryableBlock_rest r now reason retryAfter
  unfold applyRetryableBlock
  split
  next counted candidate heq =>
    rw [heq] at hblock
    have hinvalid := hblock.trans h
    have hreason : counted.blockedReason = some .authInvalid := congrArg BlockFields.reason hinvalid
    have huntil : counted.blockedUntil = none := congrArg BlockFields.deadline hinvalid
    rw [Outcome.state_returned,
      applyBlockTransition_timed_of_permanent now candidate (by rw [hreason]; rfl) huntil]
    exact hinvalid
  next counted heq =>
    rw [heq] at hblock
    exact hblock.trans h

/-- A local backoff is counted by the failures without advice, and by no other. -/
theorem level_failRecord (now : Time) (failure : FailureClass) (retryAfter : Option StdDuration)
    (details : String) (r : AccountRecord) :
    (failRecord now failure retryAfter details r).state.localBackoffLevel =
      if (StoreOp.fail r.id failure retryAfter details).backsOff r.id = true
      then saturatingSucc32 r.localBackoffLevel else r.localBackoffLevel := by
  cases failure with
  | accessTokenRejected | riskControlled => exact (applyFixedBlock_rest _ now _ _).1
  | authInvalid => rfl
  | rateLimited | quotaExhausted =>
    refine Outcome.andThen_induction
      (P := fun s : AccountRecord => s.localBackoffLevel = _) ?_ fun s hs => hs
    refine (applyRetryableBlock_rest _ now _ retryAfter).1.trans ?_
    cases retryAfter with
    | none =>
      simp only [StoreOp.backsOff, decide_true, if_true]
      rfl
    | some delay => rfl
  | temporaryFailure =>
    simp only [failRecord]
    split
    next hsome =>
      refine (applyRetryableBlock_rest _ now _ retryAfter).1.trans ?_
      rw [if_pos hsome]
      rfl
    next => exact (applyFixedBlock_rest _ now _ _).1
  | requestRejected | internalFailure =>
    simp only [failRecord, Outcome.state_returned]
    split <;> rfl

theorem routedAway_retryable {s : AccountRecord} (h : RoutedAway s) (now : Time)
    (reason : BlockedReason) (retryAfter : Option StdDuration) :
    RoutedAway (applyRetryableBlock s now reason retryAfter).state := fun hrouted =>
  applyRetryableBlock_invalid
    (h ((applyRetryableBlock_rest s now reason retryAfter).2.symm.trans hrouted)) now reason
    retryAfter

theorem routedAway_failRecord {r : AccountRecord} (h : RoutedAway r) (now : Time)
    (failure : FailureClass) (retryAfter : Option StdDuration) (details : String) :
    RoutedAway (failRecord now failure retryAfter details r).state := by
  cases failure with
  | accessTokenRejected | riskControlled =>
    intro hrouted
    rw [failRecord, (applyFixedBlock_rest _ now _ _).2] at hrouted
    cases hrouted
  | authInvalid => exact fun _ => rfl
  | rateLimited | quotaExhausted =>
    -- a deadline that cannot be represented leaves the routing state as it was
    refine Outcome.andThen_induction (P := RoutedAway) ?_ fun s hs hcooldown => ?_
    · refine routedAway_retryable ?_ now _ retryAfter
      exact h
    · cases hcooldown
  | temporaryFailure =>
    intro hrouted
    simp only [failRecord] at hrouted
    split at hrouted
    · rw [(applyRetryableBlock_rest _ now _ retryAfter).2] at hrouted
      cases hrouted
    · rw [(applyFixedBlock_rest _ now _ _).2] at hrouted
      cases hrouted
  | requestRejected | internalFailure =>
    intro hrouted
    simp only [failRecord, Outcome.state_returned] at hrouted ⊢
    split at hrouted
    next => exact absurd hrouted (by unfold restingState; split <;> simp)
    next hbusy =>
      rw [if_neg hbusy]
      exact h hrouted

theorem blockStep_failRecord {past : List (Time × StoreOp)} {r : AccountRecord}
    (h : Explained past r) (hlevel : levelAfter r.id past = some r.localBackoffLevel) (now : Time)
    (failure : FailureClass) (retryAfter : Option StdDuration) (details : String) :
    BlockStep past (now, .fail r.id failure retryAfter details) r
      (failRecord now failure retryAfter details r).state where
  id := (failRecord_same now failure retryAfter details r).id
  block := by
    rcases answers_failRecord now failure retryAfter details r with
      ⟨fields, hasked, htaken⟩ | ⟨hkept, hshorter⟩
    · refine .inr (.inr ⟨rfl, r.localBackoffLevel, hlevel, h.level, ?_⟩)
      rw [hasked, htaken]
    · exact .inr (.inl ⟨hkept, fun _ => ⟨r.localBackoffLevel, hlevel, hshorter⟩⟩)
  level := by
    rw [level_failRecord]
    split
    next => exact saturatingSucc32_le _
    next => exact le_rfl
  routed := routedAway_failRecord h.routed now failure retryAfter details

end Failures

section Events

variable {past : List (Time × StoreOp)} {event : Time × StoreOp} {r : AccountRecord} {now : Time}

/-- A change of the record that leaves its block and its local backoffs alone. -/
theorem BlockStep.frame {r' : AccountRecord} (hid : r'.id = r.id)
    (hblock : r'.block = r.block) (hwithstands : r.block.Withstands r.id past event)
    (hlevel : r'.localBackoffLevel ≤ r.localBackoffLevel)
    (hrouted : RoutedAway r') : BlockStep past event r r' :=
  ⟨hid, .inr (.inl ⟨hblock, hwithstands⟩), hlevel.trans (Nat.le_add_right _ _), hrouted⟩

/-- A change of the record that lifts its block. -/
theorem BlockStep.lift {r' : AccountRecord} (hid : r'.id = r.id)
    (hblock : r'.block = .none) (hlevel : r'.localBackoffLevel ≤ r.localBackoffLevel)
    (hrouting : r'.routingState ≠ .authInvalid) : BlockStep past event r r' :=
  ⟨hid, .inl hblock, hlevel.trans (Nat.le_add_right _ _), fun h => absurd h hrouting⟩

theorem blockStep_refl (h : RoutedAway r)
    (hwithstands : r.block.Withstands r.id past event) : BlockStep past event r r :=
  .frame rfl rfl hwithstands le_rfl h

theorem restingState_ne (r : AccountRecord) : restingState r ≠ .authInvalid := by
  unfold restingState
  split <;> simp

theorem lastsPast_of_active (h : hasActiveBlockAt r now = true) : r.block.LastsPast now := by
  intro deadline hdeadline
  have huntil : r.blockedUntil = some deadline := hdeadline
  simpa [hasActiveBlockAt, huntil] using h

/-- What a sweep does to a record: a block that is over is lifted, another one left. -/
theorem blockStep_expireRecord (h : RoutedAway r)
    (hwithstands : r.block.LastsPast now → r.block.Withstands r.id past event) :
    BlockStep past event r (expireRecord now r) := by
  have hid := (expireRecord_same now r).id
  by_cases hlasts : r.block.LastsPast now
  · have hkept : r.blockedUntil.any (fun deadline => decide (deadline ≤ now)) = false := by
      cases huntil : r.blockedUntil with
      | none => rfl
      | some deadline => simpa using hlasts deadline huntil
    have hexpire : expireRecord now r = r ∨
        expireRecord now r = { r with routingState := .ready } := by
      simp only [expireRecord, hkept, Bool.false_eq_true, if_false]
      split
      · exact .inr rfl
      · exact .inl rfl
    rcases hexpire with hsame | hready
    · rw [hsame]
      exact blockStep_refl h (hwithstands hlasts)
    · rw [hready]
      exact .frame rfl rfl (hwithstands hlasts) le_rfl fun hrouting => by cases hrouting
  · obtain ⟨deadline, huntil, hover⟩ : ∃ deadline, r.blockedUntil = some deadline ∧
        deadline ≤ now := by
      simpa [BlockFields.LastsPast, AccountRecord.block] using hlasts
    have hrouting : r.routingState ≠ .authInvalid := by
      intro hrouted
      have hnone : r.blockedUntil = none := congrArg BlockFields.deadline (h hrouted)
      simp [huntil] at hnone
    have hover' : r.blockedUntil.any (fun deadline => decide (deadline ≤ now)) = true := by
      simpa [huntil] using hover
    refine .lift hid ?_ ?_ ?_
    · simp only [expireRecord, hover', if_true]
      split_ifs <;> rfl
    · simp only [expireRecord, hover', if_true]
      split_ifs <;> exact le_rfl
    · simp only [expireRecord, hover', if_true]
      split_ifs
      · simp
      · exact restingState_ne _
      · simp
      · exact hrouting

theorem blockStep_selectRecord {s : AccountRecord} {skew : ℤ}
    (h : BlockStep past event r s) (heligible : isEligible s now = true) :
    BlockStep past event r (selectRecord now skew s) := by
  obtain ⟨-, -, hrouting, -⟩ := isEligible_iff.mp heligible
  have hselect : (selectRecord now skew s).block = s.block ∧
      (selectRecord now skew s).localBackoffLevel = s.localBackoffLevel ∧
      (selectRecord now skew s).routingState ≠ .authInvalid := by
    simp only [selectRecord]
    split
    · exact ⟨rfl, rfl, by simp⟩
    · exact ⟨rfl, rfl, hrouting⟩
  obtain ⟨hblock, hlevel, hselected⟩ := hselect
  refine ⟨(selectRecord_same now skew s).id.trans h.id, ?_, ?_, fun hauth => absurd hauth hselected⟩
  · rw [hblock]
    exact h.block
  · rw [hlevel]
    exact h.level

theorem blockStep_applyWake (h : RoutedAway r)
    (hwithstands : r.block.reason = some .authInvalid → r.block.Withstands r.id past event) :
    BlockStep past event r (applyWake r now).1 := by
  unfold applyWake
  split
  next hauth =>
    refine blockStep_refl h (hwithstands ?_)
    rcases hauth with hrouted | hreason
    · rw [h hrouted]
      rfl
    · exact hreason
  next hauth =>
    refine .lift rfl rfl (Nat.zero_le _) ?_
    dsimp only
    split
    · simp
    · exact restingState_ne _

theorem blockStep_refreshSuccess (h : RoutedAway r) (refreshed : RefreshedAccount) :
    BlockStep past (now, .refreshSuccess r.id refreshed) r
      (refreshSuccessRecord now refreshed r) := by
  simp only [refreshSuccessRecord]
  split
  next => exact .lift rfl rfl (Nat.zero_le _) fun hauth => by cases hauth
  next hbusy =>
    have hactive : hasActiveBlockAt r now = true := Bool.eq_true_of_not_eq_false hbusy
    exact .frame rfl rfl (fun _ => lastsPast_of_active hactive) le_rfl h

end Events

/-- The operations whose effect on a block does not depend on the block. -/
def StoreOp.oblivious : StoreOp → Bool
  | sweep | select .. | wake _ | wakeAll | refreshSuccess .. | fail .. => false
  | _ => true

theorem BlockFields.withstands_oblivious {op : StoreOp} (hop : op.oblivious = true)
    (block : BlockFields) (id : String) (past : List (Time × StoreOp)) (now : Time) :
    block.Withstands id past (now, op) := by
  cases op with
  | sweep | select | wake | wakeAll | refreshSuccess | fail => cases hop
  | _ => trivial

theorem Explained.frame {history : List (Time × StoreOp)} {r r' : AccountRecord}
    (h : Explained history r) (hid : r'.id = r.id) (hblock : r'.block = r.block)
    (hlevel : r'.localBackoffLevel ≤ r.localBackoffLevel)
    (hrouted : RoutedAway r → RoutedAway r') : Explained history r' where
  block := by
    rw [hid, hblock]
    exact h.block
  level := by
    rw [hid]
    exact hlevel.trans h.level
  routed := hrouted h.routed

theorem Explained.invalid {past : List (Time × StoreOp)} {event : Time × StoreOp}
    {r r' : AccountRecord} (h : Explained (past ++ [event]) r) (hid : r'.id = r.id)
    (hblock : r'.block = .invalid) (hlevel : r'.localBackoffLevel = r.localBackoffLevel)
    (hset : BlockFields.invalid.SetBy r.id past event) : Explained (past ++ [event]) r' where
  block := by
    rw [hid, hblock]
    exact .inr (.now hset)
  level := by
    rw [hid, hlevel]
    exact h.level
  routed _ := hblock

/-- One move of an oblivious operation keeps a record explained. -/
theorem RecordChange.explained {past : List (Time × StoreOp)} {now : Time} {op : StoreOp}
    {r r' : AccountRecord} (hop : op.oblivious = true) (hchange : RecordChange now op r r')
    (h : Explained (past ++ [(now, op)]) r) : Explained (past ++ [(now, op)]) r' := by
  cases hchange with
  | expire | expireBeforeSelect | select | wake | wakeAll | fail | refreshSuccess => cases hop
  | prepareAuthInvalid | finalizeAuthInvalid => exact h.invalid rfl rfl rfl ⟨rfl, rfl⟩
  | markSuccess =>
    simp only [markSuccessRecord]
    split
    next => exact h.frame rfl rfl (Nat.zero_le _) fun _ hauth => absurd hauth (restingState_ne _)
    next => exact h.frame rfl rfl le_rfl id
  | invalidate =>
    simp only [invalidateRecord]
    split
    next => exact h.frame rfl rfl le_rfl fun _ hauth => by cases hauth
    next => exact h.frame rfl rfl le_rfl id
  | release =>
    simp only [releaseRecord]
    split
    next => exact h.frame rfl rfl le_rfl fun _ hauth => absurd hauth (restingState_ne _)
    next => exact h.frame rfl rfl le_rfl id
  | noteTrashFailure | updateMetadata | upsert | remove | retire => exact h.frame rfl rfl le_rfl id

namespace AccountStore

/-- An operation on one account that changes at most its record. -/
theorem explained_one {past : List (Time × StoreOp)} {event : Time × StoreOp}
    {store : AccountStore} {accountId id : String} {f : AccountRecord → AccountRecord}
    {r' : AccountRecord} (h : Holds (Explained past) store)
    (hother : ∀ r : AccountRecord, r.id ≠ accountId → r.block.Withstands r.id past event)
    (hstep : ∀ r, store.record? r.id = some r → r.id = accountId → Explained past r →
      BlockStep past event r (f r))
    (hr' : ∃ r, store.record? id = some r ∧ r' = if id = accountId then f r else r) :
    Explained (past ++ [event]) r' := by
  obtain ⟨r, hr, rfl⟩ := hr'
  have hrecord := h id r hr
  have hid := id_of_record? hr
  split
  next haccount => exact hrecord.step (hstep r (hid ▸ hr) (hid.trans haccount) hrecord)
  next haccount =>
    refine hrecord.step (blockStep_refl hrecord.routed (hother r ?_))
    rwa [hid]

theorem explained_apply {past : List (Time × StoreOp)} {store : AccountStore}
    (hstore : store = stateAfter storeStep .new past) (now : Time) (op : StoreOp)
    (h : Holds (Explained past) store) :
    Holds (Explained (past ++ [(now, op)])) (store.apply now op) := by
  by_cases hop : op.oblivious = true
  · refine Holds.apply (fun r r' hchange hr => hchange.explained hop hr)
      (fun id path disk => explained_newRecord _ id path disk) fun id r hr => ?_
    have hrecord := h id r hr
    exact hrecord.step (blockStep_refl hrecord.routed
      (r.block.withstands_oblivious hop r.id past now))
  intro id r' hr'
  cases op with
  | sweep =>
    rw [apply, refreshExpiredBlocks, record?_modifyAll] at hr'
    obtain ⟨r, hr, rfl⟩ := Option.map_eq_some_iff.mp hr'
    have hrecord := h id r hr
    exact hrecord.step (blockStep_expireRecord hrecord.routed fun hlasts => hlasts)
  | select policy skew excluded =>
    rw [apply] at hr'
    rcases hselect : store.selectAccount now policy skew excluded with ⟨⟨⟩ | selection, store'⟩
    · rw [hselect, (selectAccount_error hselect).2] at hr'
      obtain ⟨r, hr, rfl⟩ := Option.map_eq_some_iff.mp hr'
      have hrecord := h id r hr
      exact hrecord.step (blockStep_expireRecord hrecord.routed fun hlasts => hlasts)
    · obtain ⟨chosen, hchosen, heligible, -, -, -, hstore⟩ := selectAccount_ok hselect
      rw [hselect, hstore] at hr'
      obtain ⟨r, hr, rfl⟩ := Option.map_eq_some_iff.mp hr'
      have hrecord := h id r hr
      have hswept : BlockStep past (now, .select policy skew excluded) r (expireRecord now r) :=
        blockStep_expireRecord hrecord.routed fun hlasts => hlasts
      split
      next hid =>
        obtain rfl : chosen = r := Option.some.inj (hchosen.symm.trans (hid ▸ hr))
        exact hrecord.step (blockStep_selectRecord hswept heligible)
      next => exact hrecord.step hswept
  | wake accountId =>
    have hother (r : AccountRecord) (hne : r.id ≠ accountId) :
        r.block.Withstands r.id past (now, .wake accountId) := fun heq => absurd heq.symm hne
    exact explained_one h hother (f := fun r => (applyWake r now).1)
      (fun r _ _ hrecord => blockStep_applyWake hrecord.routed fun hreason _ => hreason)
      (of_record?_wake hr')
  | wakeAll =>
    rw [apply, wakeAllAccounts, record?_modifyAll] at hr'
    obtain ⟨r, hr, rfl⟩ := Option.map_eq_some_iff.mp hr'
    have hrecord := h id r hr
    exact hrecord.step (blockStep_applyWake hrecord.routed fun hreason => hreason)
  | refreshSuccess accountId refreshed =>
    have hother (r : AccountRecord) (hne : r.id ≠ accountId) :
        r.block.Withstands r.id past (now, .refreshSuccess accountId refreshed) :=
      fun heq => absurd heq.symm hne
    exact explained_one h hother (f := refreshSuccessRecord now refreshed)
      (fun r _ hid hrecord => hid ▸ blockStep_refreshSuccess hrecord.routed refreshed)
      (of_record?_refreshSuccess hr')
  | fail accountId failure retryAfter details =>
    have hother (r : AccountRecord) (hne : r.id ≠ accountId) :
        r.block.Withstands r.id past (now, .fail accountId failure retryAfter details) :=
      fun heq => absurd heq.symm hne
    refine explained_one h hother (fun r hr hid hrecord => ?_) (of_record?_applyFailure hr')
    subst hid
    have hlevel : levelAfter r.id past = some r.localBackoffLevel := by
      rw [levelAfter, ← hstore, hr]
      rfl
    exact blockStep_failRecord hrecord hlevel now failure retryAfter details
  | _ => exact absurd rfl hop

theorem explained_history (history : List (Time × StoreOp)) :
    Holds (Explained history) (stateAfter storeStep .new history) := by
  refine stateAfter_history (I := fun past store => Holds (Explained past) store) (holds_new _)
    (fun past event hidle => absurd hidle (by simp [storeStep]))
    (fun past event store hstep h => ?_) history
  obtain rfl := Option.some.inj hstep
  exact explained_apply rfl event.1 event.2 h

end AccountStore

/-- The operations that may forget the local backoffs counted in the record of the account. -/
def StoreOp.forgets (id : String) : StoreOp → Bool
  | wakeAll => true
  | wake id' | markSuccess id' | refreshSuccess id' _ => decide (id' = id)
  | _ => false

/-- Two levels with the same backoff now and after any number of failures. -/
def SameBackoff (m n : ℕ) : Prop := m = n ∨ 11 ≤ m ∧ 11 ≤ n

theorem SameBackoff.succ {m n : ℕ} (h : SameBackoff m n) :
    SameBackoff (saturatingSucc32 m) (n + 1) := by
  unfold SameBackoff saturatingSucc32 u32Max at *
  omega

/-- The backoff doubles with each level, to half an hour. -/
theorem nextLocalBackoff_eq (level : ℕ) :
    nextLocalBackoff level = fromSecs (min (2 ^ level) 1800) := by
  have hmultiplier : min (min (1 * if level < 64 then 1 <<< level else u64Max) u64Max) 1800 =
      min (2 ^ level) 1800 := by
    unfold u64Max
    split
    next =>
      rw [Nat.one_shiftLeft]
      omega
    next hlevel =>
      have hpow : 2 ^ 11 ≤ 2 ^ level := Nat.pow_le_pow_right (by decide) (by omega)
      omega
  exact congrArg fromSecs hmultiplier

theorem SameBackoff.nextLocalBackoff {m n : ℕ} (h : SameBackoff m n) :
    nextLocalBackoff m = nextLocalBackoff n := by
  rcases h with rfl | ⟨hm, hn⟩
  · rfl
  have hlong {k : ℕ} (hk : 11 ≤ k) : min (2 ^ k) 1800 = 1800 := by
    have hpow : 2 ^ 11 ≤ 2 ^ k := Nat.pow_le_pow_right (by decide) hk
    omega
  rw [nextLocalBackoff_eq, nextLocalBackoff_eq, hlong hm, hlong hn]

theorem RecordChange.level {now : Time} {op : StoreOp} {r r' : AccountRecord}
    (hchange : RecordChange now op r r') (hkeeps : op.forgets r.id = false)
    (hother : op.backsOff r.id = false) : r'.localBackoffLevel = r.localBackoffLevel := by
  cases hchange with
  | expire | expireBeforeSelect =>
    simp only [expireRecord]
    split_ifs <;> rfl
  | select =>
    simp only [selectRecord]
    split <;> rfl
  | wake | wakeAll | markSuccess | refreshSuccess => simp [StoreOp.forgets] at hkeeps
  | invalidate =>
    simp only [invalidateRecord]
    split <;> rfl
  | release =>
    simp only [releaseRecord]
    split <;> rfl
  | fail => rw [level_failRecord, if_neg (by simp [hother])]
  | prepareAuthInvalid | finalizeAuthInvalid | noteTrashFailure | updateMetadata | upsert
  | remove | retire => rfl

namespace AccountStore

/-- One operation that does not forget the local backoffs counts its own. -/
theorem level_apply {store : AccountStore} {now : Time} {op : StoreOp} {id : String}
    {r r' : AccountRecord} (hkeeps : op.forgets id = false) (hr : store.record? id = some r)
    (hr' : (store.apply now op).record? id = some r') :
    r'.localBackoffLevel = if op.backsOff id = true then saturatingSucc32 r.localBackoffLevel
      else r.localBackoffLevel := by
  by_cases hcounts : op.backsOff id = true
  · cases op with
    | fail accountId failure retryAfter details =>
      obtain ⟨old, hold, rfl⟩ := of_record?_applyFailure hr'
      obtain rfl : old = r := Option.some.inj (hold.symm.trans hr)
      obtain rfl : accountId = id := by
        cases failure with
        | rateLimited | quotaExhausted =>
          cases retryAfter with
          | none => exact of_decide_eq_true hcounts
          | some delay => cases hcounts
        | _ => cases hcounts
      obtain rfl := id_of_record? hr
      rw [if_pos rfl, level_failRecord]
    | _ => cases hcounts
  · rcases traced_apply hr' with ⟨old, hold, hchanges⟩ | ⟨hnone, -⟩
    · obtain rfl : old = r := Option.some.inj (hold.symm.trans hr)
      have hsame := hchanges.invariant
        (P := fun s => s.id = id ∧ s.localBackoffLevel = old.localBackoffLevel)
        (fun s s' hchange hs => ⟨hchange.id_eq.trans hs.1, ?_⟩) ⟨id_of_record? hr, rfl⟩
      · rw [if_neg hcounts]
        exact hsame.2
      · rw [hchange.level (by rw [hs.1]; exact hkeeps) (by rw [hs.1]; simpa using hcounts)]
        exact hs.2
    · rw [hr] at hnone
      cases hnone

/-- The account has a record all along a run. -/
def StaysStored (store : AccountStore) (id : String) (events : List (Time × StoreOp)) : Prop :=
  ∀ past, past <+: events → ((stateAfter storeStep store past).record? id).isSome = true

/-- A run that forgets no local backoff counts all of them. -/
theorem level_run {store : AccountStore} {id : String} (events : List (Time × StoreOp))
    (hkeeps : ∀ event ∈ events, event.2.forgets id = false)
    (hstays : StaysStored store id events) {r r' : AccountRecord}
    (hr : store.record? id = some r)
    (hr' : (stateAfter storeStep store events).record? id = some r') :
    SameBackoff r'.localBackoffLevel (r.localBackoffLevel + backoffs id events) := by
  induction events using List.reverseRecOn generalizing r' with
  | nil => exact .inl (congrArg (·.localBackoffLevel) (Option.some.inj (hr'.symm.trans hr)))
  | append_singleton events event ih =>
    have hbefore : StaysStored store id events :=
      fun past hpast => hstays past (hpast.trans (List.prefix_append events [event]))
    obtain ⟨s, hs⟩ := Option.isSome_iff_exists.mp (hbefore events List.prefix_rfl)
    have hsame := ih (fun e he => hkeeps e (by simp [he])) hbefore hs
    rw [stateAfter_concat] at hr'
    rw [backoffs_concat, level_apply (hkeeps event (by simp)) hs hr']
    split
    · exact hsame.succ
    · exact hsame

end AccountStore

/-- Failures without advice block an account twice as long each time, to half an hour: after
any run that keeps the record and does not let the account start over, the next one blocks it for
`2 ^ n` seconds, where `n` counts the ones before, unless the block it has lasts longer already
and stays. -/
theorem backoff_doubles {store : AccountStore} {events : List (Time × StoreOp)} {id : String}
    {now : Time} {failure : FailureClass} {details : String} {r s r' : AccountRecord}
    (hlimited : failure = .rateLimited ∨ failure = .quotaExhausted)
    (hkeeps : ∀ event ∈ events, event.2.forgets id = false)
    (hstays : AccountStore.StaysStored store id events)
    (hfits : now + fromSecs 1800 ≤ maxUtc)
    (hr : store.record? id = some r)
    (hs : (stateAfter storeStep store events).record? id = some s)
    (hr' : (stateAfter storeStep store
      (events ++ [(now, .fail id failure none details)])).record? id = some r') :
    let deadline := now + fromSecs (min (2 ^ (r.localBackoffLevel + backoffs id events)) 1800)
    r'.blockedSource = some .localBackoff ∧ r'.blockedUntil = some deadline ∨
      r'.block = s.block ∧ instant deadline < s.block.endsAt := by
  intro deadline
  rw [stateAfter_concat] at hr'
  obtain ⟨s₀, hs₀, rfl⟩ := AccountStore.of_record?_applyFailure hr'
  obtain rfl : s = s₀ := Option.some.inj (hs.symm.trans hs₀)
  have hlevel := AccountStore.level_run events hkeeps hstays hr hs
  rw [if_pos rfl]
  have hdelay : nextLocalBackoff s.localBackoffLevel =
      fromSecs (min (2 ^ (r.localBackoffLevel + backoffs id events)) 1800) := by
    rw [hlevel.nextLocalBackoff, nextLocalBackoff_eq]
  have hrepresentable : Representable now (nextLocalBackoff s.localBackoffLevel) := by
    have hle : nextLocalBackoff s.localBackoffLevel ≤ fromSecs 1800 := by
      rw [nextLocalBackoff_eq]
      exact Nat.mul_le_mul_right _ (min_le_right _ _)
    have hmax : (fromSecs 1800 : ℤ) ≤ maxDelta := by decide
    have hle' : (nextLocalBackoff s.localBackoffLevel : ℤ) ≤ fromSecs 1800 := Int.ofNat_le.mpr hle
    exact ⟨hle'.trans hmax, (Int.add_le_add_left hle' now).trans hfits⟩
  have hasked : ∃ reason, failure.asks none s.localBackoffLevel now =
      some ⟨some reason, some .localBackoff, some deadline⟩ := by
    rcases hlimited with rfl | rfl
    · refine ⟨.rateLimited, ?_⟩
      rw [FailureClass.asks, BlockFields.retryable, BlockFields.lasting, if_pos hrepresentable,
        hdelay]
    · refine ⟨.quotaExhausted, ?_⟩
      rw [FailureClass.asks, BlockFields.retryable, BlockFields.lasting, if_pos hrepresentable,
        hdelay]
  obtain ⟨reason, hasked⟩ := hasked
  rcases answers_failRecord now failure none details s with ⟨fields, hfields, htaken⟩
    | ⟨hkept, hlater⟩
  · obtain rfl := Option.some.inj (hasked.symm.trans hfields)
    exact .inl ⟨congrArg BlockFields.source htaken, congrArg BlockFields.deadline htaken⟩
  · exact .inr ⟨hkept, hlater _ hasked⟩

/-- An imported account, before it fails. -/
def imported : AccountStore := stateAfter storeStep .new (importedAndLimited.take 1)

/-- Two failures and a rescan that finds the account. -/
def limitedTwice : List (Time × StoreOp) :=
  [(0, .fail "a" .rateLimited none "slow down"),
    (fromSecs 5, .applySync ⟨.rescan, [], [], [⟨"a", ⟨"a"⟩, ⟨"rt_1", none, none⟩⟩], {"a"}, ∅⟩),
    (fromSecs 10, .fail "a" .quotaExhausted none "used up")]

/-- `backoff_doubles` at the third failure, after a rescan that keeps the account. -/
theorem backoff_doubles_thrice :
    let third : Time × StoreOp := (fromSecs 20, .fail "a" .rateLimited none "slow down")
    ∃ r s r', imported.record? "a" = some r ∧
      (stateAfter storeStep imported limitedTwice).record? "a" = some s ∧
      (stateAfter storeStep imported (limitedTwice ++ [third])).record? "a" = some r' ∧
      let deadline := fromSecs 20 + fromSecs (min (2 ^ (r.localBackoffLevel + 2)) 1800)
      (r'.blockedSource = some .localBackoff ∧ r'.blockedUntil = some deadline ∨
        r'.block = s.block ∧ instant deadline < s.block.endsAt) := by
  intro third
  have hstays : AccountStore.StaysStored imported "a" (limitedTwice ++ [third]) := by
    have hinits : ∀ past ∈ (limitedTwice ++ [third]).inits,
        ((stateAfter storeStep imported past).record? "a").isSome = true := by decide +kernel
    exact fun past hpast => hinits past ((List.mem_inits _ _).mpr hpast)
  have hbefore : AccountStore.StaysStored imported "a" limitedTwice :=
    fun past hpast => hstays past (hpast.trans (List.prefix_append _ _))
  obtain ⟨r, hr⟩ := Option.isSome_iff_exists.mp (hstays [] List.nil_prefix)
  obtain ⟨s, hs⟩ := Option.isSome_iff_exists.mp (hbefore limitedTwice List.prefix_rfl)
  obtain ⟨r', hr'⟩ := Option.isSome_iff_exists.mp (hstays _ List.prefix_rfl)
  exact ⟨r, s, r', hr, hs, hr',
    backoff_doubles (.inl rfl) (by decide) hbefore (by decide) hr hs hr'⟩

end Codaze.Accounts
