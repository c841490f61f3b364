import Codaze.Accounts.FailureTimes

/-!
# The routing state of a record

What a routing state says about token, block and refresh, for records that were never marked
auth-invalid. The invariant adds that an active block shows in the routing state; every
operation that does not panic keeps it, and so does the clock.
-/
namespace Codaze.Accounts
open Foundation

/-- The routing states of a blocked account. -/
def RoutingState.blocked : RoutingState → Bool
  | cooldown | riskControlled | temporarilyUnavailable => true
  | _ => false

/-- The routing state of the record tells the truth. -/
structure RoutingTrue (now : Time) (r : AccountRecord) : Prop where
  ready : r.routingState = .ready →
    r.accessToken.isSome = true ∧ hasActiveBlockAt r now = false
  cold : r.routingState = .cold → r.accessToken = none ∧ hasActiveBlockAt r now = false
  warming : r.routingState = .warming ↔ r.refreshInFlight = true
  blocked : r.routingState.blocked = true →
    r.blockedReason.isSome = true ∧ r.blockedUntil.isSome = true

structure Honest (now : Time) (r : AccountRecord) : Prop extends RoutingTrue now r where
  unmarked : r.blockedReason ≠ some .authInvalid
  routed : r.routingState ≠ .authInvalid
  timed : r.blockedReason.isSome = r.blockedUntil.isSome
  warm : r.routingState = .warming → hasActiveBlockAt r now = false

namespace Honest

variable {now now' : Time} {r s : AccountRecord}

/-- A block that is not active stays so. -/
theorem inactive_later (h : r.blockedReason.isSome = r.blockedUntil.isSome) (hle : now ≤ now')
    (hactive : hasActiveBlockAt r now = false) : hasActiveBlockAt r now' = false := by
  unfold hasActiveBlockAt at hactive ⊢
  cases huntil : r.blockedUntil with
  | none => simpa [huntil] using h
  | some deadline =>
    have hdeadline : deadline ≤ now := by simpa [huntil] using hactive
    simpa using hdeadline.trans hle

theorem later (h : Honest now r) (hle : now ≤ now') : Honest now' r where
  ready hr := ⟨(h.ready hr).1, inactive_later h.timed hle (h.ready hr).2⟩
  cold hr := ⟨(h.cold hr).1, inactive_later h.timed hle (h.cold hr).2⟩
  warming := h.warming
  blocked := h.blocked
  unmarked := h.unmarked
  routed := h.routed
  timed := h.timed
  warm hr := inactive_later h.timed hle (h.warm hr)

theorem newRecord (id : String) (path : AccountPath) (disk : AccountFile) :
    Honest now (AccountStore.newRecord id path disk) := by
  constructor
  · constructor <;> simp [AccountStore.newRecord, hasActiveBlockAt, RoutingState.blocked]
  · simp [AccountStore.newRecord]
  · simp [AccountStore.newRecord]
  · simp [AccountStore.newRecord]
  · simp [AccountStore.newRecord]

/-- An active block shows. -/
theorem shows (h : Honest now r) (hactive : hasActiveBlockAt r now = true) :
    r.routingState.blocked = true := by
  cases hrouting : r.routingState with
  | ready => exact absurd (hactive.symm.trans (h.ready hrouting).2) (by simp)
  | cold => exact absurd (hactive.symm.trans (h.cold hrouting).2) (by simp)
  | warming => exact absurd (hactive.symm.trans (h.warm hrouting)) (by simp)
  | authInvalid => exact absurd hrouting h.routed
  | cooldown | riskControlled | temporarilyUnavailable => rfl

/-- A change outside the fields the routing state speaks about. -/
theorem frame (h : Honest now r) (hblock : s.block = r.block)
    (hrouting : s.routingState = r.routingState) (htoken : s.accessToken = r.accessToken)
    (hrefresh : s.refreshInFlight = r.refreshInFlight) : Honest now s := by
  obtain ⟨hreason, hsource, huntil⟩ := BlockFields.mk.inj hblock
  have hactive : hasActiveBlockAt s now = hasActiveBlockAt r now := by
    simp only [hasActiveBlockAt, hreason, huntil]
  constructor
  · constructor
    · rw [hrouting, htoken, hactive]
      exact h.ready
    · rw [hrouting, htoken, hactive]
      exact h.cold
    · rw [hrouting, hrefresh]
      exact h.warming
    · rw [hrouting, hreason, huntil]
      exact h.blocked
  · rw [hreason]
    exact h.unmarked
  · rw [hrouting]
    exact h.routed
  · rw [hreason, huntil]
    exact h.timed
  · rw [hrouting, hactive]
    exact h.warm

/-- An unblocked record at rest. -/
theorem of_resting (hunmarked : s.blockedReason ≠ some .authInvalid)
    (htimed : s.blockedReason.isSome = s.blockedUntil.isSome)
    (hidle : hasActiveBlockAt s now = false) (hrefresh : s.refreshInFlight = false)
    (hrouting : s.routingState = restingState s) : Honest now s := by
  unfold restingState at hrouting
  constructor
  · constructor
    · intro hready
      rw [hready] at hrouting
      refine ⟨?_, hidle⟩
      by_contra htoken
      simp [htoken] at hrouting
    · intro hcold
      rw [hcold] at hrouting
      refine ⟨?_, hidle⟩
      by_contra htoken
      have hsome : s.accessToken.isSome = true := Option.isSome_iff_ne_none.mpr htoken
      simp [hsome] at hrouting
    · rw [hrouting, hrefresh]
      split <;> simp
    · rw [hrouting]
      split <;> simp [RoutingState.blocked]
  · exact hunmarked
  · rw [hrouting]
    split <;> simp
  · exact htimed
  · intro hwarming
    exact hidle

/-- A record that a request is refreshing. -/
theorem of_warming (hunmarked : s.blockedReason ≠ some .authInvalid)
    (htimed : s.blockedReason.isSome = s.blockedUntil.isSome)
    (hidle : hasActiveBlockAt s now = false) (hrefresh : s.refreshInFlight = true)
    (hrouting : s.routingState = .warming) : Honest now s := by
  have hstate (state : RoutingState) (hstate : s.routingState = state) : state = .warming :=
    hstate.symm.trans hrouting
  constructor
  · constructor
    · intro hready
      cases hstate _ hready
    · intro hcold
      cases hstate _ hcold
    · exact iff_of_true hrouting hrefresh
    · intro hblocked
      rw [hrouting] at hblocked
      cases hblocked
  · exact hunmarked
  · intro hinvalid
    cases hstate _ hinvalid
  · exact htimed
  · exact fun _ => hidle

/-- A record whose block shows. -/
theorem of_blocked (hrouting : s.routingState.blocked = true)
    (hunmarked : s.blockedReason ≠ some .authInvalid) (hreason : s.blockedReason.isSome = true)
    (huntil : s.blockedUntil.isSome = true) (hrefresh : s.refreshInFlight = false) :
    Honest now s := by
  have hstate (state : RoutingState) (hstate : s.routingState = state) : state.blocked = true :=
    hstate ▸ hrouting
  constructor
  · constructor
    · intro hready
      cases hstate _ hready
    · intro hcold
      cases hstate _ hcold
    · rw [hrefresh]
      constructor
      · intro hwarming
        cases hstate _ hwarming
      · intro hfalse
        cases hfalse
    · exact fun _ => ⟨hreason, huntil⟩
  · exact hunmarked
  · intro hinvalid
    cases hstate _ hinvalid
  · rw [hreason, huntil]
  · intro hwarming
    cases hstate _ hwarming

/-- A request leaves: the record rests, or its block shows. -/
theorem leave (h : Honest now r) (hblock : s.block = r.block)
    (hrefresh : s.refreshInFlight = false)
    (hidle : hasActiveBlockAt r now = false → s.routingState = restingState s)
    (hactive : hasActiveBlockAt r now = true → s.routingState = r.routingState) :
    Honest now s := by
  obtain ⟨hreason, hsource, huntil⟩ := BlockFields.mk.inj hblock
  have hunmarked : s.blockedReason ≠ some .authInvalid := by
    rw [hreason]
    exact h.unmarked
  have htimed : s.blockedReason.isSome = s.blockedUntil.isSome := by
    rw [hreason, huntil]
    exact h.timed
  cases hblocked : hasActiveBlockAt r now with
  | false =>
    refine of_resting hunmarked htimed ?_ hrefresh (hidle hblocked)
    simpa only [hasActiveBlockAt, hreason, huntil] using hblocked
  | true =>
    have hshows := h.shows hblocked
    obtain ⟨hreason', huntil'⟩ := h.blocked hshows
    refine of_blocked ?_ hunmarked ?_ ?_ hrefresh
    · rw [hactive hblocked]
      exact hshows
    · rw [hreason]
      exact hreason'
    · rw [huntil]
      exact huntil'

theorem expireRecord (h : Honest now r) : Honest now (expireRecord now r) := by
  have hreset (record : AccountRecord) (hrecord : Honest now record) :
      Honest now (if record.routingState = .cold ∧ record.accessToken.isSome then
        { record with routingState := .ready } else record) := by
    split
    next hcold => simp [(hrecord.cold hcold.1).1] at hcold
    next => exact hrecord
  refine hreset _ ?_
  split
  next hexpired =>
    obtain ⟨deadline, huntil, hdeadline⟩ := (Option.any_eq_true _ _).mp hexpired
    have hidle : hasActiveBlockAt (clearBlock r now) now = false := rfl
    dsimp only
    split
    next hrest =>
      exact of_resting (by simp [clearBlock, applyBlockTransition]) rfl hidle hrest.2 rfl
    next hrest =>
      -- a refresh is on its way
      have hrefresh : r.refreshInFlight = true := by
        by_contra hnone
        exact hrest ⟨h.routed, by simpa [clearBlock, applyBlockTransition] using hnone⟩
      have hwarming := h.warming.mpr hrefresh
      exact of_warming (by simp [clearBlock, applyBlockTransition]) rfl hidle hrefresh hwarming
  next => exact h

end Honest

/-- The block of a timed transition is there. -/
theorem timed_present {r : AccountRecord} {now : Time} {candidate : RetryableBlock}
    (hcandidate : candidate.reason ≠ .authInvalid)
    (hunmarked : r.blockedReason ≠ some .authInvalid)
    (htimed : r.blockedReason.isSome = r.blockedUntil.isSome) :
    (applyBlockTransition r now (.timed candidate)).blockedReason ≠ some .authInvalid ∧
      (applyBlockTransition r now (.timed candidate)).blockedReason.isSome = true ∧
      (applyBlockTransition r now (.timed candidate)).blockedUntil.isSome = true := by
  simp only [applyBlockTransition]
  split
  next => exact ⟨by simpa using hcandidate, rfl, rfl⟩
  next hkept =>
    refine ⟨hunmarked, ?_⟩
    cases huntil : r.blockedUntil with
    | none =>
      rw [huntil] at htimed
      have hnone : hasActiveBlockAt r now = false := by
        simpa [hasActiveBlockAt, huntil] using htimed
      simp [shouldReplaceExisting, huntil, hnone] at hkept
    | some existing =>
      rw [huntil] at htimed
      exact ⟨htimed, rfl⟩

theorem of_applyFixedBlock {r s : AccountRecord} {now : Time} {reason : BlockedReason}
    {duration : TimeDelta} (h : applyFixedBlock r now reason duration = .returned s) :
    ∃ candidate : RetryableBlock, candidate.reason = reason ∧
      s = applyBlockTransition r now (.timed candidate) := by
  unfold applyFixedBlock at h
  split at h
  next deadline _ => exact ⟨_, rfl, (Outcome.returned.inj h).symm⟩
  next => cases h

theorem of_applyRetryableBlock {r s : AccountRecord} {now : Time} {reason : BlockedReason}
    {retryAfter : Option StdDuration}
    (h : applyRetryableBlock r now reason retryAfter = .returned s) :
    ∃ (level : ℕ) (candidate : RetryableBlock), candidate.reason = reason ∧
      s = applyBlockTransition { r with localBackoffLevel := level } now (.timed candidate) := by
  unfold applyRetryableBlock at h
  rcases hbuilt : buildRetryableBlock r now reason retryAfter with ⟨counted, _ | candidate⟩
  · simp [hbuilt] at h
  · rw [hbuilt] at h
    obtain rfl := Outcome.returned.inj h
    cases retryAfter with
    | none | some delay =>
      obtain ⟨rfl, hcandidate⟩ := Prod.mk.inj hbuilt
      obtain ⟨deadline, -, rfl⟩ := Option.map_eq_some_iff.mp hcandidate
      exact ⟨_, _, rfl, rfl⟩

namespace Honest

variable {now : Time} {r r' : AccountRecord}

/-- A timed transition of a record that no request is refreshing, its routing state set
before or after. -/
theorem of_timed {s t : AccountRecord} {candidate : RetryableBlock}
    (hblock : t.block = (applyBlockTransition s now (.timed candidate)).block)
    (hkept : t.refreshInFlight = (applyBlockTransition s now (.timed candidate)).refreshInFlight)
    (hcandidate : candidate.reason ≠ .authInvalid)
    (hunmarked : s.blockedReason ≠ some .authInvalid)
    (htimed : s.blockedReason.isSome = s.blockedUntil.isSome)
    (hrefresh : s.refreshInFlight = false)
    (hrouting : t.routingState.blocked = true) : Honest now t := by
  obtain ⟨hreason, hsource, huntil⟩ := BlockFields.mk.inj hblock
  obtain ⟨hunmarked', hreason', huntil'⟩ :=
    @timed_present s now candidate hcandidate hunmarked htimed
  refine of_blocked hrouting ?_ ?_ ?_ ?_
  · rw [hreason]
    exact hunmarked'
  · rw [hreason]
    exact hreason'
  · rw [huntil]
    exact huntil'
  · rw [hkept, (applyBlockTransition_same s now _).refreshInFlight]
    exact hrefresh

/-- A failure that does not panic. -/
theorem failRecord {failure : FailureClass} {retryAfter : Option StdDuration} {details : String}
    (h : Honest now r) (hne : failure ≠ .authInvalid)
    (hreturned : failRecord now failure retryAfter details r = .returned r') : Honest now r' := by
  cases failure with
  | accessTokenRejected =>
    obtain ⟨candidate, hcandidate, rfl⟩ := of_applyFixedBlock hreturned
    refine of_timed rfl rfl (hcandidate ▸ by decide) h.unmarked h.timed rfl ?_
    rw [(applyBlockTransition_rest _ now _).2]
    rfl
  | riskControlled =>
    obtain ⟨candidate, hcandidate, rfl⟩ := of_applyFixedBlock hreturned
    refine of_timed rfl rfl (hcandidate ▸ by decide) h.unmarked h.timed rfl ?_
    rw [(applyBlockTransition_rest _ now _).2]
    rfl
  | authInvalid => exact absurd rfl hne
  | rateLimited | quotaExhausted =>
    simp only [Accounts.failRecord] at hreturned
    generalize hblocked : applyRetryableBlock _ now _ retryAfter = blocked at hreturned
    cases blocked with
    | returned t =>
      obtain rfl := Outcome.returned.inj hreturned
      obtain ⟨level, candidate, hcandidate, rfl⟩ := of_applyRetryableBlock hblocked
      exact of_timed rfl rfl (hcandidate ▸ by decide) h.unmarked h.timed rfl rfl
    | panicked t => cases hreturned
  | temporaryFailure =>
    simp only [Accounts.failRecord] at hreturned
    split at hreturned
    · obtain ⟨level, candidate, hcandidate, rfl⟩ := of_applyRetryableBlock hreturned
      refine of_timed rfl rfl (hcandidate ▸ by decide) h.unmarked h.timed rfl ?_
      rw [(applyBlockTransition_rest _ now _).2]
      rfl
    · obtain ⟨candidate, hcandidate, rfl⟩ := of_applyFixedBlock hreturned
      refine of_timed rfl rfl (hcandidate ▸ by decide) h.unmarked h.timed rfl ?_
      rw [(applyBlockTransition_rest _ now _).2]
      rfl
  | requestRejected | internalFailure =>
    obtain rfl := Outcome.returned.inj hreturned
    have hactive (s : AccountRecord) (hs : s.block = r.block) :
        hasActiveBlockAt s now = hasActiveBlockAt r now := by
      rw [hasActiveBlockAt_eq, hs]
      rfl
    split
    next hidle =>
      refine h.leave rfl rfl (fun _ => rfl) fun hblocked => ?_
      exact absurd (hblocked.symm.trans hidle.1) (by simp)
    next hblocked =>
      refine h.leave rfl rfl (fun hidle => ?_) fun _ => rfl
      exact absurd ⟨hidle, h.routed⟩ hblocked

end Honest

/-- The accounts an operation marks auth-invalid. -/
def StoreOp.invalidates : StoreOp → List String
  | fail id .authInvalid _ _ | prepareAuthInvalid id _ | finalizeAuthInvalid id => [id]
  | _ => []

/-- Every operation but a failure keeps a record honest unless it marks it. -/
theorem Honest.change {now : Time} {op : StoreOp} {r r' : AccountRecord}
    (hchange : RecordChange now op r r') (hmarks : r.id ∉ op.invalidates)
    (hfail : ∀ failure retryAfter details, op ≠ .fail r.id failure retryAfter details)
    (h : Honest now r) : Honest now r' := by
  cases hchange with
  | expire | expireBeforeSelect => exact h.expireRecord
  | select heligible =>
    obtain ⟨-, hrefresh, -, hdeadline⟩ := isEligible_iff.mp heligible
    simp only [selectRecord]
    split
    next =>
      have hidle : hasActiveBlockAt r now = false := by
        unfold hasActiveBlockAt
        cases huntil : r.blockedUntil with
        | none => simpa [huntil] using h.timed
        | some deadline => simpa using hdeadline deadline huntil
      exact of_warming h.unmarked h.timed hidle rfl rfl
    next => exact h.frame rfl rfl rfl rfl
  | wake | wakeAll =>
    unfold applyWake
    split
    next hskipped => exact absurd hskipped (by simp [h.routed, h.unmarked])
    next =>
      dsimp only
      cases hrefresh : r.refreshInFlight with
      | true =>
        have hmark : (clearBlock r now).refreshInFlight = true := hrefresh
        simp only [hmark, if_true]
        exact of_warming (by simp [clearBlock, applyBlockTransition]) rfl rfl rfl rfl
      | false =>
        have hmark : (clearBlock r now).refreshInFlight = false := hrefresh
        simp only [hmark, Bool.false_eq_true, if_false]
        exact of_resting (by simp [clearBlock, applyBlockTransition]) rfl rfl rfl rfl
  | markSuccess =>
    simp only [markSuccessRecord]
    split
    next hidle =>
      refine h.leave rfl rfl (fun _ => rfl) fun hblocked => ?_
      exact absurd (hblocked.symm.trans hidle.2) (by simp)
    next hblocked =>
      refine h.leave rfl rfl (fun hidle => ?_) fun _ => rfl
      exact absurd ⟨h.routed, hidle⟩ hblocked
  | invalidate =>
    simp only [invalidateRecord]
    split
    next hidle =>
      refine h.leave rfl rfl (fun _ => rfl) fun hblocked => ?_
      exact absurd (hblocked.symm.trans hidle.2) (by simp)
    next hblocked =>
      refine h.leave rfl rfl (fun hidle => ?_) fun _ => rfl
      exact absurd ⟨h.routed, hidle⟩ hblocked
  | release =>
    simp only [releaseRecord]
    split
    next hwarming =>
      refine h.leave rfl rfl (fun _ => rfl) fun hblocked => ?_
      exact absurd (hblocked.symm.trans hwarming.2) (by simp)
    next hblocked =>
      have hrouting : r.routingState ≠ .warming := fun hwarming =>
        hblocked ⟨hwarming, h.warm hwarming⟩
      have hrefresh : r.refreshInFlight = false := by
        by_contra hmark
        exact hrouting (h.warming.mpr (by simpa using hmark))
      exact h.frame rfl rfl rfl hrefresh.symm
  | fail => exact absurd rfl (hfail _ _ _)
  | refreshSuccess =>
    simp only [refreshSuccessRecord]
    split
    next hidle => exact of_resting (by simp [clearBlock, applyBlockTransition]) rfl rfl rfl rfl
    next hblocked =>
      have hactive : hasActiveBlockAt r now = true := Bool.eq_true_of_not_eq_false hblocked
      refine h.leave rfl rfl (fun hidle => ?_) fun _ => rfl
      exact absurd (hactive.symm.trans hidle) (by simp)
  | prepareAuthInvalid | finalizeAuthInvalid =>
    exact absurd List.mem_cons_self hmarks
  | noteTrashFailure | updateMetadata | upsert | remove | retire => exact h.frame rfl rfl rfl rfl

/-- A store with its last clock reading and the accounts that have been marked auth-invalid
since their record was loaded. -/
structure WatchedStore where
  store : AccountStore
  now : Time
  invalidated : List String

namespace WatchedStore

def new (now : Time) : WatchedStore := ⟨.new, now, []⟩

/-- One operation at a clock that does not go back. -/
def step (state : WatchedStore) (event : Time × StoreOp) : Option WatchedStore :=
  if state.now ≤ event.1 then
    let store := state.store.apply event.1 event.2
    some { store, now := event.1
           invalidated := (state.invalidated ++ event.2.invalidates).filter fun id =>
             (store.record? id).isSome }
  else none

/-- The deadline of every failure can be represented. -/
def inRange (state : WatchedStore) (event : Time × StoreOp) : Prop :=
  (match event.2 with
    | .fail id failure retryAfter _ => (state.store.record? id).all fun record =>
      (failure.delay retryAfter record).all fun delay => decide (Representable event.1 delay)
    | _ => true) = true

instance (state : WatchedStore) (event : Time × StoreOp) : Decidable (state.inRange event) :=
  inferInstanceAs (Decidable (_ = true))

/-- Every record that was not marked is honest. -/
def AllHonest (state : WatchedStore) : Prop :=
  ∀ id record, state.store.record? id = some record → id ∉ state.invalidated →
    Honest state.now record

open AccountStore

theorem step_honest {state state' : WatchedStore} {event : Time × StoreOp}
    (h : state.AllHonest) (hrange : state.inRange event) (hstep : state.step event = some state') :
    state'.AllHonest := by
  obtain ⟨now, op⟩ := event
  obtain ⟨hclock, rfl⟩ : state.now ≤ now ∧ _ = state' := by simpa [step] using hstep
  intro id record hrecord hmarked
  dsimp only at hrecord hmarked ⊢
  have hnot : id ∉ state.invalidated ∧ id ∉ op.invalidates := by
    simpa [hrecord] using hmarked
  obtain ⟨hbefore, hmarks⟩ := hnot
  have hlater (old : AccountRecord) (hold : state.store.record? id = some old) : Honest now old :=
    (h id old hold hbefore).later hclock
  by_cases hfail : ∃ failure retryAfter details, op = .fail id failure retryAfter details
  · obtain ⟨failure, retryAfter, details, rfl⟩ := hfail
    obtain ⟨old, hold, rfl⟩ := of_record?_applyFailure hrecord
    have hne : failure ≠ .authInvalid := by
      rintro rfl
      exact hmarks List.mem_cons_self
    have hdelay : ∀ delay, failure.delay retryAfter old = some delay → Representable now delay := by
      intro delay hdelay
      have hall := hrange
      simpa [inRange, hold, hdelay] using hall
    obtain ⟨s, hs⟩ := (@completes_failRecord now failure retryAfter details old).mpr hdelay
    rw [if_pos rfl, hs]
    exact (hlater old hold).failRecord hne hs
  · -- the moves of the operation keep the id, so none of them marks the record
    have hkeep (r : AccountRecord) (hid : r.id = id) (hr : Honest now r)
        (hchanges : RecordChanges now op r record) : Honest now record := by
      have hboth : record.id = id ∧ Honest now record := by
        refine hchanges.invariant (P := fun s => s.id = id ∧ Honest now s)
          (fun s s' hchange hs => ?_) ⟨hid, hr⟩
        refine ⟨hchange.id_eq.trans hs.1, hs.2.change hchange (hs.1 ▸ hmarks) ?_⟩
        rintro failure retryAfter details rfl
        exact hfail ⟨failure, retryAfter, details, by rw [hs.1]⟩
      exact hboth.2
    rcases traced_apply hrecord with ⟨old, hold, hchanges⟩ | ⟨-, upsert, -, -, hchanges⟩
    · exact hkeep old (id_of_record? hold) (hlater old hold) hchanges
    · exact hkeep _ rfl (.newRecord _ _ _) hchanges

/-- In every run with a clock that does not go back and failures whose deadlines can be
represented, the routing state of every record that was not marked auth-invalid is true from
then on. -/
theorem routing_true {start : Time} {state : WatchedStore}
    (hrun : Run step inRange (new start) state) {id : String} {record : AccountRecord}
    (hrecord : state.store.record? id = some record) (hmarked : id ∉ state.invalidated)
    {now : Time} (hnow : state.now ≤ now) : RoutingTrue now record := by
  have hhonest : state.AllHonest := by
    refine hrun.invariant (fun _ _ _ ha hgood hstep => step_honest ha hgood hstep) ?_
    intro id record hnew
    cases hnew
  exact ((hhonest id record hrecord hmarked).later hnow).toRoutingTrue

/-- An account is imported and selected; its refresh fails. -/
def importedAndFailed (retryAfter : Option StdDuration) : List (Time × StoreOp) :=
  let disk : AccountFile := ⟨"rt_1", none, none⟩
  [(0, .applyImport ⟨"a", false, .insert "a" ⟨"a"⟩ disk, some (.write ⟨"a"⟩ disk)⟩),
    (0, .select .fillFirst 0 ∅),
    (0, .fail "a" .rateLimited retryAfter "refresh failed")]

/-- `routing_true` where the upstream asks for a minute. -/
theorem routing_true_limited :
    let state := stateAfter step (new 0) (importedAndFailed (some (fromSecs 60)))
    RoutingTrue 0 ((state.store.record? "a").get (by decide +kernel)) :=
  have hrun : Run step inRange (new 0)
      (stateAfter step (new 0) (importedAndFailed (some (fromSecs 60)))) :=
    .of_isSome (by decide +kernel)
  routing_true hrun (Option.some_get _).symm (by decide +kernel) (by decide +kernel)

/-- Where it asks for `u64::MAX` seconds the failure panics, and the record stays warming
although nothing refreshes it. -/
theorem routing_false_after_panic :
    ∃ (start : Time) (state : WatchedStore) (record : AccountRecord),
      Run step anyEvent (new start) state ∧ state.store.record? "a" = some record ∧
      "a" ∉ state.invalidated ∧ ¬ RoutingTrue state.now record := by
  let state := stateAfter step (new 0) (importedAndFailed (some (fromSecs u64Max)))
  refine ⟨0, state, (state.store.record? "a").get (by decide +kernel), .of_isSome ?_,
    (Option.some_get _).symm, ?_, fun h => ?_⟩
  · decide +kernel
  · decide +kernel
  · exact absurd (h.warming.mp (by decide +kernel)) (by decide +kernel)

end WatchedStore

end Codaze.Accounts
