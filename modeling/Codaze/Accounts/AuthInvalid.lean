import Codaze.Accounts.Operations

/-!
# Auth-invalid accounts stay out of the routing pool

A record without a deadline on its block must be kept away from selection by its
routing state, because eligibility does not look at the reason of a block. The
failures that set another routing state break this for a record that is blocked for
good; every other operation keeps it, and a tombstone, once set, is never unset.
-/
namespace Codaze.Accounts
open Foundation

/-- The failures that set a routing state other than auth-invalid, whatever it was. -/
def FailureClass.reroutes : FailureClass → Bool
  | accessTokenRejected | rateLimited | quotaExhausted | riskControlled | temporaryFailure => true
  | authInvalid | requestRejected | internalFailure => false

/-- A block without a deadline. -/
def permanentlyBlocked (record : AccountRecord) : Bool :=
  record.blockedReason.isSome && record.blockedUntil.isNone

theorem permanentlyBlocked_iff {record : AccountRecord} : permanentlyBlocked record = true ↔
    record.blockedReason.isSome = true ∧ record.blockedUntil = none := by
  simp [permanentlyBlocked]

/-- No failure reroutes an account that is blocked for good, unless the account is
gone for good as well. -/
def keepsAuthInvalid (store : AccountStore) (event : Time × StoreOp) : Prop :=
  (match event.2 with
    | .fail id failure _ _ => !failure.reroutes || (store.record? id).all fun record =>
      !permanentlyBlocked record || (record.detached && record.authInvalidTombstone)
    | _ => true) = true

instance (store : AccountStore) (event : Time × StoreOp) :
    Decidable (keepsAuthInvalid store event) := inferInstanceAs (Decidable (_ = true))

/-- The record of the account is still there after the operation. -/
def keepsRecord (id : String) (store : AccountStore) (event : Time × StoreOp) : Prop :=
  (store.apply event.1 event.2).record? id ≠ none

instance (id : String) (store : AccountStore) (event : Time × StoreOp) :
    Decidable (keepsRecord id store event) := inferInstanceAs (Decidable (_ ≠ _))

/-- What keeps blocked-for-good records out of the pool. -/
structure AuthInvalidShut (r : AccountRecord) : Prop where
  tombstone : r.authInvalidTombstone = true →
    r.blockedReason = some .authInvalid ∧ r.blockedUntil = none
  permanent : permanentlyBlocked r = true →
    r.routingState = .authInvalid ∨ r.detached = true ∧ r.authInvalidTombstone = true

namespace AuthInvalidShut

variable {r : AccountRecord} {now : Time}

theorem newRecord (id : String) (path : AccountPath) (disk : AccountFile) :
    AuthInvalidShut (AccountStore.newRecord id path disk) :=
  ⟨fun h => absurd h (by simp [AccountStore.newRecord]),
    fun h => absurd h (by simp [AccountStore.newRecord, permanentlyBlocked])⟩

/-- An eligible record is not blocked for good, hence not tombstoned. -/
theorem of_eligible (h : AuthInvalidShut r) (heligible : isEligible r now = true) :
    r.authInvalidTombstone = false ∧ permanentlyBlocked r = false := by
  obtain ⟨hattached, -, hrouting, -⟩ := isEligible_iff.mp heligible
  have hpermanent : permanentlyBlocked r = false := by
    by_contra hblocked
    rcases h.permanent (by simpa using hblocked) with hauth | ⟨hdetached, -⟩
    · exact hrouting hauth
    · simp [hattached] at hdetached
  refine ⟨?_, hpermanent⟩
  by_contra htombstone
  obtain ⟨hreason, huntil⟩ := h.tombstone (by simpa using htombstone)
  simp [permanentlyBlocked, hreason, huntil] at hpermanent

theorem not_active_of_eligible (h : AuthInvalidShut r) (heligible : isEligible r now = true) :
    hasActiveBlockAt r now = false := by
  obtain ⟨-, -, -, hdeadline⟩ := isEligible_iff.mp heligible
  have hpermanent := (h.of_eligible heligible).2
  unfold hasActiveBlockAt
  cases huntil : r.blockedUntil with
  | none => simpa [permanentlyBlocked, huntil] using hpermanent
  | some deadline => simpa using hdeadline deadline huntil

/-- A change that leaves the block, the tombstone and an auth-invalid routing state alone. -/
theorem frame {r' : AccountRecord} (h : AuthInvalidShut r)
    (hreason : r'.blockedReason = r.blockedReason) (huntil : r'.blockedUntil = r.blockedUntil)
    (htombstone : r'.authInvalidTombstone = r.authInvalidTombstone)
    (hdetached : r.detached = true → r.authInvalidTombstone = true → r'.detached = true)
    (hrouting : permanentlyBlocked r = true → r.routingState = .authInvalid →
      r'.routingState = .authInvalid) : AuthInvalidShut r' where
  tombstone ht := by rw [hreason, huntil]; exact h.tombstone (htombstone ▸ ht)
  permanent hp := by
    have hpr : permanentlyBlocked r = true := by
      simpa only [permanentlyBlocked, hreason, huntil] using hp
    rcases h.permanent hpr with hauth | ⟨hd, ht⟩
    · exact .inl (hrouting hpr hauth)
    · exact .inr ⟨hdetached hd ht, htombstone ▸ ht⟩

/-- A record whose block is gone and that has no tombstone. -/
theorem of_clear (htombstone : r.authInvalidTombstone = false) (hreason : r.blockedReason = none) :
    AuthInvalidShut r :=
  ⟨fun h => absurd h (by simp [htombstone]),
    fun h => absurd h (by simp [permanentlyBlocked, hreason])⟩

/-- A record under a timed block and without a tombstone. -/
theorem of_timed (htombstone : r.authInvalidTombstone = false)
    (huntil : r.blockedUntil.isSome = true) : AuthInvalidShut r :=
  ⟨fun h => absurd h (by simp [htombstone]), fun h => by
    rw [(permanentlyBlocked_iff.mp h).2] at huntil
    simp at huntil⟩

/-- A block with a deadline belongs to a record without a tombstone. -/
theorem no_tombstone_of_timed (h : AuthInvalidShut r) {deadline : Time}
    (huntil : r.blockedUntil = some deadline) : r.authInvalidTombstone = false := by
  by_contra htombstone
  have hnone := (h.tombstone (by simpa using htombstone)).2
  simp [huntil] at hnone

theorem of_inactive (h : AuthInvalidShut r) (hactive : hasActiveBlockAt r now = false) :
    r.authInvalidTombstone = false := by
  by_contra htombstone
  obtain ⟨hreason, huntil⟩ := h.tombstone (by simpa using htombstone)
  simp [hasActiveBlockAt, huntil, hreason] at hactive

end AuthInvalidShut

/-- Sweeping a record ends no active block. -/
theorem expireRecord_active {r : AccountRecord} {now : Time}
    (h : hasActiveBlockAt (expireRecord now r) now = false) : hasActiveBlockAt r now = false := by
  cases huntil : r.blockedUntil with
  | none =>
    simpa [expireRecord, hasActiveBlockAt, huntil, apply_ite] using h
  | some deadline =>
    by_cases hexpired : deadline ≤ now
    · simpa [hasActiveBlockAt, huntil] using hexpired
    · simp [expireRecord, hasActiveBlockAt, huntil, hexpired, apply_ite] at h

theorem hasActiveBlockAt_of_permanent {r : AccountRecord} (now : Time)
    (h : permanentlyBlocked r = true) : hasActiveBlockAt r now = true := by
  obtain ⟨hreason, huntil⟩ := permanentlyBlocked_iff.mp h
  simp [hasActiveBlockAt, huntil, hreason]

/-- The block of `r` is left alone, or `r` had a removable one and now has a timed one. -/
def TimedAtMost (r r' : AccountRecord) : Prop :=
  (r'.blockedReason = r.blockedReason ∧ r'.blockedUntil = r.blockedUntil) ∨
    permanentlyBlocked r = false ∧ r'.blockedUntil.isSome = true

namespace TimedAtMost

variable {r s s' : AccountRecord} {now : Time}

theorem applyTimed (r : AccountRecord) (now : Time) (candidate : RetryableBlock) :
    TimedAtMost r (applyBlockTransition r now (.timed candidate)) := by
  by_cases hpermanent : permanentlyBlocked r = true
  · obtain ⟨hreason, huntil⟩ := permanentlyBlocked_iff.mp hpermanent
    rw [applyBlockTransition_timed_of_permanent now candidate hreason huntil]
    exact .inl ⟨rfl, rfl⟩
  · simp only [applyBlockTransition]
    split
    · exact .inr ⟨by simpa using hpermanent, rfl⟩
    · exact .inl ⟨rfl, rfl⟩

/-- Only the block of the earlier record matters. -/
theorem of_left (h : TimedAtMost s s') (hreason : s.blockedReason = r.blockedReason)
    (huntil : s.blockedUntil = r.blockedUntil) : TimedAtMost r s' := by
  simpa only [TimedAtMost, permanentlyBlocked, hreason, huntil] using h

/-- Only the block of the later record matters. -/
theorem of_right (h : TimedAtMost r s) (hreason : s'.blockedReason = s.blockedReason)
    (huntil : s'.blockedUntil = s.blockedUntil) : TimedAtMost r s' := by
  simpa only [TimedAtMost, hreason, huntil] using h

theorem applyRetryable (r : AccountRecord) (now : Time) (reason : BlockedReason)
    (retryAfter : Option StdDuration) :
    TimedAtMost r (applyRetryableBlock r now reason retryAfter).state := by
  have hbuild : (buildRetryableBlock r now reason retryAfter).1.blockedReason = r.blockedReason ∧
      (buildRetryableBlock r now reason retryAfter).1.blockedUntil = r.blockedUntil := by
    cases retryAfter <;> exact ⟨rfl, rfl⟩
  unfold applyRetryableBlock
  split
  next record candidate heq =>
    rw [heq] at hbuild
    exact (applyTimed record now candidate).of_left hbuild.1 hbuild.2
  next record heq =>
    rw [heq] at hbuild
    exact .inl hbuild

theorem applyFixed (r : AccountRecord) (now : Time) (reason : BlockedReason)
    (duration : TimeDelta) : TimedAtMost r (applyFixedBlock r now reason duration).state := by
  unfold applyFixedBlock
  split
  next deadline _ => exact applyTimed r now ⟨reason, .fixedPolicy, deadline⟩
  next => exact .inl ⟨rfl, rfl⟩

/-- A failure that reroutes adds at most a timed block. -/
theorem failRecord {failure : FailureClass} (hreroutes : failure.reroutes = true) (now : Time)
    (retryAfter : Option StdDuration) (details : String) (r : AccountRecord) :
    TimedAtMost r (failRecord now failure retryAfter details r).state := by
  cases failure with
  | authInvalid | requestRejected | internalFailure => cases hreroutes
  | accessTokenRejected | riskControlled =>
    exact of_left (applyFixed _ now _ _) rfl rfl
  | rateLimited | quotaExhausted =>
    refine Outcome.andThen_induction ?_ fun s hs => ?_
    · exact of_left (applyRetryable _ now _ retryAfter) rfl rfl
    · exact hs.of_right rfl rfl
  | temporaryFailure =>
    simp only [Accounts.failRecord]
    split
    · exact of_left (applyRetryable _ now _ retryAfter) rfl rfl
    · exact of_left (applyFixed _ now _ _) rfl rfl

end TimedAtMost

namespace AuthInvalidShut

variable {r : AccountRecord} {now : Time}

theorem rerouted {r' : AccountRecord} (h : AuthInvalidShut r) (hblock : TimedAtMost r r')
    (htombstone : r'.authInvalidTombstone = r.authInvalidTombstone)
    (hdetached : r'.detached = r.detached)
    (hgone : permanentlyBlocked r = true →
      r.detached = true ∧ r.authInvalidTombstone = true) : AuthInvalidShut r' := by
  rcases hblock with ⟨hreason, huntil⟩ | ⟨hpermanent, huntil⟩
  · refine ⟨fun ht => ?_, fun hp => .inr ?_⟩
    · rw [hreason, huntil]
      exact h.tombstone (htombstone ▸ ht)
    · rw [hdetached, htombstone]
      exact hgone (by simpa only [permanentlyBlocked, hreason, huntil] using hp)
  · refine of_timed ?_ huntil
    rw [htombstone]
    by_contra ht
    obtain ⟨hreason, hnone⟩ := h.tombstone (by simpa using ht)
    simp [permanentlyBlocked, hreason, hnone] at hpermanent

theorem expireRecord (h : AuthInvalidShut r) : AuthInvalidShut (expireRecord now r) := by
  have hreset (record : AccountRecord) (hshut : AuthInvalidShut record) :
      AuthInvalidShut
        (if record.routingState = .cold ∧ record.accessToken.isSome then
          { record with routingState := .ready } else record) := by
    split
    next hcold =>
      refine hshut.frame rfl rfl rfl (fun hd _ => hd) fun _ hauth => ?_
      simp [hauth] at hcold
    next => exact hshut
  refine hreset _ ?_
  split
  next hexpired =>
    obtain ⟨deadline, huntil, -⟩ := (Option.any_eq_true _ _).mp hexpired
    have htombstone := h.no_tombstone_of_timed huntil
    dsimp only
    split <;> exact of_clear htombstone rfl
  next => exact h

theorem failRecord {failure : FailureClass} {retryAfter : Option StdDuration} {details : String}
    (h : AuthInvalidShut r)
    (hgone : failure.reroutes = true → permanentlyBlocked r = true →
      r.detached = true ∧ r.authInvalidTombstone = true) :
    AuthInvalidShut (failRecord now failure retryAfter details r).state := by
  have hsame := failRecord_same now failure retryAfter details r
  by_cases hreroutes : failure.reroutes = true
  · exact h.rerouted (.failRecord hreroutes now retryAfter details r) hsame.authInvalidTombstone
      hsame.detached (hgone hreroutes)
  · cases failure with
    | accessTokenRejected | rateLimited | quotaExhausted | riskControlled | temporaryFailure =>
      exact absurd rfl hreroutes
    | authInvalid => exact ⟨fun _ => ⟨rfl, rfl⟩, fun _ => .inl rfl⟩
    | requestRejected | internalFailure =>
      simp only [Accounts.failRecord, Outcome.state_returned]
      split
      next hidle =>
        refine h.frame rfl rfl rfl (fun hd _ => hd) fun hp _ => ?_
        have hactive := hasActiveBlockAt_of_permanent now hp
        exact absurd (hactive.symm.trans hidle.1) (by simp)
      next => exact h.frame rfl rfl rfl (fun hd _ => hd) fun _ hauth => hauth

/-- Every operation keeps the records shut, a guarded failure included. -/
theorem change {op : StoreOp} {r' : AccountRecord} (hchange : RecordChange now op r r')
    (hgone : ∀ failure retryAfter details, op = .fail r.id failure retryAfter details →
      failure.reroutes = true → permanentlyBlocked r = true →
      r.detached = true ∧ r.authInvalidTombstone = true)
    (h : AuthInvalidShut r) : AuthInvalidShut r' := by
  -- a routing state is only rewritten where no block is active
  have hinactive {routing : RoutingState} (hactive : hasActiveBlockAt r now = false)
      (hp : permanentlyBlocked r = true) : routing = .authInvalid :=
    absurd ((hasActiveBlockAt_of_permanent now hp).symm.trans hactive) (by simp)
  cases hchange with
  | expire | expireBeforeSelect => exact h.expireRecord
  | select heligible =>
    obtain ⟨htombstone, hpermanent⟩ := h.of_eligible heligible
    simp only [selectRecord]
    split
    · refine h.frame rfl rfl rfl (fun hd _ => hd) fun hp _ => ?_
      exact absurd (hpermanent.symm.trans hp) (by simp)
    · exact h.frame rfl rfl rfl (fun hd _ => hd) fun _ hauth => hauth
  | wake | wakeAll =>
    unfold applyWake
    split
    next => exact h
    next hopen =>
      have htombstone : r.authInvalidTombstone = false := by
        by_contra htombstone
        exact hopen (.inr (h.tombstone (by simpa using htombstone)).1)
      exact of_clear htombstone rfl
  | markSuccess =>
    simp only [markSuccessRecord]
    split
    next hidle =>
      exact h.frame rfl rfl rfl (fun hd _ => hd) fun hp _ => hinactive hidle.2 hp
    next => exact h.frame rfl rfl rfl (fun hd _ => hd) fun _ hauth => hauth
  | invalidate =>
    simp only [invalidateRecord]
    split
    next hidle =>
      exact h.frame rfl rfl rfl (fun hd _ => hd) fun hp _ => hinactive hidle.2 hp
    next => exact h.frame rfl rfl rfl (fun hd _ => hd) fun _ hauth => hauth
  | release =>
    simp only [releaseRecord]
    split
    next hidle =>
      exact h.frame rfl rfl rfl (fun hd _ => hd) fun hp _ => hinactive hidle.2 hp
    next => exact h.frame rfl rfl rfl (fun hd _ => hd) fun _ hauth => hauth
  | fail => exact h.failRecord (hgone _ _ _ rfl)
  | refreshSuccess =>
    simp only [refreshSuccessRecord]
    split
    next hidle =>
      have hactive : hasActiveBlockAt r now = false := hidle
      have htombstone := h.of_inactive hactive
      exact of_clear htombstone rfl
    next => exact h.frame rfl rfl rfl (fun hd _ => hd) fun _ hauth => hauth
  | prepareAuthInvalid => exact ⟨fun _ => ⟨rfl, rfl⟩, fun _ => .inl rfl⟩
  | finalizeAuthInvalid => exact ⟨fun _ => ⟨rfl, rfl⟩, fun _ => .inl rfl⟩
  | noteTrashFailure => exact h.frame rfl rfl rfl (fun hd _ => hd) fun _ hauth => hauth
  | updateMetadata => exact h.frame rfl rfl rfl (fun hd _ => hd) fun _ hauth => hauth
  | upsert =>
    refine h.frame rfl rfl rfl (fun hd ht => ?_) fun _ hauth => hauth
    simp [AccountStore.upsertRecord, ht, hd]
  | remove | retire => exact h.frame rfl rfl rfl (fun _ _ => rfl) fun _ hauth => hauth

end AuthInvalidShut

open AccountStore

theorem shut_apply {store : AccountStore} {event : Time × StoreOp}
    (hguard : keepsAuthInvalid store event) (h : Holds AuthInvalidShut store) :
    Holds AuthInvalidShut (store.apply event.1 event.2) := by
  obtain ⟨now, op⟩ := event
  by_cases hfail : ∃ id failure retryAfter details, op = .fail id failure retryAfter details
  · obtain ⟨id, failure, retryAfter, details, rfl⟩ := hfail
    intro id' record hrecord
    obtain ⟨old, hold, rfl⟩ := of_record?_applyFailure hrecord
    split
    next hid =>
      subst hid
      refine (h id' old hold).failRecord fun hreroutes hpermanent => ?_
      simpa [keepsAuthInvalid, hold, hreroutes, hpermanent] using hguard
    next => exact h id' old hold
  · refine h.apply (fun r r' hchange hr => hr.change hchange ?_) .newRecord
    intro failure retryAfter details hop
    exact absurd ⟨r.id, failure, retryAfter, details, hop⟩ hfail

/-- Every state of a guarded run is shut. -/
theorem shut_of_run {store : AccountStore} (hrun : Run storeStep keepsAuthInvalid .new store) :
    Holds AuthInvalidShut store := by
  refine hrun.invariant (fun a e b ha hgood hstep => ?_) (holds_new _)
  obtain rfl := Option.some.inj hstep
  exact shut_apply hgood ha

/-- No operation takes a tombstone away. -/
theorem RecordChange.tombstone {now : Time} {op : StoreOp} {r r' : AccountRecord}
    (h : RecordChange now op r r') (hr : r.authInvalidTombstone = true) :
    r'.authInvalidTombstone = true := by
  cases h with
  | expire | expireBeforeSelect => exact (expireRecord_same now r).authInvalidTombstone.trans hr
  | select => exact (selectRecord_same now _ r).authInvalidTombstone.trans hr
  | wake | wakeAll => exact (applyWake_same r now).authInvalidTombstone.trans hr
  | markSuccess => exact (markSuccessRecord_same now r).authInvalidTombstone.trans hr
  | invalidate => exact (invalidateRecord_same now r).authInvalidTombstone.trans hr
  | release => exact (releaseRecord_same now r).authInvalidTombstone.trans hr
  | fail => exact (failRecord_same now _ _ _ r).authInvalidTombstone.trans hr
  | refreshSuccess => exact (refreshSuccessRecord_frame now _ r).2.2.1.trans hr
  | prepareAuthInvalid | finalizeAuthInvalid => rfl
  | noteTrashFailure | updateMetadata | upsert | remove | retire => exact hr

/-- The account is in the store and has been marked auth-invalid. -/
def Tombstoned (id : String) (store : AccountStore) : Prop :=
  ∃ record, store.record? id = some record ∧ record.authInvalidTombstone = true

instance (id : String) (store : AccountStore) : Decidable (Tombstoned id store) :=
  decidable_of_iff ((store.record? id).any (·.authInvalidTombstone) = true)
    (by simp [Tombstoned, Option.any_eq_true])

/-- A tombstoned record stays one as long as it stays in the store. -/
theorem tombstoned_of_run {id : String} {marked store : AccountStore}
    (hrun : Run storeStep (keepsRecord id) marked store) (hmarked : Tombstoned id marked) :
    Tombstoned id store := by
  refine hrun.invariant (fun a e b ha hkeeps hstep => ?_) hmarked
  obtain ⟨old, hold, htombstone⟩ := ha
  obtain rfl := Option.some.inj hstep
  obtain ⟨r', hr'⟩ := Option.ne_none_iff_exists'.mp hkeeps
  refine ⟨r', hr', ?_⟩
  rcases traced_apply hr' with ⟨r, hr, hchanges⟩ | ⟨hnone, -⟩
  · obtain rfl := Option.some.inj (hold.symm.trans hr)
    exact hchanges.invariant (fun _ _ => RecordChange.tombstone) htombstone
  · exact absurd (hold.symm.trans hnone) (by simp)

/-- In a run whose failures never reroute an account blocked for good, selection returns
neither an account marked auth-invalid earlier, while its record lasts, nor one whose
block is active. -/
theorem selectAccount_avoids_blocked {store : AccountStore} {now : Time}
    {policy : RoutingPolicy} {skew : ℤ} {excluded : Finset String}
    {selection : AccountSelection} (hrun : Run storeStep keepsAuthInvalid .new store)
    (hselect : (store.selectAccount now policy skew excluded).1 = .ok selection) :
    (∀ marked id, Run storeStep keepsAuthInvalid .new marked → Tombstoned id marked →
      Run storeStep (keepsRecord id) marked store → selection.accountId ≠ id) ∧
    ∃ record, store.record? selection.accountId = some record ∧
      hasActiveBlockAt record now = false := by
  obtain ⟨chosen, hchosen, heligible, -⟩ := selectAccount_ok (Prod.ext hselect rfl)
  have hshut := shut_of_run hrun _ _ hchosen
  refine ⟨?_, chosen, hchosen, ?_⟩
  · rintro marked id - hmarked hkept rfl
    obtain ⟨r, hr, htombstone⟩ := tombstoned_of_run hkept hmarked
    obtain rfl := Option.some.inj (hchosen.symm.trans hr)
    have hnone := (hshut.expireRecord.of_eligible heligible).1
    rw [(expireRecord_same now chosen).authInvalidTombstone] at hnone
    simp [htombstone] at hnone
  · exact expireRecord_active (hshut.expireRecord.not_active_of_eligible heligible)

/-- An account is imported and refreshed by one request; when its token has expired a
second request refreshes it and is answered auth-invalid. -/
def refreshTurnsInvalid : List (Time × StoreOp) :=
  let id := "0c779dddf03d7056e175aae7e34329dd"
  let disk : AccountFile := ⟨"rt_1", none, none⟩
  [(0, .applyImport ⟨id, false, .insert id ⟨id⟩ disk, some (.write ⟨id⟩ disk)⟩),
    (0, .select .fillFirst 0 ∅),
    (0, .refreshSuccess id ⟨"at_1", none, none, none, none, some (fromSecs 10)⟩),
    (fromSecs 20, .select .fillFirst 0 ∅),
    (fromSecs 21, .prepareAuthInvalid id "refresh failed")]

/-- A second account is imported while the tombstoned one is still in the store. -/
def importBesideTombstone : List (Time × StoreOp) :=
  let id := "8d3ac014580eb3cf031f7e76f08b427c"
  let disk : AccountFile := ⟨"rt_2", none, none⟩
  let event : Time × StoreOp :=
    (fromSecs 22, .applyImport ⟨id, false, .insert id ⟨id⟩ disk, some (.write ⟨id⟩ disk)⟩)
  refreshTurnsInvalid ++ [event]

/-- Beside a tombstoned account the other one is selected. -/
theorem selectAccount_avoids_blocked_beside :
    let store := stateAfter storeStep .new importBesideTombstone
    Tombstoned "0c779dddf03d7056e175aae7e34329dd" store ∧
      (∀ marked id, Run storeStep keepsAuthInvalid .new marked → Tombstoned id marked →
        Run storeStep (keepsRecord id) marked store →
          "8d3ac014580eb3cf031f7e76f08b427c" ≠ id) ∧
      ∃ record, store.record? "8d3ac014580eb3cf031f7e76f08b427c" = some record ∧
        hasActiveBlockAt record (fromSecs 23) = false :=
  ⟨by decide +kernel, selectAccount_avoids_blocked (.of_isSome (by decide +kernel))
    (show (AccountStore.selectAccount _ (fromSecs 23) .fillFirst 0 ∅).1 =
      .ok ⟨"8d3ac014580eb3cf031f7e76f08b427c", "rt_2", true⟩ by decide +kernel)⟩

/-- The first request, still executing, then fails for a while: the next selection
returns the tombstoned account, with its block active. -/
theorem selectAccount_returns_tombstoned : ∃ id marked store selection,
    Run storeStep anyEvent .new marked ∧ Tombstoned id marked ∧
      Run storeStep (keepsRecord id) marked store ∧
      (store.selectAccount (fromSecs 23) .fillFirst 0 ∅).1 = .ok selection ∧
      selection.accountId = id ∧
      ∃ record, store.record? id = some record ∧
        hasActiveBlockAt record (fromSecs 23) = true := by
  let id := "0c779dddf03d7056e175aae7e34329dd"
  let marked := stateAfter storeStep .new refreshTurnsInvalid
  let failure : Time × StoreOp := (fromSecs 22, .fail id .temporaryFailure none "timeout")
  let store := stateAfter storeStep marked [failure]
  refine ⟨id, marked, store, ⟨id, "rt_1", true⟩, .of_isSome ?_, ?_, .of_isSome ?_, ?_, rfl, ?_⟩
  · decide +kernel
  · decide +kernel
  · decide +kernel
  · decide +kernel
  · exact ⟨(store.record? id).get (by decide +kernel), (Option.some_get _).symm, by decide +kernel⟩

end Codaze.Accounts
