import Codaze.Accounts.BlockFields
import Codaze.Accounts.Candidates

/-!
# What a client of a blocked pool is told

A selection succeeds at the instants at which some account is eligible. If it fails while
no account is being refreshed, the deadline of the summary is the first of these instants:
the earliest deadline among the accounts that may be tried.
-/
namespace Codaze.Accounts
open Foundation

/-- A key that the order of a search respects is least at what the search finds. -/
theorem minBy_key_le {α κ : Type*} [Preorder κ] {cmp : α → α → Ordering} {key : α → κ}
    {as : List α} {a : α} (hgt : ∀ b ∈ as, ∀ c ∈ as, cmp b c = .gt → key c ≤ key b)
    (hle : ∀ b ∈ as, ∀ c ∈ as, cmp b c ≠ .gt → key b ≤ key c) (h : minBy cmp as = some a) :
    ∀ b ∈ as, key a ≤ key b := by
  cases as with
  | nil => cases h
  | cons first as =>
    obtain rfl := Option.some.inj h
    clear h
    induction as generalizing first with
    | nil =>
      intro b hb
      rw [List.mem_singleton.mp hb]
      exact le_rfl
    | cons second as ih =>
      rw [List.foldl_cons]
      have hin : ∀ b ∈ (if cmp first second = .gt then second else first) :: as,
          b ∈ first :: second :: as := by
        intro b hb
        rcases List.mem_cons.mp hb with rfl | hmem
        · split <;> simp
        · exact List.mem_cons_of_mem _ (List.mem_cons_of_mem _ hmem)
      have hrest := ih _ (fun b hb c hc => hgt b (hin b hb) c (hin c hc))
        (fun b hb c hc => hle b (hin b hb) c (hin c hc))
      have hbest := hrest _ List.mem_cons_self
      intro b hb
      rcases List.mem_cons.mp hb with rfl | hb
      · refine hbest.trans ?_
        split
        next hcmp => exact hgt b (by simp) second (by simp) hcmp
        next => exact le_rfl
      · rcases List.mem_cons.mp hb with rfl | hb
        · refine hbest.trans ?_
          split
          next => exact le_rfl
          next hcmp => exact hle first (by simp) b (by simp) hcmp
        · exact hrest b (List.mem_cons_of_mem _ hb)

theorem selectCandidate_isSome (policy : RoutingPolicy) (candidates : List RouteCandidate)
    (cursor : ℕ) : (selectCandidate policy candidates cursor).1.isSome = true ↔
      candidates ≠ [] := by
  cases candidates with
  | nil => simp [selectCandidate]
  | cons candidate candidates =>
    have hlength : cursor % (candidate :: candidates).length < (candidate :: candidates).length :=
      Nat.mod_lt _ (by simp)
    cases policy with
    | roundRobin =>
      simp only [selectCandidate, List.isEmpty_cons, Bool.false_eq_true, if_false,
        List.getElem?_eq_getElem hlength]
      simp
    | leastInFlight | fillFirst => simp [selectCandidate, minBy]

namespace AccountStore

variable {store : AccountStore} {now : Time} {policy : RoutingPolicy} {skew : ℤ}
  {excluded : Finset String}

/-- Whatever the policy, a selection succeeds if and only if an account is eligible. -/
theorem selectedId?_isSome (store : AccountStore) (now : Time) (policy : RoutingPolicy)
    (skew : ℤ) (excluded : Finset String) :
    (selectedId? (store.selectAccount now policy skew excluded).1).isSome = true ↔
      (store.eligibleIds now excluded).Nonempty := by
  rw [(store.selectAccount_spec now policy skew excluded).1, selectCandidate_isSome, ne_eq,
    ← List.length_eq_zero_iff, length_buildRouteCandidates, eligibleIds_refreshExpiredBlocks,
    Finset.card_eq_zero, Finset.nonempty_iff_ne_empty]

/-- A selection that finds no account says so. -/
theorem error_of_selectedId?
    (h : selectedId? (store.selectAccount now policy skew excluded).1 = none) :
    (store.selectAccount now policy skew excluded).1 = .error .noEligibleAccount := by
  have hempty : ¬(store.eligibleIds now excluded).Nonempty := by
    rw [← selectedId?_isSome store now policy skew excluded, h]
    exact Bool.false_ne_true
  rw [← eligibleIds_refreshExpiredBlocks, Finset.not_nonempty_iff_eq_empty,
    ← Finset.card_eq_zero, ← length_buildRouteCandidates, List.length_eq_zero_iff] at hempty
  unfold selectAccount
  dsimp only
  rw [hempty]
  rfl

/-- A record that a request may try, once it is unblocked. -/
def Routeable (excluded : Finset String) (record : AccountRecord) : Prop :=
  record.detached = false ∧ record.routingState ≠ .authInvalid ∧ record.id ∉ excluded

instance (excluded : Finset String) (record : AccountRecord) :
    Decidable (Routeable excluded record) := inferInstanceAs (Decidable (_ ∧ _ ∧ _))

/-- The records that the summary looks at. -/
def routeable (store : AccountStore) (excluded : Finset String) : List AccountRecord :=
  store.records.values.filter fun record => !record.detached &&
    decide (record.routingState ≠ .authInvalid) && decide (record.id ∉ excluded)

theorem mem_routeable {record : AccountRecord} : record ∈ store.routeable excluded ↔
    store.record? record.id = some record ∧ Routeable excluded record := by
  rw [routeable, List.mem_filter, HashMap.mem_values]
  constructor
  · rintro ⟨⟨id, hid⟩, hrouteable⟩
    obtain rfl := store.keyed id record hid
    exact ⟨hid, by simpa [Routeable, and_assoc] using hrouteable⟩
  · rintro ⟨hrecord, hrouteable⟩
    exact ⟨⟨record.id, hrecord⟩, by simpa [Routeable, and_assoc] using hrouteable⟩

/-- An account is eligible if and only if it is routeable, not being refreshed and past its
deadline. -/
theorem mem_eligibleIds_iff {id : String} : id ∈ store.eligibleIds now excluded ↔
    ∃ record ∈ store.routeable excluded, record.id = id ∧ record.refreshInFlight = false ∧
      ∀ deadline, record.blockedUntil = some deadline → deadline ≤ now := by
  rw [mem_eligibleIds]
  constructor
  · rintro ⟨record, hrecord, heligible, hexcluded⟩
    obtain rfl := store.keyed id record hrecord
    obtain ⟨hattached, hidle, hvalid, hdeadline⟩ := isEligible_iff.mp heligible
    exact ⟨record, mem_routeable.mpr ⟨hrecord, hattached, hvalid, hexcluded⟩, rfl, hidle, hdeadline⟩
  · rintro ⟨record, hmem, rfl, hidle, hdeadline⟩
    obtain ⟨hrecord, hattached, hvalid, hexcluded⟩ := mem_routeable.mp hmem
    exact ⟨record, hrecord, isEligible_iff.mpr ⟨hattached, hidle, hvalid, hdeadline⟩, hexcluded⟩

/-- What a summary says of a pool without an eligible account. -/
structure Advice (store : AccountStore) (now : Time) (excluded : Finset String)
    (summary : PoolBlockSummary) : Prop where
  /-- While an account is being refreshed, to come back in a second. -/
  refreshing : (∃ record ∈ store.routeable excluded, record.refreshInFlight = true) →
    summary.blockedReason = .temporarilyUnavailable ∧ summary.retryAfter = some (fromSecs 1)
  /-- Else the reason of an account and its deadline, the first instant of a selection. -/
  exact : (∀ record ∈ store.routeable excluded, record.refreshInFlight = false) →
    ∃ deadline, summary.blockedUntil = some deadline ∧ now < deadline ∧
      summary.retryAfter = some (deadline - now).toNat ∧
      (∃ record ∈ store.routeable excluded, record.blockedUntil = some deadline ∧
        record.blockedReason = some summary.blockedReason) ∧
      ∀ later policy skew,
        (selectedId? (store.selectAccount later policy skew excluded).1).isSome = true ↔
          deadline ≤ later

/-- A routeable record that is not eligible is being refreshed or waits for a deadline. -/
theorem deadline_of_ineligible (hnone : store.eligibleIds now excluded = ∅)
    {record : AccountRecord} (hmem : record ∈ store.routeable excluded)
    (hidle : record.refreshInFlight = false) :
    ∃ deadline, record.blockedUntil = some deadline ∧ now < deadline := by
  by_contra hfree
  push Not at hfree
  have heligible : record.id ∈ store.eligibleIds now excluded :=
    mem_eligibleIds_iff.mpr ⟨record, hmem, rfl, hidle, hfree⟩
  rw [hnone] at heligible
  exact absurd heligible (Finset.notMem_empty _)

theorem summarizeSelectionFailure_eq (hnone : store.eligibleIds now excluded = ∅) :
    store.summarizeSelectionFailure now excluded =
      if store.routeable excluded = [] then none
      else if (store.routeable excluded).any (·.refreshInFlight) then
        some { blockedReason := .temporarilyUnavailable
               blockedUntil := (durationFromStd (fromSecs 1)).bind (addDelta now)
               retryAfter := some (fromSecs 1) }
      else (minBy compareBlockPriority ((store.routeable excluded).filterMap fun record =>
          record.blockedReason.map fun reason => (reason, record.blockedUntil))).map fun selected =>
        { blockedReason := selected.1
          blockedUntil := selected.2
          retryAfter := selected.2.bind fun deadline =>
            if now ≤ deadline then some (deadline - now).toNat else none } := by
  have hblocked : (store.routeable excluded).any (fun record =>
      !record.refreshInFlight && !hasActiveBlockAt record now) = false := by
    rw [List.any_eq_false]
    intro record hmem hfree
    simp only [Bool.and_eq_true, Bool.not_eq_true'] at hfree
    obtain ⟨deadline, hdeadline, hlate⟩ := deadline_of_ineligible hnone hmem hfree.1
    have hactive : hasActiveBlockAt record now = true := by
      simp [hasActiveBlockAt, hdeadline, hlate]
    exact absurd (hfree.2.symm.trans hactive) (by simp)
  have hrouteable : (store.records.values.filter fun record => !record.detached &&
      decide (record.routingState ≠ .authInvalid) && decide (record.id ∉ excluded)) =
        store.routeable excluded := rfl
  unfold summarizeSelectionFailure
  simp only [hrouteable, List.isEmpty_iff, hblocked, Bool.false_eq_true, if_false]

/-- A pool that waits for deadlines serves from the earliest one on. -/
theorem selectedId?_isSome_of_deadlines {deadline : Time}
    (hidle : ∀ record ∈ store.routeable excluded, record.refreshInFlight = false)
    (hdeadlines : ∀ record ∈ store.routeable excluded,
      ∃ other, record.blockedUntil = some other ∧ deadline ≤ other)
    (hleast : ∃ record ∈ store.routeable excluded, record.blockedUntil = some deadline)
    (later : Time) (policy : RoutingPolicy) (skew : ℤ) :
    (selectedId? (store.selectAccount later policy skew excluded).1).isSome = true ↔
      deadline ≤ later := by
  rw [selectedId?_isSome]
  constructor
  · rintro ⟨id, hid⟩
    obtain ⟨record, hmem, -, -, hpast⟩ := mem_eligibleIds_iff.mp hid
    obtain ⟨other, hother, hle⟩ := hdeadlines record hmem
    exact hle.trans (hpast other hother)
  · intro hlater
    obtain ⟨record, hmem, hdeadline⟩ := hleast
    refine ⟨record.id, mem_eligibleIds_iff.mpr ⟨record, hmem, rfl, hidle record hmem, ?_⟩⟩
    intro other hother
    rw [hdeadline] at hother
    exact Option.some.inj hother ▸ hlater

/-- The blocks that a summary chooses from. -/
def blocks (store : AccountStore) (excluded : Finset String) :
    List (BlockedReason × Option Time) :=
  (store.routeable excluded).filterMap fun record =>
    record.blockedReason.map fun reason => (reason, record.blockedUntil)

theorem mem_blocks {block : BlockedReason × Option Time} : block ∈ store.blocks excluded ↔
    ∃ record ∈ store.routeable excluded, record.blockedReason = some block.1 ∧
      record.blockedUntil = block.2 := by
  rw [blocks, List.mem_filterMap]
  constructor
  · rintro ⟨record, hmem, hblock⟩
    obtain ⟨reason, hreason, rfl⟩ := Option.map_eq_some_iff.mp hblock
    exact ⟨record, hmem, hreason, rfl⟩
  · rintro ⟨record, hmem, hreason, hdeadline⟩
    exact ⟨record, hmem, by rw [hreason, hdeadline]; rfl⟩

/-- Among blocks with deadlines the order looks at the deadlines first. -/
theorem compareBlockPriority_deadline {reason reason' : BlockedReason} {deadline deadline' : Time} :
    (compareBlockPriority (reason, some deadline) (reason', some deadline') = .gt →
      deadline' ≤ deadline) ∧
    (compareBlockPriority (reason, some deadline) (reason', some deadline') ≠ .gt →
      deadline ≤ deadline') := by
  unfold compareBlockPriority
  dsimp only
  rcases lt_trichotomy deadline deadline' with hlt | rfl | hgt
  · rw [compare_lt_iff_lt.mpr hlt]
    exact ⟨fun h => (by cases h), fun _ => hlt.le⟩
  · exact ⟨fun _ => le_rfl, fun _ => le_rfl⟩
  · rw [compare_gt_iff_gt.mpr hgt]
    exact ⟨fun _ => hgt.le, fun h => absurd rfl h⟩

theorem advice_summarizeSelectionFailure
    (hcoherent : Holds (fun record => record.block.Coherent) store)
    (hnone : store.eligibleIds now excluded = ∅) {summary : PoolBlockSummary}
    (hsummary : store.summarizeSelectionFailure now excluded = some summary) :
    Advice store now excluded summary := by
  rw [summarizeSelectionFailure_eq hnone] at hsummary
  split at hsummary
  next => cases hsummary
  next hsome =>
    split at hsummary
    next hrefreshing =>
      obtain rfl := Option.some.inj hsummary
      refine ⟨fun _ => ⟨rfl, rfl⟩, fun hidle => ?_⟩
      obtain ⟨record, hmem, hrefresh⟩ := List.any_eq_true.mp hrefreshing
      exact absurd ((hidle record hmem).symm.trans hrefresh) (by simp)
    next hidle =>
      have hidle : ∀ record ∈ store.routeable excluded, record.refreshInFlight = false := by
        intro record hmem
        by_contra hrefresh
        exact hidle (List.any_eq_true.mpr ⟨record, hmem, by simpa using hrefresh⟩)
      obtain ⟨⟨reason, until?⟩, hmin, rfl⟩ := Option.map_eq_some_iff.mp hsummary
      have hblocks : ∀ record ∈ store.routeable excluded, ∃ reason deadline,
          record.blockedUntil = some deadline ∧ now < deadline ∧
            (reason, some deadline) ∈ store.blocks excluded := by
        intro record hmem
        obtain ⟨deadline, hdeadline, hlate⟩ := deadline_of_ineligible hnone hmem (hidle record hmem)
        have hblock := hcoherent record.id record (mem_routeable.mp hmem).1
        obtain ⟨reason, hreason⟩ := Option.isSome_iff_exists.mp
          (hblock.reason_of_deadline (Option.isSome_of_eq_some hdeadline))
        exact ⟨reason, deadline, hdeadline, hlate,
          mem_blocks.mpr ⟨record, hmem, hreason, hdeadline⟩⟩
      have hall : ∀ block ∈ store.blocks excluded, ∃ deadline, block.2 = some deadline := by
        intro block hblock
        obtain ⟨record, hmem, -, hdeadline⟩ := mem_blocks.mp hblock
        obtain ⟨-, deadline, hsome, -⟩ := hblocks record hmem
        exact ⟨deadline, hdeadline.symm.trans hsome⟩
      obtain ⟨record, hmem, hreason, hdeadline⟩ := mem_blocks.mp (minBy_mem hmin)
      obtain ⟨-, deadline, hdeadline', hlate, -⟩ := hblocks record hmem
      obtain rfl : until? = some deadline := hdeadline.symm.trans hdeadline'
      have hleast : ∀ block ∈ store.blocks excluded, deadline ≤ block.2.getD 0 := by
        refine @minBy_key_le _ Time _ compareBlockPriority (fun block => block.2.getD 0)
          (store.blocks excluded) _ (fun b hb c hc => ?_) (fun b hb c hc => ?_) hmin
        all_goals
          obtain ⟨left, hleft⟩ := hall b hb
          obtain ⟨right, hright⟩ := hall c hc
          obtain ⟨reasonLeft, untilLeft⟩ := b
          obtain ⟨reasonRight, untilRight⟩ := c
          obtain rfl : untilLeft = some left := hleft
          obtain rfl : untilRight = some right := hright
        · exact compareBlockPriority_deadline.1
        · exact compareBlockPriority_deadline.2
      refine ⟨fun ⟨other, hother, hrefresh⟩ => ?_, fun _ => ⟨deadline, rfl, hlate, ?_, ?_, ?_⟩⟩
      · exact absurd ((hidle other hother).symm.trans hrefresh) (by simp)
      · rw [Option.bind_some, if_pos hlate.le]
      · exact ⟨record, hmem, hdeadline, hreason⟩
      · refine selectedId?_isSome_of_deadlines hidle (fun other hother => ?_)
          ⟨record, hmem, hdeadline⟩
        obtain ⟨otherReason, otherDeadline, hother', -, hblock⟩ := hblocks other hother
        exact ⟨otherDeadline, hother', hleast _ hblock⟩

/-- The sweep of the summary keeps who is eligible. -/
theorem eligibleIds_of_failed {store' : AccountStore}
    (h : store.selectAccount now policy skew excluded = (.error .noEligibleAccount, store')) :
    store' = store.refreshExpiredBlocks now ∧
      (store'.refreshExpiredBlocks now).eligibleIds now excluded = ∅ := by
  have hnone : (store.eligibleIds now excluded) = ∅ := by
    by_contra hsome
    have hselected := (store.selectedId?_isSome now policy skew excluded).mpr
      (Finset.nonempty_iff_ne_empty.mpr hsome)
    rw [h] at hselected
    cases hselected
  have hstore : store' = store.refreshExpiredBlocks now := by
    unfold selectAccount at h
    dsimp only at h
    split at h
    next => exact (congrArg Prod.snd h).symm
    next =>
      split at h
      next => cases h
      next => cases h
  refine ⟨hstore, ?_⟩
  rw [eligibleIds_refreshExpiredBlocks, hstore, eligibleIds_refreshExpiredBlocks, hnone]

/-- The summary is missing only if there is no account that may be tried. -/
theorem summarizeSelectionFailure_eq_none
    (hcoherent : Holds (fun record => record.block.Coherent) store)
    (hnone : store.eligibleIds now excluded = ∅) :
    store.summarizeSelectionFailure now excluded = none ↔ store.routeable excluded = [] := by
  rw [summarizeSelectionFailure_eq hnone]
  constructor
  · intro h
    split at h
    next hempty => exact hempty
    next hsome =>
      split at h
      next => cases h
      next hidle =>
        rw [Option.map_eq_none_iff] at h
        obtain ⟨record, rest, hcons⟩ := List.exists_cons_of_ne_nil hsome
        have hmem : record ∈ store.routeable excluded := by rw [hcons]; exact List.mem_cons_self
        have hrefresh : record.refreshInFlight = false := by
          by_contra hrefresh
          exact hidle (List.any_eq_true.mpr ⟨record, hmem, by simpa using hrefresh⟩)
        obtain ⟨deadline, hdeadline, -⟩ := deadline_of_ineligible hnone hmem hrefresh
        have hblock := hcoherent record.id record (mem_routeable.mp hmem).1
        obtain ⟨reason, hreason⟩ := Option.isSome_iff_exists.mp
          (hblock.reason_of_deadline (Option.isSome_of_eq_some hdeadline))
        have hblocks : (reason, some deadline) ∈ store.blocks excluded :=
          mem_blocks.mpr ⟨record, hmem, hreason, hdeadline⟩
        obtain ⟨first, others, hfirst⟩ := List.exists_cons_of_ne_nil (List.ne_nil_of_mem hblocks)
        have hmin : minBy compareBlockPriority (store.blocks excluded) = none := h
        rw [hfirst] at hmin
        cases hmin
  · intro hempty
    rw [if_pos hempty]

/-- In every state of the store: if a selection finds no account, the summary of the swept store
is missing exactly if no account may be tried at all; else, unless an account is being
refreshed, it tells the first instant at which a selection succeeds, of whatever policy,
as long as nothing else happens. -/
theorem pool_advice_exact {store store' : AccountStore} (hrun : Run storeStep anyEvent .new store)
    {now : Time} {policy : RoutingPolicy} {skew : ℤ} {excluded : Finset String}
    (hfailed : store.selectAccount now policy skew excluded = (.error .noEligibleAccount, store')) :
    let swept := store'.refreshExpiredBlocks now
    (swept.summarizeSelectionFailure now excluded = none ↔ ∀ id record,
      swept.record? id = some record → ¬Routeable excluded record) ∧
    ∀ summary, swept.summarizeSelectionFailure now excluded = some summary →
      Advice swept now excluded summary := by
  intro swept
  obtain ⟨hstore, hnone⟩ := eligibleIds_of_failed hfailed
  have hcoherent : Holds (fun record => record.block.Coherent) swept := by
    have hreached : Holds (fun record => record.block.Coherent) store :=
      hrun.invariant (fun a e b ha _ hstep => by
        obtain rfl := Option.some.inj hstep
        exact blocks_coherent_apply e.1 e.2 ha) (holds_new _)
    subst hstore
    exact blocks_coherent_apply now .sweep (blocks_coherent_apply now .sweep hreached)
  refine ⟨?_, fun summary hsummary => advice_summarizeSelectionFailure hcoherent hnone hsummary⟩
  rw [summarizeSelectionFailure_eq_none hcoherent hnone, List.eq_nil_iff_forall_not_mem]
  constructor
  · intro hempty id record hrecord hrouteable
    obtain rfl := swept.keyed id record hrecord
    exact hempty record (mem_routeable.mpr ⟨hrecord, hrouteable⟩)
  · intro hall record hmem
    have ⟨hrecord, hrouteable⟩ := mem_routeable.mp hmem
    exact hall record.id record hrecord hrouteable

/-- `pool_advice_exact` a second after the only account was rate limited for a minute. -/
theorem pool_advice_exact_limited :
    let store := stateAfter storeStep .new importedAndLimited
    let swept := (store.selectAccount (fromSecs 1) .fillFirst 0 ∅).2.refreshExpiredBlocks
      (fromSecs 1)
    (swept.summarizeSelectionFailure (fromSecs 1) ∅ = none ↔ ∀ id record,
      swept.record? id = some record → ¬Routeable ∅ record) ∧
    ∀ summary, swept.summarizeSelectionFailure (fromSecs 1) ∅ = some summary →
      Advice swept (fromSecs 1) ∅ summary := by
  refine @pool_advice_exact (stateAfter storeStep .new importedAndLimited) _
    (.of_isSome (by decide +kernel)) (fromSecs 1) .fillFirst 0 ∅ (Prod.ext ?_ rfl)
  have hnone : selectedId? ((stateAfter storeStep .new importedAndLimited).selectAccount
      (fromSecs 1) .fillFirst 0 ∅).1 = none := by decide +kernel
  exact error_of_selectedId? hnone

end AccountStore

end Codaze.Accounts
