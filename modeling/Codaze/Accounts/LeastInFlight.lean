import Codaze.Accounts.Candidates
import Codaze.Foundation.Balance
import Mathlib.Algebra.BigOperators.Group.Finset.Piecewise
import Mathlib.Order.Interval.Finset.Nat

/-!
# Least in flight

Without settlements each selection takes an account with the fewest requests, so the counts of
the selections stay balanced. When each selection is released before the next, the counts stay
equal and the selection takes the account that was selected longest ago.
-/
namespace Codaze.Accounts
open Foundation

namespace AccountStore

theorem mem_buildRouteCandidates_iff {store : AccountStore} {now : Time}
    {excluded : Finset String} {candidate : RouteCandidate} :
    candidate ∈ store.buildRouteCandidates now excluded ↔
      ∃ record, store.record? candidate.accountId = some record ∧
        isEligible record now = true ∧ candidate.accountId ∉ excluded ∧
        candidate.inFlightRequests = record.inFlightRequests ∧
        candidate.lastSelectedAt = record.lastSelectedAt := by
  rw [buildRouteCandidates, List.mem_insertionSort, List.mem_map]
  constructor
  · rintro ⟨record, hmem, rfl⟩
    rw [List.mem_filter, Bool.and_eq_true, decide_eq_true_eq] at hmem
    obtain ⟨hvalue, heligible, hexcluded⟩ := hmem
    obtain ⟨id, hid⟩ := HashMap.mem_values.mp hvalue
    obtain rfl := store.keyed id record hid
    exact ⟨record, hid, heligible, hexcluded, rfl, rfl⟩
  · rintro ⟨record, hrecord, heligible, hexcluded, hcount, hlast⟩
    have hid := store.keyed _ record hrecord
    refine ⟨record, ?_, ?_⟩
    · rw [List.mem_filter, Bool.and_eq_true, decide_eq_true_eq, hid]
      exact ⟨HashMap.mem_values.mpr ⟨_, hrecord⟩, heligible, hexcluded⟩
    · rw [hid, ← hcount, ← hlast]

/-- If there is an eligible account, one with the fewest requests is selected, and among those
one that was never selected or longest ago. -/
theorem selectAccount_leastInFlight {store : AccountStore} {now : Time} (skew : ℤ)
    {excluded : Finset String} (hne : (store.eligibleIds now excluded).Nonempty) :
    ∃ selection store' chosen,
      store.selectAccount now .leastInFlight skew excluded = (.ok selection, store') ∧
      selection.accountId ∈ store.eligibleIds now excluded ∧
      store.record? selection.accountId = some chosen ∧
      ∀ id ∈ store.eligibleIds now excluded, ∀ r, store.record? id = some r →
        chosen.inFlightRequests ≤ r.inFlightRequests ∧
        (chosen.inFlightRequests = r.inFlightRequests →
          ∀ at', chosen.lastSelectedAt = some at' →
            ∃ at'', r.lastSelectedAt = some at'' ∧ at' ≤ at'') := by
  let swept := store.refreshExpiredBlocks now
  let candidates := swept.buildRouteCandidates now excluded
  have hlength : candidates.length = (store.eligibleIds now excluded).card := by
    rw [← eligibleIds_refreshExpiredBlocks]
    exact swept.length_buildRouteCandidates now excluded
  have hcandidates : ¬ candidates.isEmpty := by
    rw [List.isEmpty_iff_length_eq_zero, hlength, Finset.card_eq_zero]
    exact hne.ne_empty
  -- the router's choice
  obtain ⟨best, hbest⟩ : ∃ best, minBy compareInFlight candidates = some best := by
    cases hlist : candidates with
    | nil => simp [hlist] at hcandidates
    | cons first rest => exact ⟨_, rfl⟩
  have hspec := (store.selectAccount_spec now .leastInFlight skew excluded).1
  simp only [selectCandidate, if_neg hcandidates, show
    (store.refreshExpiredBlocks now).buildRouteCandidates now excluded = candidates from rfl,
    hbest, Option.map_some] at hspec
  rcases hselect : store.selectAccount now .leastInFlight skew excluded with
    ⟨failure | selection, store'⟩
  · rw [hselect] at hspec
    cases hspec
  rw [hselect] at hspec
  have hid : selection.accountId = best.accountId := Option.some.inj hspec
  -- the candidates are the swept records
  have hswept (id : String) : swept.record? id = (store.record? id).map (expireRecord now) :=
    record?_modifyAll store _ _ id
  have hcandidate {id : String} {r : AccountRecord} (hr : store.record? id = some r)
      (hmem : id ∈ store.eligibleIds now excluded) :
      ⟨id, r.inFlightRequests, r.lastSelectedAt⟩ ∈ candidates := by
    obtain ⟨r', hr', heligible, hexcluded⟩ := mem_eligibleIds.mp hmem
    obtain rfl := Option.some.inj (hr.symm.trans hr')
    refine mem_buildRouteCandidates_iff.mpr ⟨expireRecord now r, ?_, ?_, hexcluded, ?_, ?_⟩
    · rw [hswept, hr, Option.map_some]
    · simpa [isEligible_expireRecord] using heligible
    · exact (expireRecord_counts now r).1.symm
    · exact (expireRecord_counts now r).2.symm
  obtain ⟨chosen', hchosen', heligible, hexcluded, hcount, hlast⟩ :=
    mem_buildRouteCandidates_iff.mp (minBy_mem hbest)
  rw [hswept] at hchosen'
  obtain ⟨chosen, hchosen, rfl⟩ := Option.map_eq_some_iff.mp hchosen'
  rw [(expireRecord_counts now chosen).1] at hcount
  rw [(expireRecord_counts now chosen).2] at hlast
  refine ⟨selection, store', chosen, rfl, ?_, hid ▸ hchosen, fun id hmem r hr => ?_⟩
  · rw [hid]
    exact mem_eligibleIds.mpr
      ⟨chosen, hchosen, by simpa [isEligible_expireRecord] using heligible, hexcluded⟩
  · have hleast := compareInFlight_isLE (minBy_least hbest _ (hcandidate hr hmem))
    rw [hcount, hlast] at hleast
    exact hleast

end AccountStore

/-- The accounts to choose from: at every reading of the clock eligible and with a fresh token.
The other accounts are excluded, or at no reading eligible. -/
structure AccountPool (ids excluded : Finset String) (clock : ℕ → Time) (steps : ℕ) (skew : ℤ)
    (store : AccountStore) : Prop where
  ready : ∀ id ∈ ids, ∃ r, store.record? id = some r ∧ id ∉ excluded ∧
    ∀ k < steps, isEligible r (clock k) = true ∧ tokenNeedsRefresh r (clock k) skew = false
  others : ∀ id r, store.record? id = some r → id ∉ ids →
    id ∈ excluded ∨ ∀ k < steps, isEligible r (clock k) = false

namespace AccountPool

variable {ids excluded : Finset String} {clock : ℕ → Time} {steps : ℕ} {skew : ℤ}
  {store : AccountStore} {k : ℕ}

theorem eligibleIds (h : AccountPool ids excluded clock steps skew store) (hk : k < steps) :
    store.eligibleIds (clock k) excluded = ids := by
  ext id
  rw [AccountStore.mem_eligibleIds]
  constructor
  · rintro ⟨r, hr, heligible, hexcluded⟩
    by_contra hid
    rcases h.others id r hr hid with hmem | hnever
    · exact hexcluded hmem
    · rw [hnever k hk] at heligible
      cases heligible
  · intro hid
    obtain ⟨r, hr, hexcluded, hready⟩ := h.ready id hid
    exact ⟨r, hr, (hready k hk).1, hexcluded⟩

/-- Operations that keep every record eligible when it is, and its token. -/
theorem frame (h : AccountPool ids excluded clock steps skew store) {store' : AccountStore}
    {f : String → AccountRecord → AccountRecord}
    (hrecords : ∀ id, store'.record? id = (store.record? id).map (f id))
    (hready : ∀ id ∈ ids, ∀ r, store.record? id = some r → ∀ k < steps,
      isEligible r (clock k) = true → tokenNeedsRefresh r (clock k) skew = false →
        isEligible (f id r) (clock k) = true ∧
          tokenNeedsRefresh (f id r) (clock k) skew = false)
    (hothers : ∀ id ∉ ids, ∀ r, store.record? id = some r →
      (∀ k < steps, isEligible r (clock k) = false) →
        ∀ k < steps, isEligible (f id r) (clock k) = false) :
    AccountPool ids excluded clock steps skew store' where
  ready id hid := by
    obtain ⟨r, hr, hexcluded, hr'⟩ := h.ready id hid
    refine ⟨f id r, by rw [hrecords, hr, Option.map_some], hexcluded, fun k hk => ?_⟩
    exact hready id hid r hr k hk (hr' k hk).1 (hr' k hk).2
  others id r' hr' hid := by
    rw [hrecords] at hr'
    obtain ⟨r, hr, rfl⟩ := Option.map_eq_some_iff.mp hr'
    rcases h.others id r hr hid with hmem | hnever
    · exact .inl hmem
    · exact .inr (hothers id hid r hr hnever)

/-- A selection takes one of the accounts, with the fewest requests, and keeps the pool. -/
theorem select (h : AccountPool ids excluded clock steps skew store) (hne : ids.Nonempty)
    (hk : k < steps) :
    ∃ selection store' chosen,
      store.selectAccount (clock k) .leastInFlight skew excluded = (.ok selection, store') ∧
      selection.accountId ∈ ids ∧ store.record? selection.accountId = some chosen ∧
      (∀ id ∈ ids, ∀ r, store.record? id = some r →
        chosen.inFlightRequests ≤ r.inFlightRequests ∧
        (chosen.inFlightRequests = r.inFlightRequests →
          ∀ at', chosen.lastSelectedAt = some at' →
            ∃ at'', r.lastSelectedAt = some at'' ∧ at' ≤ at'')) ∧
      AccountPool ids excluded clock steps skew store' ∧
      ∀ id, store'.record? id = (store.record? id).map fun r =>
        if id = selection.accountId then { expireRecord (clock k) r with
          inFlightRequests := saturatingSucc32 r.inFlightRequests
          lastSelectedAt := some (clock k) }
        else expireRecord (clock k) r := by
  have hne' : (store.eligibleIds (clock k) excluded).Nonempty := by rwa [h.eligibleIds hk]
  obtain ⟨selection, store', chosen, hselect, hmem, hchosen, hleast⟩ :=
    store.selectAccount_leastInFlight skew hne'
  rw [h.eligibleIds hk] at hmem hleast
  have hfresh : ∀ r, store.record? selection.accountId = some r →
      tokenNeedsRefresh r (clock k) skew = false := by
    intro r hr
    obtain ⟨r', hr', -, hready⟩ := h.ready _ hmem
    obtain rfl := Option.some.inj (hr.symm.trans hr')
    exact (hready k hk).2
  have hrecords := AccountStore.record?_selectAccount hselect hfresh
  refine ⟨selection, store', chosen, hselect, hmem, hchosen, hleast,
    h.frame hrecords (fun id hid r hr j hj heligible hneeds => ?_)
      (fun id hid r hr hnever j hj => ?_), hrecords⟩
  · have hswept : isEligible (expireRecord (clock k) r) (clock j) = true :=
      isEligible_expireRecord.mpr (.inr heligible)
    have htoken := (tokenNeedsRefresh_expireRecord (clock k) (clock j) skew r).trans hneeds
    split <;> exact ⟨hswept, htoken⟩
  · have hswept : isEligible (expireRecord (clock k) r) (clock j) = false := by
      rw [Bool.eq_false_iff]
      intro heligible
      rcases isEligible_expireRecord.mp heligible with hnow | hthen
      · rw [hnever k hk] at hnow
        cases hnow
      · rw [hnever j hj] at hthen
        cases hthen
    split <;> exact hswept

end AccountPool

theorem AccountPool.of_values {ids excluded : Finset String} {clock : ℕ → Time} {steps : ℕ}
    {skew : ℤ} {store : AccountStore} (hpresent : ∀ id ∈ ids, (store.record? id).isSome = true)
    (hapart : ∀ id ∈ ids, id ∉ excluded)
    (hvalues : ∀ r ∈ store.records.values, r.id ∈ ids ∧
      ∀ k < steps, isEligible r (clock k) = true ∧ tokenNeedsRefresh r (clock k) skew = false) :
    AccountPool ids excluded clock steps skew store where
  ready id hid := by
    obtain ⟨r, hr⟩ := Option.isSome_iff_exists.mp (hpresent id hid)
    exact ⟨r, hr, hapart id hid, (hvalues r (AccountStore.mem_values_of_record? hr)).2⟩
  others id r hr hid := by
    have hmem := (hvalues r (AccountStore.mem_values_of_record? hr)).1
    rw [AccountStore.id_of_record? hr] at hmem
    exact absurd hmem hid

/-- What happens to a selection before the next one. -/
abbrev Settle := ℕ → Except SelectionFailure AccountSelection × AccountStore → AccountStore

/-- Nothing. -/
def keepSelection : Settle := fun _ result => result.2

/-- It is released at some time. -/
def releaseSelected (release : ℕ → Time) : Settle := fun k result => match result with
  | (.ok selection, store) => store.releaseSelection (release k) selection.accountId
  | (.error _, store) => store

/-- The store before each selection. -/
def selectionRun (settle : Settle) (excluded : Finset String) (clock : ℕ → Time) (skew : ℤ)
    (store : AccountStore) : ℕ → AccountStore
  | 0 => store
  | k + 1 => settle k ((selectionRun settle excluded clock skew store k).selectAccount (clock k)
      .leastInFlight skew excluded)

def selectionAt (settle : Settle) (excluded : Finset String) (clock : ℕ → Time) (skew : ℤ)
    (store : AccountStore) (k : ℕ) : Option String :=
  AccountStore.selectedId? ((selectionRun settle excluded clock skew store k).selectAccount
    (clock k) .leastInFlight skew excluded).1

/-- How often an account is among the first selections. -/
def selectionCount (settle : Settle) (excluded : Finset String) (clock : ℕ → Time) (skew : ℤ)
    (store : AccountStore) (k : ℕ) (id : String) : ℕ :=
  (List.range k).countP fun i =>
    decide (selectionAt settle excluded clock skew store i = some id)

section Run

variable {settle : Settle} {ids excluded : Finset String} {clock : ℕ → Time} {skew : ℤ}
  {store : AccountStore} {steps count k : ℕ}

theorem selectionCount_succ {chosen : String}
    (hchosen : selectionAt settle excluded clock skew store k = some chosen) (id : String) :
    selectionCount settle excluded clock skew store (k + 1) id =
      if id = chosen then selectionCount settle excluded clock skew store k id + 1
      else selectionCount settle excluded clock skew store k id := by
  rw [selectionCount, List.range_succ, List.countP_append, List.countP_singleton, hchosen]
  by_cases hid : id = chosen
  · simp [hid, selectionCount]
  · simp [hid, selectionCount, Ne.symm hid]

/-- The accounts have the count they started with and one request for each selection. -/
structure Selected (ids excluded : Finset String) (clock : ℕ → Time) (steps : ℕ) (skew : ℤ)
    (count : ℕ) (store : AccountStore) (k : ℕ) : Prop where
  pool : AccountPool ids excluded clock steps skew
    (selectionRun keepSelection excluded clock skew store k)
  counts : ∀ id ∈ ids, ∀ r,
    (selectionRun keepSelection excluded clock skew store k).record? id = some r →
      r.inFlightRequests = count + selectionCount keepSelection excluded clock skew store k id
  total : ∑ id ∈ ids, selectionCount keepSelection excluded clock skew store k id = k
  balanced : Balanced ids (selectionCount keepSelection excluded clock skew store k)

theorem Selected.step (h : Selected ids excluded clock steps skew count store k)
    (hne : ids.Nonempty) (hk : k < steps) (hroom : count + k / ids.card < u32Max) :
    Selected ids excluded clock steps skew count store (k + 1) := by
  obtain ⟨selection, store', chosen, hselect, hmem, hchosen, hleast, hpool, hrecords⟩ :=
    h.pool.select hne hk
  have hat : selectionAt keepSelection excluded clock skew store k = some selection.accountId := by
    rw [selectionAt, hselect]
    rfl
  have hrun : selectionRun keepSelection excluded clock skew store (k + 1) = store' := by
    rw [selectionRun, hselect]
    rfl
  have hcount := selectionCount_succ hat
  -- the chosen account has the least count, which is at most the mean
  have hminimal : ∀ id ∈ ids,
      selectionCount keepSelection excluded clock skew store k selection.accountId ≤
        selectionCount keepSelection excluded clock skew store k id := by
    intro id hid
    obtain ⟨r, hr, -⟩ := h.pool.ready id hid
    have hle := (hleast id hid r hr).1
    rw [h.counts id hid r hr, h.counts _ hmem chosen hchosen] at hle
    omega
  have hmean := mul_card_le_sum hminimal
  rw [h.total] at hmean
  have hdiv := (Nat.le_div_iff_mul_le (Finset.card_pos.mpr hne)).mpr hmean
  refine ⟨hrun ▸ hpool, fun id hid r hr => ?_, ?_, h.balanced.bump hminimal fun id _ => hcount id⟩
  · rw [hrun, hrecords] at hr
    obtain ⟨old, hold, rfl⟩ := Option.map_eq_some_iff.mp hr
    have hbefore := h.counts id hid old hold
    rw [hcount]
    split
    next heq =>
      subst heq
      show saturatingSucc32 old.inFlightRequests = _
      rw [saturatingSucc32, hbefore]
      omega
    next => rw [(expireRecord_counts (clock k) old).1, hbefore]
  · have hsum : ∑ id ∈ ids, selectionCount keepSelection excluded clock skew store (k + 1) id =
        ∑ id ∈ ids, (selectionCount keepSelection excluded clock skew store k id +
          if id = selection.accountId then 1 else 0) := by
      refine Finset.sum_congr rfl fun id _ => ?_
      rw [hcount]
      split <;> rfl
    rw [hsum, Finset.sum_add_distrib, h.total, Finset.sum_ite_eq' ids, if_pos hmem]

theorem selected_of_room (hpool : AccountPool ids excluded clock steps skew store)
    (hcounts : ∀ id ∈ ids, ∀ r, store.record? id = some r → r.inFlightRequests = count)
    (hne : ids.Nonempty) (hk : k ≤ steps)
    (hroom : count + (k + ids.card - 1) / ids.card ≤ u32Max) :
    Selected ids excluded clock steps skew count store k := by
  have hcard := Finset.card_pos.mpr hne
  induction k with
  | zero =>
    exact ⟨hpool, hcounts, by simp [selectionCount], fun _ _ _ _ => Nat.zero_le _⟩
  | succ k ih =>
    have hround : (k + 1 + ids.card - 1) / ids.card = k / ids.card + 1 := by
      rw [← Nat.add_div_right _ hcard]
      congr 1
      omega
    have hle : (k + ids.card - 1) / ids.card ≤ (k + 1 + ids.card - 1) / ids.card :=
      Nat.div_le_div_right (by omega)
    exact (ih (by omega) (by omega)).step hne (by omega) (by omega)

/-- A released record is eligible when it was, and keeps its token and its selection time. -/
theorem releaseRecord_ready (now : Time) {r : AccountRecord} {now' : Time}
    (heligible : isEligible r now' = true) (skew : ℤ) :
    isEligible (releaseRecord now r) now' = true ∧
      tokenNeedsRefresh (releaseRecord now r) now' skew = tokenNeedsRefresh r now' skew ∧
      (releaseRecord now r).inFlightRequests = r.inFlightRequests - 1 ∧
      (releaseRecord now r).lastSelectedAt = r.lastSelectedAt ∧
      AccountStore.removable (releaseRecord now r) = false := by
  obtain ⟨hattached, hrefresh, hrouting, hblocked⟩ := isEligible_iff.mp heligible
  have hresting (r : AccountRecord) : restingState r ≠ .authInvalid := by
    unfold restingState
    split <;> simp
  have hleave : (leaveRequest r).detached = false := hattached
  simp only [releaseRecord]
  split
  · refine ⟨isEligible_iff.mpr ⟨hattached, rfl, hresting _, hblocked⟩, rfl, rfl, rfl, ?_⟩
    simp [AccountStore.removable, hleave]
  · refine ⟨isEligible_iff.mpr ⟨hattached, rfl, hrouting, hblocked⟩, rfl, rfl, rfl, ?_⟩
    simp [AccountStore.removable, hleave]

/-- The accounts have equal counts; who was selected lately was so at a reading no earlier, and
who was not, before. -/
structure Rotated (release : ℕ → Time) (ids excluded : Finset String) (clock : ℕ → Time)
    (steps : ℕ) (skew : ℤ) (count : ℕ) (store : AccountStore) (k : ℕ) : Prop where
  pool : AccountPool ids excluded clock steps skew
    (selectionRun (releaseSelected release) excluded clock skew store k)
  counts : ∀ id ∈ ids, ∀ r,
    (selectionRun (releaseSelected release) excluded clock skew store k).record? id = some r →
      r.inFlightRequests = count
  lately : ∀ id ∈ ids, ∀ r,
    (selectionRun (releaseSelected release) excluded clock skew store k).record? id = some r →
      ∀ i < k, selectionAt (releaseSelected release) excluded clock skew store i = some id →
        ∃ at', r.lastSelectedAt = some at' ∧ clock i ≤ at'
  before : ∀ id ∈ ids, ∀ r,
    (selectionRun (releaseSelected release) excluded clock skew store k).record? id = some r →
      ∀ i ≤ k, i < steps → (∀ j, i ≤ j → j < k →
        selectionAt (releaseSelected release) excluded clock skew store j ≠ some id) →
        ∀ at', r.lastSelectedAt = some at' → at' < clock i

theorem Rotated.step {release : ℕ → Time}
    (h : Rotated release ids excluded clock steps skew count store k)
    (hne : ids.Nonempty) (hk : k < steps) (hroom : count < u32Max)
    (hclock : ∀ i j, i < j → j < steps → clock i < clock j) :
    Rotated release ids excluded clock steps skew count store (k + 1) ∧
      ∃ id ∈ ids, selectionAt (releaseSelected release) excluded clock skew store k = some id := by
  obtain ⟨selection, store', chosen, hselect, hmem, hchosen, -, hpool, hrecords⟩ :=
    h.pool.select hne hk
  have hat : selectionAt (releaseSelected release) excluded clock skew store k =
      some selection.accountId := by
    rw [selectionAt, hselect]
    rfl
  have hrun : selectionRun (releaseSelected release) excluded clock skew store (k + 1) =
      store'.releaseSelection (release k) selection.accountId := by
    rw [selectionRun, hselect]
    rfl
  -- what the selection and its release do to the records
  have hreleased (id : String) :
      (store'.releaseSelection (release k) selection.accountId).record? id =
        (store'.record? id).map fun r =>
          if id = selection.accountId then releaseRecord (release k) r else r := by
    rw [AccountStore.releaseSelection, AccountStore.record?_update]
    split
    next heq =>
      obtain ⟨r, hr, -, hready⟩ := hpool.ready _ hmem
      have hkept := (releaseRecord_ready (release k) (hready k hk).1 skew).2.2.2.2
      rw [heq, hr]
      simp [hkept, Option.filter]
    next => simp
  have hcases {id : String} (hid : id ∈ ids) {r' : AccountRecord}
      (hr' : (selectionRun (releaseSelected release) excluded clock skew store (k + 1)).record? id =
        some r') : ∃ r,
          (selectionRun (releaseSelected release) excluded clock skew store k).record? id =
          some r ∧ r'.inFlightRequests = count ∧
          r'.lastSelectedAt = if id = selection.accountId then some (clock k)
            else r.lastSelectedAt := by
    rw [hrun, hreleased] at hr'
    obtain ⟨s, hs, rfl⟩ := Option.map_eq_some_iff.mp hr'
    obtain ⟨s', hs', -, hready⟩ := hpool.ready id hid
    obtain rfl := Option.some.inj (hs.symm.trans hs')
    rw [hrecords] at hs
    obtain ⟨r, hr, rfl⟩ := Option.map_eq_some_iff.mp hs
    have hcount := h.counts id hid r hr
    refine ⟨r, hr, ?_⟩
    split
    next heq =>
      simp only [if_pos heq] at hready ⊢
      obtain ⟨-, -, hleft, hlast, -⟩ := releaseRecord_ready (release k) (hready k hk).1 skew
      rw [hleft, hlast]
      refine ⟨?_, rfl⟩
      show saturatingSucc32 r.inFlightRequests - 1 = count
      rw [hcount, saturatingSucc32]
      omega
    next heq =>
      rw [(expireRecord_counts (clock k) r).1, (expireRecord_counts (clock k) r).2]
      exact ⟨hcount, rfl⟩
  refine ⟨⟨?_, fun id hid r' hr' => ?_, fun id hid r' hr' i hi hsel => ?_,
    fun id hid r' hr' i hi histeps hnot at' hlast => ?_⟩, _, hmem, hat⟩
  · rw [hrun]
    refine hpool.frame hreleased (fun id _ r _ j _ heligible hneeds => ?_)
      fun id hid r _ hnever j hj => ?_
    · obtain ⟨hready, htoken, -⟩ := releaseRecord_ready (release k) heligible skew
      split
      · exact ⟨hready, htoken.trans hneeds⟩
      · exact ⟨heligible, hneeds⟩
    · rw [if_neg fun heq : id = selection.accountId => hid (heq ▸ hmem)]
      exact hnever j hj
  · obtain ⟨r, -, hcount, -⟩ := hcases hid hr'
    exact hcount
  · obtain ⟨r, hr, -, hlast⟩ := hcases hid hr'
    rw [hlast]
    split
    next =>
      refine ⟨clock k, rfl, ?_⟩
      rcases Nat.lt_succ_iff_lt_or_eq.mp hi with hlt | rfl
      · exact (hclock i k hlt hk).le
      · exact le_rfl
    next hne =>
      have hik : i ≠ k := by
        rintro rfl
        exact hne (Option.some.inj (hsel.symm.trans hat))
      exact h.lately id hid r hr i (by omega) hsel
  · obtain ⟨r, hr, -, hat'⟩ := hcases hid hr'
    rw [hat'] at hlast
    split at hlast
    next heq =>
      obtain rfl := Option.some.inj hlast
      have hik : i = k + 1 := by
        by_contra hne
        exact hnot k (by omega) (Nat.lt_succ_self k) (heq ▸ hat)
      subst hik
      exact hclock k (k + 1) (Nat.lt_succ_self k) histeps
    next =>
      by_cases hik : i ≤ k
      · exact h.before id hid r hr i hik histeps (fun j hij hjk => hnot j hij (by omega)) at' hlast
      · have hlt := h.before id hid r hr k le_rfl hk (fun j hkj hjk => absurd hjk (by omega))
          at' hlast
        exact hlt.trans (hclock k i (by omega) histeps)

/-- Within a window as long as there are accounts no account is selected twice. -/
theorem Rotated.distinct {release : ℕ → Time}
    (h : ∀ k ≤ steps, Rotated release ids excluded clock steps skew count store k)
    (hne : ids.Nonempty) {i j : ℕ} (hij : i < j) (hj : j < steps) (hwindow : j < i + ids.card) :
    selectionAt (releaseSelected release) excluded clock skew store i ≠
      selectionAt (releaseSelected release) excluded clock skew store j := by
  intro hsame
  obtain ⟨selection, store', chosen, hselect, hmem, hchosen, hleast, -⟩ :=
    (h j hj.le).pool.select hne hj
  have hat : selectionAt (releaseSelected release) excluded clock skew store j =
      some selection.accountId := by
    rw [selectionAt, hselect]
    rfl
  -- some account was not selected since
  obtain ⟨id, hid, hout⟩ : ∃ id ∈ ids, ∀ l, i ≤ l → l < j →
      selectionAt (releaseSelected release) excluded clock skew store l ≠ some id := by
    by_contra hall
    push Not at hall
    have hsubset : ids.map ⟨some, Option.some_injective _⟩ ⊆
        (Finset.Ico i j).image
          (selectionAt (releaseSelected release) excluded clock skew store) := by
      intro id? hid?
      obtain ⟨id, hid, rfl⟩ := Finset.mem_map.mp hid?
      obtain ⟨l, hil, hlj, hl⟩ := hall id hid
      exact Finset.mem_image.mpr ⟨l, Finset.mem_Ico.mpr ⟨hil, hlj⟩, hl⟩
    have hcard := (Finset.card_le_card hsubset).trans Finset.card_image_le
    rw [Finset.card_map, Nat.card_Ico] at hcard
    omega
  obtain ⟨r, hr, -⟩ := (h j hj.le).pool.ready id hid
  obtain ⟨at', hlast, hle⟩ := (h j hj.le).lately _ hmem chosen hchosen i hij (hsame.trans hat)
  have hequal := (hleast id hid r hr).2
    (((h j hj.le).counts _ hmem chosen hchosen).trans ((h j hj.le).counts id hid r hr).symm)
  obtain ⟨at'', hlast', hle'⟩ := hequal at' hlast
  have hlt :=
    (h j hj.le).before id hid r hr i hij.le (by omega) (fun l hil hlj => hout l hil hlj) at'' hlast'
  exact absurd (hle.trans hle') (not_le.mpr hlt)

theorem rotated_of_increasing {release : ℕ → Time}
    (hpool : AccountPool ids excluded clock steps skew store)
    (hcounts : ∀ id ∈ ids, ∀ r, store.record? id = some r → r.inFlightRequests = count)
    (hne : ids.Nonempty) (hroom : count < u32Max)
    (hclock : ∀ i j, i < j → j < steps → clock i < clock j)
    (hpast : ∀ id ∈ ids, ∀ r, store.record? id = some r →
      ∀ at', r.lastSelectedAt = some at' → at' < clock 0) (hk : k ≤ steps) :
    Rotated release ids excluded clock steps skew count store k := by
  induction k with
  | zero =>
    refine ⟨hpool, hcounts, fun _ _ _ _ i hi => absurd hi (Nat.not_lt_zero i),
      fun id hid r hr i hi _ _ => ?_⟩
    obtain rfl := Nat.le_zero.mp hi
    exact hpast id hid r hr
  | succ k ih => exact ((ih (by omega)).step hne (by omega) hroom hclock).1

/-- From equal counts: without settlements each account is selected as often as the mean, rounded
down or up, as long as no count saturates. If each selection is released before the next, the
clock is strictly increasing and all earlier selections were before it, consecutive selections,
one for each account, return each of them once. -/
theorem leastInFlight_balances (hpool : AccountPool ids excluded clock steps skew store)
    (hcounts : ∀ id ∈ ids, ∀ r, store.record? id = some r → r.inFlightRequests = count) :
    (∀ k ≤ steps, count + (k + ids.card - 1) / ids.card ≤ u32Max → ∀ id ∈ ids,
      selectionCount keepSelection excluded clock skew store k id = k / ids.card ∨
      selectionCount keepSelection excluded clock skew store k id =
        (k + ids.card - 1) / ids.card) ∧
    (count < u32Max → (∀ i j, i < j → j < steps → clock i < clock j) →
      (∀ id ∈ ids, ∀ r, store.record? id = some r →
        ∀ at', r.lastSelectedAt = some at' → at' < clock 0) →
      ∀ (release : ℕ → Time) (start : ℕ), start + ids.card ≤ steps →
        ∃ accounts : List String,
          (List.range' start ids.card).map
              (selectionAt (releaseSelected release) excluded clock skew store) =
            accounts.map some ∧ accounts.Nodup ∧ ∀ id ∈ accounts, id ∈ ids) := by
  refine ⟨fun k hk hroom id hid => ?_, fun hroom hclock hpast release start hsteps => ?_⟩
  · have hselected := selected_of_room hpool hcounts ⟨id, hid⟩ hk hroom
    have hdiv := hselected.balanced.eq_div hid
    rwa [hselected.total] at hdiv
  · rcases ids.eq_empty_or_nonempty with rfl | hne
    · exact ⟨[], rfl, List.nodup_nil, by simp⟩
    have hrotated (k : ℕ) (hk : k ≤ steps) :
        Rotated release ids excluded clock steps skew count store k :=
      rotated_of_increasing hpool hcounts hne hroom hclock hpast hk
    have hchosen (k : ℕ) (hk : k < steps) : ∃ id ∈ ids,
        selectionAt (releaseSelected release) excluded clock skew store k = some id :=
      ((hrotated k hk.le).step hne hk hroom hclock).2
    choose! chosen hmem hat using hchosen
    have hwindow {k : ℕ} (hk : k ∈ List.range' start ids.card) : k < steps := by
      obtain ⟨k', hk', rfl⟩ := List.mem_range'.mp hk
      omega
    refine ⟨(List.range' start ids.card).map chosen, ?_, ?_, fun id hid => ?_⟩
    · rw [List.map_map]
      exact List.map_congr_left fun k hk => hat k (hwindow hk)
    · rw [List.nodup_map_iff_inj_on List.nodup_range']
      intro i hi j hj hsame
      have hidx := hwindow hi
      have hjdx := hwindow hj
      obtain ⟨i', hi', rfl⟩ := List.mem_range'.mp hi
      obtain ⟨j', hj', rfl⟩ := List.mem_range'.mp hj
      by_contra hne'
      rcases Nat.lt_or_gt_of_ne hne' with hlt | hgt
      · exact Rotated.distinct hrotated hne hlt hjdx (by omega)
          (by rw [hat _ hidx, hat _ hjdx, hsame])
      · exact Rotated.distinct hrotated hne hgt hidx (by omega)
          (by rw [hat _ hidx, hat _ hjdx, hsame])
    · obtain ⟨k, hk, rfl⟩ := List.mem_map.mp hid
      exact hmem k (hwindow hk)

end Run

theorem leastInFlight_balances_twoAccounts :
    let store := stateAfter storeStep .new AccountStore.twoAccounts
    (selectionCount keepSelection ∅ (fun k => (k : Time)) 0 store 3 "a" = 3 / 2 ∨
      selectionCount keepSelection ∅ (fun k => (k : Time)) 0 store 3 "a" = (3 + 2 - 1) / 2) ∧
    ∃ accounts : List String,
      (List.range' 1 2).map (selectionAt (releaseSelected fun k => k) ∅ (fun k => (k : Time)) 0
        store) = accounts.map some ∧ accounts.Nodup ∧ ∀ id ∈ accounts,
          id ∈ ({"a", "b"} : Finset _) := by
  intro store
  have hstore : store = stateAfter storeStep .new AccountStore.twoAccounts := rfl
  clear_value store
  have hvalues : (∀ id ∈ ({"a", "b"} : Finset String), (store.record? id).isSome = true) ∧
      ∀ r ∈ store.records.values, r.id ∈ ({"a", "b"} : Finset String) ∧
        r.inFlightRequests = 0 ∧ r.lastSelectedAt = none ∧
        ∀ k : ℕ, k < 4 →
          isEligible r (k : Time) = true ∧ tokenNeedsRefresh r (k : Time) 0 = false := by
    rw [hstore]
    decide +kernel
  have hpool : AccountPool {"a", "b"} ∅ (fun k => (k : Time)) 4 0 store :=
    .of_values hvalues.1 (by simp) fun r hr => ⟨(hvalues.2 r hr).1, (hvalues.2 r hr).2.2.2⟩
  have hbalances := leastInFlight_balances hpool fun id _ r hr =>
    (hvalues.2 r (AccountStore.mem_values_of_record? hr)).2.1
  refine ⟨hbalances.1 3 (by decide) (by decide) "a" (by decide),
    hbalances.2 (by decide) (fun i j hij _ => Int.ofNat_lt.mpr hij)
      (fun id _ r hr at' hlast => ?_) _ 1 (by decide)⟩
  rw [(hvalues.2 r (AccountStore.mem_values_of_record? hr)).2.2.1] at hlast
  cases hlast

/-- With saturated counts and a clock that stands still, one account is selected three times in
four. With an earlier selection at the first reading, one account is selected twice in a row. -/
theorem leastInFlight_unbalanced :
    (∃ (store : AccountStore) (clock : ℕ → Time), AccountPool {"a", "b"} ∅ clock 4 0 store ∧
      (∀ r ∈ store.records.values, r.inFlightRequests = u32Max ∧ r.lastSelectedAt = none) ∧
      selectionCount keepSelection ∅ clock 0 store 4 "a" = 3) ∧
    ∃ (store : AccountStore) (clock : ℕ → Time), AccountPool {"a", "b"} ∅ clock 4 0 store ∧
      (∀ i j, i < j → clock i < clock j) ∧
      (∀ r ∈ store.records.values, r.inFlightRequests = 0 ∧
        ∀ at' ∈ r.lastSelectedAt, at' ≤ clock 0) ∧
      selectionAt (releaseSelected clock) ∅ clock 0 store 0 =
        selectionAt (releaseSelected clock) ∅ clock 0 store 1 := by
  let accounts := stateAfter storeStep .new AccountStore.twoAccounts
  refine ⟨⟨accounts.modifyAll (fun r => { r with inFlightRequests := u32Max }) fun _ => rfl,
      fun _ => 0, .of_values ?_ (by simp) ?_, ?_, ?_⟩,
    ⟨accounts.modify "b" (fun r => { r with lastSelectedAt := some 0 }) fun _ => rfl,
      fun k => k, .of_values ?_ (by simp) ?_, fun i j hij => Int.ofNat_lt.mpr hij, ?_, ?_⟩⟩
    <;> decide +kernel

end Codaze.Accounts
