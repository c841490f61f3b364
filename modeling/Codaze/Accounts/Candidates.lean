import Codaze.Accounts.Operations
import Mathlib.Data.Finset.Sort

/-!
# The candidates of a selection

A selection sees the eligible ids in their order, whatever the order of the hash map. Sweeping
expired blocks makes no record ineligible, and a selection that needs no refresh leaves the
chosen record eligible.
-/
namespace Codaze.Accounts
open Foundation

/-- Sweeping at one instant makes a record eligible at another if it is eligible at either. -/
theorem isEligible_expireRecord {now now' : Time} {r : AccountRecord} :
    isEligible (expireRecord now r) now' = true ↔
      isEligible r now = true ∨ isEligible r now' = true := by
  have hwarm (r : AccountRecord) : isEligible
      (if r.routingState = .cold ∧ r.accessToken.isSome then { r with routingState := .ready }
        else r) now' = isEligible r now' := by
    split
    next hcold => simp [isEligible, hcold.1]
    next => rfl
  have hcold (r : AccountRecord) : restingState r ≠ .authInvalid := by
    unfold restingState
    split <;> simp
  rw [expireRecord, hwarm]
  cases hdeadline : r.blockedUntil with
  | none => simp [isEligible, hdeadline]
  | some deadline =>
    by_cases hexpired : deadline ≤ now
    · by_cases hrefresh : r.refreshInFlight = false <;>
        by_cases hinvalid : r.routingState = .authInvalid <;>
          simp [isEligible, clearBlock, applyBlockTransition, hdeadline, hexpired, hrefresh,
            hinvalid, hcold]
      exact fun hdetached _ => hdetached
    · simp [isEligible, hdeadline, hexpired]

theorem tokenNeedsRefresh_expireRecord (now now' : Time) (skew : ℤ) (r : AccountRecord) :
    tokenNeedsRefresh (expireRecord now r) now' skew = tokenNeedsRefresh r now' skew := by
  simp only [expireRecord]
  split_ifs <;> rfl

theorem expireRecord_counts (now : Time) (r : AccountRecord) :
    (expireRecord now r).inFlightRequests = r.inFlightRequests ∧
      (expireRecord now r).lastSelectedAt = r.lastSelectedAt := by
  simp only [expireRecord]
  split_ifs <;> exact ⟨rfl, rfl⟩

/-- A selection with a fresh token only counts. -/
theorem selectRecord_fresh {now : Time} {skew : ℤ} {r : AccountRecord}
    (hfresh : tokenNeedsRefresh r now skew = false) :
    selectRecord now skew r = { r with
      inFlightRequests := saturatingSucc32 r.inFlightRequests, lastSelectedAt := some now } := by
  have hsame : tokenNeedsRefresh { r with
      inFlightRequests := saturatingSucc32 r.inFlightRequests, lastSelectedAt := some now }
      now skew = tokenNeedsRefresh r now skew := rfl
  rw [selectRecord]
  simp only [hsame, hfresh, Bool.false_eq_true, if_false]

/-- `min_by` finds an element that no other one is below. -/
theorem minBy_least {α : Type*} {cmp : α → α → Ordering} [Std.TransCmp cmp] {as : List α} {a : α}
    (h : minBy cmp as = some a) : ∀ b ∈ as, (cmp a b).isLE = true := by
  cases as with
  | nil => cases h
  | cons b bs =>
    obtain rfl := Option.some.inj h
    clear h
    induction bs generalizing b with
    | nil =>
      intro c hc
      obtain rfl : c = b := by simpa using hc
      simp [Std.ReflCmp.compare_self]
    | cons c bs ih =>
      intro d hd
      rw [List.foldl_cons]
      have hbest := ih (if cmp b c = .gt then c else b)
      have hhead := hbest _ List.mem_cons_self
      rcases List.mem_cons.mp hd with rfl | hd
      · refine Std.TransCmp.isLE_trans hhead ?_
        split
        next hgt => exact Ordering.isLE_of_eq_lt (Std.OrientedCmp.lt_of_gt hgt)
        next => simp [Std.ReflCmp.compare_self]
      · rcases List.mem_cons.mp hd with rfl | hd
        · refine Std.TransCmp.isLE_trans hhead ?_
          split
          next => simp [Std.ReflCmp.compare_self]
          next hle => simpa [Ordering.isLE_iff_ne_gt] using hle
        · exact hbest d (List.mem_cons_of_mem _ hd)

instance : Std.TransCmp compareInFlight :=
  inferInstanceAs (Std.TransCmp (compareLex (compareOn RouteCandidate.inFlightRequests)
    (compareLex (compareOn RouteCandidate.lastSelectedAt) (compareOn RouteCandidate.accountId))))

/-- Whoever comes first in the order has the fewest requests, and among those was selected
longest ago. -/
theorem compareInFlight_isLE {left right : RouteCandidate}
    (h : (compareInFlight left right).isLE = true) :
    left.inFlightRequests ≤ right.inFlightRequests ∧
      (left.inFlightRequests = right.inFlightRequests →
        ∀ at', left.lastSelectedAt = some at' →
          ∃ at'', right.lastSelectedAt = some at'' ∧ at' ≤ at'') := by
  rw [compareInFlight] at h
  rcases Nat.lt_trichotomy left.inFlightRequests right.inFlightRequests with hlt | heq | hgt
  · exact ⟨hlt.le, fun heq => absurd heq hlt.ne⟩
  · refine ⟨heq.le, fun _ at' hat => ?_⟩
    have hsame : compare left.inFlightRequests right.inFlightRequests = .eq :=
      Nat.compare_eq_eq.mpr heq
    rw [hsame, Ordering.then, hat] at h
    cases hright : right.lastSelectedAt with
    | none =>
      rw [hright] at h
      cases h
    | some at'' =>
      refine ⟨at'', rfl, ?_⟩
      rw [hright] at h
      by_contra hgt
      have hcompare : compare (some at') (some at'') = .gt :=
        compare_gt_iff_gt.mpr (not_le.mp hgt)
      simp [hcompare] at h
  · rw [Nat.compare_eq_gt.mpr hgt] at h
    cases h

namespace AccountStore

/-- The ids of the records a selection may choose. -/
def eligibleIds (store : AccountStore) (now : Time) (excluded : Finset String) : Finset String :=
  ((store.records.values.filter fun record =>
    isEligible record now && decide (record.id ∉ excluded)).map (·.id)).toFinset

theorem mem_eligibleIds {store : AccountStore} {now : Time} {excluded : Finset String}
    {id : String} : id ∈ store.eligibleIds now excluded ↔
      ∃ record, store.record? id = some record ∧ isEligible record now = true ∧ id ∉ excluded := by
  rw [eligibleIds, List.mem_toFinset, List.mem_map]
  constructor
  · rintro ⟨record, hmem, rfl⟩
    rw [List.mem_filter, Bool.and_eq_true, decide_eq_true_eq] at hmem
    obtain ⟨hvalue, heligible, hexcluded⟩ := hmem
    obtain ⟨id, hid⟩ := HashMap.mem_values.mp hvalue
    obtain rfl := store.keyed id record hid
    exact ⟨record, hid, heligible, hexcluded⟩
  · rintro ⟨record, hrecord, heligible, hexcluded⟩
    have hid := store.keyed id record hrecord
    refine ⟨record, ?_, hid⟩
    rw [List.mem_filter, Bool.and_eq_true, decide_eq_true_eq, hid]
    exact ⟨HashMap.mem_values.mpr ⟨id, hrecord⟩, heligible, hexcluded⟩

/-- The sweep of a selection changes nothing about who is eligible. -/
theorem eligibleIds_refreshExpiredBlocks (store : AccountStore) (now : Time)
    (excluded : Finset String) :
    (store.refreshExpiredBlocks now).eligibleIds now excluded = store.eligibleIds now excluded := by
  ext id
  simp only [mem_eligibleIds, refreshExpiredBlocks, record?_modifyAll, Option.map_eq_some_iff]
  constructor
  · rintro ⟨_, ⟨record, hrecord, rfl⟩, heligible, hexcluded⟩
    exact ⟨record, hrecord, by simpa [isEligible_expireRecord] using heligible, hexcluded⟩
  · rintro ⟨record, hrecord, heligible, hexcluded⟩
    exact ⟨_, ⟨record, hrecord, rfl⟩, by simpa [isEligible_expireRecord] using heligible, hexcluded⟩

theorem nodup_values (store : AccountStore) : (store.records.values.map (·.id)).Nodup := by
  have hkeys : store.records.values.map (·.id) = store.records.keys := by
    rw [HashMap.values, AList.keys, List.keys, List.map_map]
    refine List.map_congr_left fun entry hentry => ?_
    exact store.keyed entry.1 entry.2 (AList.mem_lookup_iff.mpr hentry)
  rw [hkeys]
  exact store.records.keys_nodup

/-- The candidates are the eligible ids in order, whatever the order of the hash map. -/
theorem map_accountId_buildRouteCandidates (store : AccountStore) (now : Time)
    (excluded : Finset String) :
    (store.buildRouteCandidates now excluded).map (·.accountId) =
      (store.eligibleIds now excluded).sort := by
  have hids (records : List AccountRecord) : (records.map fun record =>
      ({ accountId := record.id, inFlightRequests := record.inFlightRequests,
         lastSelectedAt := record.lastSelectedAt } : RouteCandidate)).map (·.accountId) =
        records.map (·.id) := by
    rw [List.map_map]
    rfl
  have hnodup : ((store.records.values.filter fun record =>
      isEligible record now && decide (record.id ∉ excluded)).map (·.id)).Nodup :=
    store.nodup_values.sublist (List.filter_sublist.map _)
  have hperm := (List.perm_insertionSort (fun left right : RouteCandidate =>
    left.accountId ≤ right.accountId) ((store.records.values.filter fun record =>
      isEligible record now && decide (record.id ∉ excluded)).map fun record =>
    ({ accountId := record.id, inFlightRequests := record.inFlightRequests,
       lastSelectedAt := record.lastSelectedAt } : RouteCandidate))).map (·.accountId)
  rw [hids] at hperm
  refine ((List.toFinset_sort (· ≤ ·) (hperm.nodup_iff.mpr hnodup)).mpr ?_).symm.trans ?_
  · rw [List.pairwise_map]
    exact List.pairwise_insertionSort _ _
  · rw [eligibleIds, List.toFinset_eq_of_perm _ _ hperm]

theorem length_buildRouteCandidates (store : AccountStore) (now : Time)
    (excluded : Finset String) :
    (store.buildRouteCandidates now excluded).length =
      (store.eligibleIds now excluded).card := by
  rw [← Finset.length_sort (· ≤ ·), ← map_accountId_buildRouteCandidates, List.length_map]

/-- The id a selection comes back with. -/
def selectedId? (result : Except SelectionFailure AccountSelection) : Option String :=
  result.toOption.map (·.accountId)

/-- The router's choice among the candidates of the swept store is what the selection returns,
with the router's cursor. -/
theorem selectAccount_spec (store : AccountStore) (now : Time) (policy : RoutingPolicy)
    (skew : ℤ) (excluded : Finset String) :
    let choice := selectCandidate policy
      ((store.refreshExpiredBlocks now).buildRouteCandidates now excluded) store.roundRobinCursor
    selectedId? (store.selectAccount now policy skew excluded).1 = choice.1 ∧
      (store.selectAccount now policy skew excluded).2.roundRobinCursor = choice.2 := by
  intro choice
  have hempty (hnone : choice.1 = none) : choice.2 = store.roundRobinCursor := by
    by_cases hcandidates :
        ((store.refreshExpiredBlocks now).buildRouteCandidates now excluded).isEmpty
    · simp [choice, selectCandidate, hcandidates]
    · cases policy with
      | roundRobin =>
        simp only [choice, selectCandidate, if_neg hcandidates, Option.map_eq_none_iff,
          List.getElem?_eq_none_iff] at hnone
        rw [List.isEmpty_iff_length_eq_zero] at hcandidates
        exact absurd hnone (not_le.mpr (Nat.mod_lt _ (Nat.pos_of_ne_zero hcandidates)))
      | leastInFlight | fillFirst => simp only [choice, selectCandidate, if_neg hcandidates]
  have hpair : selectCandidate policy
      ((store.refreshExpiredBlocks now).buildRouteCandidates now excluded)
        (store.refreshExpiredBlocks now).roundRobinCursor = choice := rfl
  rcases hchoice : choice with ⟨_ | accountId, cursor⟩
  · have hcursor := hempty (by rw [hchoice])
    rw [hchoice] at hcursor hpair
    simp only [selectAccount, hpair]
    exact ⟨rfl, hcursor.symm⟩
  · rw [hchoice] at hpair
    obtain ⟨candidate, hmem, rfl⟩ := selectCandidate_mem (congrArg Prod.fst hpair)
    obtain ⟨record, hrecord, -⟩ := mem_buildRouteCandidates hmem
    simp only [selectAccount, hpair, record?_setCursor, hrecord]
    exact ⟨rfl, rfl⟩

/-- What a selection with a fresh token does to the records. -/
theorem record?_selectAccount {store store' : AccountStore} {now : Time} {policy : RoutingPolicy}
    {skew : ℤ} {excluded : Finset String} {selection : AccountSelection}
    (h : store.selectAccount now policy skew excluded = (.ok selection, store'))
    (hfresh : ∀ r, store.record? selection.accountId = some r →
      tokenNeedsRefresh r now skew = false) (id : String) :
    store'.record? id = (store.record? id).map fun r =>
      if id = selection.accountId then { expireRecord now r with
        inFlightRequests := saturatingSucc32 r.inFlightRequests, lastSelectedAt := some now }
      else expireRecord now r := by
  obtain ⟨-, -, -, -, -, -, hstore⟩ := selectAccount_ok h
  rw [hstore id]
  cases hr : store.record? id with
  | none => rfl
  | some r =>
    simp only [Option.map_some, Option.some.injEq]
    split
    next hid =>
      subst hid
      have hswept : tokenNeedsRefresh (expireRecord now r) now skew = false :=
        (tokenNeedsRefresh_expireRecord now now skew r).trans (hfresh r hr)
      rw [selectRecord_fresh hswept, (expireRecord_counts now r).1]
    next => rfl

/-- After a selection with a fresh token, a record is eligible at an instant if it was, then or
when the selection swept the blocks. -/
theorem mem_eligibleIds_selectAccount {store store' : AccountStore} {now now' : Time}
    {policy : RoutingPolicy} {skew : ℤ} {excluded excluded' : Finset String}
    {selection : AccountSelection}
    (h : store.selectAccount now policy skew excluded = (.ok selection, store'))
    (hfresh : ∀ r, store.record? selection.accountId = some r →
      tokenNeedsRefresh r now skew = false) {id : String} :
    id ∈ store'.eligibleIds now' excluded' ↔ id ∉ excluded' ∧ ∃ r, store.record? id = some r ∧
      (isEligible r now = true ∨ isEligible r now' = true) := by
  rw [mem_eligibleIds]
  simp only [record?_selectAccount h hfresh, Option.map_eq_some_iff]
  constructor
  · rintro ⟨_, ⟨r, hr, rfl⟩, heligible, hexcluded⟩
    refine ⟨hexcluded, r, hr, isEligible_expireRecord.mp ?_⟩
    split at heligible <;> exact heligible
  · rintro ⟨hexcluded, r, hr, heligible⟩
    refine ⟨_, ⟨r, hr, rfl⟩, ?_, hexcluded⟩
    split <;> exact isEligible_expireRecord.mpr heligible

theorem mem_values_of_record? {id : String} {r : AccountRecord} {store : AccountStore}
    (h : store.record? id = some r) : r ∈ store.records.values := HashMap.mem_values.mpr ⟨id, h⟩

/-- Two accounts whose access tokens expire after a minute. -/
def twoAccounts : List (Time × StoreOp) :=
  ["a", "b"].flatMap fun id =>
    [(0, .applyImport ⟨id, false, .insert id ⟨id⟩ ⟨"rt_" ++ id, none, none⟩, none⟩),
      (0, .refreshSuccess id ⟨"at_" ++ id, none, none, none, none, some (fromSecs 60)⟩)]

end AccountStore

end Codaze.Accounts
