import Codaze.Accounts.Lifecycle
import Mathlib.Data.Finset.Insert
import Mathlib.Data.List.Sort

/-!
# Routing and selection

`select_account` sweeps expired blocks, sorts the eligible records by id and lets
the routing policy choose one of them.
-/
namespace Codaze.Accounts
open Foundation

inductive RoutingPolicy where
  | roundRobin | leastInFlight | fillFirst
  deriving DecidableEq, Repr

structure RouteCandidate where
  accountId : String
  inFlightRequests : ℕ
  lastSelectedAt : Option Time
  deriving DecidableEq, Repr

/-- `Iterator::min_by`: the first of the least elements. -/
def minBy {α : Type*} (cmp : α → α → Ordering) : List α → Option α
  | [] => none
  | a :: as => some (as.foldl (fun best x => if cmp best x = .gt then x else best) a)

theorem minBy_mem {α : Type*} {cmp : α → α → Ordering} {as : List α} {a : α}
    (h : minBy cmp as = some a) : a ∈ as := by
  cases as with
  | nil => cases h
  | cons b bs =>
    obtain rfl := Option.some.inj h
    clear h
    induction bs generalizing b with
    | nil => simp
    | cons c bs ih =>
      rw [List.foldl_cons]
      split
      · exact List.mem_cons_of_mem b (ih c)
      · rcases List.mem_cons.mp (ih b) with hb | hmem
        · simp [hb]
        · exact List.mem_cons_of_mem b (List.mem_cons_of_mem c hmem)

/-- `Iterator::max_by`: the last of the greatest elements. -/
def maxBy {α : Type*} (cmp : α → α → Ordering) (as : List α) : Option α :=
  minBy (fun left right => if cmp left right = .gt then .lt else .gt) as

def compareInFlight (left right : RouteCandidate) : Ordering :=
  (compare left.inFlightRequests right.inFlightRequests).then <|
    (compare left.lastSelectedAt right.lastSelectedAt).then
      (compare left.accountId right.accountId)

/-- The chosen account and the advanced cursor. -/
def selectCandidate (policy : RoutingPolicy) (candidates : List RouteCandidate)
    (roundRobinCursor : ℕ) : Option String × ℕ :=
  if candidates.isEmpty then (none, roundRobinCursor)
  else match policy with
    | .roundRobin =>
      (candidates[roundRobinCursor % candidates.length]?.map (·.accountId),
        saturatingSucc64 roundRobinCursor)
    | .leastInFlight => ((minBy compareInFlight candidates).map (·.accountId), roundRobinCursor)
    | .fillFirst =>
      ((minBy (fun left right => compare left.accountId right.accountId) candidates).map
        (·.accountId), roundRobinCursor)

/-- Whatever the policy, the chosen id belongs to a candidate. -/
theorem selectCandidate_mem {policy : RoutingPolicy} {candidates : List RouteCandidate}
    {cursor : ℕ} {id : String} (h : (selectCandidate policy candidates cursor).1 = some id) :
    ∃ candidate ∈ candidates, candidate.accountId = id := by
  unfold selectCandidate at h
  split at h
  · cases h
  · cases policy with
    | roundRobin =>
      obtain ⟨candidate, hget, hid⟩ := Option.map_eq_some_iff.mp h
      exact ⟨candidate, List.mem_of_getElem? hget, hid⟩
    | leastInFlight =>
      obtain ⟨candidate, hmin, hid⟩ := Option.map_eq_some_iff.mp h
      exact ⟨candidate, minBy_mem hmin, hid⟩
    | fillFirst =>
      obtain ⟨candidate, hmin, hid⟩ := Option.map_eq_some_iff.mp h
      exact ⟨candidate, minBy_mem hmin, hid⟩

inductive SelectionFailure where
  | noEligibleAccount
  | internal
  deriving DecidableEq, Repr

def tokenNeedsRefresh (record : AccountRecord) (now : Time) (refreshSkewSeconds : ℤ) : Bool :=
  match record.accessTokenExpiresAt with
  | none => true
  | some expiresAt =>
    record.accessToken.isNone || decide (expiresAt ≤ now + deltaSeconds refreshSkewSeconds)

def isEligible (record : AccountRecord) (now : Time) : Bool :=
  !record.detached && !record.refreshInFlight && decide (record.routingState ≠ .authInvalid) &&
    record.blockedUntil.all fun deadline => decide (deadline ≤ now)

theorem isEligible_iff {record : AccountRecord} {now : Time} : isEligible record now = true ↔
    record.detached = false ∧ record.refreshInFlight = false ∧
      record.routingState ≠ .authInvalid ∧
      ∀ deadline, record.blockedUntil = some deadline → deadline ≤ now := by
  cases h : record.blockedUntil <;> simp [isEligible, h, and_assoc]

/-- What a selection writes into the chosen record. -/
def selectRecord (now : Time) (refreshSkewSeconds : ℤ) (record : AccountRecord) :
    AccountRecord :=
  let record := { record with
    inFlightRequests := saturatingSucc32 record.inFlightRequests, lastSelectedAt := some now }
  if tokenNeedsRefresh record now refreshSkewSeconds then
    { record with routingState := .warming, refreshInFlight := true }
  else record

theorem selectRecord_same (now : Time) (skew : ℤ) (r : AccountRecord) :
    SameAccount r (selectRecord now skew r) := by
  simp only [selectRecord]
  split <;> constructor <;> rfl

/-- Why no account of a pool can be selected. -/
structure PoolBlockSummary where
  blockedReason : BlockedReason
  blockedUntil : Option Time
  retryAfter : Option StdDuration
  deriving DecidableEq, Repr

def blockedReasonRank : BlockedReason → ℕ
  | .quotaExhausted => 0
  | .rateLimited => 1
  | .riskControlled => 2
  | .temporarilyUnavailable => 3
  | .authInvalid => 4

def compareBlockPriority (left right : BlockedReason × Option Time) : Ordering :=
  let rank := compare (blockedReasonRank left.1) (blockedReasonRank right.1)
  match left.2, right.2 with
  | some leftUntil, some rightUntil => (compare leftUntil rightUntil).then rank
  | some _, none => .lt
  | none, some _ => .gt
  | none, none => rank

namespace AccountStore

def buildRouteCandidates (store : AccountStore) (now : Time) (excluded : Finset String) :
    List RouteCandidate :=
  ((store.records.values.filter fun record =>
      isEligible record now && decide (record.id ∉ excluded)).map fun record =>
    { accountId := record.id, inFlightRequests := record.inFlightRequests,
      lastSelectedAt := record.lastSelectedAt : RouteCandidate }).insertionSort
    fun left right => left.accountId ≤ right.accountId

theorem mem_buildRouteCandidates {store : AccountStore} {now : Time} {excluded : Finset String}
    {candidate : RouteCandidate} (h : candidate ∈ store.buildRouteCandidates now excluded) :
    ∃ record, store.record? candidate.accountId = some record ∧
      isEligible record now = true ∧ candidate.accountId ∉ excluded := by
  rw [buildRouteCandidates, List.mem_insertionSort, List.mem_map] at h
  obtain ⟨record, hmem, rfl⟩ := h
  rw [List.mem_filter, Bool.and_eq_true, decide_eq_true_eq] at hmem
  obtain ⟨hvalue, heligible, hexcluded⟩ := hmem
  obtain ⟨id, hid⟩ := HashMap.mem_values.mp hvalue
  obtain rfl := store.keyed id record hid
  exact ⟨record, hid, heligible, hexcluded⟩

/-- The selection, or the failure, with the store it leaves behind. -/
def selectAccount (store : AccountStore) (now : Time) (policy : RoutingPolicy)
    (refreshSkewSeconds : ℤ) (excluded : Finset String) :
    Except SelectionFailure AccountSelection × AccountStore :=
  let store := store.refreshExpiredBlocks now
  match selectCandidate policy (store.buildRouteCandidates now excluded)
      store.roundRobinCursor with
  | (none, _) => (.error .noEligibleAccount, store)
  | (some accountId, cursor) =>
    let store := { store with roundRobinCursor := cursor }
    match store.record? accountId with
    | none => (.error .internal, store)
    | some record =>
      (.ok { accountId, refreshToken := record.refreshToken,
             needsRefresh := tokenNeedsRefresh record now refreshSkewSeconds },
        store.modify accountId (selectRecord now refreshSkewSeconds)
          fun record => (selectRecord_same now refreshSkewSeconds record).id)

/-- The part of `summarize_selection_failure` after the sweep of expired blocks. The deadline
of a running refresh is `none` past the last representable instant, where the code panics. -/
def summarizeSelectionFailure (store : AccountStore) (now : Time) (excluded : Finset String) :
    Option PoolBlockSummary :=
  let routeable := store.records.values.filter fun record =>
    !record.detached && decide (record.routingState ≠ .authInvalid) &&
      decide (record.id ∉ excluded)
  if routeable.isEmpty then none
  else if routeable.any fun record =>
      !record.refreshInFlight && !hasActiveBlockAt record now then none
  else if routeable.any (·.refreshInFlight) then
    some { blockedReason := .temporarilyUnavailable
           blockedUntil := (durationFromStd (fromSecs 1)).bind (addDelta now)
           retryAfter := some (fromSecs 1) }
  else
    (minBy compareBlockPriority (routeable.filterMap fun record =>
      record.blockedReason.map fun reason => (reason, record.blockedUntil))).map fun selected =>
        { blockedReason := selected.1
          blockedUntil := selected.2
          retryAfter := selected.2.bind fun deadline =>
            if now ≤ deadline then some (deadline - now).toNat else none }

end AccountStore

end Codaze.Accounts
