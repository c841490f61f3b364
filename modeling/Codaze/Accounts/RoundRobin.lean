import Codaze.Accounts.Candidates
import Codaze.Accounts.RescanFrame
import Mathlib.Data.List.Rotate

/-!
# Round robin

While the same accounts stay eligible, round-robin calls walk through their ids in order. The
cursor counts the calls and stops at the largest machine word; from there on every call picks
the same account.
-/
namespace Codaze.Accounts
open Foundation

/-- The only operation that moves the cursor. -/
def StoreOp.movesCursor : StoreOp → Bool
  | .select .roundRobin .. => true
  | _ => false

/-- A call of `select_account(RoundRobin)`, and what happens to the store before it. -/
structure RoundRobinCall where
  before : List (Time × StoreOp)
  now : Time
  skew : ℤ
  excluded : Finset String

namespace AccountStore

def applyAll (store : AccountStore) (events : List (Time × StoreOp)) : AccountStore :=
  events.foldl (fun store event => store.apply event.1 event.2) store

def call (store : AccountStore) (call : RoundRobinCall) :
    Except SelectionFailure AccountSelection × AccountStore :=
  (store.applyAll call.before).selectAccount call.now .roundRobin call.skew call.excluded

/-- The ids that consecutive calls come back with. -/
def roundRobinIds : AccountStore → List RoundRobinCall → List (Option String)
  | _, [] => []
  | store, call :: calls =>
    selectedId? (store.call call).1 :: roundRobinIds (store.call call).2 calls

def afterCalls (store : AccountStore) (calls : List RoundRobinCall) : AccountStore :=
  calls.foldl (fun store call => (store.call call).2) store

/-- Each call finds the same eligible ids, and nothing but the calls moves the cursor. -/
def KeepsEligible (ids : Finset String) : AccountStore → List RoundRobinCall → Prop
  | _, [] => True
  | store, call :: calls => (∀ event ∈ call.before, event.2.movesCursor = false) ∧
    (store.applyAll call.before).eligibleIds call.now call.excluded = ids ∧
    KeepsEligible ids (store.call call).2 calls

/-- Each of the accounts once, in id order up to rotation. -/
def FairRound (ids : Finset String) (results : List (Option String)) : Prop :=
  ∃ start, results = (ids.sort.rotate start).map some

theorem roundRobinCursor_update (store : AccountStore) (id : String)
    (f : AccountRecord → AccountRecord) (hf : ∀ record, (f record).id = record.id) :
    (store.update id f hf).roundRobinCursor = store.roundRobinCursor := by
  rw [update, maybeRemoveDetached]
  split <;> rfl

theorem roundRobinCursor_applyFailure (store : AccountStore) (now : Time) (id : String)
    (failure : FailureClass) (retryAfter : Option StdDuration) (details : String) :
    (store.applyFailure now id failure retryAfter details).state.roundRobinCursor =
      store.roundRobinCursor := by
  simp only [applyFailure]
  split
  · rfl
  · exact roundRobinCursor_update store id _ _
  · rfl

theorem roundRobinCursor_selectAccount (store : AccountStore) (now : Time)
    {policy : RoutingPolicy} (skew : ℤ) (excluded : Finset String)
    (hpolicy : policy ≠ .roundRobin) :
    (store.selectAccount now policy skew excluded).2.roundRobinCursor =
      store.roundRobinCursor := by
  rw [(store.selectAccount_spec now policy skew excluded).2]
  simp only [selectCandidate]
  split
  · rfl
  · cases policy with
    | roundRobin => exact absurd rfl hpolicy
    | leastInFlight | fillFirst => rfl

/-- Every operation but a round-robin selection leaves the cursor alone. -/
theorem roundRobinCursor_apply {store : AccountStore} {now : Time} {op : StoreOp}
    (h : op.movesCursor = false) :
    (store.apply now op).roundRobinCursor = store.roundRobinCursor := by
  cases op with
  | read | sweep | wakeAll | noteTrashFailure | rehash => rfl
  | select policy skew excluded =>
    refine store.roundRobinCursor_selectAccount now skew excluded ?_
    rintro rfl
    cases h
  | wake id =>
    simp only [apply, wakeAccount]
    cases store.record? id <;> rfl
  | markSuccess id | invalidate id | release id | applyRemove plan =>
    exact store.roundRobinCursor_update _ _ _
  | fail id failure retryAfter details => exact store.roundRobinCursor_applyFailure ..
  | refreshSuccess id refreshed =>
    simp only [apply, finishRefreshSuccessWithoutPersist]
    cases store.record? id with
    | none => rfl
    | some record => exact store.roundRobinCursor_update _ _ _
  | prepareAuthInvalid id details =>
    simp only [apply, prepareAuthInvalidFailure]
    cases store.record? id <;> rfl
  | finalizeAuthInvalid id =>
    simp only [apply, finalizeAuthInvalidFailure]
    cases store.record? id with
    | none => rfl
    | some record => exact store.roundRobinCursor_update _ _ _
  | applyImport plan =>
    simp only [apply, applyImportAccountPlan]
    split
    · rfl
    · exact store.roundRobinCursor_upsertDiskRecord _ _ _
    · split <;> rfl
  | applySync plan => exact store.roundRobinCursor_applyDiskSyncPlan plan

theorem roundRobinCursor_applyAll {store : AccountStore} {events : List (Time × StoreOp)}
    (h : ∀ event ∈ events, event.2.movesCursor = false) :
    (store.applyAll events).roundRobinCursor = store.roundRobinCursor := by
  induction events generalizing store with
  | nil => rfl
  | cons event events ih =>
    have hevents := @ih (store.apply event.1 event.2)
      fun event' hmem => h event' (List.mem_cons_of_mem _ hmem)
    exact hevents.trans (roundRobinCursor_apply (h event List.mem_cons_self))

/-- A round-robin selection takes the eligible id at the cursor and moves the cursor on. -/
theorem selectAccount_roundRobin (store : AccountStore) (now : Time) (skew : ℤ)
    (excluded : Finset String) :
    selectedId? (store.selectAccount now .roundRobin skew excluded).1 =
        (store.eligibleIds now excluded).sort[store.roundRobinCursor %
          (store.eligibleIds now excluded).card]? ∧
      (store.selectAccount now .roundRobin skew excluded).2.roundRobinCursor =
        if (store.eligibleIds now excluded).card = 0 then store.roundRobinCursor
        else saturatingSucc64 store.roundRobinCursor := by
  have hspec := store.selectAccount_spec now .roundRobin skew excluded
  have hids := (store.refreshExpiredBlocks now).map_accountId_buildRouteCandidates now excluded
  have hlength := (store.refreshExpiredBlocks now).length_buildRouteCandidates now excluded
  rw [eligibleIds_refreshExpiredBlocks] at hids hlength
  rw [hspec.1, hspec.2, selectCandidate, ← hids, ← hlength]
  split
  next hempty =>
    rw [List.isEmpty_iff] at hempty
    simp [hempty]
  next hne =>
    rw [List.isEmpty_iff_length_eq_zero] at hne
    simp [hne]

/-- The cursor is a machine word. -/
theorem cursor_le_of_run {store : AccountStore} (hrun : Run storeStep anyEvent .new store) :
    store.roundRobinCursor ≤ u64Max := by
  refine hrun.invariant (I := fun store => store.roundRobinCursor ≤ u64Max)
    (fun store event store' hle _ hstep => ?_) (Nat.zero_le _)
  obtain rfl := Option.some.inj hstep
  cases hmoves : event.2.movesCursor with
  | false => exact (roundRobinCursor_apply hmoves).trans_le hle
  | true =>
    obtain ⟨now, op⟩ := event
    cases op with
    | select policy skew excluded =>
      cases policy with
      | roundRobin =>
        have hcursor := (store.selectAccount_roundRobin now skew excluded).2
        show (store.selectAccount now .roundRobin skew excluded).2.roundRobinCursor ≤ u64Max
        rw [hcursor]
        split
        · exact hle
        · exact min_le_right _ _
      | leastInFlight | fillFirst => cases hmoves
    | _ => cases hmoves

section Calls

variable {ids : Finset String} {store : AccountStore} {calls : List RoundRobinCall}

theorem cursor_call {call : RoundRobinCall} (hids : ids.card ≠ 0)
    (hbefore : ∀ event ∈ call.before, event.2.movesCursor = false)
    (heligible : (store.applyAll call.before).eligibleIds call.now call.excluded = ids) :
    (store.call call).2.roundRobinCursor = saturatingSucc64 store.roundRobinCursor := by
  have hcursor := ((store.applyAll call.before).selectAccount_roundRobin call.now call.skew
    call.excluded).2
  rw [heligible, if_neg hids, roundRobinCursor_applyAll hbefore] at hcursor
  exact hcursor

/-- The calls come back with the ids that the cursor points at, one call after another, as long
as it is not at its end. -/
theorem roundRobinIds_eq (hids : ids.card ≠ 0) (hkeeps : KeepsEligible ids store calls)
    (hcursor : store.roundRobinCursor ≤ u64Max) :
    roundRobinIds store calls = (List.range calls.length).map fun index =>
      ids.sort[min (store.roundRobinCursor + index) u64Max % ids.card]? := by
  induction calls generalizing store with
  | nil => rfl
  | cons call calls ih =>
    obtain ⟨hbefore, heligible, hrest⟩ := hkeeps
    have hnext := cursor_call hids hbefore heligible
    have hresult := ((store.applyAll call.before).selectAccount_roundRobin call.now call.skew
      call.excluded).1
    rw [heligible, roundRobinCursor_applyAll hbefore] at hresult
    have hle : (store.call call).2.roundRobinCursor ≤ u64Max := hnext ▸ min_le_right _ _
    rw [roundRobinIds, ih hrest hle, hnext, List.length_cons, List.range_succ_eq_map,
      List.map_cons, List.map_map, saturatingSucc64]
    refine List.cons_eq_cons.mpr ⟨?_, List.map_congr_left fun index _ => ?_⟩
    · rw [Nat.add_zero, min_eq_left hcursor]
      exact hresult
    · have hmin : min (min (store.roundRobinCursor + 1) u64Max + index) u64Max =
          min (store.roundRobinCursor + (index + 1)) u64Max := by omega
      rw [hmin]
      rfl

/-- From a store of any run, consecutive calls that find the same eligible ids, one call for each
id, return each of them once in id order up to rotation, if and only if the cursor does not reach
the end of its machine word before the last call, or there is at most one account. -/
theorem roundRobin_fair_iff (hrun : Run storeStep anyEvent .new store)
    (hkeeps : KeepsEligible ids store calls) (hlength : calls.length = ids.card) :
    FairRound ids (roundRobinIds store calls) ↔
      ids.card ≤ 1 ∨ store.roundRobinCursor + ids.card ≤ u64Max + 1 := by
  have hcursor := cursor_le_of_run hrun
  have hsort : ids.sort.length = ids.card := Finset.length_sort _
  by_cases hids : ids.card = 0
  · obtain rfl : calls = [] := List.eq_nil_of_length_eq_zero (hlength.trans hids)
    obtain rfl : ids = ∅ := Finset.card_eq_zero.mp hids
    exact ⟨fun _ => .inl (by simp), fun _ => ⟨0, by simp [roundRobinIds]⟩⟩
  rw [FairRound, roundRobinIds_eq hids hkeeps hcursor, hlength]
  constructor
  · rintro ⟨start, hround⟩
    by_contra hend
    rw [not_or, not_le, not_le] at hend
    -- the last two calls find the cursor at the end of its word
    have hnodup : ((ids.sort.rotate start).map some).Nodup :=
      (List.nodup_rotate.mpr (ids.sort_nodup _)).map (Option.some_injective _)
    rw [← hround, List.nodup_map_iff_inj_on List.nodup_range] at hnodup
    have hlast := hnodup (ids.card - 2) (List.mem_range.mpr (by omega)) (ids.card - 1)
      (List.mem_range.mpr (by omega))
    have hbefore : min (store.roundRobinCursor + (ids.card - 2)) u64Max = u64Max := by omega
    have hend : min (store.roundRobinCursor + (ids.card - 1)) u64Max = u64Max := by omega
    rw [hbefore, hend] at hlast
    have heq := hlast rfl
    omega
  · intro hword
    refine ⟨store.roundRobinCursor, List.ext_getElem? fun index => ?_⟩
    rw [List.getElem?_map, List.getElem?_map]
    by_cases hindex : index < ids.card
    · rw [List.getElem?_range hindex, List.getElem?_rotate (hsort ▸ hindex), hsort,
        Option.map_some]
      have hbound : (index + store.roundRobinCursor) % ids.card < ids.sort.length :=
        by
        rw [hsort]
        exact Nat.mod_lt _ (Nat.pos_of_ne_zero hids)
      have hmin : min (store.roundRobinCursor + index) u64Max = index + store.roundRobinCursor := by
        rcases hword with hone | hfits
        · omega
        · omega
      rw [hmin, List.getElem?_eq_getElem hbound]
      rfl
    · rw [List.getElem?_eq_none (by simpa using hindex),
        List.getElem?_eq_none (by simpa [hsort] using hindex)]
      rfl

theorem cursor_afterCalls (hids : ids.card ≠ 0) (hkeeps : KeepsEligible ids store calls)
    (hcursor : store.roundRobinCursor ≤ u64Max) :
    (store.afterCalls calls).roundRobinCursor =
      min (store.roundRobinCursor + calls.length) u64Max := by
  induction calls generalizing store with
  | nil => exact (min_eq_left hcursor).symm
  | cons call calls ih =>
    obtain ⟨hbefore, heligible, hrest⟩ := hkeeps
    have hnext := cursor_call hids hbefore heligible
    have hlater := ih hrest (hnext ▸ min_le_right _ _)
    rw [hnext, saturatingSucc64] at hlater
    rw [List.length_cons]
    refine hlater.trans ?_
    omega

theorem run_afterCalls (hrun : Run storeStep anyEvent .new store) :
    Run storeStep anyEvent .new (store.afterCalls calls) := by
  have hevents {store : AccountStore} (hrun : Run storeStep anyEvent .new store)
      (events : List (Time × StoreOp)) :
      Run storeStep anyEvent .new (store.applyAll events) := by
    induction events generalizing store with
    | nil => exact hrun
    | cons event events ih => exact ih (hrun.tail ⟨event, trivial, rfl⟩)
  induction calls generalizing store with
  | nil => exact hrun
  | cons call calls ih =>
    refine ih ((hevents hrun call.before).tail ?_)
    exact ⟨(call.now, .select .roundRobin call.skew call.excluded), trivial, rfl⟩

end Calls

/-- The accounts are eligible at this instant, and no token needs a refresh. -/
structure Steady (ids : Finset String) (now : Time) (skew : ℤ) (excluded : Finset String)
    (store : AccountStore) : Prop where
  eligible : store.eligibleIds now excluded = ids
  fresh : ∀ id r, store.record? id = some r → tokenNeedsRefresh r now skew = false

section Steady

variable {ids : Finset String} {now : Time} {skew : ℤ} {excluded : Finset String}
  {store : AccountStore}

/-- A selection at the same instant leaves them so. -/
theorem Steady.select (h : Steady ids now skew excluded store) (policy : RoutingPolicy) :
    Steady ids now skew excluded (store.selectAccount now policy skew excluded).2 := by
  rcases hselect : store.selectAccount now policy skew excluded with ⟨⟨⟩ | selection, store'⟩
  · have hrecords := (selectAccount_error hselect).2
    have hswept (id : String) :
        store'.record? id = (store.refreshExpiredBlocks now).record? id := by
      rw [hrecords, refreshExpiredBlocks, record?_modifyAll]
    refine ⟨?_, fun id r hr => ?_⟩
    · rw [← h.eligible, ← eligibleIds_refreshExpiredBlocks store]
      ext id
      simp only [mem_eligibleIds, hswept]
    · rw [hrecords] at hr
      obtain ⟨old, hold, rfl⟩ := Option.map_eq_some_iff.mp hr
      exact (tokenNeedsRefresh_expireRecord now now skew old).trans (h.fresh id old hold)
  · have hfresh := fun r => h.fresh selection.accountId r
    refine ⟨?_, fun id r hr => ?_⟩
    · rw [← h.eligible]
      ext id
      rw [mem_eligibleIds_selectAccount hselect hfresh, mem_eligibleIds]
      simp only [or_self]
      constructor
      · rintro ⟨hexcluded, r, hr, heligible⟩
        exact ⟨r, hr, heligible, hexcluded⟩
      · rintro ⟨r, hr, heligible, hexcluded⟩
        exact ⟨hexcluded, r, hr, heligible⟩
    · rw [record?_selectAccount hselect hfresh] at hr
      obtain ⟨old, hold, rfl⟩ := Option.map_eq_some_iff.mp hr
      have hneeds := (tokenNeedsRefresh_expireRecord now now skew old).trans (h.fresh id old hold)
      split <;> exact hneeds

theorem Steady.afterCalls (h : Steady ids now skew excluded store) (count : ℕ) :
    Steady ids now skew excluded
      (store.afterCalls (List.replicate count ⟨[], now, skew, excluded⟩)) := by
  induction count generalizing store with
  | zero => exact h
  | succ count ih => exact ih (h.select .roundRobin)

theorem Steady.keepsEligible (h : Steady ids now skew excluded store) (count : ℕ) :
    KeepsEligible ids store (List.replicate count ⟨[], now, skew, excluded⟩) := by
  induction count generalizing store with
  | zero => trivial
  | succ count ih =>
    exact ⟨fun _ hmem => absurd hmem List.not_mem_nil, h.eligible, ih (h.select .roundRobin)⟩

theorem Steady.cursor_afterCalls (h : Steady ids now skew excluded store) (hids : ids.card ≠ 0)
    (hcursor : store.roundRobinCursor ≤ u64Max) (count : ℕ) :
    (store.afterCalls (List.replicate count ⟨[], now, skew, excluded⟩)).roundRobinCursor =
      min (store.roundRobinCursor + count) u64Max := by
  rw [AccountStore.cursor_afterCalls hids (h.keepsEligible count) hcursor, List.length_replicate]

end Steady

theorem steady_twoAccounts :
    Run storeStep anyEvent .new (stateAfter storeStep .new twoAccounts) ∧
      Steady {"a", "b"} 0 0 ∅ (stateAfter storeStep .new twoAccounts) := by
  refine ⟨run_stateAfter _ _ _, by decide +kernel, fun id r hr => ?_⟩
  have hvalues : ∀ r ∈ (stateAfter storeStep .new twoAccounts).records.values,
      tokenNeedsRefresh r 0 0 = false := by decide +kernel
  exact hvalues r (mem_values_of_record? hr)

theorem roundRobin_fair_iff_twoAccounts :
    FairRound {"a", "b"} (roundRobinIds (stateAfter storeStep .new twoAccounts)
      (List.replicate 2 ⟨[], 0, 0, ∅⟩)) := by
  obtain ⟨hrun, hsteady⟩ := steady_twoAccounts
  have hcursor : (stateAfter storeStep .new twoAccounts).roundRobinCursor = 0 := rfl
  refine (roundRobin_fair_iff hrun (hsteady.keepsEligible 2) rfl).mpr (.inr ?_)
  rw [hcursor]
  decide

/-- After that many calls the cursor has reached its end. -/
theorem roundRobin_stuck :
    ∃ (ids : Finset String) (store : AccountStore) (calls : List RoundRobinCall),
      Run storeStep anyEvent .new store ∧ KeepsEligible ids store calls ∧
      calls.length = ids.card ∧ ¬ FairRound ids (roundRobinIds store calls) := by
  obtain ⟨hrun, hsteady⟩ := steady_twoAccounts
  have hend := hsteady.cursor_afterCalls (by decide) (Nat.zero_le _) u64Max
  have hlater := hsteady.afterCalls u64Max
  refine ⟨{"a", "b"}, _, List.replicate 2 ⟨[], 0, 0, ∅⟩, run_afterCalls hrun,
    hlater.keepsEligible 2, rfl, fun hfair => ?_⟩
  have hword := (roundRobin_fair_iff (run_afterCalls hrun) (hlater.keepsEligible 2) rfl).mp hfair
  have hcard : ({"a", "b"} : Finset String).card = 2 := rfl
  rw [hend, hcard] at hword
  omega

end AccountStore

end Codaze.Accounts
