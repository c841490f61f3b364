import Codaze.Accounts.Coherence

/-!
# A sync keeps records and files coherent

On a coherent pool the canonical target of every group is a file that holds the token
already, so a sync only rewrites metadata and removes duplicates. The records it does not
see afterwards have no valid file left.
-/
namespace Codaze.Accounts
open Foundation AccountsDir

/-- Coherent, and attached unless it is gone for good. -/
structure Live (dir : AccountsDir) (r : AccountRecord) : Prop extends Coherent dir r where
  attached : r.authInvalidTombstone = false → r.detached = false

theorem Live.upsert {dir : AccountsDir} {r : AccountRecord} {path : AccountPath}
    {disk : AccountFile} (h : Live dir r) (hpath : path = ⟨r.id⟩) :
    Live dir (AccountStore.upsertRecord path disk r) := by
  have hsame : path = r.filePath := hpath.trans h.path.symm
  have hdetached : (AccountStore.upsertRecord path disk r).detached = r.detached := by
    by_cases htombstone : r.authInvalidTombstone = true
    · simp [AccountStore.upsertRecord, htombstone]
    · simp [AccountStore.upsertRecord, htombstone, h.attached (by simpa using htombstone)]
  refine ⟨⟨hpath, fun ha => ?_, fun hd ht => ?_, fun ht => ?_⟩, fun ht => ?_⟩
  · simpa [AccountStore.upsertRecord, hsame] using h.stored (hdetached ▸ ha)
  · simpa [AccountStore.upsertRecord, hsame] using h.gone (hdetached ▸ hd) ht
  · exact hdetached.trans (h.tombstone ht)
  · exact hdetached.trans (h.attached ht)

namespace PoolCoherent

variable {store store₁ : AccountStore} {dir : AccountsDir} {mode : SyncMode}
  {plan : DiskSyncPlan}

/-- The target of a token holds it already, under the target's own id. A record of that
id is the attached one of the token, or a tombstoned one. -/
theorem canonical (h : PoolCoherent store dir)
    (hmode : mode = .startup → ∀ token, store.preferredExistingRecord token = none)
    {token : String} {target : CanonicalTarget}
    (htarget : store.CanonicalFor (scanAccountsDir dir).entries mode token target) :
    dir.reading target.path = some token ∧ target.matchedGroupPath = some target.path ∧
      target.path = ⟨target.id⟩ ∧
      ∀ r, store.record? target.id = some r → r.authInvalidTombstone = true ∨
        r.detached = false ∧ r.refreshToken = token := by
  rcases htarget.cases with ⟨record, -, hpreferred, hid, hpath, hmatch⟩ |
    ⟨hnone, entry, hentry, rfl, rfl⟩
  · obtain ⟨hrecord, hattached, hrefresh⟩ := AccountStore.preferredExistingRecord_spec hpreferred
    have hcoherent := h.records _ _ hrecord
    have hread := (hcoherent.stored hattached).reading
    rw [hrefresh] at hread
    have hmatched : target.matchedGroupPath = some record.filePath := by
      rcases hmatch with ⟨own, hown, -, hownId, -, hmatched⟩ | ⟨hother, -, -⟩
      · rw [hmatched, entry_path_eq hown, hownId, hcoherent.path]
      · obtain ⟨own, hown, -, hownId, htoken⟩ := entry_of_reading hread
        exact absurd (hownId.trans (by rw [hcoherent.path])) (hother own hown htoken)
    refine ⟨hpath ▸ hread, hpath ▸ hmatched, by rw [hpath, hid, hcoherent.path], fun r hr => ?_⟩
    rw [hid, hrecord] at hr
    obtain rfl := Option.some.inj hr
    exact .inr ⟨hattached, hrefresh⟩
  · have hunpreferred : store.preferredExistingRecord entry.disk.refreshToken = none :=
      hnone.elim (fun hstartup => hmode hstartup _) id
    have hread := reading_of_entry hentry
    refine ⟨hread, rfl, entry_path_eq hentry, fun r hr => ?_⟩
    have hr' := h.records _ r hr
    have hpath : r.filePath = entry.path := by
      rw [hr'.path, entry_path_eq hentry, AccountStore.id_of_record? hr]
    by_cases hattached : r.detached = false
    · have hstored := (hr'.stored hattached).reading
      rw [hpath, hread] at hstored
      exact .inr ⟨hattached, (Option.some.inj hstored).symm⟩
    · by_contra hlive
      have hgone := hr'.gone (by simpa using hattached)
        (by simpa using fun ht => hlive (.inl ht))
      rw [hpath, hread] at hgone
      cases hgone

/-- A record before its group is loaded: untouched since the plan, or live already. -/
def Loading (store : AccountStore) (dir' : AccountsDir) (id : String) (r : AccountRecord) : Prop :=
  (∃ r₀, store.record? id = some r₀ ∧ SameAccount r₀ r) ∨ Live dir' r

section Sync

variable (h : PoolCoherent store dir)
  (hmode : mode = .startup → ∀ token, store.preferredExistingRecord token = none)
  (hplan : store.buildDiskSyncPlan (scanAccountsDir dir) mode = some plan)

include h hmode hplan

/-- After the sync the target's file holds its token. -/
theorem stored_after_sync {token : String} {target : CanonicalTarget}
    (htarget : store.CanonicalFor (scanAccountsDir dir).entries mode token target) :
    Stored (dir.executeDiskSyncFs plan) target.path token := by
  obtain ⟨hread, hmatched, -⟩ := h.canonical hmode htarget
  obtain ⟨entry, hentry, hpath, -, rfl⟩ := entry_of_reading hread
  have hkept : target.path ∉ plan.removals := by
    rw [← hpath, not_mem_removals hplan hentry htarget, hpath]
    exact hmatched
  refine ⟨normalize_of_entry hentry, ?_⟩
  rw [file?_executeDiskSyncFs, if_neg hkept]
  rcases hlast : lastWrite plan.writes target.path with _ | disk
  · exact (h.trimmed _ _ hread).2
  · refine ⟨disk, rfl, ?_⟩
    obtain ⟨token', target', htarget', hpath', rfl, -⟩ :=
      (AccountStore.mem_plan_writes hplan).mp (mem_of_lastWrite hlast)
    obtain ⟨hread', -⟩ := h.canonical hmode htarget'
    rw [hpath', hread] at hread'
    rw [mergeDuplicateAccountFiles_token, htarget'.token, Option.some.inj hread']

/-- A valid file after the sync is the target of its token. -/
theorem canonical_of_reading_after_sync {path : AccountPath} {token : String}
    (hread : (dir.executeDiskSyncFs plan).reading path = some token) :
    ∃ target, store.CanonicalFor (scanAccountsDir dir).entries mode token target ∧
      target.path = path := by
  obtain ⟨hkept, ⟨target, htarget, hpath, -⟩ | hbefore⟩ := of_reading_executeDiskSyncFs hplan hread
  · exact ⟨target, htarget, hpath⟩
  · obtain ⟨entry, hentry, rfl, -, rfl⟩ := entry_of_reading hbefore
    obtain ⟨target, htarget⟩ := store.exists_canonicalFor mode hentry
    obtain ⟨-, hmatched, -⟩ := h.canonical hmode htarget
    have hkept' := (not_mem_removals hplan hentry htarget).mp hkept
    exact ⟨target, htarget, Option.some.inj (hmatched.symm.trans hkept')⟩

/-- The file of an account the plan does not see reads as nothing after the sync. -/
theorem reading_of_unseen {id : String} (hunseen : id ∉ plan.seenIds) :
    (dir.executeDiskSyncFs plan).reading ⟨id⟩ = none := by
  rcases hread : (dir.executeDiskSyncFs plan).reading ⟨id⟩ with _ | token
  · rfl
  · obtain ⟨target, htarget, hpath⟩ := h.canonical_of_reading_after_sync hmode hplan hread
    obtain ⟨-, -, hid, -⟩ := h.canonical hmode htarget
    refine absurd ((AccountStore.mem_plan_seenIds hplan).mpr
      ⟨_, (AccountStore.mem_plan_upserts hplan).mpr ⟨token, target, htarget, rfl⟩, ?_⟩) hunseen
    simpa [hid] using hpath

/-- Loading the target of a group makes the record live. -/
theorem live_upsert {upsert : DiskSyncUpsert} (hupsert : upsert ∈ plan.upserts)
    {store' : AccountStore}
    (hloading : ∀ id r, store'.record? id = some r →
      Loading store (dir.executeDiskSyncFs plan) id r)
    {r : AccountRecord}
    (hr : (store'.upsertDiskRecord upsert.id upsert.path upsert.disk).record? upsert.id = some r) :
    Live (dir.executeDiskSyncFs plan) r := by
  obtain ⟨token, target, htarget, rfl⟩ := (AccountStore.mem_plan_upserts hplan).mp hupsert
  obtain ⟨-, -, hpath, hrecord⟩ := h.canonical hmode htarget
  have hstored := h.stored_after_sync hmode hplan htarget
  rcases AccountStore.of_record?_upsertDiskRecord hr with ⟨old, hold, rfl⟩ | ⟨-, -, rfl⟩
  · rw [if_pos rfl]
    have hid := AccountStore.id_of_record? hold
    rcases hloading _ old hold with ⟨r₀, hr₀, hsame⟩ | hlive
    · have hcoherent := (h.records _ r₀ hr₀).same hsame
      rcases hrecord r₀ hr₀ with htombstone | ⟨hattached, hrefresh⟩
      · -- gone for good: loading leaves it detached
        have ht : old.authInvalidTombstone = true := hsame.authInvalidTombstone.trans htombstone
        have hdetached := hcoherent.tombstone ht
        refine ⟨⟨?_, fun ha => ?_, fun _ ht' => ?_, fun _ => ?_⟩, fun ht' => ?_⟩
        · rw [AccountStore.upsertRecord, hpath, hid]
        · simp [AccountStore.upsertRecord, ht, hdetached] at ha
        · simp [AccountStore.upsertRecord, ht] at ht'
        · simp [AccountStore.upsertRecord, ht, hdetached]
        · simp [AccountStore.upsertRecord, ht] at ht'
      · have hnot : old.authInvalidTombstone = false :=
          hcoherent.not_tombstoned (hsame.detached.trans hattached)
        have hnow : (AccountStore.upsertRecord target.path
            (mergeDuplicateAccountFiles target.disk
              (tokenGroup (scanAccountsDir dir).entries token)) old).detached = false := by
          simp [AccountStore.upsertRecord, hnot]
        refine ⟨.of_stored ?_ hnow hnot ?_, fun _ => hnow⟩
        · rw [AccountStore.upsertRecord, hpath, hid]
        · have htoken : old.refreshToken = token := hsame.refreshToken.trans hrefresh
          simpa [AccountStore.upsertRecord, htoken] using hstored
    · exact hlive.upsert (by rw [hpath, hid])
  · refine ⟨.of_stored hpath rfl rfl ?_, fun _ => rfl⟩
    rw [AccountStore.newRecord, mergeDuplicateAccountFiles_token, htarget.token]
    exact hstored

theorem loading_upsert {upsert : DiskSyncUpsert} (hupsert : upsert ∈ plan.upserts)
    {store' : AccountStore}
    (hloading : ∀ id r, store'.record? id = some r →
      Loading store (dir.executeDiskSyncFs plan) id r)
    {id : String} {r : AccountRecord}
    (hr : (store'.upsertDiskRecord upsert.id upsert.path upsert.disk).record? id = some r) :
    Loading store (dir.executeDiskSyncFs plan) id r := by
  by_cases hid : id = upsert.id
  · subst hid
    exact .inr (h.live_upsert hmode hplan hupsert hloading hr)
  · rcases AccountStore.of_record?_upsertDiskRecord hr with ⟨old, hold, rfl⟩ | ⟨heq, -, -⟩
    · rw [if_neg hid]
      exact hloading id old hold
    · exact absurd heq hid

/-- After all groups are loaded, the records of the plan are live and the others untouched. -/
theorem loaded (upserts : List DiskSyncUpsert) (hupserts : ∀ u ∈ upserts, u ∈ plan.upserts)
    {store' : AccountStore}
    (hloading : ∀ id r, store'.record? id = some r →
      Loading store (dir.executeDiskSyncFs plan) id r)
    {id : String} {r : AccountRecord}
    (hr : (store'.applyUpserts upserts).record? id = some r) :
    Loading store (dir.executeDiskSyncFs plan) id r ∧
      ((∃ u ∈ upserts, u.id = id) → Live (dir.executeDiskSyncFs plan) r) ∧
      ((∀ u ∈ upserts, u.id ≠ id) → store'.record? id = some r) := by
  induction upserts generalizing store' with
  | nil => exact ⟨hloading id r hr, by simp, fun _ => hr⟩
  | cons upsert upserts ih =>
    have hupsert := hupserts upsert List.mem_cons_self
    obtain ⟨hload, hlive, hsame⟩ := ih (fun u hu => hupserts u (List.mem_cons_of_mem upsert hu))
      (fun _ _ => h.loading_upsert hmode hplan hupsert hloading) hr
    refine ⟨hload, fun hmem => ?_, fun hnone => ?_⟩
    · by_cases hlater : ∃ u ∈ upserts, u.id = id
      · exact hlive hlater
      · obtain ⟨u, hu, rfl⟩ := hmem
        obtain rfl : u = upsert := by
          rcases List.mem_cons.mp hu with heq | htail
          · exact heq
          · exact absurd ⟨u, htail, rfl⟩ hlater
        exact h.live_upsert hmode hplan hupsert hloading
          (hsame fun u hu heq => hlater ⟨u, hu, heq⟩)
    · have hr' := hsame fun u hu => hnone u (List.mem_cons_of_mem upsert hu)
      rcases AccountStore.of_record?_upsertDiskRecord hr' with ⟨old, hold, rfl⟩ | ⟨heq, -, -⟩
      · rw [if_neg (Ne.symm (hnone upsert List.mem_cons_self))]
        exact hold
      · exact absurd heq.symm (hnone upsert List.mem_cons_self)

/-- A sync, applied to a store the plan's store has become, keeps the pool coherent. -/
theorem sync (hfollows : store.Follows store₁) :
    PoolCoherent (store₁.applyDiskSyncPlan plan) (dir.executeDiskSyncFs plan) := by
  refine ⟨fun id r hr => ?_, fun path token hread => ?_⟩
  · obtain ⟨old, hold, hretire⟩ := AccountStore.of_record?_retireAllUnseen hr
    have hloaded := h.loaded hmode hplan plan.upserts (fun _ hu => hu)
      (fun id' r' hr' => .inl (hfollows id' r' hr')) hold
    by_cases hseen : id ∈ plan.seenIds
    · rw [AccountStore.retireUnseen, if_pos hseen] at hretire
      obtain rfl := Option.some.inj hretire
      exact (hloaded.2.1 ((AccountStore.mem_plan_seenIds hplan).mp hseen)).toCoherent
    · -- an unseen record is as it was, and its file no longer reads
      have hread := h.reading_of_unseen hmode hplan hseen
      have hsame := hloaded.2.2 fun u hu heq =>
        hseen ((AccountStore.mem_plan_seenIds hplan).mpr ⟨u, hu, heq⟩)
      obtain ⟨r₀, hr₀, hsame⟩ := hfollows id old hsame
      have hcoherent := (h.records id r₀ hr₀).same hsame
      have hid := AccountStore.id_of_record? hold
      rw [← hid, ← hcoherent.path] at hread
      rw [AccountStore.retireUnseen, if_neg hseen] at hretire
      split_ifs at hretire with hfailed hidle
      · obtain rfl := Option.some.inj hretire
        refine ⟨hcoherent.path, fun ha => ?_, fun _ _ => hread, hcoherent.tombstone⟩
        -- an attached record's file is valid, so its id did not fail to scan
        have hstored := (hcoherent.stored ha).reading
        obtain ⟨-, ⟨-, hids, -⟩, -⟩ := AccountStore.exists_groupPlan hplan
        have hnone := reading_of_mem_failedFileIds (hids ▸ hfailed.2)
        rw [hcoherent.path, hid, hnone] at hstored
        cases hstored
      · obtain rfl := Option.some.inj hretire
        exact ⟨hcoherent.path, nofun, fun _ _ => hread, fun _ => rfl⟩
  · obtain ⟨target, htarget, rfl⟩ := h.canonical_of_reading_after_sync hmode hplan hread
    exact h.stored_after_sync hmode hplan htarget

end Sync

end PoolCoherent

end Codaze.Accounts
