import Codaze.Accounts.Interrupted
import Codaze.App.Durability

/-!
# Startup can be interrupted and run again

A startup sync loads one record and leaves one file for each token of the accounts directory.
Stopped after any of its file operations and run again, it ends where it would have ended.
-/
namespace Codaze.App
open Foundation Accounts

/-- Equal pools, whatever the order their maps iterate in. -/
structure SamePool (pool pool' : AppPool) : Prop where
  files : ∀ path, pool.dir.file? path = pool'.dir.file? path
  records : ∀ id, pool.store.record? id = pool'.store.record? id
  cursor : pool.store.roundRobinCursor = pool'.store.roundRobinCursor

/-- A token has one file and one record, those of the smallest file that held it, with its
metadata or else the first of the group. -/
structure DeduplicatedToken (dir : AccountsDir) (pool : AppPool) (token : String)
    (entry : DiskAccountEntry) (disk : AccountFile) : Prop where
  smallest : dir.Smallest entry
  tokens : entry.disk.refreshToken = token ∧ disk.refreshToken = token
  label : dir.MergedField entry (·.disk.label) disk.label
  email : dir.MergedField entry (·.disk.email) disk.email
  scanned : (⟨entry.id, entry.path, disk⟩ : DiskAccountEntry) ∈ (scanAccountsDir pool.dir).entries
  loaded : pool.store.record? entry.id = some (AccountStore.newRecord entry.id entry.path disk)
  file_unique : ∀ path, pool.dir.reading path = some token → path = entry.path
  record_unique : ∀ id record, pool.store.record? id = some record →
    record.refreshToken = token → id = entry.id

/-- What a startup sync makes of a directory. -/
structure Deduplicated (dir : AccountsDir) (pool : AppPool) : Prop where
  kept : ∀ token, dir.HoldsToken token → ∃ entry disk, DeduplicatedToken dir pool token entry disk
  files : ∀ path token, pool.dir.reading path = some token → dir.HoldsToken token
  records : ∀ id record, pool.store.record? id = some record → dir.HoldsToken record.refreshToken
  unread : ∀ path, dir.reading path = none → pool.dir.file? path = dir.file? path
  dropped : ∀ entry ∈ (scanAccountsDir dir).entries, ¬ dir.Smallest entry →
    pool.dir.file? entry.path = none

section startup

variable {dir dir' : AccountsDir} {plan plan' : DiskSyncPlan} {entry : DiskAccountEntry}
  {id : String}

theorem startup_eq
    (hplan : AccountStore.new.buildDiskSyncPlan (scanAccountsDir dir) .startup = some plan) :
    AppPool.startup dir =
      ⟨AccountStore.new.applyDiskSyncPlan plan, dir.executeDiskSyncFs plan⟩ := by
  simp only [AppPool.startup, AppPool.syncAccountsFromDisk, hplan]

theorem exists_startupPlan (dir : AccountsDir) :
    ∃ plan, AccountStore.new.buildDiskSyncPlan (scanAccountsDir dir) .startup = some plan :=
  Option.isSome_iff_exists.mp (AccountStore.buildDiskSyncPlan_isSome _ _ _)

theorem keeps_startup_iff : AccountsDir.Keeps .new dir .startup entry ↔ dir.Smallest entry :=
  AccountsDir.keeps_iff_smallest (.inl rfl)

/-- The records of a startup sync are those of the smallest files. -/
theorem record?_startup (h : dir.Smallest entry) :
    (AppPool.startup dir).store.record? entry.id =
      some (AccountStore.newRecord entry.id entry.path (dir.merged entry)) := by
  obtain ⟨plan, hplan⟩ := exists_startupPlan dir
  rw [startup_eq hplan]
  exact (AccountsDir.keepsOne_startup .new dir).record?_of_keeps hplan .new
    (keeps_startup_iff.mpr h)

theorem record?_startup_eq_none (h : ∀ entry, dir.Smallest entry → entry.id ≠ id) :
    (AppPool.startup dir).store.record? id = none := by
  obtain ⟨plan, hplan⟩ := exists_startupPlan dir
  rw [startup_eq hplan]
  exact (AccountsDir.keepsOne_startup .new dir).record?_of_unkept hplan .new
    fun kept hkept => h kept (keeps_startup_iff.mp hkept)

theorem of_record?_startup {record : AccountRecord}
    (h : (AppPool.startup dir).store.record? id = some record) :
    ∃ entry, dir.Smallest entry ∧ entry.id = id ∧
      record = AccountStore.newRecord entry.id entry.path (dir.merged entry) := by
  by_cases hid : ∃ entry, dir.Smallest entry ∧ entry.id = id
  · obtain ⟨entry, hentry, rfl⟩ := hid
    rw [record?_startup hentry] at h
    exact ⟨entry, hentry, rfl, (Option.some.inj h).symm⟩
  · rw [record?_startup_eq_none fun entry hentry heq => hid ⟨entry, hentry, heq⟩] at h
    cases h

theorem deduplicated_startup (dir : AccountsDir) : Deduplicated dir (AppPool.startup dir) := by
  obtain ⟨plan, hplan⟩ := exists_startupPlan dir
  have hone := AccountsDir.keepsOne_startup .new dir
  have hdir : (AppPool.startup dir).dir = dir.executeDiskSyncFs plan := by rw [startup_eq hplan]
  refine ⟨fun token hholds => ?_, fun path token hread => ?_, fun id record hrecord => ?_,
    fun path hread => ?_, fun entry hentry hdropped => ?_⟩
  · obtain ⟨path, hread⟩ := hholds
    obtain ⟨entry, hentry, -, -, rfl⟩ := AccountsDir.entry_of_reading hread
    obtain ⟨first, -, hfirst, htoken⟩ := AccountsDir.exists_smallest hentry
    have hscanned := (hone.mem_entries hplan).mpr ⟨first, keeps_startup_iff.mpr hfirst, rfl⟩
    refine ⟨first, dir.merged first, hfirst, ⟨htoken, htoken⟩, (dir.merged_fields first).1,
      (dir.merged_fields first).2, hdir ▸ hscanned, record?_startup hfirst, ?_, ?_⟩
    · intro path' hread'
      rw [hdir] at hread'
      obtain ⟨after, hafter, rfl, -, htoken'⟩ := AccountsDir.entry_of_reading hread'
      rw [hone.entries_unique hplan hafter hscanned (htoken'.trans htoken.symm)]
    · intro id record hrecord htoken'
      obtain ⟨other, hother, rfl, rfl⟩ := of_record?_startup hrecord
      rw [hother.unique hfirst (htoken'.trans htoken.symm)]
  · rw [hdir] at hread
    obtain ⟨after, hafter, -, -, rfl⟩ := AccountsDir.entry_of_reading hread
    obtain ⟨kept, hkept, rfl⟩ := (hone.mem_entries hplan).mp hafter
    exact ⟨kept.path, AccountsDir.reading_of_entry hkept.1⟩
  · obtain ⟨entry, hentry, -, rfl⟩ := of_record?_startup hrecord
    exact ⟨entry.path, AccountsDir.reading_of_entry hentry.1⟩
  · rw [hdir]
    exact hone.file?_of_unread hplan hread
  · rw [hdir]
    exact hone.file?_of_drops hplan hentry (mt keeps_startup_iff.mp hdropped)

/-- A startup sync of a directory at which the startup sync of another has stopped. -/
theorem samePool_of_interrupted (h : dir.Interrupted dir') :
    SamePool (AppPool.startup dir') (AppPool.startup dir) := by
  obtain ⟨plan, hplan⟩ := exists_startupPlan dir
  obtain ⟨plan', hplan'⟩ := exists_startupPlan dir'
  have hone := AccountsDir.keepsOne_startup .new dir
  have hone' := AccountsDir.keepsOne_startup .new dir'
  refine ⟨fun path => ?_, fun id => ?_, ?_⟩
  · rw [startup_eq hplan, startup_eq hplan']
    dsimp only
    cases hread : dir.reading path with
    | none =>
      have hread' : dir'.reading path = none := by
        rw [AccountsDir.reading, h.unread path hread]
        exact hread
      rw [hone.file?_of_unread hplan hread, hone'.file?_of_unread hplan' hread',
        h.unread path hread]
    | some token =>
      obtain ⟨entry, hentry, rfl, -, -⟩ := AccountsDir.entry_of_reading hread
      by_cases hsmallest : dir.Smallest entry
      · obtain ⟨disk, hmem, htoken, hdisk⟩ := h.survives hsmallest
        have hafter : dir'.Smallest ⟨entry.id, entry.path, disk⟩ :=
          h.smallest_iff.mpr ⟨hmem, entry, hsmallest, rfl, rfl, htoken.symm⟩
        have hfile := AccountsDir.file?_startup_smallest hplan' hafter
        rw [AccountsDir.file?_startup_smallest hplan hsmallest, ← h.settled_eq hsmallest hmem hdisk]
        exact hfile
      · rw [hone.file?_of_drops hplan hentry (mt keeps_startup_iff.mp hsmallest)]
        rcases h.dropped entry hentry hsmallest with hsame | ⟨hgone, -⟩
        · have hmem := (AccountsDir.mem_entries_congr hsame).mpr hentry
          refine hone'.file?_of_drops hplan' hmem fun hkeeps => hsmallest ?_
          obtain ⟨-, first, hfirst, hpath, -⟩ := h.smallest_iff.mp (keeps_startup_iff.mp hkeeps)
          rwa [← AccountsDir.entry_eq_of_path hfirst.1 hentry hpath]
        · have hread' : dir'.reading entry.path = none := by
            rw [AccountsDir.reading, hgone]
            rfl
          rw [hone'.file?_of_unread hplan' hread', hgone]
  · by_cases hid : ∃ entry, dir.Smallest entry ∧ entry.id = id
    · obtain ⟨entry, hsmallest, rfl⟩ := hid
      obtain ⟨disk, hmem, htoken, -⟩ := h.survives hsmallest
      have hafter : dir'.Smallest ⟨entry.id, entry.path, disk⟩ :=
        h.smallest_iff.mpr ⟨hmem, entry, hsmallest, rfl, rfl, htoken.symm⟩
      have hrecord := record?_startup hafter
      rw [h.merged_eq hsmallest hmem rfl] at hrecord
      rw [record?_startup hsmallest]
      exact hrecord
    · rw [record?_startup_eq_none fun entry hentry heq => hid ⟨entry, hentry, heq⟩]
      refine record?_startup_eq_none fun after hafter heq => hid ?_
      obtain ⟨-, entry, hentry, -, hid', -⟩ := h.smallest_iff.mp hafter
      exact ⟨entry, hentry, hid'.trans heq⟩
  · rw [startup_eq hplan, startup_eq hplan']
    exact (AccountStore.roundRobinCursor_applyDiskSyncPlan _ _).trans
      (AccountStore.roundRobinCursor_applyDiskSyncPlan _ _).symm

/-- For every directory, a startup sync leaves one file and one record for each token. Stopped
after any of its file operations, whatever the order in which the directory then lists its
files, another startup sync ends in the same pool. After it there is nothing left to do. -/
theorem startup_restartable (dir : AccountsDir) :
    Deduplicated dir (AppPool.startup dir) ∧
    (∀ plan, AccountStore.new.buildDiskSyncPlan (scanAccountsDir dir) .startup = some plan →
      ∀ ops, ops <+: AccountsDir.syncOps plan → ∀ dir' : AccountsDir,
        (∀ path, dir'.file? path = (dir.applyDiskOps ops).file? path) →
          SamePool (AppPool.startup dir') (AppPool.startup dir)) ∧
    ∀ plan, AccountStore.new.buildDiskSyncPlan
        (scanAccountsDir (AppPool.startup dir).dir) .startup = some plan →
      plan.writes = [] ∧ plan.removals = [] ∧
        SamePool (AppPool.startup (AppPool.startup dir).dir) (AppPool.startup dir) := by
  have hrestart : ∀ plan,
      AccountStore.new.buildDiskSyncPlan (scanAccountsDir dir) .startup = some plan →
      ∀ ops, ops <+: AccountsDir.syncOps plan → ∀ dir' : AccountsDir,
        (∀ path, dir'.file? path = (dir.applyDiskOps ops).file? path) →
          SamePool (AppPool.startup dir') (AppPool.startup dir) := by
    intro plan hplan ops hops dir' hsame
    rw [List.prefix_iff_eq_take.mp hops] at hsame
    exact samePool_of_interrupted ((AccountsDir.interrupted_of_take hplan _).congr hsame)
  refine ⟨deduplicated_startup dir, hrestart, fun plan' hplan' => ?_⟩
  obtain ⟨plan, hplan⟩ := exists_startupPlan dir
  have hdir : (AppPool.startup dir).dir = dir.executeDiskSyncFs plan := by rw [startup_eq hplan]
  have hone := AccountsDir.keepsOne_startup .new dir
  have hone' := AccountsDir.keepsOne_startup .new (AppPool.startup dir).dir
  obtain ⟨hwrites, hremovals, -⟩ := hone'.nothing_to_sync hplan' fun entry hentry other hother =>
    by
      rw [hdir] at hentry hother
      exact hone.entries_unique hplan hother hentry
  refine ⟨hwrites, hremovals, hrestart plan hplan _ List.prefix_rfl _ fun path => ?_⟩
  rw [hdir]
  rfl

end startup

end Codaze.App
