import Codaze.Accounts.Interrupted

/-!
# Files dropped into the accounts directory

On a pool whose records own their files, a rescan keeps these files and adds one account for
each token that is new, whatever other files the directory has been given.
-/
namespace Codaze.Accounts
open Foundation AccountsDir

/-- No record is detached, and each has its token, shared with no other, in its own file. -/
structure Owned (store : AccountStore) (dir : AccountsDir) : Prop where
  attached : ∀ id r, store.record? id = some r → r.detached = false
  holds : ∀ id r, store.record? id = some r → dir.reading r.filePath = some r.refreshToken
  distinct : ∀ id r id' r', store.record? id = some r → store.record? id' = some r' →
    r.refreshToken = r'.refreshToken → id = id'

/-- No record has the token. -/
def AccountStore.Unpooled (store : AccountStore) (token : String) : Prop :=
  ∀ id r, store.record? id = some r → r.refreshToken ≠ token

namespace Owned

variable {store : AccountStore} {dir : AccountsDir} {entry : DiskAccountEntry} {id token : String}
  {r : AccountRecord} {plan : DiskSyncPlan}

/-- The files of other names do not matter. -/
theorem congr {before : AccountsDir} (h : Owned store before)
    (hsame : ∀ id r, store.record? id = some r →
      dir.file? r.filePath = before.file? r.filePath) : Owned store dir where
  attached := h.attached
  holds id r hr := by
    rw [reading, hsame id r hr]
    exact h.holds id r hr
  distinct := h.distinct

theorem preferredExistingRecord_eq_none (h : store.Unpooled token) :
    store.preferredExistingRecord token = none := by
  cases hpreferred : store.preferredExistingRecord token with
  | none => rfl
  | some record =>
    obtain ⟨hrecord, -, htoken⟩ := AccountStore.preferredExistingRecord_spec hpreferred
    exact absurd htoken (h record.id record hrecord)

variable (h : Owned store dir) (hnamed : store.PathsNamed)

include h hnamed

/-- The file of a record is the one its token keeps. -/
theorem keeps_own (hr : store.record? id = some r) :
    ∃ own, Keeps store dir .rescan own ∧ own.id = id ∧ own.path = r.filePath ∧
      own.disk.refreshToken = r.refreshToken := by
  have hid := AccountStore.id_of_record? hr
  obtain ⟨own, hown, hpath, hstem, htoken⟩ := entry_of_reading (h.holds id r hr)
  have hownId : own.id = r.id := by rw [hstem, hnamed id r hr]
  refine ⟨own, ⟨hown, ?_⟩, hownId.trans hid, hpath, htoken⟩
  obtain ⟨target, htarget⟩ := store.exists_canonicalFor .rescan hown
  have hsame {record : AccountRecord}
      (hpreferred : store.preferredExistingRecord own.disk.refreshToken = some record) :
      record = r := by
    obtain ⟨hrecord, -, htoken'⟩ := AccountStore.preferredExistingRecord_spec hpreferred
    have hsameId := h.distinct _ _ _ _ hrecord hr (htoken'.trans htoken)
    rw [hsameId] at hrecord
    exact Option.some.inj (hrecord.symm.trans hr)
  have heq : target = ⟨own.id, own.path, own.disk, some own.path⟩ := by
    rcases htarget.cases with ⟨record, -, hpreferred, hid', hpath', hmatch⟩ | ⟨hnone, -⟩
    · obtain rfl := hsame hpreferred
      rcases hmatch with ⟨other, hother, -, hotherId, hdisk, hmatched⟩ | ⟨hunmatched, -⟩
      · obtain rfl := entry_eq_of_id hother hown (hotherId.trans hownId.symm)
        obtain ⟨tid, tpath, tdisk, tmatched⟩ := target
        simp only at hid' hpath' hdisk hmatched
        rw [hid', hpath', hdisk, hmatched, hownId, hpath]
      · exact absurd hownId (hunmatched own hown rfl)
    · rcases hnone with hmode | hnone
      · cases hmode
      · exact absurd htoken.symm (AccountStore.preferredExistingRecord_eq_none hnone hr
          (h.attached id r hr))
  rwa [heq] at htarget

theorem keepsOne : KeepsOne store dir .rescan := by
  intro entry hentry
  by_cases hpooled : store.Unpooled entry.disk.refreshToken
  · obtain ⟨first, -, hfirst, htoken⟩ := exists_smallest hentry
    refine ⟨first, keeps_of_smallest hfirst (.inr ?_), htoken⟩
    rw [htoken]
    exact preferredExistingRecord_eq_none hpooled
  · simp only [AccountStore.Unpooled, not_forall, not_not] at hpooled
    obtain ⟨id, r, hr, htoken⟩ := hpooled
    obtain ⟨own, hown, -, -, htoken'⟩ := h.keeps_own hnamed hr
    exact ⟨own, hown, htoken'.trans htoken⟩

/-- Every other kept file is the smallest of a new token, and its id is new. -/
theorem keeps_cases (hkept : Keeps store dir .rescan entry) :
    (∃ r, store.record? entry.id = some r ∧ entry.path = r.filePath ∧
      entry.disk.refreshToken = r.refreshToken) ∨
    dir.Smallest entry ∧ store.Unpooled entry.disk.refreshToken ∧
      store.record? entry.id = none := by
  by_cases hpooled : store.Unpooled entry.disk.refreshToken
  · refine .inr ⟨(keeps_iff_smallest (.inr (preferredExistingRecord_eq_none hpooled))).mp hkept,
      hpooled, ?_⟩
    cases hr : store.record? entry.id with
    | none => rfl
    | some r =>
      have hread := h.holds _ r hr
      rw [hnamed _ r hr, AccountStore.id_of_record? hr, ← entry_path_eq hkept.1,
        reading_of_entry hkept.1] at hread
      exact absurd (Option.some.inj hread).symm (hpooled _ r hr)
  · simp only [AccountStore.Unpooled, not_forall, not_not] at hpooled
    obtain ⟨id, r, hr, htoken⟩ := hpooled
    obtain ⟨own, hown, rfl, hpath, htoken'⟩ := h.keeps_own hnamed hr
    obtain rfl := hown.unique hkept (htoken'.trans htoken)
    exact .inl ⟨r, hr, hpath, htoken'⟩

section rescan

variable (hplan : store.buildDiskSyncPlan (scanAccountsDir dir) .rescan = some plan)

include hplan

/-- A record after the rescan with its file: only what comes from the file is new. -/
theorem rescanned (hr : store.record? id = some r) :
    (∃ label email, (store.applyDiskSyncPlan plan).record? id = some { r with label, email }) ∧
      (dir.executeDiskSyncFs plan).reading r.filePath = some r.refreshToken := by
  obtain ⟨own, hown, rfl, hpath, htoken⟩ := h.keeps_own hnamed hr
  have hone := h.keepsOne hnamed
  refine ⟨⟨(dir.merged own).label, (dir.merged own).email, ?_⟩, ?_⟩
  · rw [hone.record?_of_keeps hplan store hown, AccountStore.loaded, hr, Option.map_some,
      Option.getD_some, AccountStore.upsertRecord, hpath, h.attached _ r hr, ite_self]
  · rw [← hpath, ← htoken]
    exact hone.reading_of_keeps hplan hown

/-- A new account after the rescan with its file. -/
theorem added (hsmallest : dir.Smallest entry) (hnew : store.Unpooled entry.disk.refreshToken) :
    store.record? entry.id = none ∧
      (store.applyDiskSyncPlan plan).record? entry.id =
        some (AccountStore.newRecord entry.id entry.path (dir.merged entry)) ∧
      (dir.executeDiskSyncFs plan).reading entry.path = some entry.disk.refreshToken := by
  have hone := h.keepsOne hnamed
  have hkept : Keeps store dir .rescan entry :=
    keeps_of_smallest hsmallest (.inr (preferredExistingRecord_eq_none hnew))
  have hunknown : store.record? entry.id = none := by
    rcases h.keeps_cases hnamed hkept with ⟨r, hr, -, htoken⟩ | ⟨-, -, hnone⟩
    · exact absurd htoken.symm (hnew _ r hr)
    · exact hnone
  refine ⟨hunknown, ?_, hone.reading_of_keeps hplan hkept⟩
  rw [hone.record?_of_keeps hplan store hkept, AccountStore.loaded, hunknown]
  rfl

/-- Every record after the rescan is that of a kept file. -/
theorem exists_keeps (hr : (store.applyDiskSyncPlan plan).record? id = some r) :
    ∃ kept, Keeps store dir .rescan kept ∧ kept.id = id ∧
      r.refreshToken = kept.disk.refreshToken ∧ r.filePath = kept.path ∧ r.detached = false := by
  have hone := h.keepsOne hnamed
  by_cases hkept : ∃ kept, Keeps store dir .rescan kept ∧ kept.id = id
  · obtain ⟨kept, hkept, rfl⟩ := hkept
    refine ⟨kept, hkept, rfl, ?_⟩
    rw [hone.record?_of_keeps hplan store hkept, AccountStore.loaded] at hr
    obtain rfl := Option.some.inj hr
    rcases h.keeps_cases hnamed hkept with ⟨old, hold, hpath, htoken⟩ | ⟨-, -, hnone⟩
    · rw [hold]
      have hattached := h.attached _ old hold
      exact ⟨htoken.symm, rfl, by simp [AccountStore.upsertRecord, hattached]⟩
    · rw [hnone]
      exact ⟨rfl, rfl, rfl⟩
  · rw [hone.record?_of_unkept hplan store fun kept hkeeps heq => hkept ⟨kept, hkeeps, heq⟩] at hr
    obtain ⟨old, hold, -⟩ := Option.bind_eq_some_iff.mp hr
    obtain ⟨own, hown, hid, -⟩ := h.keeps_own hnamed hold
    exact absurd ⟨own, hown, hid⟩ hkept

/-- The records own their files after the rescan as they did before. -/
theorem rescan : Owned (store.applyDiskSyncPlan plan) (dir.executeDiskSyncFs plan) ∧
    (store.applyDiskSyncPlan plan).PathsNamed := by
  have hone := h.keepsOne hnamed
  refine ⟨⟨fun id r hr => ?_, fun id r hr => ?_, fun id r id' r' hr hr' htoken => ?_⟩,
    fun id r hr => ?_⟩
  · obtain ⟨-, -, -, -, -, hattached⟩ := h.exists_keeps hnamed hplan hr
    exact hattached
  · obtain ⟨kept, hkept, -, htoken, hpath, -⟩ := h.exists_keeps hnamed hplan hr
    rw [htoken, hpath]
    exact hone.reading_of_keeps hplan hkept
  · obtain ⟨kept, hkept, rfl, hkeptToken, -⟩ := h.exists_keeps hnamed hplan hr
    obtain ⟨kept', hkept', rfl, hkeptToken', -⟩ := h.exists_keeps hnamed hplan hr'
    rw [hkept.unique hkept' (hkeptToken.symm.trans (htoken.trans hkeptToken'))]
  · obtain ⟨kept, hkept, rfl, -, hpath, -⟩ := h.exists_keeps hnamed hplan hr
    rw [hpath, entry_path_eq hkept.1, AccountStore.id_of_record? hr]

/-- A rescan right after it finds nothing to do and changes no record. -/
theorem rescan_again {plan' : DiskSyncPlan}
    (hplan' : (store.applyDiskSyncPlan plan).buildDiskSyncPlan
      (scanAccountsDir (dir.executeDiskSyncFs plan)) .rescan = some plan') :
    plan'.writes = [] ∧ plan'.removals = [] ∧
      ∀ id, ((store.applyDiskSyncPlan plan).applyDiskSyncPlan plan').record? id =
        (store.applyDiskSyncPlan plan).record? id := by
  have hone := h.keepsOne hnamed
  obtain ⟨hafter, hnamed'⟩ := h.rescan hnamed hplan
  have hone' := hafter.keepsOne hnamed'
  obtain ⟨hwrites, hremovals, hmerged⟩ :=
    hone'.nothing_to_sync hplan' fun entry hentry other hother =>
    hone.entries_unique hplan hother hentry
  refine ⟨hwrites, hremovals, fun id => ?_⟩
  cases hr : (store.applyDiskSyncPlan plan).record? id with
  | none =>
    rw [hone'.record?_of_unkept hplan' _ fun kept hkept heq => ?_, hr]
    · rfl
    · -- a kept file is that of a record
      obtain ⟨first, hfirst, rfl⟩ := (hone.mem_entries hplan).mp hkept.1
      rw [← heq, hone.record?_of_keeps hplan store hfirst] at hr
      cases hr
  | some r =>
    obtain ⟨own, hown, rfl, hpath, -⟩ := hafter.keeps_own hnamed' hr
    rw [hone'.record?_of_keeps hplan' _ hown, hmerged own hown]
    -- loading the same document again changes nothing
    obtain ⟨first, hfirst, rfl⟩ := (hone.mem_entries hplan).mp hown.1
    dsimp only at hr ⊢
    rw [AccountStore.loaded, hr, Option.map_some, Option.getD_some]
    rw [hone.record?_of_keeps hplan store hfirst] at hr
    obtain rfl := Option.some.inj hr
    unfold AccountStore.loaded
    cases store.record? first.id <;> simp [AccountStore.upsertRecord, AccountStore.newRecord]

end rescan

end Owned

/-- What a rescan makes of a pool and its directory: the records with their files, one new
account for each new token, in the smallest file that held it, and nothing else that is valid. -/
structure Rescanned (store : AccountStore) (dir : AccountsDir) (store' : AccountStore)
    (dir' : AccountsDir) : Prop where
  kept : ∀ id r, store.record? id = some r →
    (∃ label email, store'.record? id = some { r with label, email }) ∧
      dir'.reading r.filePath = some r.refreshToken
  added : ∀ token, dir.HoldsToken token → store.Unpooled token → ∃ entry disk,
    dir.Smallest entry ∧ entry.disk.refreshToken = token ∧ disk.refreshToken = token ∧
      store.record? entry.id = none ∧
      store'.record? entry.id = some (AccountStore.newRecord entry.id entry.path disk) ∧
      dir'.reading entry.path = some token ∧
      ∀ id r, store'.record? id = some r → r.refreshToken = token → id = entry.id
  others : ∀ id r, store'.record? id = some r → store.record? id = none →
    dir.HoldsToken r.refreshToken ∧ store.Unpooled r.refreshToken
  gone : ∀ path token, dir.reading path = some token →
    (∀ id r, store'.record? id = some r → r.filePath ≠ path) → dir'.file? path = none
  untouched : ∀ path, dir.reading path = none → dir'.file? path = dir.file? path

theorem rescanned_of_owned {store : AccountStore} {dir : AccountsDir} {plan : DiskSyncPlan}
    (h : Owned store dir) (hnamed : store.PathsNamed)
    (hplan : store.buildDiskSyncPlan (scanAccountsDir dir) .rescan = some plan) :
    Rescanned store dir (store.applyDiskSyncPlan plan) (dir.executeDiskSyncFs plan) := by
  have hone := h.keepsOne hnamed
  refine ⟨fun id r hr => h.rescanned hnamed hplan hr, fun token hholds hnew => ?_,
    fun id r hr hunknown => ?_, fun path token hread hother => ?_, fun path hread => ?_⟩
  · obtain ⟨path, hread⟩ := hholds
    obtain ⟨entry, hentry, -, -, rfl⟩ := entry_of_reading hread
    obtain ⟨first, -, hfirst, htoken⟩ := exists_smallest hentry
    rw [← htoken] at hnew ⊢
    obtain ⟨hunknown, hrecord, hread'⟩ := h.added hnamed hplan hfirst hnew
    refine ⟨first, dir.merged first, hfirst, rfl, rfl, hunknown, hrecord, hread',
      fun id r hr htoken' => ?_⟩
    obtain ⟨hafter, -⟩ := h.rescan hnamed hplan
    exact hafter.distinct id r _ _ hr hrecord htoken'
  · obtain ⟨kept, hkept, rfl, htoken, -⟩ := h.exists_keeps hnamed hplan hr
    rcases h.keeps_cases hnamed hkept with ⟨old, hold, -⟩ | ⟨-, hnew, -⟩
    · rw [hunknown] at hold
      cases hold
    · rw [htoken]
      exact ⟨⟨kept.path, reading_of_entry hkept.1⟩, hnew⟩
  · obtain ⟨entry, hentry, rfl, -, -⟩ := entry_of_reading hread
    refine hone.file?_of_drops hplan hentry fun hkept => ?_
    -- a kept file has a record
    have hrecord := hone.record?_of_keeps hplan store hkept
    obtain ⟨first, hfirst, hid, -, hpath, -⟩ := h.exists_keeps hnamed hplan hrecord
    refine hother _ _ hrecord (hpath.trans ?_)
    rw [entry_eq_of_id hfirst.1 hkept.1 hid]
  · exact hone.file?_of_unread hplan hread

end Codaze.Accounts
