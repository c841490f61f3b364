import Codaze.Accounts.Operations
import Codaze.Accounts.SyncPlan

/-!
# When a disk sync keeps every credential

A token group without a preferred record keeps its first file. A group with one moves
to the record's own file, and all depends on what is there: the group's token, nothing,
or an unreadable file that the sync happens to rewrite. Otherwise a token is lost.
-/
namespace Codaze.Accounts
open Foundation

/-- Every record keeps its file under its own id. -/
abbrev AccountStore.PathsNamed (store : AccountStore) : Prop :=
  store.Holds fun record => record.filePath = ⟨record.id⟩

theorem mergeDuplicateAccountFiles_ne_iff {base : AccountFile} {group : List DiskAccountEntry} :
    mergeDuplicateAccountFiles base group ≠ base ↔
      (base.label = none ∧ ∃ entry ∈ group, entry.disk.label ≠ none) ∨
        (base.email = none ∧ ∃ entry ∈ group, entry.disk.email ≠ none) := by
  obtain ⟨token, label, email⟩ := base
  have hor (value : Option String) (field : DiskAccountEntry → Option String) :
      value.or (group.findSome? field) ≠ value ↔
        value = none ∧ ∃ entry ∈ group, field entry ≠ none := by
    cases value with
    | none => simp
    | some value => simp
  rw [← hor label, ← hor email]
  simp only [mergeDuplicateAccountFiles, ne_eq, AccountFile.mk.injEq, true_and]
  tauto

namespace AccountsDir

variable {dir : AccountsDir} {store : AccountStore} {mode : SyncMode} {plan : DiskSyncPlan}

/-- The file a rescan moves the token of `record` to is absent, or it holds the token,
or it is unreadable and a file of the group has metadata the record lacks. -/
def OwnFileKeeps (dir : AccountsDir) (record : AccountRecord) : Prop :=
  dir.file? record.filePath = none ∨
    dir.reading record.filePath = some record.refreshToken ∨
    dir.reading record.filePath = none ∧
      ∃ entry ∈ (scanAccountsDir dir).entries, entry.disk.refreshToken = record.refreshToken ∧
        (record.label = none ∧ entry.disk.label ≠ none ∨
          record.email = none ∧ entry.disk.email ≠ none)

theorem reading_executeDiskSyncFs (dir : AccountsDir) (plan : DiskSyncPlan)
    (path : AccountPath) :
    (dir.executeDiskSyncFs plan).reading path =
      if path ∈ plan.removals then none
      else match lastWrite plan.writes path with
        | some disk => normalizeRefreshToken disk.refreshToken
        | none => dir.reading path := by
  rw [reading, file?_executeDiskSyncFs]
  split
  next => rfl
  next =>
    cases lastWrite plan.writes path with
    | none => rfl
    | some disk => rfl

/-- `token` writes to `path` in the plan. -/
def Writes (store : AccountStore) (dir : AccountsDir) (mode : SyncMode) (path : AccountPath)
    (token : String) : Prop :=
  ∃ target, store.CanonicalFor (scanAccountsDir dir).entries mode token target ∧
    target.path = path ∧
      (mergeDuplicateAccountFiles target.disk (tokenGroup (scanAccountsDir dir).entries token) ≠
        target.disk ∨ dir.file? path = none)

section Plan

variable (hplan : store.buildDiskSyncPlan (scanAccountsDir dir) mode = some plan)

include hplan

/-- A written document holds the token of its group. -/
theorem writes_of_mem {path : AccountPath} {disk : AccountFile} (h : (path, disk) ∈ plan.writes) :
    ∃ token, Writes store dir mode path token ∧
      normalizeRefreshToken disk.refreshToken = some token := by
  obtain ⟨token, target, htarget, rfl, rfl, hneeded⟩ :=
    (AccountStore.mem_plan_writes hplan).mp h
  refine ⟨token, ⟨target, htarget, rfl, ?_⟩, ?_⟩
  · simpa [mem_observedPaths] using hneeded
  · rw [mergeDuplicateAccountFiles_token, htarget.token]
    obtain ⟨⟨entry, hentry, rfl⟩, -⟩ := htarget
    exact normalize_of_entry hentry

theorem mem_of_writes {path : AccountPath} {token : String}
    (h : Writes store dir mode path token) : ∃ disk, (path, disk) ∈ plan.writes := by
  obtain ⟨target, htarget, hpath, hneeded⟩ := h
  refine ⟨_, (AccountStore.mem_plan_writes hplan).mpr ⟨token, target, htarget, hpath, rfl, ?_⟩⟩
  simpa [mem_observedPaths] using hneeded

/-- What a path reads after the sync, it was written by the group, or it read before. -/
theorem of_reading_executeDiskSyncFs {path : AccountPath} {token : String}
    (h : (dir.executeDiskSyncFs plan).reading path = some token) :
    path ∉ plan.removals ∧
      (Writes store dir mode path token ∨ dir.reading path = some token) := by
  rw [reading_executeDiskSyncFs] at h
  split at h
  next => cases h
  next hkept =>
    refine ⟨hkept, ?_⟩
    split at h
    next disk hlast =>
      obtain ⟨token', hwrites, hnorm⟩ := writes_of_mem hplan (mem_of_lastWrite hlast)
      obtain rfl := Option.some.inj (hnorm.symm.trans h)
      exact .inl hwrites
    next => exact .inr h

/-- A path that is not removed and that only one group writes holds that group's token. -/
theorem reading_of_sole_writer {path : AccountPath} {token : String}
    (hkept : path ∉ plan.removals)
    (hsole : ∀ token', Writes store dir mode path token' → token' = token)
    (hhas : Writes store dir mode path token ∨ dir.reading path = some token) :
    (dir.executeDiskSyncFs plan).reading path = some token := by
  rw [reading_executeDiskSyncFs, if_neg hkept]
  rcases hlast : lastWrite plan.writes path with _ | disk
  · rcases hhas with hwrites | hread
    · obtain ⟨disk, hdisk⟩ := mem_of_writes hplan hwrites
      obtain ⟨disk', hdisk'⟩ := exists_lastWrite hdisk
      simp [hlast] at hdisk'
    · exact hread
  · obtain ⟨token', hwrites, hnorm⟩ := writes_of_mem hplan (mem_of_lastWrite hlast)
    rw [← hsole token' hwrites]
    exact hnorm

/-- The one entry of its group a plan leaves alone. -/
theorem not_mem_removals {entry : DiskAccountEntry} {target : CanonicalTarget}
    (hentry : entry ∈ (scanAccountsDir dir).entries)
    (htarget : store.CanonicalFor
      (scanAccountsDir dir).entries mode entry.disk.refreshToken target) :
    entry.path ∉ plan.removals ↔ target.matchedGroupPath = some entry.path := by
  rw [AccountStore.mem_plan_removals hplan, iff_comm, ← not_iff_not, not_not]
  constructor
  · intro hunmatched
    exact ⟨_, target, htarget, hunmatched, entry, hentry, rfl, rfl⟩
  · rintro ⟨token, target', htarget', hunmatched, entry', hentry', rfl, hpath⟩
    obtain rfl := entry_eq_of_path hentry' hentry hpath
    obtain rfl := htarget.unique htarget'
    exact hunmatched

theorem reading_of_mem_removals {path : AccountPath} (h : path ∈ plan.removals) :
    ∃ token, dir.reading path = some token := by
  obtain ⟨token, -, -, -, entry, hentry, -, rfl⟩ := (AccountStore.mem_plan_removals hplan).mp h
  exact ⟨_, reading_of_entry hentry⟩

end Plan

/-- A group that writes over a file of another group has a preferred record there. -/
theorem Writes.cases (hnamed : store.PathsNamed) {path : AccountPath} {token : String}
    (h : Writes store dir mode path token) :
    dir.reading path = some token ∨ ∃ record, mode = .rescan ∧
      store.preferredExistingRecord token = some record ∧ record.filePath = path ∧
      store.record? path.stem = some record := by
  obtain ⟨target, htarget, rfl, -⟩ := h
  rcases htarget.cases with ⟨record, hmode, hpreferred, -, hpath, -⟩ |
    ⟨-, entry, hentry, rfl, rfl⟩
  · obtain ⟨hrecord, -, -⟩ := AccountStore.preferredExistingRecord_spec hpreferred
    refine .inr ⟨record, hmode, hpreferred, hpath.symm, ?_⟩
    rw [hpath, hnamed _ _ hrecord]
    exact hrecord
  · exact .inl (reading_of_entry hentry)

section Main

variable (hnamed : store.PathsNamed)
  (hplan : store.buildDiskSyncPlan (scanAccountsDir dir) mode = some plan)

include hnamed

/-- The own file of a preferred record, where it reads as something, is the entry of
the record's id. -/
theorem own_entry {record : AccountRecord} {token : String}
    (hrecord : store.record? record.id = some record)
    (hread : dir.reading record.filePath = some token) :
    ∃ entry ∈ (scanAccountsDir dir).entries, entry.path = record.filePath ∧
      entry.id = record.id ∧ entry.disk.refreshToken = token := by
  obtain ⟨entry, hentry, hpath, hid, htoken⟩ := entry_of_reading hread
  exact ⟨entry, hentry, hpath, by rw [hid, hnamed _ _ hrecord], htoken⟩

/-- Where the own file of the preferred record does not read as the group's token, the
target has no entry of the group. -/
theorem unmatched_of_reading_ne {record : AccountRecord} {token : String}
    {target : CanonicalTarget}
    (htarget : store.CanonicalFor (scanAccountsDir dir).entries mode token target)
    (hmode : mode = .rescan) (hpreferred : store.preferredExistingRecord token = some record)
    (hread : dir.reading record.filePath ≠ some token) :
    target.path = record.filePath ∧ target.disk = ⟨token, record.label, record.email⟩ ∧
      target.matchedGroupPath = none := by
  obtain ⟨hrecord, -, -⟩ := AccountStore.preferredExistingRecord_spec hpreferred
  rcases htarget.cases with ⟨record', -, hpreferred', -, hpath, hmatch⟩ | ⟨hnone, -⟩
  · obtain rfl := Option.some.inj (hpreferred.symm.trans hpreferred')
    rcases hmatch with ⟨entry, hentry, rfl, hid, -⟩ | ⟨-, hdisk, hmatched⟩
    · refine absurd (reading_of_entry hentry) ?_
      rwa [entry_path_eq hentry, hid, ← hnamed _ _ hrecord]
    · exact ⟨hpath, hdisk, hmatched⟩
  · simp [hmode, hpreferred] at hnone

include hplan

/-- Under the condition the sync keeps the token of an entry. -/
theorem holdsToken_of_ownFileKeeps
    (hkeeps : mode = .rescan → ∀ entry ∈ (scanAccountsDir dir).entries, ∀ record,
      store.preferredExistingRecord entry.disk.refreshToken = some record →
        OwnFileKeeps dir record)
    {entry : DiskAccountEntry} (hentry : entry ∈ (scanAccountsDir dir).entries) :
    (dir.executeDiskSyncFs plan).HoldsToken entry.disk.refreshToken := by
  obtain ⟨target, htarget⟩ := store.exists_canonicalFor mode hentry
  -- a file that reads as the token and is matched by its group stays
  have hmatched {own : DiskAccountEntry} (hown : own ∈ (scanAccountsDir dir).entries)
      (htoken : own.disk.refreshToken = entry.disk.refreshToken)
      (hpath : target.matchedGroupPath = some own.path) :
      (dir.executeDiskSyncFs plan).HoldsToken entry.disk.refreshToken := by
    rw [← htoken] at htarget ⊢
    refine ⟨own.path, reading_of_sole_writer hplan
      ((not_mem_removals hplan hown htarget).mpr hpath) ?_ (.inr (reading_of_entry hown))⟩
    intro token' hwrites
    have hread := reading_of_entry hown
    rcases hwrites.cases hnamed with hread' | ⟨record, hmode, hpreferred, hfile, -⟩
    · exact Option.some.inj (hread'.symm.trans hread)
    · obtain ⟨target', ⟨⟨entry', hentry', htoken'⟩, -⟩, -⟩ := hwrites
      obtain ⟨-, -, hrefresh⟩ := AccountStore.preferredExistingRecord_spec hpreferred
      rcases hkeeps hmode entry' hentry' record (htoken' ▸ hpreferred) with
        hnone | hsame | ⟨hnone, -⟩
      · simp [reading, ← hfile, hnone] at hread
      · rw [hfile, hread, hrefresh] at hsame
        exact (Option.some.inj hsame).symm
      · rw [hfile, hread] at hnone
        cases hnone
  rcases htarget.cases with ⟨record, hmode, hpreferred, -, hpath, hmatch⟩ |
    ⟨-, first, hfirst, htoken, rfl⟩
  · rcases hmatch with ⟨own, hown, htoken, -, -, hpath'⟩ | ⟨hother, hdisk, -⟩
    · exact hmatched hown htoken hpath'
    · obtain ⟨hrecord, -, hrefresh⟩ := AccountStore.preferredExistingRecord_spec hpreferred
      -- the group has no entry of the record's id, so nothing reads at its path
      have hread : dir.reading record.filePath = none := by
        rcases hkeeps hmode entry hentry record hpreferred with hnone | hsame | ⟨hnone, -⟩
        · simp [reading, hnone]
        · obtain ⟨own, hown, -, hid, htoken⟩ := own_entry hnamed hrecord hsame
          exact absurd hid (hother own hown (htoken.trans hrefresh))
        · exact hnone
      refine ⟨record.filePath, reading_of_sole_writer hplan (fun hremoved => ?_) ?_ (.inl ?_)⟩
      · obtain ⟨token, htoken⟩ := reading_of_mem_removals hplan hremoved
        simp [hread] at htoken
      · intro token' hwrites
        rcases hwrites.cases hnamed with hread' | ⟨record', -, hpreferred', -, hrecord'⟩
        · simp [hread] at hread'
        · rw [hnamed _ _ hrecord] at hrecord'
          obtain rfl := Option.some.inj (hrecord.symm.trans hrecord')
          obtain ⟨-, -, hrefresh'⟩ := AccountStore.preferredExistingRecord_spec hpreferred'
          exact hrefresh'.symm.trans hrefresh
      · refine ⟨target, htarget, hpath, ?_⟩
        rw [mergeDuplicateAccountFiles_ne_iff, hdisk]
        rcases hkeeps hmode entry hentry record hpreferred with hnone | hsame
          | ⟨-, e, he, htoken, hmeta⟩
        · exact .inr hnone
        · simp [hread] at hsame
        · have hgroup := mem_tokenGroup.mpr ⟨he, htoken.trans hrefresh⟩
          rcases hmeta with ⟨hlabel, hhas⟩ | ⟨hemail, hhas⟩
          · exact .inl (.inl ⟨hlabel, e, hgroup, hhas⟩)
          · exact .inl (.inr ⟨hemail, e, hgroup, hhas⟩)
  · exact hmatched hfirst htoken rfl

/-- A sync that keeps every token meets the condition. -/
theorem ownFileKeeps_of_holdsToken
    (hholds : ∀ entry ∈ (scanAccountsDir dir).entries,
      (dir.executeDiskSyncFs plan).HoldsToken entry.disk.refreshToken)
    (hmode : mode = .rescan) {entry : DiskAccountEntry} {record : AccountRecord}
    (hentry : entry ∈ (scanAccountsDir dir).entries)
    (hpreferred : store.preferredExistingRecord entry.disk.refreshToken = some record) :
    OwnFileKeeps dir record := by
  obtain ⟨hrecord, -, hrefresh⟩ := AccountStore.preferredExistingRecord_spec hpreferred
  by_cases hown : dir.reading record.filePath = some entry.disk.refreshToken
  · exact .inr (.inl (hrefresh ▸ hown))
  obtain ⟨target, htarget⟩ := store.exists_canonicalFor mode hentry
  obtain ⟨hpath, hdisk, hmatched⟩ :=
    unmatched_of_reading_ne hnamed htarget hmode hpreferred hown
  -- the group's own files all go, so its token can only be in the record's file
  obtain ⟨path, hread⟩ := hholds entry hentry
  obtain ⟨hkept, hwrites⟩ := of_reading_executeDiskSyncFs hplan hread
  have hwritten : Writes store dir mode path entry.disk.refreshToken := by
    refine hwrites.resolve_right fun hbefore => ?_
    obtain ⟨own, hown, rfl, -, htoken⟩ := entry_of_reading hbefore
    rw [not_mem_removals hplan hown (htoken ▸ htarget), hmatched] at hkept
    cases hkept
  obtain ⟨target', htarget', hpath', hneeded⟩ := hwritten
  obtain rfl := htarget.unique htarget'
  obtain rfl : record.filePath = path := hpath.symm.trans hpath'
  rcases hfile : dir.reading record.filePath with _ | token
  · rcases hneeded with hmerged | hnone
    · refine .inr (.inr ⟨hfile, ?_⟩)
      rw [mergeDuplicateAccountFiles_ne_iff, hdisk] at hmerged
      rcases hmerged with ⟨hlabel, e, he, hhas⟩ | ⟨hemail, e, he, hhas⟩
      · obtain ⟨he, htoken⟩ := mem_tokenGroup.mp he
        exact ⟨e, he, htoken.trans hrefresh.symm, .inl ⟨hlabel, hhas⟩⟩
      · obtain ⟨he, htoken⟩ := mem_tokenGroup.mp he
        exact ⟨e, he, htoken.trans hrefresh.symm, .inr ⟨hemail, hhas⟩⟩
    · exact .inl hnone
  · -- a readable file of another token: that token has lost its place to this one
    exfalso
    obtain ⟨other, hother, hotherPath, hotherId, rfl⟩ := own_entry hnamed hrecord hfile
    obtain ⟨target', htarget'⟩ := store.exists_canonicalFor mode hother
    have hstays : target'.matchedGroupPath = some other.path :=
      (not_mem_removals hplan hother htarget').mp (hotherPath ▸ hkept)
    have hplace : target'.path = other.path := by
      rcases htarget'.cases with ⟨record', -, hpreferred', -, -, hmatch⟩ |
        ⟨-, first, hfirst, -, rfl⟩
      · rcases hmatch with ⟨e, he, -, hid, -, hmatched'⟩ | ⟨-, -, hmatched'⟩
        · obtain rfl := entry_eq_of_path he hother
            (Option.some.inj (hmatched'.symm.trans hstays))
          obtain ⟨hrecord', -, hrefresh'⟩ := AccountStore.preferredExistingRecord_spec hpreferred'
          rw [← hid, hotherId] at hrecord'
          obtain rfl := Option.some.inj (hrecord.symm.trans hrecord')
          rw [hfile, ← hrefresh', hrefresh] at hown
          exact absurd rfl hown
        · rw [hmatched'] at hstays
          cases hstays
      · exact Option.some.inj hstays
    obtain ⟨path', hread'⟩ := hholds other hother
    obtain ⟨hkept', hwrites'⟩ := of_reading_executeDiskSyncFs hplan hread'
    have hsame : path' = record.filePath := by
      rcases hwrites' with ⟨target'', htarget'', rfl, -⟩ | hbefore
      · obtain rfl := htarget'.unique htarget''
        rw [hplace, hotherPath]
      · obtain ⟨e, he, rfl, -, htoken⟩ := entry_of_reading hbefore
        have hstays' := (not_mem_removals hplan he (htoken ▸ htarget')).mp hkept'
        rw [← hotherPath]
        exact Option.some.inj (hstays'.symm.trans hstays)
    rw [hsame, hread] at hread'
    exact hown (hfile.trans hread'.symm)

/-- A sync keeps every scanned token exactly if it is the startup sync or the own file of
each record a rescan prefers keeps the record's token. -/
theorem executeDiskSyncFs_keeps_tokens_iff :
    (∀ entry ∈ (scanAccountsDir dir).entries,
      (dir.executeDiskSyncFs plan).HoldsToken entry.disk.refreshToken) ↔
    mode = .startup ∨ ∀ entry ∈ (scanAccountsDir dir).entries, ∀ record,
      store.preferredExistingRecord entry.disk.refreshToken = some record →
        OwnFileKeeps dir record := by
  constructor
  · intro hholds
    cases mode with
    | startup => exact .inl rfl
    | rescan =>
      exact .inr fun entry hentry record hpreferred =>
        ownFileKeeps_of_holdsToken hnamed hplan hholds rfl hentry hpreferred
  · intro hkeeps entry hentry
    refine holdsToken_of_ownFileKeeps hnamed hplan (fun hmode => ?_) hentry
    exact hkeeps.resolve_left (by simp [hmode])

end Main

/-- One attached account, without metadata, under the id `a`. -/
def loneAccount : AccountStore := AccountStore.new.insert
  (AccountStore.newRecord "a" ⟨"a"⟩ ⟨"rt_1", none, none⟩)

theorem loneAccount_pathsNamed : loneAccount.PathsNamed := by
  intro id record h
  rw [loneAccount, AccountStore.record?_insert] at h
  split at h
  next =>
    obtain rfl := Option.some.inj h
    rfl
  next => simp at h

/-- The account's own file `a.json` next to another file with the same token. -/
def duplicatedDir (own : FileContent) : AccountsDir where
  files := (AList.singleton ⟨"a"⟩ own).insert ⟨"b"⟩ (.account ⟨"rt_1", none, none⟩)
  trash := []

/-- `executeDiskSyncFs_keeps_tokens_iff` where both files are valid. -/
theorem executeDiskSyncFs_keeps_duplicated :
    let dir := duplicatedDir (.account ⟨"rt_1", none, none⟩)
    let plan := (loneAccount.buildDiskSyncPlan (scanAccountsDir dir) .rescan).get
      (AccountStore.buildDiskSyncPlan_isSome _ _ _)
    (∀ entry ∈ (scanAccountsDir dir).entries,
      (dir.executeDiskSyncFs plan).HoldsToken entry.disk.refreshToken) ↔
    SyncMode.rescan = .startup ∨ ∀ entry ∈ (scanAccountsDir dir).entries, ∀ record,
      loneAccount.preferredExistingRecord entry.disk.refreshToken = some record →
        OwnFileKeeps dir record :=
  executeDiskSyncFs_keeps_tokens_iff loneAccount_pathsNamed (Option.some_get _).symm

/-- With `a.json` unreadable the rescan removes `b.json`, the last holder of the token, and
does not rewrite `a.json`. -/
theorem executeDiskSyncFs_loses_token :
    ∃ (store : AccountStore) (dir : AccountsDir) (plan : DiskSyncPlan), store.PathsNamed ∧
      store.buildDiskSyncPlan (scanAccountsDir dir) .rescan = some plan ∧
      ∃ entry ∈ (scanAccountsDir dir).entries,
        ¬ (dir.executeDiskSyncFs plan).HoldsToken entry.disk.refreshToken := by
  refine ⟨loneAccount, duplicatedDir .invalid,
    (loneAccount.buildDiskSyncPlan (scanAccountsDir (duplicatedDir .invalid)) .rescan).get
      (AccountStore.buildDiskSyncPlan_isSome _ _ _),
    loneAccount_pathsNamed, (Option.some_get _).symm,
    ⟨"b", ⟨"b"⟩, ⟨"rt_1", none, none⟩⟩, ?_, ?_⟩
  · decide +kernel
  · decide +kernel

end AccountsDir

end Codaze.Accounts
