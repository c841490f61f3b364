import Codaze.Accounts.Disk

/-!
# What a scan reads, and what file operations leave behind

`reading dir path` is the refresh token the scan would take from a path, `none` for a
missing and for an unreadable file. The effect of a sync on one path has a closed
form: removed paths are gone, otherwise the last write to it stands.
-/
namespace Codaze.Accounts
open Foundation

theorem normalizeRefreshToken_idem {s token : String} (h : normalizeRefreshToken s = some token) :
    normalizeRefreshToken token = some token := by
  simp only [normalizeRefreshToken] at h ⊢
  split at h
  next => cases h
  next hne =>
    obtain rfl := Option.some.inj h
    simp [hne]

namespace FileContent

/-- The token of a file's contents. -/
def token? : FileContent → Option String
  | .invalid => none
  | .account disk => normalizeRefreshToken disk.refreshToken

@[simp] theorem token?_account (disk : AccountFile) :
    token? (.account disk) = normalizeRefreshToken disk.refreshToken := rfl

theorem accountEntry_token (path : AccountPath) (content : FileContent) :
    (content.accountEntry path).map (·.disk.refreshToken) = content.token? := by
  cases content with
  | invalid => rfl
  | account disk => simp [accountEntry, Function.comp_def]

theorem accountEntry_path {path : AccountPath} {content : FileContent} {entry : DiskAccountEntry}
    (h : content.accountEntry path = some entry) : entry.path = path ∧ entry.id = path.stem := by
  cases content with
  | invalid => cases h
  | account disk =>
    obtain ⟨token, -, rfl⟩ := Option.map_eq_some_iff.mp h
    exact ⟨rfl, rfl⟩

end FileContent

namespace AccountsDir

variable {dir : AccountsDir}

/-- The token a scan reads at a path. -/
def reading (dir : AccountsDir) (path : AccountPath) : Option String :=
  (dir.file? path).bind FileContent.token?

/-- Some valid account file holds the token. -/
def HoldsToken (dir : AccountsDir) (token : String) : Prop :=
  ∃ path, dir.reading path = some token

theorem holdsToken_iff_mem {token : String} :
    dir.HoldsToken token ↔ ∃ e ∈ dir.files.entries, e.2.token? = some token := by
  constructor
  · rintro ⟨path, hread⟩
    obtain ⟨content, hfile, htoken⟩ := Option.bind_eq_some_iff.mp hread
    exact ⟨⟨path, content⟩, AList.mem_lookup_iff.mp hfile, htoken⟩
  · rintro ⟨⟨path, content⟩, hmem, htoken⟩
    exact ⟨path, Option.bind_eq_some_iff.mpr ⟨content, AList.mem_lookup_iff.mpr hmem, htoken⟩⟩

instance (token : String) : Decidable (dir.HoldsToken token) :=
  decidable_of_iff _ holdsToken_iff_mem.symm

theorem mem_scanAccountsDir_entries {entry : DiskAccountEntry} :
    entry ∈ (scanAccountsDir dir).entries ↔
      ∃ content, dir.file? entry.path = some content ∧
        content.accountEntry entry.path = some entry := by
  simp only [scanAccountsDir, List.mem_filterMap, file?, ← Option.mem_def, AList.mem_lookup_iff]
  constructor
  · rintro ⟨⟨path, content⟩, hmem, hentry⟩
    obtain rfl := (FileContent.accountEntry_path hentry).1
    exact ⟨content, hmem, hentry⟩
  · rintro ⟨content, hmem, hentry⟩
    exact ⟨⟨entry.path, content⟩, hmem, hentry⟩

theorem mem_observedPaths {path : AccountPath} :
    path ∈ (scanAccountsDir dir).observedPaths ↔ (dir.file? path).isSome = true := by
  simp [scanAccountsDir, file?, AList.lookup_isSome, AList.mem_keys]

theorem reading_of_entry {entry : DiskAccountEntry}
    (h : entry ∈ (scanAccountsDir dir).entries) :
    dir.reading entry.path = some entry.disk.refreshToken := by
  obtain ⟨content, hfile, hentry⟩ := mem_scanAccountsDir_entries.mp h
  simp [reading, hfile, ← FileContent.accountEntry_token entry.path, hentry]

theorem entry_of_reading {path : AccountPath} {token : String}
    (h : dir.reading path = some token) :
    ∃ entry ∈ (scanAccountsDir dir).entries, entry.path = path ∧ entry.id = path.stem ∧
      entry.disk.refreshToken = token := by
  obtain ⟨content, hfile, htoken⟩ := Option.bind_eq_some_iff.mp h
  rw [← FileContent.accountEntry_token path] at htoken
  obtain ⟨entry, hentry, hrefresh⟩ := Option.map_eq_some_iff.mp htoken
  obtain ⟨hpath, hid⟩ := FileContent.accountEntry_path hentry
  subst hpath
  exact ⟨entry, mem_scanAccountsDir_entries.mpr ⟨content, hfile, hentry⟩, rfl, hid, hrefresh⟩

/-- The token of a scanned entry is in normal form. -/
theorem normalize_of_entry {entry : DiskAccountEntry}
    (h : entry ∈ (scanAccountsDir dir).entries) :
    normalizeRefreshToken entry.disk.refreshToken = some entry.disk.refreshToken := by
  have hread := reading_of_entry h
  obtain ⟨content, -, htoken⟩ := Option.bind_eq_some_iff.mp hread
  cases content with
  | invalid => cases htoken
  | account disk => exact normalizeRefreshToken_idem htoken

/-- Two entries of one path are one entry. -/
theorem entry_eq_of_path {entry entry' : DiskAccountEntry}
    (h : entry ∈ (scanAccountsDir dir).entries) (h' : entry' ∈ (scanAccountsDir dir).entries)
    (hpath : entry.path = entry'.path) : entry = entry' := by
  obtain ⟨content, hfile, hentry⟩ := mem_scanAccountsDir_entries.mp h
  obtain ⟨content', hfile', hentry'⟩ := mem_scanAccountsDir_entries.mp h'
  rw [hpath] at hfile hentry
  obtain rfl := Option.some.inj (hfile.symm.trans hfile')
  exact Option.some.inj (hentry.symm.trans hentry')

theorem entry_path_eq {entry : DiskAccountEntry} (h : entry ∈ (scanAccountsDir dir).entries) :
    entry.path = ⟨entry.id⟩ := by
  obtain ⟨content, -, hentry⟩ := mem_scanAccountsDir_entries.mp h
  rw [(FileContent.accountEntry_path hentry).2]

/-- The file of an id that failed to scan reads as nothing. -/
theorem reading_of_mem_failedFileIds {id : String}
    (h : id ∈ (scanAccountsDir dir).failedFileIds) : dir.reading ⟨id⟩ = none := by
  simp only [scanAccountsDir, List.mem_toFinset, List.mem_map, List.mem_filter] at h
  obtain ⟨⟨path, content⟩, ⟨hmem, hfailed⟩, rfl⟩ := h
  have hfile : dir.file? path = some content := AList.mem_lookup_iff.mpr hmem
  have htoken := FileContent.accountEntry_token path content
  rw [Option.isNone_iff_eq_none.mp hfailed] at htoken
  simp [reading, hfile, ← htoken]

theorem file?_applyDiskOp (dir : AccountsDir) (op : AccountDiskOp) (path : AccountPath) :
    (dir.applyDiskOp op).file? path = match op with
      | .write target disk => if path = target then some (.account disk) else dir.file? path
      | .remove target => if path = target then none else dir.file? path
      | .moveToTrash target => if path = target then none else dir.file? path := by
  cases op <;> simp [applyDiskOp, file?, HashMap.lookup_insert_eq, HashMap.lookup_erase_eq]

/-- The document a list of writes leaves at a path, if one of them goes there. -/
def lastWrite (writes : List (AccountPath × AccountFile)) (path : AccountPath) :
    Option AccountFile :=
  (writes.reverse.find? fun write => decide (write.1 = path)).map (·.2)

theorem mem_of_lastWrite {writes : List (AccountPath × AccountFile)} {path : AccountPath}
    {disk : AccountFile} (h : lastWrite writes path = some disk) : (path, disk) ∈ writes := by
  obtain ⟨⟨path', disk'⟩, hfind, rfl⟩ := Option.map_eq_some_iff.mp h
  have hpath : path' = path := by simpa using List.find?_some hfind
  subst hpath
  exact List.mem_reverse.mp (List.mem_of_find?_eq_some hfind)

theorem lastWrite_eq_none {writes : List (AccountPath × AccountFile)} {path : AccountPath}
    (h : ∀ disk, (path, disk) ∉ writes) : lastWrite writes path = none := by
  rcases hlast : lastWrite writes path with _ | disk
  · rfl
  · exact absurd (mem_of_lastWrite hlast) (h disk)

theorem exists_lastWrite {writes : List (AccountPath × AccountFile)} {path : AccountPath}
    {disk : AccountFile} (h : (path, disk) ∈ writes) :
    ∃ disk', lastWrite writes path = some disk' := by
  have hfind : (writes.reverse.find? fun write => decide (write.1 = path)).isSome = true :=
    List.find?_isSome.mpr ⟨(path, disk), List.mem_reverse.mpr h, by simp⟩
  obtain ⟨write, hwrite⟩ := Option.isSome_iff_exists.mp hfind
  exact ⟨write.2, by rw [lastWrite, hwrite]; rfl⟩

theorem file?_applyWrites (dir : AccountsDir) (writes : List (AccountPath × AccountFile))
    (path : AccountPath) :
    (dir.applyDiskOps (writes.map fun write => .write write.1 write.2)).file? path =
      ((lastWrite writes path).map .account).or (dir.file? path) := by
  induction writes generalizing dir with
  | nil => simp [applyDiskOps, lastWrite]
  | cons write writes ih =>
    simp only [applyDiskOps, List.map_cons, List.foldl_cons] at ih ⊢
    rw [ih, file?_applyDiskOp]
    simp only [lastWrite, List.reverse_cons, List.find?_append, List.find?_singleton]
    generalize List.find? _ writes.reverse = later
    rcases later with _ | later
    · by_cases hpath : write.1 = path
      · simp [hpath]
      · simp [hpath, Ne.symm hpath]
    · simp

theorem file?_applyRemovals (dir : AccountsDir) (removals : List AccountPath)
    (path : AccountPath) :
    (dir.applyDiskOps (removals.map .remove)).file? path =
      if path ∈ removals then none else dir.file? path := by
  induction removals generalizing dir with
  | nil => simp [applyDiskOps]
  | cons target removals ih =>
    simp only [applyDiskOps, List.map_cons, List.foldl_cons] at ih ⊢
    rw [ih, file?_applyDiskOp]
    by_cases hpath : path = target <;> simp [hpath]

/-- What a sync leaves at a path. -/
theorem file?_executeDiskSyncFs (dir : AccountsDir) (plan : DiskSyncPlan) (path : AccountPath) :
    (dir.executeDiskSyncFs plan).file? path =
      if path ∈ plan.removals then none
      else ((lastWrite plan.writes path).map .account).or (dir.file? path) := by
  have hsplit : dir.executeDiskSyncFs plan =
      (dir.applyDiskOps (plan.writes.map fun write => .write write.1 write.2)).applyDiskOps
        (plan.removals.map .remove) := List.foldl_append
  rw [hsplit, file?_applyRemovals, file?_applyWrites]

end AccountsDir

end Codaze.Accounts
