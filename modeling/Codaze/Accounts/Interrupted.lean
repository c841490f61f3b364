import Codaze.Accounts.KeptFiles

/-!
# Startup syncs that stop halfway

Wherever the file operations of a startup sync stop, the smallest file of each token is as it
was or has the metadata of its group, and it has it before the first duplicate is removed. So a
scan finds the same tokens with the same smallest files, and merging them again adds nothing.
-/
namespace Codaze.Accounts
open Foundation

attribute [ext] AccountFile

namespace AccountsDir

variable {dir dir' : AccountsDir} {entry : DiskAccountEntry} {token : String}
  {field : DiskAccountEntry → Option String} {value value' : Option String}

/-- The value is the first present one among the entries of a token, in the order of their
ids. -/
def FirstPresent (dir : AccountsDir) (token : String) (field : DiskAccountEntry → Option String) :
    Option String → Prop
  | none => ∀ entry ∈ (scanAccountsDir dir).entries, entry.disk.refreshToken = token →
      field entry = none
  | some value => ∃ donor ∈ (scanAccountsDir dir).entries, donor.disk.refreshToken = token ∧
      field donor = some value ∧
      ∀ other ∈ (scanAccountsDir dir).entries, other.disk.refreshToken = token →
        other.id < donor.id → field other = none

theorem firstPresent_findSome? (dir : AccountsDir) (token : String)
    (field : DiskAccountEntry → Option String) :
    dir.FirstPresent token field
      ((tokenGroup (scanAccountsDir dir).entries token).findSome? field) := by
  cases hfind : (tokenGroup (scanAccountsDir dir).entries token).findSome? field with
  | none =>
    intro entry hentry htoken
    exact List.findSome?_eq_none_iff.mp hfind entry (mem_tokenGroup.mpr ⟨hentry, htoken⟩)
  | some value =>
    obtain ⟨before, donor, rest, hsplit, hvalue, hnone⟩ := List.findSome?_eq_some_iff.mp hfind
    have hdonor : donor ∈ tokenGroup (scanAccountsDir dir).entries token := by simp [hsplit]
    obtain ⟨hmem, htoken⟩ := mem_tokenGroup.mp hdonor
    refine ⟨donor, hmem, htoken, hvalue, fun other hother htoken' hlt => hnone other ?_⟩
    -- what is not before the donor is not smaller
    have hsorted := pairwise_tokenGroup (scanAccountsDir dir).entries token
    have hgroup := mem_tokenGroup.mpr ⟨hother, htoken'⟩
    rw [hsplit] at hsorted hgroup
    rcases List.mem_append.mp hgroup with hbefore | hafter
    · exact hbefore
    · have hdonorRest := (List.pairwise_append.mp hsorted).2.1
      rcases List.mem_cons.mp hafter with rfl | hrest
      · exact absurd hlt (lt_irrefl _)
      · exact absurd hlt ((List.pairwise_cons.mp hdonorRest).1 other hrest).not_gt

theorem FirstPresent.unique (h : dir.FirstPresent token field value)
    (h' : dir.FirstPresent token field value') : value = value' := by
  cases value with
  | none =>
    cases value' with
    | none => rfl
    | some v' =>
      obtain ⟨donor, hdonor, htoken, hvalue, -⟩ := h'
      simp [h donor hdonor htoken] at hvalue
  | some v =>
    obtain ⟨donor, hdonor, htoken, hvalue, hfirst⟩ := h
    cases value' with
    | none => simp [h' donor hdonor htoken] at hvalue
    | some v' =>
      obtain ⟨donor', hdonor', htoken', hvalue', hfirst'⟩ := h'
      rcases lt_trichotomy donor.id donor'.id with hlt | heq | hgt
      · simp [hfirst' donor hdonor htoken hlt] at hvalue
      · rw [← hvalue, ← hvalue', entry_eq_of_id hdonor hdonor' heq]
      · simp [hfirst donor' hdonor' htoken' hgt] at hvalue'

/-- It depends on the entries of the token alone. -/
theorem FirstPresent.congr (h : dir.FirstPresent token field value)
    (hsame : ∀ entry, entry.disk.refreshToken = token →
      (entry ∈ (scanAccountsDir dir').entries ↔ entry ∈ (scanAccountsDir dir).entries)) :
    dir'.FirstPresent token field value := by
  cases value with
  | none => exact fun entry hentry htoken => h entry ((hsame entry htoken).mp hentry) htoken
  | some v =>
    obtain ⟨donor, hdonor, htoken, hvalue, hfirst⟩ := h
    refine ⟨donor, (hsame donor htoken).mpr hdonor, htoken, hvalue, fun other hother htoken' => ?_⟩
    exact hfirst other ((hsame other htoken').mp hother) htoken'

/-- The value of a field in the merged file of an entry: its own or else the first present
one. -/
def MergedField (dir : AccountsDir) (entry : DiskAccountEntry)
    (field : DiskAccountEntry → Option String) (value : Option String) : Prop :=
  if (field entry).isSome then value = field entry
  else dir.FirstPresent entry.disk.refreshToken field value

theorem mergedField_or (dir : AccountsDir) (entry : DiskAccountEntry)
    (field : DiskAccountEntry → Option String) :
    dir.MergedField entry field ((field entry).or
      ((tokenGroup (scanAccountsDir dir).entries entry.disk.refreshToken).findSome? field)) := by
  unfold MergedField
  cases hfield : field entry with
  | some value => simp
  | none => simpa using dir.firstPresent_findSome? entry.disk.refreshToken field

theorem merged_fields (dir : AccountsDir) (entry : DiskAccountEntry) :
    dir.MergedField entry (·.disk.label) (dir.merged entry).label ∧
      dir.MergedField entry (·.disk.email) (dir.merged entry).email :=
  ⟨dir.mergedField_or entry _, dir.mergedField_or entry _⟩

/-- What the startup sync leaves of the smallest file of a token. -/
def settled (dir : AccountsDir) (entry : DiskAccountEntry) : Option FileContent :=
  if dir.merged entry = entry.disk then dir.file? entry.path
  else some (.account (dir.merged entry))

/-- A directory at which the startup sync of another has stopped. -/
structure Interrupted (dir dir' : AccountsDir) : Prop where
  unread : ∀ path, dir.reading path = none → dir'.file? path = dir.file? path
  kept : ∀ entry, dir.Smallest entry →
    dir'.file? entry.path = dir.file? entry.path ∨ dir'.file? entry.path = dir.settled entry
  dropped : ∀ entry ∈ (scanAccountsDir dir).entries, ¬ dir.Smallest entry →
    dir'.file? entry.path = dir.file? entry.path ∨ dir'.file? entry.path = none ∧
      ∀ first, dir.Smallest first → dir'.file? first.path = dir.settled first

/-- What some of the operations of a sync leave at a path. -/
theorem file?_take_syncOps (dir : AccountsDir) (plan : DiskSyncPlan) (n : ℕ) (path : AccountPath) :
    (dir.applyDiskOps ((syncOps plan).take n)).file? path =
      if path ∈ plan.removals.take (n - plan.writes.length) then none
      else ((lastWrite (plan.writes.take n) path).map .account).or (dir.file? path) := by
  have hsplit : (syncOps plan).take n =
      ((plan.writes.take n).map fun write => AccountDiskOp.write write.1 write.2) ++
        (plan.removals.take (n - plan.writes.length)).map .remove := by
    rw [syncOps, List.take_append, List.map_take, List.map_take, List.length_map]
  have happly : dir.applyDiskOps ((syncOps plan).take n) =
      (dir.applyDiskOps ((plan.writes.take n).map fun write => .write write.1 write.2)).applyDiskOps
        ((plan.removals.take (n - plan.writes.length)).map .remove) := by
    rw [hsplit]
    exact List.foldl_append
  rw [happly, file?_applyRemovals, file?_applyWrites]

section Plan

variable {store : AccountStore} {plan : DiskSyncPlan}
  (hplan : store.buildDiskSyncPlan (scanAccountsDir dir) .startup = some plan)

include hplan

theorem file?_startup_smallest (h : dir.Smallest entry) :
    (dir.executeDiskSyncFs plan).file? entry.path = dir.settled entry :=
  (keepsOne_startup store dir).file?_of_keeps hplan (keeps_of_smallest h (.inl rfl))

/-- The operations of a startup sync, up to any of them. -/
theorem interrupted_of_take (n : ℕ) :
    Interrupted dir (dir.applyDiskOps ((syncOps plan).take n)) := by
  have hone := keepsOne_startup store dir
  have hsmallest {entry : DiskAccountEntry} : Keeps store dir .startup entry ↔
      dir.Smallest entry := keeps_iff_smallest (.inl rfl)
  have hwritten {path : AccountPath} {disk : AccountFile}
      (h : lastWrite (plan.writes.take n) path = some disk) : (path, disk) ∈ plan.writes :=
    List.mem_of_mem_take (mem_of_lastWrite h)
  have hremoved {path : AccountPath}
      (h : path ∈ plan.removals.take (n - plan.writes.length)) : path ∈ plan.removals :=
    List.mem_of_mem_take h
  refine ⟨fun path hunread => ?_, fun entry hentry => ?_, fun entry hentry hdropped => ?_⟩
  · obtain ⟨hkept, hunwritten⟩ := hone.untouched hplan hunread
    rw [file?_take_syncOps, if_neg fun h => hkept (hremoved h)]
    rw [lastWrite_eq_none fun disk h => hunwritten disk (List.mem_of_mem_take h)]
    rfl
  · have hkeeps := hsmallest.mpr hentry
    rw [file?_take_syncOps,
      if_neg fun h => hone.not_mem_removals_of_keeps hplan hkeeps (hremoved h)]
    cases hlast : lastWrite (plan.writes.take n) entry.path with
    | none => exact .inl rfl
    | some disk =>
      obtain ⟨kept, hkept, hpath, rfl, hneeded⟩ := (hone.mem_writes hplan).mp (hwritten hlast)
      obtain rfl := entry_eq_of_path hkept.1 hentry.1 hpath
      exact .inr (if_neg hneeded).symm
  · rw [file?_take_syncOps]
    split
    next hgone =>
      -- a removal comes after every write
      have hall : plan.writes.take n = plan.writes := by
        refine List.take_of_length_le ?_
        by_contra hfew
        rw [Nat.sub_eq_zero_of_le (by omega), List.take_zero] at hgone
        cases hgone
      refine .inr ⟨rfl, fun first hfirst => ?_⟩
      have hkeeps := hsmallest.mpr hfirst
      rw [file?_take_syncOps, hall, hone.lastWrite_of_keeps hplan hkeeps,
        if_neg fun h => hone.not_mem_removals_of_keeps hplan hkeeps (hremoved h), settled]
      split <;> rfl
    next =>
      have hunwritten : ∀ disk, (entry.path, disk) ∉ plan.writes.take n := by
        intro disk hdisk
        obtain ⟨kept, hkept, hpath, -⟩ :=
          (hone.mem_writes hplan).mp (List.mem_of_mem_take hdisk)
        obtain rfl := entry_eq_of_path hkept.1 hentry hpath
        exact hdropped (hsmallest.mp hkept)
      rw [lastWrite_eq_none hunwritten]
      exact .inl rfl

end Plan

theorem MergedField.unique (h : dir.MergedField entry field value)
    (h' : dir.MergedField entry field value') : value = value' := by
  unfold MergedField at h h'
  split at h
  next hsome =>
    rw [if_pos hsome] at h'
    exact h.trans h'.symm
  next hnone =>
    rw [if_neg hnone] at h'
    exact h.unique h'

/-- The scanned entry of a path depends on its file alone. -/
theorem mem_entries_congr (hsame : dir'.file? entry.path = dir.file? entry.path) :
    entry ∈ (scanAccountsDir dir').entries ↔ entry ∈ (scanAccountsDir dir).entries := by
  rw [mem_scanAccountsDir_entries, mem_scanAccountsDir_entries, hsame]

/-- Merged metadata that is missing is missing in the whole group. -/
theorem eq_none_of_merged {other : DiskAccountEntry}
    (hother : other ∈ (scanAccountsDir dir).entries)
    (htoken : other.disk.refreshToken = entry.disk.refreshToken) :
    ((dir.merged entry).label = none → other.disk.label = none) ∧
      ((dir.merged entry).email = none → other.disk.email = none) := by
  have hgroup := mem_tokenGroup.mpr ⟨hother, htoken⟩
  refine ⟨fun hnone => ?_, fun hnone => ?_⟩
  · exact List.findSome?_eq_none_iff.mp (Option.or_eq_none_iff.mp hnone).2 other hgroup
  · exact List.findSome?_eq_none_iff.mp (Option.or_eq_none_iff.mp hnone).2 other hgroup

namespace Interrupted

variable (h : Interrupted dir dir')

include h

/-- The smallest file of a token is still there, as it was or with the metadata of its group. -/
theorem survives (hentry : dir.Smallest entry) :
    ∃ disk, (⟨entry.id, entry.path, disk⟩ : DiskAccountEntry) ∈ (scanAccountsDir dir').entries ∧
      disk.refreshToken = entry.disk.refreshToken ∧
      (disk = entry.disk ∧ dir'.file? entry.path = dir.file? entry.path ∨
        disk = dir.merged entry ∧ dir'.file? entry.path = dir.settled entry) := by
  rcases h.kept entry hentry with hsame | hsettled
  · exact ⟨entry.disk, (mem_entries_congr hsame).mpr hentry.1, rfl, .inl ⟨rfl, hsame⟩⟩
  · refine ⟨dir.merged entry, ?_, rfl, .inr ⟨rfl, hsettled⟩⟩
    unfold settled at hsettled
    split at hsettled
    next hmerged =>
      rw [hmerged]
      exact (mem_entries_congr hsettled).mpr hentry.1
    next =>
      exact mem_scanAccountsDir_entries.mpr ⟨_, hsettled, accountEntry_merged hentry.1⟩

/-- Nothing else is found. -/
theorem origin {after : DiskAccountEntry} (hafter : after ∈ (scanAccountsDir dir').entries) :
    ∃ entry ∈ (scanAccountsDir dir).entries, entry.path = after.path ∧ entry.id = after.id ∧
      entry.disk.refreshToken = after.disk.refreshToken ∧
      (after = entry ∨ dir.Smallest entry ∧ after.disk = dir.merged entry) := by
  have hread := reading_of_entry hafter
  cases hbefore : dir.reading after.path with
  | none =>
    rw [reading, h.unread after.path hbefore, ← reading, hbefore] at hread
    cases hread
  | some token =>
    obtain ⟨entry, hentry, hpath, -, -⟩ := entry_of_reading hbefore
    by_cases hsmallest : dir.Smallest entry
    · obtain ⟨disk, hmem, htoken, hdisk⟩ := h.survives hsmallest
      obtain rfl := entry_eq_of_path hafter hmem hpath.symm
      refine ⟨entry, hentry, rfl, rfl, htoken.symm, ?_⟩
      rcases hdisk with ⟨rfl, -⟩ | ⟨rfl, -⟩
      · exact .inl rfl
      · exact .inr ⟨hsmallest, rfl⟩
    · rcases h.dropped entry hentry hsmallest with hsame | ⟨hgone, -⟩
      · obtain rfl := entry_eq_of_path hafter ((mem_entries_congr hsame).mpr hentry) hpath.symm
        exact ⟨after, hentry, rfl, rfl, rfl, .inl rfl⟩
      · rw [reading, ← hpath, hgone] at hread
        cases hread

/-- The smallest files are the same. -/
theorem smallest_iff {after : DiskAccountEntry} : dir'.Smallest after ↔
    after ∈ (scanAccountsDir dir').entries ∧ ∃ entry, dir.Smallest entry ∧ entry.path = after.path ∧
      entry.id = after.id ∧ entry.disk.refreshToken = after.disk.refreshToken := by
  constructor
  · intro hafter
    obtain ⟨entry, hentry, hpath, hid, htoken, -⟩ := h.origin hafter.1
    obtain ⟨first, -, hfirst, htoken'⟩ := exists_smallest hentry
    obtain ⟨disk, hmem, hdisk, -⟩ := h.survives hfirst
    have hle := hafter.2 _ hmem (hdisk.trans (htoken'.trans htoken))
    have hge := hfirst.2 entry hentry htoken'.symm
    obtain rfl := entry_eq_of_id hfirst.1 hentry (le_antisymm hge (hid ▸ hle))
    exact ⟨hafter.1, first, hfirst, hpath, hid, htoken⟩
  · rintro ⟨hmem, entry, hentry, -, hid, htoken⟩
    refine ⟨hmem, fun other hother htoken' => ?_⟩
    obtain ⟨entry', hentry', -, hid', htoken'', -⟩ := h.origin hother
    rw [← hid, ← hid']
    exact hentry.2 entry' hentry' (htoken''.trans (htoken'.trans htoken.symm))

/-- Merging again what is left gives the same document. -/
theorem merged_eq {after : DiskAccountEntry} (hentry : dir.Smallest entry)
    (hafter : after ∈ (scanAccountsDir dir').entries) (hpath : entry.path = after.path) :
    dir'.merged after = dir.merged entry := by
  obtain ⟨disk, hmem, htoken, hdisk⟩ := h.survives hentry
  obtain rfl := entry_eq_of_path hafter hmem hpath.symm
  have hsmallest {other : DiskAccountEntry} (hother : dir.Smallest other)
      (htoken' : other.disk.refreshToken = disk.refreshToken) : other = entry :=
    hother.unique hentry (htoken'.trans htoken)
  by_cases hdone : disk = dir.merged entry
  · -- the file has the metadata already, and what is left of its group has no more
    subst hdone
    by_contra hchanged
    have hmissing {other : DiskAccountEntry} (hother : other ∈ tokenGroup
        (scanAccountsDir dir').entries (dir.merged entry).refreshToken) :
        ((dir.merged entry).label = none → other.disk.label = none) ∧
          ((dir.merged entry).email = none → other.disk.email = none) := by
      obtain ⟨hother, hgroup⟩ := mem_tokenGroup.mp hother
      obtain ⟨before, hbefore, -, -, htoken', rfl | ⟨hfirst, hother'⟩⟩ := h.origin hother
      · exact eq_none_of_merged hbefore hgroup
      · rw [hother', hsmallest hfirst (htoken'.trans hgroup)]
        exact ⟨fun hnone => hnone, fun hnone => hnone⟩
    rcases mergeDuplicateAccountFiles_ne_iff.mp hchanged with ⟨hnone, other, hother, hsome⟩ |
      ⟨hnone, other, hother, hsome⟩
    · exact hsome ((hmissing hother).1 hnone)
    · exact hsome ((hmissing hother).2 hnone)
  · -- the file is not written yet, so nothing of its group is removed
    obtain ⟨rfl, hfile⟩ : disk = entry.disk ∧ dir'.file? entry.path = dir.file? entry.path :=
      hdisk.resolve_right fun hmerged => hdone hmerged.1
    have hunsettled : dir'.file? entry.path ≠ dir.settled entry := by
      intro hsettled
      rw [settled, if_neg (Ne.symm hdone)] at hsettled
      have hmerged : (⟨entry.id, entry.path, dir.merged entry⟩ : DiskAccountEntry) ∈
          (scanAccountsDir dir').entries :=
        mem_scanAccountsDir_entries.mpr ⟨_, hsettled, accountEntry_merged hentry.1⟩
      exact hdone (congrArg DiskAccountEntry.disk (entry_eq_of_path hmem hmerged rfl))
    have hsame (other : DiskAccountEntry)
        (htoken' : other.disk.refreshToken = entry.disk.refreshToken) :
        other ∈ (scanAccountsDir dir').entries ↔ other ∈ (scanAccountsDir dir).entries := by
      constructor
      · intro hother
        obtain ⟨before, hbefore, hpath', -, htoken'', rfl | ⟨hfirst, -⟩⟩ := h.origin hother
        · exact hbefore
        · obtain rfl := hsmallest hfirst (htoken''.trans htoken')
          rwa [entry_eq_of_path hother hmem hpath'.symm]
      · intro hother
        by_cases hfirst : dir.Smallest other
        · rwa [hsmallest hfirst htoken']
        · rcases h.dropped other hother hfirst with hfile' | ⟨-, hsettled⟩
          · exact (mem_entries_congr hfile').mpr hother
          · exact absurd (hsettled entry hentry) hunsettled
    have hfield {field : DiskAccountEntry → Option String} {value value' : Option String}
        (hvalue : dir.MergedField entry field value)
        (hvalue' : dir'.MergedField entry field value') :
        value' = value := by
      refine hvalue'.unique ?_
      unfold MergedField at hvalue ⊢
      split
      next hsome => rwa [if_pos hsome] at hvalue
      next hnone =>
        rw [if_neg hnone] at hvalue
        exact hvalue.congr hsame
    have hlabel := hfield (dir.merged_fields entry).1 (dir'.merged_fields entry).1
    have hemail := hfield (dir.merged_fields entry).2 (dir'.merged_fields entry).2
    have htoken : (dir'.merged entry).refreshToken = (dir.merged entry).refreshToken := rfl
    exact AccountFile.ext htoken hlabel hemail

theorem settled_eq {disk : AccountFile} (hentry : dir.Smallest entry)
    (hmem : (⟨entry.id, entry.path, disk⟩ : DiskAccountEntry) ∈ (scanAccountsDir dir').entries)
    (hdisk : disk = entry.disk ∧ dir'.file? entry.path = dir.file? entry.path ∨
      disk = dir.merged entry ∧ dir'.file? entry.path = dir.settled entry) :
    dir'.settled ⟨entry.id, entry.path, disk⟩ = dir.settled entry := by
  have hmerged := h.merged_eq hentry hmem rfl
  unfold settled
  rw [hmerged]
  rcases hdisk with ⟨rfl, hsame⟩ | ⟨rfl, hsettled⟩
  · dsimp only
    rw [hsame]
  · rw [if_pos rfl]
    exact hsettled

/-- So does a directory with the same files in another order. -/
theorem congr {dir'' : AccountsDir} (hsame : ∀ path, dir''.file? path = dir'.file? path) :
    Interrupted dir dir'' := by
  refine ⟨fun path hunread => ?_, fun entry hentry => ?_, fun entry hentry hdropped => ?_⟩
  · rw [hsame, h.unread path hunread]
  · rw [hsame]
    exact h.kept entry hentry
  · rw [hsame]
    refine (h.dropped entry hentry hdropped).imp_right fun hgone =>
      ⟨hgone.1, fun first hfirst => ?_⟩
    rw [hsame]
    exact hgone.2 first hfirst

end Interrupted

end AccountsDir

end Codaze.Accounts
