import Codaze.Accounts.RescanFrame
import Codaze.Accounts.SyncSafety

/-!
# The one file a sync keeps for each token

Where every group of files of one token keeps one of its own, a sync has a closed form: it
merges the metadata of the group into the kept file, removes the rest of the group and loads
the kept file into the record of its name.
-/
namespace Codaze.Accounts
open Foundation

namespace AccountStore

variable {store : AccountStore}

/-- The record an upsert leaves. -/
def loaded (store : AccountStore) (upsert : DiskSyncUpsert) : AccountRecord :=
  ((store.record? upsert.id).map (upsertRecord upsert.path upsert.disk)).getD
    (newRecord upsert.id upsert.path upsert.disk)

theorem record?_applyUpserts_of_other {upserts : List DiskSyncUpsert} {id : String}
    (h : ∀ upsert ∈ upserts, upsert.id ≠ id) :
    (store.applyUpserts upserts).record? id = store.record? id := by
  induction upserts generalizing store with
  | nil => rfl
  | cons upsert upserts ih =>
    refine (ih fun upsert' hmem => h upsert' (List.mem_cons_of_mem _ hmem)).trans ?_
    rw [record?_upsertDiskRecord, if_neg (Ne.symm (h upsert List.mem_cons_self))]

/-- The one upsert of an id decides its record. -/
theorem record?_applyUpserts {upserts : List DiskSyncUpsert} {upsert : DiskSyncUpsert}
    (hmem : upsert ∈ upserts) (hunique : ∀ other ∈ upserts, other.id = upsert.id → other = upsert) :
    (store.applyUpserts upserts).record? upsert.id = some (store.loaded upsert) := by
  induction upserts generalizing store with
  | nil => cases hmem
  | cons first upserts ih =>
    have hunique' : ∀ other ∈ upserts, other.id = upsert.id → other = upsert :=
      fun other hother => hunique other (List.mem_cons_of_mem _ hother)
    have hstep : (store.applyUpserts (first :: upserts)).record? upsert.id =
        ((store.upsertDiskRecord first.id first.path first.disk).applyUpserts upserts).record?
          upsert.id := rfl
    rw [hstep]
    by_cases hid : first.id = upsert.id
    · obtain rfl := hunique first List.mem_cons_self hid
      have hfirst : (store.upsertDiskRecord first.id first.path first.disk).record? first.id =
          some (store.loaded first) := by rw [record?_upsertDiskRecord, if_pos rfl, loaded]
      by_cases hagain : first ∈ upserts
      · rw [ih hagain hunique', loaded, hfirst, Option.map_some, Option.getD_some]
        unfold loaded
        cases store.record? first.id <;> simp [upsertRecord, newRecord]
      · refine (record?_applyUpserts_of_other fun other hother heq => ?_).trans hfirst
        exact hagain (hunique' other hother heq ▸ hother)
    · have hrest : upsert ∈ upserts :=
        (List.mem_cons.mp hmem).resolve_left fun heq => hid (heq ▸ rfl)
      rw [ih hrest hunique', loaded, record?_upsertDiskRecord, if_neg (Ne.symm hid), loaded]

end AccountStore

namespace AccountsDir

variable {dir : AccountsDir} {entry first : DiskAccountEntry} {token : String}

/-- The entry with the smallest id of its token. -/
def Smallest (dir : AccountsDir) (entry : DiskAccountEntry) : Prop :=
  entry ∈ (scanAccountsDir dir).entries ∧ ∀ other ∈ (scanAccountsDir dir).entries,
    other.disk.refreshToken = entry.disk.refreshToken → entry.id ≤ other.id

/-- The document a sync leaves for the token of an entry it keeps. -/
def merged (dir : AccountsDir) (entry : DiskAccountEntry) : AccountFile :=
  mergeDuplicateAccountFiles entry.disk
    (tokenGroup (scanAccountsDir dir).entries entry.disk.refreshToken)

theorem merged_token (dir : AccountsDir) (entry : DiskAccountEntry) :
    (dir.merged entry).refreshToken = entry.disk.refreshToken := rfl

theorem entry_eq_of_id {other : DiskAccountEntry} (h : entry ∈ (scanAccountsDir dir).entries)
    (h' : other ∈ (scanAccountsDir dir).entries) (hid : entry.id = other.id) : entry = other :=
  entry_eq_of_path h h' (by rw [entry_path_eq h, entry_path_eq h', hid])

theorem Smallest.unique {other : DiskAccountEntry} (h : dir.Smallest entry)
    (h' : dir.Smallest other) (htoken : entry.disk.refreshToken = other.disk.refreshToken) :
    entry = other :=
  entry_eq_of_id h.1 h'.1 (le_antisymm (h.2 other h'.1 htoken.symm) (h'.2 entry h.1 htoken))

theorem pairwise_tokenGroup (entries : List DiskAccountEntry) (token : String) :
    (tokenGroup entries token).Pairwise fun left right => left.id ≤ right.id := by
  have : IsTrans DiskAccountEntry fun left right => left.id ≤ right.id :=
    ⟨fun _ _ _ => le_trans⟩
  have : Std.Total fun left right : DiskAccountEntry => left.id ≤ right.id :=
    ⟨fun left right => le_total left.id right.id⟩
  exact List.pairwise_insertionSort _ _

/-- The groups are sorted by id. -/
theorem smallest_of_head?
    (h : (tokenGroup (scanAccountsDir dir).entries token).head? = some first) :
    dir.Smallest first ∧ first.disk.refreshToken = token := by
  obtain ⟨hfirst, htoken⟩ := mem_tokenGroup.mp (List.mem_of_mem_head? h)
  refine ⟨⟨hfirst, fun other hother htoken' => ?_⟩, htoken⟩
  have hmem := mem_tokenGroup.mpr ⟨hother, htoken'.trans htoken⟩
  obtain ⟨rest, hcons⟩ := List.head?_eq_some_iff.mp h
  have hsorted := pairwise_tokenGroup (scanAccountsDir dir).entries token
  rw [hcons] at hsorted hmem
  rcases List.mem_cons.mp hmem with rfl | hrest
  · exact le_rfl
  · exact (List.pairwise_cons.mp hsorted).1 other hrest

/-- A token with an entry has one with the smallest id. -/
theorem exists_smallest (h : entry ∈ (scanAccountsDir dir).entries) :
    ∃ first, (tokenGroup (scanAccountsDir dir).entries entry.disk.refreshToken).head? = some first ∧
      dir.Smallest first ∧ first.disk.refreshToken = entry.disk.refreshToken := by
  obtain ⟨first, rest, hcons⟩ := List.exists_cons_of_ne_nil (tokenGroup_ne_nil h)
  have hhead : (tokenGroup (scanAccountsDir dir).entries entry.disk.refreshToken).head? =
      some first := by rw [hcons]; rfl
  exact ⟨first, hhead, smallest_of_head? hhead⟩

/-- The sync keeps the file of the entry for its token. -/
def Keeps (store : AccountStore) (dir : AccountsDir) (mode : SyncMode)
    (entry : DiskAccountEntry) : Prop :=
  entry ∈ (scanAccountsDir dir).entries ∧
    store.CanonicalFor (scanAccountsDir dir).entries mode entry.disk.refreshToken
      ⟨entry.id, entry.path, entry.disk, some entry.path⟩

/-- Every group keeps one of its own files. -/
def KeepsOne (store : AccountStore) (dir : AccountsDir) (mode : SyncMode) : Prop :=
  ∀ entry ∈ (scanAccountsDir dir).entries,
    ∃ kept, Keeps store dir mode kept ∧ kept.disk.refreshToken = entry.disk.refreshToken

variable {store : AccountStore} {mode : SyncMode} {plan : DiskSyncPlan}

theorem Keeps.unique {other : DiskAccountEntry} (h : Keeps store dir mode entry)
    (h' : Keeps store dir mode other) (htoken : entry.disk.refreshToken = other.disk.refreshToken) :
    entry = other := by
  have htarget := h'.2
  rw [← htoken] at htarget
  exact entry_eq_of_path h.1 h'.1 (CanonicalTarget.mk.inj (h.2.unique htarget)).2.1

/-- Without a preferred record a group keeps its first file. -/
theorem keeps_of_smallest (h : dir.Smallest entry)
    (hfree : mode = .startup ∨ store.preferredExistingRecord entry.disk.refreshToken = none) :
    Keeps store dir mode entry := by
  obtain ⟨first, hhead, hfirst, htoken⟩ := exists_smallest h.1
  obtain rfl := hfirst.unique h htoken
  refine ⟨h.1, ⟨first, h.1, rfl⟩, ?_⟩
  have hnone : (if mode = .rescan then store.preferredExistingRecord first.disk.refreshToken
      else none) = none := by
    rcases hfree with rfl | hnone
    · rfl
    · rw [hnone, ite_self]
  simp only [AccountStore.selectCanonicalTarget, hhead, Option.map_some, hnone]

theorem keeps_iff_smallest
    (hfree : mode = .startup ∨ store.preferredExistingRecord entry.disk.refreshToken = none) :
    Keeps store dir mode entry ↔ dir.Smallest entry := by
  refine ⟨fun h => ?_, fun h => keeps_of_smallest h hfree⟩
  obtain ⟨first, -, hfirst, htoken⟩ := exists_smallest h.1
  obtain rfl := (keeps_of_smallest hfirst (htoken ▸ hfree)).unique h htoken
  exact hfirst

theorem keepsOne_startup (store : AccountStore) (dir : AccountsDir) :
    KeepsOne store dir .startup := by
  intro entry hentry
  obtain ⟨first, -, hfirst, htoken⟩ := exists_smallest hentry
  exact ⟨first, keeps_of_smallest hfirst (.inl rfl), htoken⟩

/-- What a scan reads of a merged document. -/
theorem accountEntry_merged (h : entry ∈ (scanAccountsDir dir).entries) :
    (FileContent.account (dir.merged entry)).accountEntry entry.path =
      some ⟨entry.id, entry.path, dir.merged entry⟩ := by
  have hid : entry.path.stem = entry.id := by rw [entry_path_eq h]
  simp only [FileContent.accountEntry, merged_token, normalize_of_entry h, Option.map_some, hid]
  rw [← merged_token]

namespace KeepsOne

variable (hone : KeepsOne store dir mode)

include hone

/-- The target of a token is the kept file. -/
theorem target {target : CanonicalTarget}
    (h : store.CanonicalFor (scanAccountsDir dir).entries mode token target) :
    ∃ kept, Keeps store dir mode kept ∧ kept.disk.refreshToken = token ∧
      target = ⟨kept.id, kept.path, kept.disk, some kept.path⟩ := by
  obtain ⟨⟨entry, hentry, rfl⟩, -⟩ := id h
  obtain ⟨kept, hkept, htoken⟩ := hone entry hentry
  have htarget := hkept.2
  rw [htoken] at htarget
  exact ⟨kept, hkept, htoken, h.unique htarget⟩

variable (hplan : store.buildDiskSyncPlan (scanAccountsDir dir) mode = some plan)

include hplan

theorem mem_writes {path : AccountPath} {disk : AccountFile} :
    (path, disk) ∈ plan.writes ↔ ∃ kept, Keeps store dir mode kept ∧ kept.path = path ∧
      dir.merged kept = disk ∧ disk ≠ kept.disk := by
  rw [AccountStore.mem_plan_writes hplan]
  constructor
  · rintro ⟨token, target, htarget, rfl, rfl, hneeded⟩
    obtain ⟨kept, hkept, rfl, rfl⟩ := hone.target htarget
    refine ⟨kept, hkept, rfl, rfl, hneeded.resolve_right fun hunseen => hunseen ?_⟩
    obtain ⟨content, hfile, -⟩ := mem_scanAccountsDir_entries.mp hkept.1
    exact mem_observedPaths.mpr (by rw [hfile]; rfl)
  · rintro ⟨kept, hkept, rfl, rfl, hneeded⟩
    exact ⟨_, _, hkept.2, rfl, rfl, .inl hneeded⟩

theorem mem_removals {path : AccountPath} :
    path ∈ plan.removals ↔ ∃ entry ∈ (scanAccountsDir dir).entries,
      ¬ Keeps store dir mode entry ∧ entry.path = path := by
  rw [AccountStore.mem_plan_removals hplan]
  constructor
  · rintro ⟨token, target, htarget, hunmatched, entry, hentry, rfl, rfl⟩
    refine ⟨entry, hentry, fun hkeeps => hunmatched ?_, rfl⟩
    rw [htarget.unique hkeeps.2]
  · rintro ⟨entry, hentry, hdropped, rfl⟩
    obtain ⟨kept, hkept, htoken⟩ := hone entry hentry
    refine ⟨_, _, hkept.2, fun hpath => hdropped ?_, entry, hentry, htoken.symm, rfl⟩
    rwa [← entry_eq_of_path hkept.1 hentry (Option.some.inj hpath)]

theorem mem_upserts {upsert : DiskSyncUpsert} :
    upsert ∈ plan.upserts ↔ ∃ kept, Keeps store dir mode kept ∧
      upsert = ⟨kept.id, kept.path, dir.merged kept⟩ := by
  rw [AccountStore.mem_plan_upserts hplan]
  constructor
  · rintro ⟨token, target, htarget, rfl⟩
    obtain ⟨kept, hkept, rfl, rfl⟩ := hone.target htarget
    exact ⟨kept, hkept, rfl⟩
  · rintro ⟨kept, hkept, rfl⟩
    exact ⟨_, _, hkept.2, rfl⟩

/-- A kept file is written where the metadata of its group adds to it. -/
theorem lastWrite_of_keeps (h : Keeps store dir mode entry) :
    lastWrite plan.writes entry.path =
      if dir.merged entry = entry.disk then none else some (dir.merged entry) := by
  have hmem {disk : AccountFile} (hdisk : (entry.path, disk) ∈ plan.writes) :
      disk = dir.merged entry ∧ disk ≠ entry.disk := by
    obtain ⟨kept, hkept, hpath, rfl, hneeded⟩ := (hone.mem_writes hplan).mp hdisk
    obtain rfl := entry_eq_of_path hkept.1 h.1 hpath
    exact ⟨rfl, hneeded⟩
  split
  next hsame =>
    refine lastWrite_eq_none fun disk hdisk => ?_
    obtain ⟨rfl, hneeded⟩ := hmem hdisk
    exact hneeded hsame
  next hneeded =>
    have hwrite : (entry.path, dir.merged entry) ∈ plan.writes :=
      (hone.mem_writes hplan).mpr ⟨entry, h, rfl, rfl, hneeded⟩
    obtain ⟨disk, hlast⟩ := exists_lastWrite hwrite
    rw [hlast, (hmem (mem_of_lastWrite hlast)).1]

theorem not_mem_removals_of_keeps (h : Keeps store dir mode entry) :
    entry.path ∉ plan.removals := by
  intro hremoved
  obtain ⟨other, hother, hdropped, hpath⟩ := (hone.mem_removals hplan).mp hremoved
  rw [entry_eq_of_path hother h.1 hpath] at hdropped
  exact hdropped h

/-- A path that reads as nothing is left alone. -/
theorem untouched {path : AccountPath} (h : dir.reading path = none) :
    path ∉ plan.removals ∧ ∀ disk, (path, disk) ∉ plan.writes := by
  have hentry {other : DiskAccountEntry} (hother : other ∈ (scanAccountsDir dir).entries) :
      other.path ≠ path := by
    rintro rfl
    rw [reading_of_entry hother] at h
    cases h
  refine ⟨fun hremoved => ?_, fun disk hdisk => ?_⟩
  · obtain ⟨other, hother, -, hpath⟩ := (hone.mem_removals hplan).mp hremoved
    exact hentry hother hpath
  · obtain ⟨kept, hkept, hpath, -⟩ := (hone.mem_writes hplan).mp hdisk
    exact hentry hkept.1 hpath

/-- What the sync leaves of a kept file, -/
theorem file?_of_keeps (h : Keeps store dir mode entry) :
    (dir.executeDiskSyncFs plan).file? entry.path =
      if dir.merged entry = entry.disk then dir.file? entry.path
      else some (.account (dir.merged entry)) := by
  rw [file?_executeDiskSyncFs, if_neg (hone.not_mem_removals_of_keeps hplan h),
    hone.lastWrite_of_keeps hplan h]
  split <;> rfl

/-- of the others of its group, -/
theorem file?_of_drops (h : entry ∈ (scanAccountsDir dir).entries)
    (hdropped : ¬ Keeps store dir mode entry) :
    (dir.executeDiskSyncFs plan).file? entry.path = none := by
  rw [file?_executeDiskSyncFs, if_pos]
  exact (hone.mem_removals hplan).mpr ⟨entry, h, hdropped, rfl⟩

/-- and of a path that reads as nothing. -/
theorem file?_of_unread {path : AccountPath} (h : dir.reading path = none) :
    (dir.executeDiskSyncFs plan).file? path = dir.file? path := by
  obtain ⟨hkept, hunwritten⟩ := hone.untouched hplan h
  rw [file?_executeDiskSyncFs, if_neg hkept, lastWrite_eq_none hunwritten]
  rfl

/-- A scan after the sync finds the kept files with their merged documents. -/
theorem mem_entries {after : DiskAccountEntry} :
    after ∈ (scanAccountsDir (dir.executeDiskSyncFs plan)).entries ↔
      ∃ kept, Keeps store dir mode kept ∧ after = ⟨kept.id, kept.path, dir.merged kept⟩ := by
  have hscanned {kept : DiskAccountEntry} (hkept : Keeps store dir mode kept) :
      (⟨kept.id, kept.path, dir.merged kept⟩ : DiskAccountEntry) ∈
        (scanAccountsDir (dir.executeDiskSyncFs plan)).entries := by
    refine mem_scanAccountsDir_entries.mpr ?_
    dsimp only
    rw [hone.file?_of_keeps hplan hkept]
    split
    next hsame =>
      obtain ⟨content, hfile, hentry⟩ := mem_scanAccountsDir_entries.mp hkept.1
      exact ⟨content, hfile, by rw [hsame, hentry]⟩
    next => exact ⟨_, rfl, accountEntry_merged hkept.1⟩
  constructor
  · intro hafter
    have hread := reading_of_entry hafter
    cases hbefore : dir.reading after.path with
    | none =>
      rw [reading, hone.file?_of_unread hplan hbefore, ← reading, hbefore] at hread
      cases hread
    | some token =>
      obtain ⟨entry, hentry, hpath, -, -⟩ := entry_of_reading hbefore
      by_cases hkept : Keeps store dir mode entry
      · exact ⟨entry, hkept, entry_eq_of_path hafter (hscanned hkept) hpath.symm⟩
      · rw [reading, ← hpath, hone.file?_of_drops hplan hentry hkept] at hread
        cases hread
  · rintro ⟨kept, hkept, rfl⟩
    exact hscanned hkept

theorem reading_of_keeps (h : Keeps store dir mode entry) :
    (dir.executeDiskSyncFs plan).reading entry.path = some entry.disk.refreshToken := by
  have hafter := reading_of_entry ((hone.mem_entries hplan).mpr ⟨entry, h, rfl⟩)
  exact hafter

/-- The record of a kept file, -/
theorem record?_of_keeps (store₁ : AccountStore) (h : Keeps store dir mode entry) :
    (store₁.applyDiskSyncPlan plan).record? entry.id =
      some (store₁.loaded ⟨entry.id, entry.path, dir.merged entry⟩) := by
  have hmem : (⟨entry.id, entry.path, dir.merged entry⟩ : DiskSyncUpsert) ∈ plan.upserts :=
    (hone.mem_upserts hplan).mpr ⟨entry, h, rfl⟩
  have hseen : entry.id ∈ plan.seenIds :=
    (AccountStore.mem_plan_seenIds hplan).mpr ⟨_, hmem, rfl⟩
  rw [AccountStore.record?_applyDiskSyncPlan,
    AccountStore.record?_applyUpserts hmem fun upsert hupsert hid => ?_]
  · simp [AccountStore.retireUnseen, hseen]
  · obtain ⟨kept, hkept, rfl⟩ := (hone.mem_upserts hplan).mp hupsert
    rw [entry_eq_of_id hkept.1 h.1 hid]

/-- and of an account without one. -/
theorem record?_of_unkept (store₁ : AccountStore) {id : String}
    (h : ∀ kept, Keeps store dir mode kept → kept.id ≠ id) :
    (store₁.applyDiskSyncPlan plan).record? id =
      (store₁.record? id).bind (AccountStore.retireUnseen plan id) := by
  rw [AccountStore.record?_applyDiskSyncPlan,
    AccountStore.record?_applyUpserts_of_other fun upsert hupsert => ?_]
  obtain ⟨kept, hkept, rfl⟩ := (hone.mem_upserts hplan).mp hupsert
  exact h kept hkept

/-- After a sync each token has one file. -/
theorem entries_unique {after other : DiskAccountEntry}
    (h : after ∈ (scanAccountsDir (dir.executeDiskSyncFs plan)).entries)
    (h' : other ∈ (scanAccountsDir (dir.executeDiskSyncFs plan)).entries)
    (htoken : after.disk.refreshToken = other.disk.refreshToken) : after = other := by
  obtain ⟨kept, hkept, rfl⟩ := (hone.mem_entries hplan).mp h
  obtain ⟨kept', hkept', rfl⟩ := (hone.mem_entries hplan).mp h'
  rw [hkept.unique hkept' htoken]

/-- Where each token has one file there is nothing to write and nothing to remove. -/
theorem nothing_to_sync (hunique : ∀ entry ∈ (scanAccountsDir dir).entries,
      ∀ other ∈ (scanAccountsDir dir).entries,
        other.disk.refreshToken = entry.disk.refreshToken → other = entry) :
    plan.writes = [] ∧ plan.removals = [] ∧
      ∀ kept, Keeps store dir mode kept → dir.merged kept = kept.disk := by
  have hsame (kept : DiskAccountEntry) (hkept : Keeps store dir mode kept) :
      dir.merged kept = kept.disk := by
    by_contra hmerged
    rcases mergeDuplicateAccountFiles_ne_iff.mp hmerged with ⟨hnone, other, hother, hsome⟩ |
      ⟨hnone, other, hother, hsome⟩
    all_goals
      obtain ⟨hmem, htoken⟩ := mem_tokenGroup.mp hother
      rw [hunique kept hkept.1 other hmem htoken] at hsome
      exact hsome hnone
  refine ⟨?_, ?_, hsame⟩
  · refine List.eq_nil_iff_forall_not_mem.mpr fun write hwrite => ?_
    obtain ⟨path, disk⟩ := write
    obtain ⟨kept, hkept, -, rfl, hneeded⟩ := (hone.mem_writes hplan).mp hwrite
    exact hneeded (hsame kept hkept)
  · refine List.eq_nil_iff_forall_not_mem.mpr fun path hpath => ?_
    obtain ⟨entry, hentry, hdropped, -⟩ := (hone.mem_removals hplan).mp hpath
    obtain ⟨kept, hkept, htoken⟩ := hone entry hentry
    rw [hunique entry hentry kept hkept.1 htoken] at hkept
    exact hdropped hkept

end KeepsOne

end AccountsDir

end Codaze.Accounts
