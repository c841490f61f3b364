import Codaze.Accounts.Reading

/-!
# What a sync plan contains

Membership in the parts of a plan, one lemma a part: every part ranges over the
refresh tokens of the snapshot and the canonical target of each.
-/
namespace Codaze.Accounts
open Foundation

/-- `mapM` in `Option` succeeds with the images of the elements. -/
theorem mem_of_mapM_eq_some {α β : Type*} {f : α → Option β} {as : List α} {bs : List β}
    (h : as.mapM f = some bs) (b : β) : b ∈ bs ↔ ∃ a ∈ as, f a = some b := by
  induction as generalizing bs with
  | nil =>
    obtain rfl : bs = [] := by simpa using h.symm
    simp
  | cons a as ih =>
    simp only [List.mapM_cons, Option.bind_eq_bind, Option.bind_eq_some_iff, Option.pure_def,
      Option.some.injEq] at h
    obtain ⟨b', hb', bs', hbs', rfl⟩ := h
    rw [List.mem_cons, ih hbs', List.exists_mem_cons_iff, hb', Option.some.injEq, eq_comm]

theorem mapM_isSome {α β : Type*} {f : α → Option β} {as : List α}
    (h : ∀ a ∈ as, (f a).isSome = true) : (as.mapM f).isSome = true := by
  induction as with
  | nil => rfl
  | cons a as ih =>
    obtain ⟨b, hb⟩ := Option.isSome_iff_exists.mp (h a List.mem_cons_self)
    obtain ⟨bs, hbs⟩ :=
      Option.isSome_iff_exists.mp (ih fun a' ha' => h a' (List.mem_cons_of_mem a ha'))
    simp [hb, hbs]

theorem mem_tokenGroup {entries : List DiskAccountEntry} {token : String}
    {entry : DiskAccountEntry} :
    entry ∈ tokenGroup entries token ↔ entry ∈ entries ∧ entry.disk.refreshToken = token := by
  simp [tokenGroup, List.mem_insertionSort]

theorem mem_entriesByRefreshToken {entries : List DiskAccountEntry}
    {group : List DiskAccountEntry} : group ∈ entriesByRefreshToken entries ↔
      ∃ entry ∈ entries, group = tokenGroup entries entry.disk.refreshToken := by
  simp [entriesByRefreshToken, eq_comm]

theorem tokenGroup_ne_nil {entries : List DiskAccountEntry} {entry : DiskAccountEntry}
    (h : entry ∈ entries) : tokenGroup entries entry.disk.refreshToken ≠ [] :=
  List.ne_nil_of_mem (mem_tokenGroup.mpr ⟨h, rfl⟩)

theorem mergeDuplicateAccountFiles_token (base : AccountFile) (group : List DiskAccountEntry) :
    (mergeDuplicateAccountFiles base group).refreshToken = base.refreshToken := rfl

theorem minBy_eq_none {α : Type*} {cmp : α → α → Ordering} {as : List α} :
    minBy cmp as = none ↔ as = [] := by
  cases as <;> simp [minBy]

namespace AccountStore

variable {store : AccountStore} {snapshot : DiskScanSnapshot} {mode : SyncMode}
  {plan : DiskSyncPlan}

/-- The attached record a rescan prefers for a token. -/
theorem preferredExistingRecord_spec {token : String} {record : AccountRecord}
    (h : store.preferredExistingRecord token = some record) :
    store.record? record.id = some record ∧ record.detached = false ∧
      record.refreshToken = token := by
  have hmem := List.mem_filter.mp (minBy_mem h)
  obtain ⟨id, hid⟩ := HashMap.mem_values.mp hmem.1
  obtain rfl := store.keyed id record hid
  exact ⟨hid, by simpa using hmem.2⟩

/-- An attached record of a token makes the rescan prefer some record. -/
theorem preferredExistingRecord_eq_none {token : String}
    (h : store.preferredExistingRecord token = none) {id : String} {record : AccountRecord}
    (hrecord : store.record? id = some record) (hattached : record.detached = false) :
    record.refreshToken ≠ token := by
  rw [preferredExistingRecord, maxBy, minBy_eq_none] at h
  intro htoken
  have hmem : record ∈ store.records.values.filter fun record =>
      !record.detached && decide (record.refreshToken = token) :=
    List.mem_filter.mpr ⟨HashMap.mem_values.mpr ⟨id, hrecord⟩, by simp [hattached, htoken]⟩
  rw [h] at hmem
  cases hmem

/-- The target of a token of the snapshot. -/
def CanonicalFor (store : AccountStore) (entries : List DiskAccountEntry) (mode : SyncMode)
    (token : String) (target : CanonicalTarget) : Prop :=
  (∃ entry ∈ entries, entry.disk.refreshToken = token) ∧
    store.selectCanonicalTarget (tokenGroup entries token) mode = some target

theorem exists_canonicalFor (store : AccountStore) {entries : List DiskAccountEntry}
    (mode : SyncMode)
    {entry : DiskAccountEntry} (h : entry ∈ entries) :
    ∃ target, store.CanonicalFor entries mode entry.disk.refreshToken target := by
  obtain ⟨first, rest, hcons⟩ := List.exists_cons_of_ne_nil (tokenGroup_ne_nil h)
  have hsome : (store.selectCanonicalTarget
      (tokenGroup entries entry.disk.refreshToken) mode).isSome = true := by
    simp [selectCanonicalTarget, hcons]
  obtain ⟨target, htarget⟩ := Option.isSome_iff_exists.mp hsome
  exact ⟨target, ⟨entry, h, rfl⟩, htarget⟩

/-- A preferred record's path and its own entry of the group, or the first entry. -/
theorem CanonicalFor.cases {entries : List DiskAccountEntry} {token : String}
    {target : CanonicalTarget} (h : store.CanonicalFor entries mode token target) :
    (∃ record, mode = .rescan ∧ store.preferredExistingRecord token = some record ∧
      target.id = record.id ∧ target.path = record.filePath ∧
      ((∃ entry ∈ entries, entry.disk.refreshToken = token ∧ entry.id = record.id ∧
          target.disk = entry.disk ∧ target.matchedGroupPath = some entry.path) ∨
        (∀ entry ∈ entries, entry.disk.refreshToken = token → entry.id ≠ record.id) ∧
          target.disk = ⟨token, record.label, record.email⟩ ∧
          target.matchedGroupPath = none)) ∨
    ((mode = .startup ∨ store.preferredExistingRecord token = none) ∧
      ∃ entry ∈ entries, entry.disk.refreshToken = token ∧
        target = ⟨entry.id, entry.path, entry.disk, some entry.path⟩) := by
  obtain ⟨-, hselect⟩ := h
  obtain ⟨first, hfirst, htarget⟩ := Option.map_eq_some_iff.mp hselect
  obtain ⟨hentry, htoken⟩ := mem_tokenGroup.mp (List.mem_of_mem_head? hfirst)
  rw [htoken] at htarget
  dsimp only at htarget
  split at htarget
  next record hpreferred =>
    have hrescan : mode = .rescan := by
      by_contra hmode
      simp [hmode] at hpreferred
    rw [if_pos hrescan] at hpreferred
    refine .inl ⟨record, hrescan, hpreferred, by rw [← htarget], by rw [← htarget], ?_⟩
    rcases hfind : (tokenGroup entries token).find? fun entry => entry.id = record.id with _ | own
    · refine .inr ⟨fun entry hmem hgroup hid => ?_, ?_, ?_⟩
      · have hnone := List.find?_eq_none.mp hfind entry (mem_tokenGroup.mpr ⟨hmem, hgroup⟩)
        simp [hid] at hnone
      · rw [← htarget, hfind]; rfl
      · rw [← htarget, hfind]; rfl
    · obtain ⟨hmem, hgroup⟩ := mem_tokenGroup.mp (List.mem_of_find?_eq_some hfind)
      refine .inl ⟨own, hmem, hgroup, by simpa using List.find?_some hfind, ?_, ?_⟩
      · rw [← htarget, hfind]; rfl
      · rw [← htarget, hfind]; rfl
  next hpreferred =>
    refine .inr ⟨?_, first, hentry, htoken, htarget.symm⟩
    by_cases hmode : mode = .rescan
    · exact .inr (by simpa [hmode] using hpreferred)
    · exact .inl (by cases mode <;> simp_all)

/-- The target's document carries the token. -/
theorem CanonicalFor.token {entries : List DiskAccountEntry} {token : String}
    {target : CanonicalTarget} (h : store.CanonicalFor entries mode token target) :
    target.disk.refreshToken = token := by
  rcases h.cases with ⟨record, -, -, -, -, ⟨entry, -, htoken, -, hdisk, -⟩ | ⟨-, hdisk, -⟩⟩ |
    ⟨-, entry, -, htoken, rfl⟩
  · rw [hdisk, htoken]
  · rw [hdisk]
  · exact htoken

theorem CanonicalFor.unique {entries : List DiskAccountEntry} {token : String}
    {target target' : CanonicalTarget} (h : store.CanonicalFor entries mode token target)
    (h' : store.CanonicalFor entries mode token target') : target = target' :=
  Option.some.inj (h.2.symm.trans h'.2)

/-- A plan is always built. -/
theorem buildDiskSyncPlan_isSome (store : AccountStore) (snapshot : DiskScanSnapshot)
    (mode : SyncMode) : (store.buildDiskSyncPlan snapshot mode).isSome = true := by
  rw [buildDiskSyncPlan, Option.isSome_map]
  refine mapM_isSome fun group hgroup => ?_
  obtain ⟨entry, hentry, rfl⟩ := mem_entriesByRefreshToken.mp hgroup
  obtain ⟨target, htarget⟩ := store.exists_canonicalFor mode hentry
  simp [planGroup, htarget.2]

/-- The parts of a plan come from the canonical targets. -/
theorem exists_groupPlan (h : store.buildDiskSyncPlan snapshot mode = some plan) :
    ∃ groups : List GroupPlan,
      (plan.mode = mode ∧ plan.failedFileIds = snapshot.failedFileIds ∧
        plan.writes = groups.filterMap (·.write) ∧
        plan.removals = groups.flatMap (·.removals) ∧
        plan.upserts = groups.map (·.upsert) ∧
        plan.seenIds = (groups.map (·.upsert.id)).toFinset) ∧
      ∀ group, group ∈ groups ↔ ∃ token target,
        store.CanonicalFor snapshot.entries mode token target ∧
          store.planGroup snapshot.observedPaths mode (tokenGroup snapshot.entries token) =
            some group := by
  obtain ⟨groups, hgroups, rfl⟩ := Option.map_eq_some_iff.mp h
  refine ⟨groups, ⟨rfl, rfl, rfl, rfl, rfl, rfl⟩, fun group => ?_⟩
  rw [mem_of_mapM_eq_some hgroups]
  constructor
  · rintro ⟨entries, hentries, hplan⟩
    obtain ⟨entry, hentry, rfl⟩ := mem_entriesByRefreshToken.mp hentries
    obtain ⟨target, htarget⟩ := store.exists_canonicalFor mode hentry
    exact ⟨_, target, htarget, hplan⟩
  · rintro ⟨token, target, ⟨⟨entry, hentry, rfl⟩, -⟩, hplan⟩
    exact ⟨_, mem_entriesByRefreshToken.mpr ⟨entry, hentry, rfl⟩, hplan⟩

theorem planGroup_of_canonicalFor {observed : Finset AccountPath} {token : String}
    {target : CanonicalTarget} {group : GroupPlan}
    (htarget : store.CanonicalFor snapshot.entries mode token target)
    (h : store.planGroup observed mode (tokenGroup snapshot.entries token) = some group) :
    group =
      let merged := mergeDuplicateAccountFiles target.disk (tokenGroup snapshot.entries token)
      { write :=
          if merged ≠ target.disk ∨ target.path ∉ observed then some (target.path, merged)
          else none
        removals := ((tokenGroup snapshot.entries token).filter fun duplicate =>
          target.matchedGroupPath ≠ some duplicate.path).map (·.path)
        upsert := { id := target.id, path := target.path, disk := merged } } := by
  rw [planGroup, htarget.2] at h
  exact (Option.some.inj h).symm

section Membership

variable (h : store.buildDiskSyncPlan snapshot mode = some plan)

include h

theorem mem_plan_writes {path : AccountPath} {disk : AccountFile} :
    (path, disk) ∈ plan.writes ↔ ∃ token target,
      store.CanonicalFor snapshot.entries mode token target ∧ target.path = path ∧
        mergeDuplicateAccountFiles target.disk (tokenGroup snapshot.entries token) = disk ∧
        (disk ≠ target.disk ∨ path ∉ snapshot.observedPaths) := by
  obtain ⟨groups, ⟨-, -, hwrites, -⟩, hmem⟩ := exists_groupPlan h
  rw [hwrites, List.mem_filterMap]
  constructor
  · rintro ⟨group, hgroup, hwrite⟩
    obtain ⟨token, target, htarget, hplan⟩ := (hmem group).mp hgroup
    rw [planGroup_of_canonicalFor htarget hplan] at hwrite
    dsimp only at hwrite
    split at hwrite
    next hneeded =>
      obtain ⟨rfl, rfl⟩ := Prod.mk.inj (Option.some.inj hwrite)
      exact ⟨token, target, htarget, rfl, rfl, hneeded⟩
    next => cases hwrite
  · rintro ⟨token, target, htarget, rfl, rfl, hneeded⟩
    refine ⟨_, (hmem _).mpr ⟨token, target, htarget, by rw [planGroup, htarget.2]; rfl⟩, ?_⟩
    exact if_pos hneeded

theorem mem_plan_removals {path : AccountPath} :
    path ∈ plan.removals ↔ ∃ token target,
      store.CanonicalFor snapshot.entries mode token target ∧
        target.matchedGroupPath ≠ some path ∧
        ∃ entry ∈ snapshot.entries, entry.disk.refreshToken = token ∧ entry.path = path := by
  obtain ⟨groups, ⟨-, -, -, hremovals, -⟩, hmem⟩ := exists_groupPlan h
  rw [hremovals, List.mem_flatMap]
  constructor
  · rintro ⟨group, hgroup, hpath⟩
    obtain ⟨token, target, htarget, hplan⟩ := (hmem group).mp hgroup
    rw [planGroup_of_canonicalFor htarget hplan] at hpath
    obtain ⟨entry, hentry, rfl⟩ := List.mem_map.mp hpath
    obtain ⟨hentry, hunmatched⟩ := List.mem_filter.mp hentry
    obtain ⟨hentry, htoken⟩ := mem_tokenGroup.mp hentry
    exact ⟨token, target, htarget, by simpa using hunmatched, entry, hentry, htoken, rfl⟩
  · rintro ⟨token, target, htarget, hunmatched, entry, hentry, htoken, rfl⟩
    refine ⟨_, (hmem _).mpr ⟨token, target, htarget, by rw [planGroup, htarget.2]; rfl⟩, ?_⟩
    exact List.mem_map.mpr ⟨entry, List.mem_filter.mpr
      ⟨mem_tokenGroup.mpr ⟨hentry, htoken⟩, by simpa using hunmatched⟩, rfl⟩

theorem mem_plan_upserts {upsert : DiskSyncUpsert} :
    upsert ∈ plan.upserts ↔ ∃ token target,
      store.CanonicalFor snapshot.entries mode token target ∧
        upsert = ⟨target.id, target.path,
          mergeDuplicateAccountFiles target.disk (tokenGroup snapshot.entries token)⟩ := by
  obtain ⟨groups, ⟨-, -, -, -, hupserts, -⟩, hmem⟩ := exists_groupPlan h
  rw [hupserts, List.mem_map]
  constructor
  · rintro ⟨group, hgroup, rfl⟩
    obtain ⟨token, target, htarget, hplan⟩ := (hmem group).mp hgroup
    exact ⟨token, target, htarget, by rw [planGroup_of_canonicalFor htarget hplan]⟩
  · rintro ⟨token, target, htarget, rfl⟩
    exact ⟨_, (hmem _).mpr ⟨token, target, htarget, by rw [planGroup, htarget.2]; rfl⟩, rfl⟩

theorem mem_plan_seenIds {id : String} :
    id ∈ plan.seenIds ↔ ∃ upsert ∈ plan.upserts, upsert.id = id := by
  obtain ⟨groups, ⟨-, -, -, -, hupserts, hseen⟩, -⟩ := exists_groupPlan h
  simp [hupserts, hseen]

end Membership

end AccountStore

end Codaze.Accounts
