import Codaze.Accounts.SyncSafety

/-!
# Records and their files

A record is coherent with the directory when its file holds its credential while it is
attached and nothing while it is gone. Each lemma takes one operation of the store and
the file operation that goes with it; a tombstoned record is gone for good, so its file
may belong to a later import.
-/
namespace Codaze.Accounts
open Foundation

/-- The token of the record, in normal form, is what its file holds. -/
def Stored (dir : AccountsDir) (path : AccountPath) (token : String) : Prop :=
  normalizeRefreshToken token = some token ∧
    ∃ disk, dir.file? path = some (.account disk) ∧ disk.refreshToken = token

theorem Stored.reading {dir : AccountsDir} {path : AccountPath} {token : String}
    (h : Stored dir path token) : dir.reading path = some token := by
  obtain ⟨hnormal, disk, hfile, rfl⟩ := h
  simpa [AccountsDir.reading, hfile] using hnormal

/-- Every valid account file holds its token in normal form. -/
def AccountsDir.Trimmed (dir : AccountsDir) : Prop :=
  ∀ path token, dir.reading path = some token → Stored dir path token

structure Coherent (dir : AccountsDir) (r : AccountRecord) : Prop where
  path : r.filePath = ⟨r.id⟩
  stored : r.detached = false → Stored dir r.filePath r.refreshToken
  gone : r.detached = true → r.authInvalidTombstone = false → dir.reading r.filePath = none
  tombstone : r.authInvalidTombstone = true → r.detached = true

namespace Coherent

variable {dir dir' : AccountsDir} {r r' : AccountRecord}

/-- An operation on other files, and on other fields. -/
theorem frame (h : Coherent dir r) (hsame : SameAccount r r')
    (hfile : dir'.file? r.filePath = dir.file? r.filePath) : Coherent dir' r' where
  path := by rw [hsame.filePath, hsame.id, h.path]
  stored hattached := by
    obtain ⟨hnormal, hdisk⟩ := h.stored (hsame.detached ▸ hattached)
    rw [Stored, hsame.filePath, hsame.refreshToken, hfile]
    exact ⟨hnormal, hdisk⟩
  gone hdetached htombstone := by
    rw [hsame.filePath, AccountsDir.reading, hfile]
    exact h.gone (hsame.detached ▸ hdetached) (hsame.authInvalidTombstone ▸ htombstone)
  tombstone htombstone := by
    rw [hsame.detached]
    exact h.tombstone (hsame.authInvalidTombstone ▸ htombstone)

theorem same (h : Coherent dir r) (hsame : SameAccount r r') : Coherent dir r' :=
  h.frame hsame rfl

/-- An attached record whose file is written with its token. -/
theorem of_stored (hpath : r.filePath = ⟨r.id⟩) (hattached : r.detached = false)
    (htombstone : r.authInvalidTombstone = false)
    (hstored : Stored dir r.filePath r.refreshToken) : Coherent dir r :=
  ⟨hpath, fun _ => hstored, fun hdetached => absurd hdetached (by simp [hattached]),
    fun ht => absurd ht (by simp [htombstone])⟩

theorem not_tombstoned (h : Coherent dir r) (hattached : r.detached = false) :
    r.authInvalidTombstone = false := by
  by_contra htombstone
  have hdetached := h.tombstone (by simpa using htombstone)
  simp [hattached] at hdetached

end Coherent

/-- A file operation leaves the other files alone. -/
theorem file?_other {dir : AccountsDir} {op : AccountDiskOp} {path : AccountPath}
    (hpath : path ≠ op.target) : (dir.applyDiskOp op).file? path = dir.file? path := by
  rw [AccountsDir.file?_applyDiskOp]
  cases op <;> exact if_neg hpath

/-- File operations act alike on directories with the same files. -/
theorem AccountsDir.file?_applyDiskOps {dir dir' : AccountsDir}
    (h : ∀ path, dir'.file? path = dir.file? path) (ops : List AccountDiskOp) (path : AccountPath) :
    (dir'.applyDiskOps ops).file? path = (dir.applyDiskOps ops).file? path := by
  induction ops generalizing dir dir' with
  | nil => exact h path
  | cons op ops ih =>
    refine ih fun path => ?_
    rw [AccountsDir.file?_applyDiskOp, AccountsDir.file?_applyDiskOp]
    cases op <;> simp only [h]

theorem stored_write {dir : AccountsDir} {path : AccountPath} {disk : AccountFile}
    (h : normalizeRefreshToken disk.refreshToken = some disk.refreshToken) :
    Stored (dir.applyDiskOp (.write path disk)) path disk.refreshToken :=
  ⟨h, disk, by rw [AccountsDir.file?_applyDiskOp]; exact if_pos rfl, rfl⟩

theorem trimmed_write {dir : AccountsDir} (htrimmed : dir.Trimmed) {path : AccountPath}
    {disk : AccountFile}
    (h : normalizeRefreshToken disk.refreshToken = some disk.refreshToken) :
    (dir.applyDiskOp (.write path disk)).Trimmed := by
  intro path' token hread
  by_cases hpath : path' = path
  · subst hpath
    have hstored : Stored (dir.applyDiskOp (.write path' disk)) path' disk.refreshToken :=
      stored_write h
    obtain rfl := Option.some.inj (hstored.reading.symm.trans hread)
    exact hstored
  · have hfile : (dir.applyDiskOp (.write path disk)).file? path' = dir.file? path' :=
      file?_other hpath
    rw [AccountsDir.reading, hfile] at hread
    rw [Stored, hfile]
    exact htrimmed path' token hread

theorem trimmed_delete {dir dir' : AccountsDir} (htrimmed : dir.Trimmed)
    (h : ∀ path, dir'.file? path = none ∨ dir'.file? path = dir.file? path) : dir'.Trimmed := by
  intro path token hread
  rcases h path with hnone | hsame
  · simp [AccountsDir.reading, hnone] at hread
  · rw [AccountsDir.reading, hsame] at hread
    rw [Stored, hsame]
    exact htrimmed path token hread

theorem Coherent.write_other {dir : AccountsDir} {r : AccountRecord} {path : AccountPath}
    {disk : AccountFile} (h : Coherent dir r) (hne : (⟨r.id⟩ : AccountPath) ≠ path) :
    Coherent (dir.applyDiskOp (.write path disk)) r :=
  h.frame (.refl r) (file?_other (h.path ▸ hne))

namespace AccountStore

variable {store : AccountStore} {now : Time} {id : String} {record : AccountRecord}

theorem finishRefreshSuccess_eq (hrecord : store.record? id = some record)
    (refreshed : RefreshedAccount) :
    store.finishRefreshSuccessWithoutPersist now id refreshed =
      some (store.apply now (.refreshSuccess id refreshed),
        if record.detached then none
        else some (.write record.filePath
          (accountFileFromRecord (refreshSuccessRecord now refreshed record)))) := by
  obtain ⟨hpath, -, -, hdetached⟩ := refreshSuccessRecord_frame now refreshed record
  simp [AccountStore.apply, finishRefreshSuccessWithoutPersist, hrecord, hpath, hdetached]

theorem prepareAuthInvalid_eq (hrecord : store.record? id = some record) (details : String) :
    store.prepareAuthInvalidFailure now id details =
      some (store.apply now (.prepareAuthInvalid id details),
        if record.detached then none else some (.moveToTrash record.filePath)) := by
  simp [AccountStore.apply, prepareAuthInvalidFailure, hrecord]

end AccountStore

/-- The store and the directory agree. -/
structure PoolCoherent (store : AccountStore) (dir : AccountsDir) : Prop where
  records : store.Holds (Coherent dir)
  trimmed : dir.Trimmed

namespace PoolCoherent

variable {store store' store₁ : AccountStore} {dir : AccountsDir} {now : Time} {id : String}

theorem follows (h : PoolCoherent store dir) (hfollows : store.Follows store₁) :
    PoolCoherent store₁ dir := by
  refine ⟨fun id r₁ hr₁ => ?_, h.trimmed⟩
  obtain ⟨r, hr, hsame⟩ := hfollows id r₁ hr₁
  exact (h.records id r hr).same hsame

/-- The pool depends on the files only. -/
theorem congr {dir' : AccountsDir} (h : PoolCoherent store dir)
    (hfiles : ∀ path, dir'.file? path = dir.file? path) : PoolCoherent store dir' :=
  ⟨fun id r hr => (h.records id r hr).frame (.refl r) (hfiles _),
    trimmed_delete h.trimmed fun path => .inr (hfiles path)⟩

/-- An attached record's file is rewritten with the record's token. -/
theorem write_own (h : PoolCoherent store dir) {record : AccountRecord} {disk : AccountFile}
    (hrecord : store.record? id = some record) (hattached : record.detached = false)
    (htoken : disk.refreshToken = record.refreshToken) :
    PoolCoherent store (dir.applyDiskOp (.write record.filePath disk)) := by
  have hcoherent := h.records id record hrecord
  have hnormal : normalizeRefreshToken disk.refreshToken = some disk.refreshToken :=
    htoken ▸ (hcoherent.stored hattached).1
  refine ⟨fun id' r hr => ?_, trimmed_write h.trimmed hnormal⟩
  have hr' := h.records id' r hr
  by_cases hid : r.id = record.id
  · have hsame : r = record := by
      rw [AccountStore.id_of_record? hr, AccountStore.id_of_record? hrecord] at hid
      exact Option.some.inj (hr.symm.trans (hid ▸ hrecord))
    subst hsame
    exact .of_stored hr'.path hattached (hr'.not_tombstoned hattached)
      (htoken ▸ stored_write hnormal)
  · refine hr'.write_other ?_
    rw [hcoherent.path]
    simpa using hid

/-- The token of an import replaces no other token of a live record. -/
def importKeeps (stableAccountId : String → String) (store : AccountStore)
    (refreshToken : String) : Prop :=
  ((normalizeRefreshToken refreshToken).all fun token =>
    (store.findAccountIdByRefreshToken token).isSome ||
      (store.record? (stableAccountId token)).all fun record =>
        record.authInvalidTombstone || decide (record.refreshToken = token)) = true

instance (stableAccountId : String → String) (store : AccountStore) (refreshToken : String) :
    Decidable (importKeeps stableAccountId store refreshToken) :=
  inferInstanceAs (Decidable (_ = true))

theorem findAccountIdByRefreshToken_some {token : String}
    (h : store.findAccountIdByRefreshToken token = some id) :
    ∃ record, store.record? id = some record ∧ record.detached = false ∧
      record.refreshToken = token := by
  obtain ⟨record, hfind, rfl⟩ := Option.map_eq_some_iff.mp h
  obtain ⟨id', hid'⟩ := HashMap.mem_values.mp (List.mem_of_find?_eq_some hfind)
  obtain rfl := store.keyed id' record hid'
  exact ⟨record, hid', by simpa using List.find?_some hfind⟩

theorem findAccountIdByRefreshToken_none {token : String}
    (h : store.findAccountIdByRefreshToken token = none) {record : AccountRecord}
    (hrecord : store.record? id = some record) (hattached : record.detached = false) :
    record.refreshToken ≠ token := by
  have hfind := List.find?_eq_none.mp (Option.map_eq_none_iff.mp h) record
    (HashMap.mem_values.mpr ⟨id, hrecord⟩)
  simpa [hattached] using hfind

/-- The two kinds of import plans: a metadata update of the attached account that has the
token, written with that account's token, or a new account under the token's id. -/
theorem prepareImportAccount_cases {stableAccountId : String → String} {refreshToken : String}
    {label email : Option String} {plan : ImportAccountPlan}
    (hplan : store.prepareImportAccount stableAccountId refreshToken label email = some plan) :
    ∃ token, normalizeRefreshToken refreshToken = some token ∧
      ((∃ record, store.record? plan.accountId = some record ∧ record.detached = false ∧
          record.refreshToken = token ∧
          ((plan.apply = .none ∧ plan.diskOp = none) ∨
            ∃ label' email', plan.apply = .updateMetadata plan.accountId label' email' ∧
              plan.diskOp = some (.write record.filePath ⟨record.refreshToken, label', email'⟩))) ∨
        (store.findAccountIdByRefreshToken token = none ∧
          plan.accountId = stableAccountId token ∧
          ∃ disk, disk.refreshToken = token ∧
            plan.apply = .insert (stableAccountId token) ⟨stableAccountId token⟩ disk ∧
            plan.diskOp = some (.write ⟨stableAccountId token⟩ disk))) := by
  obtain ⟨token, htoken, hplan⟩ := Option.bind_eq_some_iff.mp hplan
  refine ⟨token, htoken, ?_⟩
  dsimp only at hplan
  split at hplan
  next existingId hfind =>
    obtain ⟨record, hrecord, hattached, hrefresh⟩ := findAccountIdByRefreshToken_some hfind
    rw [AccountStore.prepareExistingAccountMetadataUpdate, hrecord, Option.map_some,
      Option.some.injEq] at hplan
    subst hplan
    refine .inl ⟨record, hrecord, hattached, hrefresh, ?_⟩
    dsimp only
    split
    next hchanged => exact .inr ⟨_, _, rfl, by rw [hchanged, hattached]; rfl⟩
    next hchanged => exact .inl ⟨rfl, by rw [Bool.eq_false_iff.mpr hchanged]; rfl⟩
  next hfind =>
    obtain rfl := Option.some.inj hplan
    exact .inr ⟨hfind, rfl, _, rfl, rfl, rfl⟩

/-- Loading the file just written for a token under a record's id. -/
theorem upsert_written {token : String} {disk : AccountFile} {path : AccountPath}
    {r : AccountRecord} (hr : Coherent dir r) (hpath : path = ⟨r.id⟩)
    (htoken : disk.refreshToken = token) (hnormal : normalizeRefreshToken token = some token)
    (hkeeps : r.authInvalidTombstone = true ∨ r.refreshToken = token) :
    Coherent (dir.applyDiskOp (.write path disk)) (AccountStore.upsertRecord path disk r) := by
  subst htoken
  by_cases htombstone : r.authInvalidTombstone = true
  · have hdetached : (AccountStore.upsertRecord path disk r).detached = true := by
      simp [AccountStore.upsertRecord, htombstone, hr.tombstone htombstone]
    exact ⟨hpath, fun ha => absurd ha (by simp [hdetached]),
      fun _ ht => absurd htombstone (by simpa [AccountStore.upsertRecord] using ht),
      fun _ => hdetached⟩
  · have hattached : (AccountStore.upsertRecord path disk r).detached = false := by
      simp [AccountStore.upsertRecord, htombstone]
    refine .of_stored hpath hattached (by simpa [AccountStore.upsertRecord] using htombstone) ?_
    have hstored : Stored (dir.applyDiskOp (.write path disk)) path disk.refreshToken :=
      stored_write hnormal
    have hrefresh := hkeeps.resolve_left htombstone
    simpa [AccountStore.upsertRecord, hrefresh] using hstored

theorem newRecord_written {id : String} {disk : AccountFile}
    (hnormal : normalizeRefreshToken disk.refreshToken = some disk.refreshToken) :
    Coherent (dir.applyDiskOp (.write ⟨id⟩ disk)) (AccountStore.newRecord id ⟨id⟩ disk) :=
  .of_stored rfl rfl rfl (stored_write hnormal)

/-- An import, applied to a store the plan's store has become. -/
theorem importAccount {stableAccountId : String → String} {refreshToken : String}
    {label email : Option String} {plan : ImportAccountPlan} (h : PoolCoherent store dir)
    (hplan : store.prepareImportAccount stableAccountId refreshToken label email = some plan)
    (hkeeps : importKeeps stableAccountId store refreshToken) (hfollows : store.Follows store₁) :
    PoolCoherent (store₁.applyImportAccountPlan plan).1 (dir.runAccountDiskOp plan.diskOp) := by
  obtain ⟨token, htoken, hcases⟩ := prepareImportAccount_cases hplan
  have hnormal := normalizeRefreshToken_idem htoken
  rcases hcases with ⟨record, hrecord, hattached, hrefresh, ⟨happly, hop⟩ |
    ⟨label', email', happly, hop⟩⟩ | ⟨hfind, -, disk, hdisk, happly, hop⟩
  · rw [AccountStore.applyImportAccountPlan, happly, hop]
    exact h.follows hfollows
  · have hwrite : PoolCoherent store₁ (dir.applyDiskOp
        (.write record.filePath ⟨record.refreshToken, label', email'⟩)) :=
      (h.write_own hrecord hattached rfl).follows hfollows
    rw [AccountStore.applyImportAccountPlan, happly, hop]
    dsimp only
    split
    next => exact hwrite
    next =>
      refine ⟨fun id' r hr => ?_, hwrite.trimmed⟩
      dsimp only at hr
      obtain ⟨old, hold, rfl⟩ := AccountStore.of_record?_modify hr
      have hr' := hwrite.records id' old hold
      split
      next => exact ⟨hr'.path, hr'.stored, hr'.gone, hr'.tombstone⟩
      next => exact hr'
  · rw [importKeeps, htoken, Option.all_some, hfind] at hkeeps
    have hlive : ∀ r, store.record? (stableAccountId token) = some r →
        r.authInvalidTombstone = true ∨ r.refreshToken = token := by
      intro r hr
      simpa [hr] using hkeeps
    rw [AccountStore.applyImportAccountPlan, happly, hop]
    have hnormal' : normalizeRefreshToken disk.refreshToken = some disk.refreshToken := by
      rw [hdisk, hnormal]
    refine ⟨fun id' r' hr' => ?_, trimmed_write h.trimmed hnormal'⟩
    rcases AccountStore.of_record?_upsertDiskRecord hr' with ⟨r₁, hr₁, rfl⟩ | ⟨rfl, -, rfl⟩
    · obtain ⟨r, hr, hsame⟩ := hfollows id' r₁ hr₁
      have hr₁' := (h.records id' r hr).same hsame
      have hid := AccountStore.id_of_record? hr₁
      split
      next heq =>
        subst heq
        refine upsert_written hr₁' (by rw [hid]) hdisk hnormal ?_
        rw [hsame.authInvalidTombstone, hsame.refreshToken]
        exact hlive r hr
      next hne => exact hr₁'.write_other (by rw [hid]; simpa using hne)
    · exact newRecord_written hnormal'

/-- A committed refresh and the write that persists it. -/
theorem finishRefreshSuccess {refreshed : RefreshedAccount} {op : Option AccountDiskOp}
    (h : PoolCoherent store dir)
    (hop : store.finishRefreshSuccessWithoutPersist now id refreshed = some (store', op))
    (hnormal : ∀ token, refreshed.refreshToken = some token →
      normalizeRefreshToken token = some token) :
    PoolCoherent store' (dir.runAccountDiskOp op) := by
  obtain ⟨record, hrecord, heq⟩ := Option.map_eq_some_iff.mp hop
  obtain ⟨rfl, rfl⟩ := Prod.mk.inj heq
  obtain ⟨hpath, htoken, htombstone, hdetached⟩ := refreshSuccessRecord_frame now refreshed record
  have hr := h.records id record hrecord
  have hid := AccountStore.id_of_record? hrecord
  by_cases hattached : record.detached = false
  · rw [hdetached, if_neg (by simp [hattached]), hpath]
    have hdisk : normalizeRefreshToken (accountFileFromRecord
        (refreshSuccessRecord now refreshed record)).refreshToken =
        some (refreshSuccessRecord now refreshed record).refreshToken := by
      simp only [accountFileFromRecord, htoken]
      cases hrotated : refreshed.refreshToken with
      | none => exact (hr.stored hattached).1
      | some token => exact hnormal token hrotated
    refine ⟨fun id' r' hr' => ?_, trimmed_write h.trimmed hdisk⟩
    obtain ⟨old, hold, rfl⟩ := AccountStore.of_record?_update hr'
    split
    next heq =>
      subst heq
      obtain rfl := Option.some.inj (hrecord.symm.trans hold)
      refine .of_stored ?_ (hdetached.trans hattached)
        (htombstone.trans (hr.not_tombstoned hattached)) ?_
      · rw [hpath, refreshSuccessRecord_id, hr.path]
      · rw [hpath]
        exact stored_write hdisk
    next hne =>
      refine (h.records id' old hold).write_other ?_
      rw [AccountStore.id_of_record? hold, hr.path, hid]
      simpa using hne
  · have hgone : record.detached = true := by simpa using hattached
    rw [hdetached, if_pos hgone]
    refine ⟨fun id' r' hr' => ?_, h.trimmed⟩
    obtain ⟨old, hold, rfl⟩ := AccountStore.of_record?_update hr'
    split
    next heq =>
      subst heq
      obtain rfl := Option.some.inj (hrecord.symm.trans hold)
      refine ⟨?_, fun ha => absurd ha (by simp [hdetached, hgone]), fun _ ht => ?_, fun _ => ?_⟩
      · rw [hpath, refreshSuccessRecord_id, hr.path]
      · rw [hpath]
        exact hr.gone hgone (htombstone ▸ ht)
      · rw [hdetached, hgone]
    next => exact h.records id' old hold

/-- An account whose file has just been taken away. -/
theorem detach {path : AccountPath} {dir' : AccountsDir} {f : AccountRecord → AccountRecord}
    {hf : ∀ r, (f r).id = r.id} (h : PoolCoherent store dir)
    (hpath : ∀ r, store.record? id = some r → r.detached = true ∨ r.filePath = path)
    (hfile : ∀ path', dir'.file? path' = if path' = path then none else dir.file? path')
    (hfields : ∀ r, (f r).filePath = r.filePath ∧ (f r).detached = true ∧
      ((f r).authInvalidTombstone = false → r.authInvalidTombstone = false))
    (hother : ∀ id' r, store.record? id' = some r → id' ≠ id → r.filePath ≠ path) :
    PoolCoherent (store.update id f hf) dir' := by
  refine ⟨fun id' r' hr' => ?_, trimmed_delete h.trimmed fun path' => ?_⟩
  · obtain ⟨old, hold, rfl⟩ := AccountStore.of_record?_update hr'
    have hr := h.records id' old hold
    split
    next heq =>
      subst heq
      obtain ⟨hpath', hdetached, htombstone⟩ := hfields old
      refine ⟨by rw [hpath', hf, hr.path], fun ha => absurd ha (by simp [hdetached]),
        fun _ ht => ?_, fun _ => hdetached⟩
      rw [hpath', AccountsDir.reading, hfile]
      split
      next => rfl
      next hne =>
        refine hr.gone ?_ (htombstone ht)
        exact (hpath old hold).resolve_right hne
    next hne =>
      refine hr.frame (.refl old) ?_
      rw [hfile, if_neg (hother id' old hold hne)]
  · rw [hfile]
    split
    · exact .inl rfl
    · exact .inr rfl

/-- A record's own path is no other record's. -/
theorem path_ne (h : PoolCoherent store dir) {record : AccountRecord}
    (hrecord : store.record? id = some record) {id' : String} {r : AccountRecord}
    (hr : store.record? id' = some r) (hne : id' ≠ id) : r.filePath ≠ record.filePath := by
  rw [(h.records id record hrecord).path, (h.records id' r hr).path,
    AccountStore.id_of_record? hrecord, AccountStore.id_of_record? hr]
  simpa using hne

/-- A removal, applied to a store the plan's store has become. -/
theorem removeAccount {plan : RemoveAccountPlan} (h : PoolCoherent store dir)
    (hplan : store.prepareRemoveAccount id = some plan) (hfollows : store.Follows store₁) :
    PoolCoherent (store₁.applyRemoveAccountPlan plan) (dir.applyDiskOp plan.diskOp) := by
  obtain ⟨record, hrecord, rfl⟩ := Option.map_eq_some_iff.mp hplan
  have hpath {id' : String} {r₁ : AccountRecord} (hr₁ : store₁.record? id' = some r₁) :
      r₁.filePath = record.filePath ↔ id' = id := by
    obtain ⟨r, hr, hsame⟩ := hfollows id' r₁ hr₁
    rw [hsame.filePath]
    constructor
    · exact fun heq => by_contra fun hne => h.path_ne hrecord hr hne heq
    · rintro rfl
      rw [Option.some.inj (hr.symm.trans hrecord)]
  refine (h.follows hfollows).detach (fun r hr => .inr ((hpath hr).mpr rfl)) (fun path' => ?_)
    (fun r => ⟨rfl, rfl, fun h => h⟩) (fun id' r hr hne heq => hne ((hpath hr).mp heq))
  rw [AccountsDir.file?_applyDiskOp]

/-- A refresh answered auth-invalid: the record is marked, its file moved to the trash,
and the record detached in a store the marked one has become. -/
theorem finishAuthInvalid {now' : Time} {details : String} {op : Option AccountDiskOp}
    (h : PoolCoherent store dir)
    (hop : store.prepareAuthInvalidFailure now id details = some (store', op))
    (hfollows : store'.Follows store₁) :
    PoolCoherent (store₁.apply now' (.finalizeAuthInvalid id)) (dir.runAccountDiskOp op) := by
  obtain ⟨record, hrecord, heq⟩ := Option.map_eq_some_iff.mp hop
  obtain ⟨rfl, rfl⟩ := Prod.mk.inj heq
  have hr := h.records id record hrecord
  -- the file operation leaves the files of the other records alone
  have hfile {id' : String} {r : AccountRecord} (hr' : store.record? id' = some r)
      (hne : id' ≠ id) : (dir.runAccountDiskOp
        (if record.detached then none else some (.moveToTrash record.filePath))).file?
          r.filePath = dir.file? r.filePath := by
    split
    · rfl
    · have htarget : r.filePath ≠ (AccountDiskOp.moveToTrash record.filePath).target :=
        h.path_ne hrecord hr' hne
      exact file?_other htarget
  refine ⟨fun id' r₂ hr₂ => ?_, trimmed_delete h.trimmed fun path' => ?_⟩
  · have htrace : ∃ r₁, store₁.record? id' = some r₁ ∧
        r₂ = if id' = id then finalizeAuthInvalidRecord now' r₁ else r₁ := by
      cases hfound : store₁.record? id with
      | none =>
        simp only [AccountStore.apply, AccountStore.finalizeAuthInvalidFailure, hfound,
          Option.map_none, Option.getD_none] at hr₂
        refine ⟨r₂, hr₂, ?_⟩
        split
        next hid => simp [← hid, hr₂] at hfound
        next => rfl
      | some _ =>
        simp only [AccountStore.apply, AccountStore.finalizeAuthInvalidFailure, hfound,
          Option.map_some, Option.getD_some] at hr₂
        exact AccountStore.of_record?_update hr₂
    obtain ⟨r₁, hr₁, rfl⟩ := htrace
    obtain ⟨r', hr', hsame⟩ := hfollows id' r₁ hr₁
    obtain ⟨r, hr, rfl⟩ := AccountStore.of_record?_modify hr'
    have hcoherent := h.records id' r hr
    by_cases hid : id' = id
    · rw [if_pos hid] at hsame ⊢
      have hpath : (finalizeAuthInvalidRecord now' r₁).filePath = ⟨r₁.id⟩ := by
        have hfilePath : r₁.filePath = r.filePath := hsame.filePath
        have hid' : r₁.id = r.id := hsame.id
        rw [hid', ← hcoherent.path, ← hfilePath]
        rfl
      exact ⟨hpath, fun h => (by cases h), fun _ h => (by cases h), fun _ => rfl⟩
    · rw [if_neg hid] at hsame ⊢
      exact hcoherent.frame hsame (hfile hr hid)
  · split
    · exact .inr rfl
    · rw [AccountsDir.runAccountDiskOp, Option.elim_some, AccountsDir.file?_applyDiskOp]
      dsimp only
      split
      · exact .inl rfl
      · exact .inr rfl

end PoolCoherent

end Codaze.Accounts
