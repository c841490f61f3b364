import Codaze.Accounts.AuthInvalid
import Codaze.Accounts.Coherence
import Codaze.Accounts.Tokens

/-!
# The attached records

An operation makes a record attached by loading a file for an account that is new, or that
is detached and keeps the token it has in memory. The second kind may bring a token back
that another account has come to hold.
-/
namespace Codaze.Accounts
open Foundation

/-- A record that a change leaves attached was attached, or a loaded file attached it. -/
theorem RecordChange.attached_back {now : Time} {op : StoreOp} {r r' : AccountRecord}
    (h : RecordChange now op r r') (hattached : r'.detached = false) :
    r.detached = false ∨
      r.authInvalidTombstone = false ∧ ∃ upsert ∈ op.upserts, upsert.id = r.id := by
  have hsame (hdetached : r'.detached = r.detached) : r.detached = false :=
    hdetached.symm.trans hattached
  cases h with
  | expire | expireBeforeSelect => exact .inl (hsame (expireRecord_same now r).detached)
  | select => exact .inl (hsame (selectRecord_same now _ r).detached)
  | wake | wakeAll => exact .inl (hsame (applyWake_same r now).detached)
  | markSuccess => exact .inl (hsame (markSuccessRecord_same now r).detached)
  | invalidate => exact .inl (hsame (invalidateRecord_same now r).detached)
  | release => exact .inl (hsame (releaseRecord_same now r).detached)
  | fail => exact .inl (hsame (failRecord_same now _ _ _ r).detached)
  | refreshSuccess => exact .inl (hsame (refreshSuccessRecord_frame now _ r).2.2.2)
  | prepareAuthInvalid | noteTrashFailure | updateMetadata => exact .inl hattached
  | finalizeAuthInvalid | remove | retire => cases hattached
  | @upsert _ path disk _ hupsert =>
    cases htombstone : r.authInvalidTombstone with
    | false => exact .inr ⟨rfl, _, hupsert, rfl⟩
    | true =>
      simp only [AccountStore.upsertRecord, htombstone, if_true] at hattached
      exact .inl hattached

/-- Along the changes of an operation, the tombstone stays and only a loaded file attaches. -/
theorem RecordChanges.attached_back {now : Time} {op : StoreOp} {r r' : AccountRecord}
    (h : RecordChanges now op r r') (hattached : r'.detached = false) :
    r.detached = false ∨
      r.authInvalidTombstone = false ∧ ∃ upsert ∈ op.upserts, upsert.id = r.id := by
  have hinv : r'.id = r.id ∧ (r.authInvalidTombstone = true → r'.authInvalidTombstone = true) ∧
      (r'.detached = false → r.detached = false ∨
        r.authInvalidTombstone = false ∧ ∃ upsert ∈ op.upserts, upsert.id = r.id) := by
    refine h.invariant (P := fun s => s.id = r.id ∧
      (r.authInvalidTombstone = true → s.authInvalidTombstone = true) ∧
      (s.detached = false → r.detached = false ∨
        r.authInvalidTombstone = false ∧ ∃ upsert ∈ op.upserts, upsert.id = r.id))
      (fun s s' hchange hs => ?_) ⟨rfl, fun htombstone => htombstone, .inl⟩
    obtain ⟨hid, htombstone, hback⟩ := hs
    refine ⟨hchange.id_eq.trans hid, fun ht => hchange.tombstone (htombstone ht), fun hs' => ?_⟩
    rcases hchange.attached_back hs' with hs | ⟨hclear, upsert, hmem, hupsert⟩
    · exact hback hs
    · refine .inr ⟨?_, upsert, hmem, hupsert.trans hid⟩
      by_contra ht
      rw [htombstone (by simpa using ht)] at hclear
      cases hclear
  exact hinv.2.2 hattached

/-- Only loading a file changes the path of an account's file. -/
theorem RecordChange.filePath {now : Time} {op : StoreOp} {r r' : AccountRecord}
    (h : RecordChange now op r r') :
    r'.filePath = r.filePath ∨ ∃ upsert ∈ op.upserts, upsert.id = r.id ∧
      r'.filePath = upsert.path := by
  cases h with
  | expire | expireBeforeSelect => exact .inl (expireRecord_same now r).filePath
  | select => exact .inl (selectRecord_same now _ r).filePath
  | wake | wakeAll => exact .inl (applyWake_same r now).filePath
  | markSuccess => exact .inl (markSuccessRecord_same now r).filePath
  | invalidate => exact .inl (invalidateRecord_same now r).filePath
  | release => exact .inl (releaseRecord_same now r).filePath
  | fail => exact .inl (failRecord_same now _ _ _ r).filePath
  | refreshSuccess => exact .inl (refreshSuccessRecord_frame now _ r).1
  | prepareAuthInvalid | finalizeAuthInvalid | noteTrashFailure | updateMetadata | remove
  | retire => exact .inl rfl
  | upsert hupsert => exact .inr ⟨_, hupsert, rfl, rfl⟩

namespace AccountStore

variable {store : AccountStore} {now : Time} {op : StoreOp}

/-- The files an operation loads are named after their accounts. -/
def LoadsNamed (op : StoreOp) : Prop := ∀ upsert ∈ op.upserts, upsert.path = ⟨upsert.id⟩

theorem pathsNamed_apply (h : store.PathsNamed) (hloads : LoadsNamed op) :
    (store.apply now op).PathsNamed := by
  intro id record hrecord
  have hrun {old : AccountRecord} (hpath : old.filePath = ⟨old.id⟩)
      (hchanges : RecordChanges now op old record) : record.filePath = ⟨record.id⟩ := by
    refine hchanges.invariant (P := fun r => r.filePath = ⟨r.id⟩) (fun r r' hchange hr => ?_) hpath
    rw [hchange.id_eq]
    rcases hchange.filePath with hsame | ⟨upsert, hmem, hid, hpath'⟩
    · exact hsame.trans hr
    · rw [hpath', hloads upsert hmem, hid]
  rcases traced_apply hrecord with ⟨old, hold, hchanges⟩ | ⟨-, upsert, hmem, rfl, hchanges⟩
  · exact hrun (h id old hold) hchanges
  · exact hrun (hloads upsert hmem) hchanges

/-- No two attached records hold the same refresh token. -/
def AttachedDistinct (store : AccountStore) : Prop :=
  ∀ id id' r r', store.record? id = some r → store.record? id' = some r' →
    r.detached = false → r'.detached = false → r.refreshToken = r'.refreshToken → id = id'

theorem AttachedDistinct.of_tokensDistinct (h : store.TokensDistinct) : store.AttachedDistinct :=
  fun id id' r r' hr hr' _ _ htoken => h id id' r r' hr hr' htoken

/-- The token of the account that loading a file makes attached. -/
def attaches? (store : AccountStore) (upsert : DiskSyncUpsert) : Option String :=
  match store.record? upsert.id with
  | none => some upsert.disk.refreshToken
  | some record =>
    if record.detached && !record.authInvalidTombstone then some record.refreshToken else none

/-- An attached record of the later store was attached, or a file was loaded for its account. -/
theorem attached_source {id : String} {record : AccountRecord}
    (h : (store.apply now op).record? id = some record) (hattached : record.detached = false) :
    (∃ old, store.record? id = some old ∧ old.detached = false) ∨
      ∃ upsert ∈ op.upserts, upsert.id = id := by
  rcases traced_apply h with ⟨old, hold, hchanges⟩ | ⟨-, upsert, hmem, hid, -⟩
  · rcases hchanges.attached_back hattached with hdetached | ⟨-, upsert, hmem, hid⟩
    · exact .inl ⟨old, hold, hdetached⟩
    · exact .inr ⟨upsert, hmem, hid.trans (id_of_record? hold)⟩
  · exact .inr ⟨upsert, hmem, hid⟩

/-- An attached record of the later store was attached, with the token it has now, or a file
that was loaded attached it. -/
theorem attached_origin {id : String} {record : AccountRecord}
    (h : (store.apply now op).record? id = some record) (hattached : record.detached = false)
    (hop : op.commits? ≠ some id) :
    (∃ old, store.record? id = some old ∧ old.detached = false ∧
      record.refreshToken = old.refreshToken) ∨
    ∃ upsert ∈ op.upserts, upsert.id = id ∧
      store.attaches? upsert = some record.refreshToken := by
  rcases traced_apply h with ⟨old, hold, hchanges⟩ | ⟨hnone, upsert, hmem, rfl, hchanges⟩
  · have hid := id_of_record? hold
    have htoken : record.refreshToken = old.refreshToken :=
      hchanges.refreshToken (by rwa [hid])
    cases hdetached : old.detached with
    | false => exact .inl ⟨old, hold, hdetached, htoken⟩
    | true =>
      rcases hchanges.attached_back hattached with hfalse | ⟨hclear, upsert, hmem, hupsert⟩
      · rw [hdetached] at hfalse
        cases hfalse
      · have hupsert : upsert.id = id := hupsert.trans hid
        refine .inr ⟨upsert, hmem, hupsert, ?_⟩
        simp [attaches?, hupsert, hold, hdetached, hclear, htoken]
  · refine .inr ⟨upsert, hmem, rfl, ?_⟩
    have htoken : record.refreshToken = upsert.disk.refreshToken := hchanges.refreshToken hop
    simp [attaches?, hnone, htoken]

/-- The tokens an operation loads: no attached record of another account has one, and each is
loaded for one account. -/
structure LoadsApart (store : AccountStore) (op : StoreOp) : Prop where
  alone : ∀ upsert ∈ op.upserts, ∀ id r, store.record? id = some r → r.detached = false →
    r.refreshToken = upsert.disk.refreshToken → id = upsert.id
  distinct : LoadsDistinct op

theorem loadsApart_of_upserts (h : op.upserts = []) : LoadsApart store op where
  alone upsert hmem := by simp [h] at hmem
  distinct upsert hmem := by simp [h] at hmem

/-- Where the attached records become fewer, a plan made before still fits. -/
theorem LoadsApart.frame {store' : AccountStore} (h : LoadsApart store op)
    (hattached : ∀ id r', store'.record? id = some r' → r'.detached = false →
      ∃ r, store.record? id = some r ∧ r.detached = false ∧ r'.refreshToken = r.refreshToken) :
    LoadsApart store' op where
  distinct := h.distinct
  alone upsert hmem id r' hr' hdetached' htoken := by
    obtain ⟨r, hr, hdetached, hsame⟩ := hattached id r' hr' hdetached'
    exact h.alone upsert hmem id r hr hdetached (hsame.symm.trans htoken)

/-- A detached record that the operation attaches again has a token in memory that no attached
record has, and that the operation gives to no other account. -/
def ResurrectsApart (store : AccountStore) (op : StoreOp) : Prop :=
  ∀ upsert ∈ op.upserts, ∀ record, store.record? upsert.id = some record →
    record.detached = true → record.authInvalidTombstone = false →
      (∀ id r, store.record? id = some r → r.detached = false →
        r.refreshToken ≠ record.refreshToken) ∧
      ∀ upsert' ∈ op.upserts, upsert'.id ≠ upsert.id →
        store.attaches? upsert' ≠ some record.refreshToken

/-- What a file attaches: a new account with the token of the file, or a detached record with
its own. -/
theorem attaches?_cases {upsert : DiskSyncUpsert} {token : String}
    (h : store.attaches? upsert = some token) :
    store.record? upsert.id = none ∧ upsert.disk.refreshToken = token ∨
      ∃ record, store.record? upsert.id = some record ∧ record.detached = true ∧
        record.authInvalidTombstone = false ∧ record.refreshToken = token := by
  unfold attaches? at h
  split at h
  next hnone => exact .inl ⟨hnone, Option.some.inj h⟩
  next record hrecord =>
    obtain ⟨hclear, htoken⟩ := Option.ite_none_right_eq_some.mp h
    simp only [Bool.and_eq_true, Bool.not_eq_true'] at hclear
    exact .inr ⟨record, hrecord, hclear.1, hclear.2, Option.some.inj htoken⟩

/-- Loading files keeps the attached tokens apart, if what it resurrects is apart. -/
theorem AttachedDistinct.load (h : store.AttachedDistinct) (hop : op.commits? = none)
    (hloads : LoadsApart store op) (hresurrects : ResurrectsApart store op) :
    (store.apply now op).AttachedDistinct := by
  have hcommits (id : String) : op.commits? ≠ some id := by simp [hop]
  -- a token that is attached by a file is new to the attached records
  have hnew {upsert : DiskSyncUpsert} {token : String} (hmem : upsert ∈ op.upserts)
      (hattaches : store.attaches? upsert = some token) {id : String} {r : AccountRecord}
      (hr : store.record? id = some r) (hattached : r.detached = false)
      (htoken : r.refreshToken = token) : id = upsert.id := by
    rcases attaches?_cases hattaches with ⟨-, hdisk⟩ | ⟨record, hrecord, hdetached, hclear, hsame⟩
    · exact hloads.alone upsert hmem id r hr hattached (htoken.trans hdisk.symm)
    · have hapart := (hresurrects upsert hmem record hrecord hdetached hclear).1 id r hr hattached
      exact absurd (htoken.trans hsame.symm) hapart
  intro id id' r r' hr hr' hattached hattached' htoken
  rcases attached_origin hr hattached (hcommits id) with
    ⟨old, hold, hdetached, hsame⟩ | ⟨upsert, hmem, rfl, hattaches⟩
  · rcases attached_origin hr' hattached' (hcommits id') with
      ⟨old', hold', hdetached', hsame'⟩ | ⟨upsert', hmem', rfl, hattaches'⟩
    · exact h id id' old old' hold hold' hdetached hdetached'
        (hsame.symm.trans (htoken.trans hsame'))
    · exact hnew hmem' hattaches' hold hdetached (hsame.symm.trans htoken)
  · rcases attached_origin hr' hattached' (hcommits id') with
      ⟨old', hold', hdetached', hsame'⟩ | ⟨upsert', hmem', rfl, hattaches'⟩
    · exact (hnew hmem hattaches hold' hdetached' (hsame'.symm.trans htoken.symm)).symm
    · by_contra hne
      have hattaches' : store.attaches? upsert' = some r.refreshToken := htoken ▸ hattaches'
      rcases attaches?_cases hattaches with
        ⟨-, hdisk⟩ | ⟨record, hrecord, hdetached, hclear, hsame⟩
      · rcases attaches?_cases hattaches' with
          ⟨-, hdisk'⟩ | ⟨record', hrecord', hdetached', hclear', hsame'⟩
        · exact hne (hloads.distinct upsert hmem upsert' hmem' (hdisk.trans hdisk'.symm))
        · refine (hresurrects upsert' hmem' record' hrecord' hdetached' hclear').2
            upsert hmem hne ?_
          rw [hsame', hattaches]
      · refine (hresurrects upsert hmem record hrecord hdetached hclear).2 upsert' hmem'
          (fun heq => hne heq.symm) ?_
        rw [hsame, hattaches']

/-- A refresh that rotates gives its account a token no other attached record has. -/
def RotatesApart (store : AccountStore) : StoreOp → Prop
  | .refreshSuccess id refreshed => ∀ token, refreshed.refreshToken = some token →
    ∀ id' r, store.record? id' = some r → r.detached = false → r.refreshToken = token → id' = id
  | _ => True

theorem AttachedDistinct.commit {id : String} {refreshed : RefreshedAccount}
    (h : store.AttachedDistinct) (hfresh : RotatesApart store (.refreshSuccess id refreshed)) :
    (store.apply now (.refreshSuccess id refreshed)).AttachedDistinct := by
  have horigin {id' : String} {r : AccountRecord}
      (hr : (store.apply now (.refreshSuccess id refreshed)).record? id' = some r) :
      ∃ old, store.record? id' = some old ∧ r.detached = old.detached ∧
        (r.refreshToken = old.refreshToken ∨
          id' = id ∧ refreshed.refreshToken = some r.refreshToken) := by
    obtain ⟨old, hold, rfl⟩ := of_record?_refreshSuccess hr
    refine ⟨old, hold, ?_⟩
    split
    next hid =>
      obtain ⟨-, htoken, -, hdetached⟩ := refreshSuccessRecord_frame now refreshed old
      refine ⟨hdetached, ?_⟩
      cases hrotated : refreshed.refreshToken with
      | none => exact .inl (by rw [htoken, hrotated]; rfl)
      | some token => exact .inr ⟨hid, by rw [htoken, hrotated]; rfl⟩
    next => exact ⟨rfl, .inl rfl⟩
  intro id₁ id₂ r₁ r₂ hr₁ hr₂ hattached₁ hattached₂ htoken
  obtain ⟨old₁, hold₁, hdetached₁, hsource₁⟩ := horigin hr₁
  obtain ⟨old₂, hold₂, hdetached₂, hsource₂⟩ := horigin hr₂
  rw [hdetached₁] at hattached₁
  rw [hdetached₂] at hattached₂
  rcases hsource₁ with hsame₁ | ⟨rfl, hnew₁⟩
  · rcases hsource₂ with hsame₂ | ⟨rfl, hnew₂⟩
    · exact h id₁ id₂ old₁ old₂ hold₁ hold₂ hattached₁ hattached₂
        (hsame₁.symm.trans (htoken.trans hsame₂))
    · exact hfresh _ hnew₂ id₁ old₁ hold₁ hattached₁ (hsame₁.symm.trans htoken)
  · rcases hsource₂ with hsame₂ | ⟨rfl, -⟩
    · exact (hfresh _ hnew₁ id₂ old₂ hold₂ hattached₂ (hsame₂.symm.trans htoken.symm)).symm
    · rfl

/-- An import loads a token that no attached record has. -/
theorem loadsApart_import {stableAccountId : String → String} {refreshToken : String}
    {label email : Option String} {plan : ImportAccountPlan}
    (h : store.prepareImportAccount stableAccountId refreshToken label email = some plan) :
    LoadsApart store (.applyImport plan) := by
  refine ⟨fun upsert hmem id r hr hattached htoken => ?_, loadsDistinct_import plan⟩
  obtain ⟨token, -, ⟨record, -, -, -, hmetadata⟩ | ⟨hnone, -, disk, hdisk, happly, -⟩⟩ :=
    PoolCoherent.prepareImportAccount_cases h
  · rcases hmetadata with ⟨happly, -⟩ | ⟨label', email', happly, -⟩
    · simp [StoreOp.upserts, happly] at hmem
    · simp [StoreOp.upserts, happly] at hmem
  · simp only [StoreOp.upserts, happly, List.mem_singleton] at hmem
    subst hmem
    exact absurd (htoken.trans hdisk)
      (PoolCoherent.findAccountIdByRefreshToken_none hnone hr hattached)

/-- A rescan loads the file of a token for the attached record that has it. -/
theorem loadsApart_rescan (hdistinct : store.AttachedDistinct) {snapshot : DiskScanSnapshot}
    {plan : DiskSyncPlan} (h : store.buildDiskSyncPlan snapshot .rescan = some plan) :
    LoadsApart store (.applySync plan) := by
  refine ⟨fun upsert hmem id r hr hattached htoken => ?_, loadsDistinct_of_plan h⟩
  obtain ⟨token, target, htarget, rfl⟩ := (mem_plan_upserts h).mp hmem
  rw [mergeDuplicateAccountFiles_token, htarget.token] at htoken
  rcases htarget.cases with ⟨record, -, hpreferred, hid, -⟩ | ⟨hstartup | hnone, -⟩
  · obtain ⟨hrecord, hrecordAttached, hrecordToken⟩ := preferredExistingRecord_spec hpreferred
    have hsame : id = record.id := hdistinct id record.id r record hr hrecord hattached
      hrecordAttached (htoken.trans hrecordToken.symm)
    exact hsame.trans hid.symm
  · cases hstartup
  · exact absurd htoken (preferredExistingRecord_eq_none hnone hr hattached)

section Decidable

theorem forall_attached_iff {P : String → AccountRecord → Prop} :
    (∀ id r, store.record? id = some r → r.detached = false → P id r) ↔
      ∀ r ∈ store.records.values, r.detached = false → P r.id r := by
  rw [forall_record_iff (P := fun id r => r.detached = false → P id r)]

instance (store : AccountStore) (op : StoreOp) : Decidable (RotatesApart store op) :=
  match op with
  | .refreshSuccess id refreshed => decidable_of_iff
      (∀ r ∈ store.records.values, r.detached = false →
        refreshed.refreshToken = some r.refreshToken → r.id = id) (by
        rw [RotatesApart, ← forall_attached_iff (P := fun id' r =>
          refreshed.refreshToken = some r.refreshToken → id' = id)]
        exact ⟨fun h token htoken id' r hr hattached hsame =>
            h id' r hr hattached (by rw [htoken, hsame]),
          fun h id' r hr hattached htoken => h _ htoken id' r hr hattached rfl⟩)
  | .read | .sweep | .select .. | .wake _ | .wakeAll | .markSuccess _ | .invalidate _
  | .release _ | .fail .. | .prepareAuthInvalid .. | .finalizeAuthInvalid _
  | .noteTrashFailure .. | .applyImport _ | .applyRemove _ | .applySync _ | .rehash _ =>
    .isTrue trivial

instance (store : AccountStore) (op : StoreOp) : Decidable (ResurrectsApart store op) :=
  decidable_of_iff
    (∀ upsert ∈ op.upserts, ((store.record? upsert.id).all fun record =>
      !(record.detached && !record.authInvalidTombstone) || decide (
        (∀ r ∈ store.records.values, r.detached = false →
          r.refreshToken ≠ record.refreshToken) ∧
        ∀ upsert' ∈ op.upserts, upsert'.id ≠ upsert.id →
          store.attaches? upsert' ≠ some record.refreshToken)) = true) (by
    rw [ResurrectsApart]
    refine forall₂_congr fun upsert _ => ?_
    cases store.record? upsert.id with
    | none => simp
    | some record =>
      have hattached := @forall_attached_iff store fun _ r => r.refreshToken ≠ record.refreshToken
      simp only [Option.all_some, Option.some.injEq, forall_eq', hattached]
      cases hdetached : record.detached <;> cases hclear : record.authInvalidTombstone <;> simp)

end Decidable

end AccountStore

end Codaze.Accounts
