import Codaze.Accounts.Attached
import Mathlib.Data.Finset.Insert

/-!
# Deleted accounts

Nothing brings a set of deleted accounts back as long as the operations load no file for
them and the file operations write none: so do all plans that are made while the accounts are
detached or unknown and their files are gone.
-/
namespace Codaze.Accounts
open Foundation

/-- The files an operation loads are named after their accounts, which are not deleted. -/
def StoreOp.Spares (deleted : Finset String) (op : StoreOp) : Prop :=
  ∀ upsert ∈ op.upserts, upsert.path = ⟨upsert.id⟩ ∧ upsert.id ∉ deleted

/-- A file operation writes no file of a deleted account. -/
def AccountDiskOp.Spares (deleted : Finset String) : AccountDiskOp → Prop
  | write path _ => path.stem ∉ deleted
  | remove _ | moveToTrash _ => True

/-- The entries of a scan are named after their files, which are not of deleted accounts. -/
def DiskScanSnapshot.Spares (deleted : Finset String) (snapshot : DiskScanSnapshot) : Prop :=
  ∀ entry ∈ snapshot.entries, entry.path = ⟨entry.id⟩ ∧ entry.id ∉ deleted

theorem StoreOp.spares_of_upserts {deleted : Finset String} {op : StoreOp} (h : op.upserts = []) :
    op.Spares deleted := by
  intro upsert hmem
  simp [h] at hmem

/-- The files of the deleted accounts are gone. -/
def AccountsDir.Lacks (dir : AccountsDir) (deleted : Finset String) : Prop :=
  ∀ id ∈ deleted, dir.file? ⟨id⟩ = none

theorem AccountsDir.Lacks.applyDiskOp {dir : AccountsDir} {deleted : Finset String}
    (h : dir.Lacks deleted) {op : AccountDiskOp} (hop : op.Spares deleted) :
    (dir.applyDiskOp op).Lacks deleted := by
  intro id hid
  rw [AccountsDir.file?_applyDiskOp]
  cases op with
  | write path disk =>
    have hne : (⟨id⟩ : AccountPath) ≠ path := by
      rintro rfl
      exact hop hid
    exact (if_neg hne).trans (h id hid)
  | remove path | moveToTrash path =>
    dsimp only
    split
    · rfl
    · exact h id hid

theorem spares_scan {dir : AccountsDir} {deleted : Finset String} (h : dir.Lacks deleted) :
    (scanAccountsDir dir).Spares deleted := by
  intro entry hentry
  have hpath := AccountsDir.entry_path_eq hentry
  refine ⟨hpath, fun hid => ?_⟩
  obtain ⟨content, hfile, -⟩ := AccountsDir.mem_scanAccountsDir_entries.mp hentry
  rw [hpath, h entry.id hid] at hfile
  cases hfile

namespace AccountStore

variable {store : AccountStore} {now : Time} {op : StoreOp} {deleted : Finset String}

/-- The deleted accounts are detached or unknown. -/
def Gone (store : AccountStore) (deleted : Finset String) : Prop :=
  ∀ id ∈ deleted, ∀ record, store.record? id = some record → record.detached = true

theorem Gone.not_mem (h : store.Gone deleted) {id : String} {record : AccountRecord}
    (hrecord : store.record? id = some record) (hattached : record.detached = false) :
    id ∉ deleted := by
  intro hid
  have hdetached := h id hid record hrecord
  rw [hattached] at hdetached
  cases hdetached

theorem Gone.apply (h : store.Gone deleted) (hop : op.Spares deleted) :
    (store.apply now op).Gone deleted := by
  intro id hid record hrecord
  by_contra hattached
  rcases attached_source hrecord (by simpa using hattached) with
    ⟨old, hold, hdetached⟩ | ⟨upsert, hmem, rfl⟩
  · exact h.not_mem hold hdetached hid
  · exact (hop upsert hmem).2 hid

/-- A deletion detaches its account. -/
theorem Gone.remove (h : store.Gone deleted) (plan : RemoveAccountPlan) :
    (store.apply now (.applyRemove plan)).Gone (Insert.insert plan.accountId deleted) := by
  intro id hid record hrecord
  rcases Finset.mem_insert.mp hid with rfl | hid
  · obtain ⟨old, -, rfl⟩ := of_record?_update hrecord
    rw [if_pos rfl]
    rfl
  · exact h.apply (StoreOp.spares_of_upserts rfl) id hid record hrecord

/-- No selection returns a deleted account. -/
theorem Gone.select (h : store.Gone deleted) {policy : RoutingPolicy} {skew : ℤ}
    {excluded : Finset String} {selection : AccountSelection}
    (hselect : (store.selectAccount now policy skew excluded).1 = .ok selection) :
    selection.accountId ∉ deleted := by
  obtain ⟨record, hrecord, heligible, -⟩ := selectAccount_ok (Prod.ext hselect rfl)
  have hattached := (isEligible_iff.mp heligible).1
  rw [(expireRecord_same now record).detached] at hattached
  exact h.not_mem hrecord hattached

/-- The target of a rescan is an attached account with its own file, or a file that is there. -/
theorem Gone.target (h : store.Gone deleted) (hnamed : store.PathsNamed)
    {snapshot : DiskScanSnapshot} (hsnapshot : snapshot.Spares deleted) {mode : SyncMode}
    {token : String} {target : CanonicalTarget}
    (htarget : store.CanonicalFor snapshot.entries mode token target) :
    target.path = ⟨target.id⟩ ∧ target.id ∉ deleted := by
  rcases htarget.cases with ⟨record, -, hpreferred, hid, hpath, -⟩ | ⟨-, entry, hentry, -, rfl⟩
  · obtain ⟨hrecord, hattached, -⟩ := preferredExistingRecord_spec hpreferred
    rw [hpath, hid]
    exact ⟨hnamed record.id record hrecord, h.not_mem hrecord hattached⟩
  · exact hsnapshot entry hentry

theorem Gone.sync (h : store.Gone deleted) (hnamed : store.PathsNamed)
    {snapshot : DiskScanSnapshot} (hsnapshot : snapshot.Spares deleted) {mode : SyncMode}
    {plan : DiskSyncPlan} (hplan : store.buildDiskSyncPlan snapshot mode = some plan) :
    (StoreOp.applySync plan).Spares deleted ∧
      ∀ diskOp ∈ AccountsDir.syncOps plan, diskOp.Spares deleted := by
  constructor
  · intro upsert hmem
    obtain ⟨token, target, htarget, rfl⟩ := (mem_plan_upserts hplan).mp hmem
    exact h.target hnamed hsnapshot htarget
  · intro diskOp hmem
    rcases List.mem_append.mp hmem with hwrite | hremove
    · obtain ⟨⟨path, disk⟩, hmemWrite, rfl⟩ := List.mem_map.mp hwrite
      obtain ⟨token, target, htarget, rfl, -⟩ := (mem_plan_writes hplan).mp hmemWrite
      obtain ⟨hpath, hid⟩ := h.target hnamed hsnapshot htarget
      rw [AccountDiskOp.Spares, hpath]
      exact hid
    · obtain ⟨path, -, rfl⟩ := List.mem_map.mp hremove
      trivial

/-- An import of a token that an attached account holds, or that leads to another account. -/
theorem Gone.importAccount (h : store.Gone deleted) (hnamed : store.PathsNamed)
    {stableAccountId : String → String} {refreshToken : String} {label email : Option String}
    {plan : ImportAccountPlan}
    (hplan : store.prepareImportAccount stableAccountId refreshToken label email = some plan)
    (helsewhere : ∀ token, normalizeRefreshToken refreshToken = some token →
      store.findAccountIdByRefreshToken token = none → stableAccountId token ∉ deleted) :
    (StoreOp.applyImport plan).Spares deleted ∧
      ∀ diskOp, plan.diskOp = some diskOp → diskOp.Spares deleted := by
  obtain ⟨token, htoken, hcases⟩ := PoolCoherent.prepareImportAccount_cases hplan
  rcases hcases with ⟨record, hrecord, hattached, -, hmetadata⟩ | ⟨hnone, -, disk, -, happly, hdisk⟩
  · have hpath : record.filePath = ⟨record.id⟩ := hnamed _ record hrecord
    have hid : record.id ∉ deleted := by
      rw [id_of_record? hrecord]
      exact h.not_mem hrecord hattached
    rcases hmetadata with ⟨happly, hdisk⟩ | ⟨label', email', happly, hdisk⟩
    · refine ⟨StoreOp.spares_of_upserts (by simp [StoreOp.upserts, happly]), fun diskOp hop => ?_⟩
      rw [hdisk] at hop
      cases hop
    · refine ⟨StoreOp.spares_of_upserts (by simp [StoreOp.upserts, happly]), fun diskOp hop => ?_⟩
      rw [hdisk] at hop
      obtain rfl := Option.some.inj hop
      rw [AccountDiskOp.Spares, hpath]
      exact hid
  · have hstable := helsewhere token htoken hnone
    refine ⟨fun upsert hmem => ?_, fun diskOp hop => ?_⟩
    · simp only [StoreOp.upserts, happly, List.mem_singleton] at hmem
      subst hmem
      exact ⟨rfl, hstable⟩
    · rw [hdisk] at hop
      obtain rfl := Option.some.inj hop
      exact hstable

end AccountStore

end Codaze.Accounts
