import Codaze.Accounts.Load

/-!
# Detached and idle records

A record that is detached and idle is dropped by the operation that makes it so, but for
`prepare_auth_invalid_failure`, which leaves that to its finalize step, and for a
settlement whose deadline cannot be represented, which panics before it.
-/
namespace Codaze.Accounts
open Foundation

/-- Every deadline that a failure may set can be represented. -/
def StoreOp.fits (now : Time) : StoreOp → Prop
  | fail _ _ retryAfter _ => now + deltaSeconds riskCooldownSeconds ≤ maxUtc ∧
      ∀ delay ∈ retryAfter, (delay : ℤ) ≤ maxDelta ∧ now + delay ≤ maxUtc
  | _ => True

instance (now : Time) (op : StoreOp) : Decidable (op.fits now) :=
  match op with
  | .fail _ _ retryAfter _ => inferInstanceAs (Decidable (_ ∧ ∀ delay ∈ retryAfter, _))
  | .read | .sweep | .select .. | .wake _ | .wakeAll | .markSuccess _ | .invalidate _
  | .release _ | .refreshSuccess .. | .prepareAuthInvalid .. | .finalizeAuthInvalid _
  | .noteTrashFailure .. | .applyImport _ | .applyRemove _ | .applySync _ | .rehash _ =>
    .isTrue trivial

theorem nextLocalBackoff_le (level : ℕ) :
    (nextLocalBackoff level : ℤ) ≤ deltaSeconds riskCooldownSeconds := by
  have hseconds : nextLocalBackoff level ≤ fromSecs localBackoffMaxSeconds :=
    Nat.mul_le_mul_right nanosPerSecond (min_le_right _ _)
  have hmax : ((fromSecs localBackoffMaxSeconds : ℕ) : ℤ) = deltaSeconds riskCooldownSeconds := by
    decide
  exact (Int.ofNat_le.mpr hseconds).trans_eq hmax

theorem applyRetryableBlock_of_isSome {now : Time} {reason : BlockedReason} {r : AccountRecord}
    {retryAfter : Option StdDuration}
    (h : (buildRetryableBlock r now reason retryAfter).2.isSome = true) :
    ∃ r', applyRetryableBlock r now reason retryAfter = .returned r' := by
  unfold applyRetryableBlock
  rcases hbuilt : buildRetryableBlock r now reason retryAfter with ⟨counted, _ | candidate⟩
  · rw [hbuilt] at h
    cases h
  · exact ⟨_, rfl⟩

/-- A local backoff fits wherever a risk block does. -/
theorem applyRetryableBlock_returned {now : Time} {retryAfter : Option StdDuration}
    (hnow : now + deltaSeconds riskCooldownSeconds ≤ maxUtc)
    (hdelay : ∀ delay ∈ retryAfter, (delay : ℤ) ≤ maxDelta ∧ now + delay ≤ maxUtc)
    (r : AccountRecord) (reason : BlockedReason) :
    ∃ r', applyRetryableBlock r now reason retryAfter = .returned r' := by
  have hfits {duration : StdDuration} (hmax : (duration : ℤ) ≤ maxDelta)
      (hutc : now + duration ≤ maxUtc) :
      ((durationFromStd duration).bind (addDelta now)).isSome = true := by
    simp [durationFromStd, addDelta, hmax, hutc]
  refine applyRetryableBlock_of_isSome ?_
  cases retryAfter with
  | some delay =>
    obtain ⟨hmax, hutc⟩ := hdelay delay rfl
    rw [buildRetryableBlock, Option.isSome_map]
    exact hfits hmax hutc
  | none =>
    have hle := nextLocalBackoff_le r.localBackoffLevel
    have hrisk : deltaSeconds riskCooldownSeconds ≤ maxDelta := by decide
    rw [buildRetryableBlock, Option.isSome_map]
    exact hfits (hle.trans hrisk) ((Int.add_le_add_left hle now).trans hnow)

theorem applyFixedBlock_returned {now : Time} {duration : TimeDelta}
    (h : now + duration ≤ maxUtc) (r : AccountRecord) (reason : BlockedReason) :
    ∃ r', applyFixedBlock r now reason duration = .returned r' :=
  ⟨_, by simp only [applyFixedBlock, addDelta, if_pos h]; rfl⟩

theorem andThen_returned {σ : Type*} {o : Outcome σ} {f : σ → Outcome σ}
    (ho : ∃ s, o = .returned s) (hf : ∀ s, ∃ t, f s = .returned t) :
    ∃ t, o.andThen f = .returned t := by
  obtain ⟨s, rfl⟩ := ho
  exact hf s

/-- A failure whose deadlines fit does not panic. -/
theorem failRecord_returned {now : Time} {id : String} {failure : FailureClass}
    {retryAfter : Option StdDuration} {details : String}
    (h : (StoreOp.fail id failure retryAfter details).fits now) (r : AccountRecord) :
    ∃ r', failRecord now failure retryAfter details r = .returned r' := by
  obtain ⟨hnow, hdelay⟩ := h
  have hcooldown : now + deltaSeconds temporaryFailureCooldownSeconds ≤ maxUtc := by
    have hle : deltaSeconds temporaryFailureCooldownSeconds ≤ deltaSeconds riskCooldownSeconds := by
      decide
    exact (Int.add_le_add_left hle now).trans hnow
  cases failure with
  | accessTokenRejected => exact applyFixedBlock_returned hcooldown _ _
  | riskControlled => exact applyFixedBlock_returned hnow _ _
  | authInvalid => exact ⟨_, rfl⟩
  | rateLimited | quotaExhausted =>
    exact andThen_returned (applyRetryableBlock_returned hnow hdelay _ _) fun _ => ⟨_, rfl⟩
  | temporaryFailure =>
    simp only [failRecord]
    split
    · exact applyRetryableBlock_returned hnow hdelay _ _
    · exact applyFixedBlock_returned hcooldown _ _
  | requestRejected | internalFailure => exact ⟨_, rfl⟩

/-- The operations that detach a record. -/
def StoreOp.detaches : StoreOp → Bool
  | finalizeAuthInvalid _ | applyRemove _ | applySync _ => true
  | _ => false

theorem RecordChange.attached {now : Time} {op : StoreOp} {r r' : AccountRecord}
    (h : RecordChange now op r r') (hop : op.detaches = false) (hr : r.detached = false) :
    r'.detached = false := by
  cases h with
  | expire | expireBeforeSelect => exact (expireRecord_same now r).detached.trans hr
  | select => exact (selectRecord_same now _ r).detached.trans hr
  | wake | wakeAll => exact (applyWake_same r now).detached.trans hr
  | markSuccess => exact (markSuccessRecord_same now r).detached.trans hr
  | invalidate => exact (invalidateRecord_same now r).detached.trans hr
  | release => exact (releaseRecord_same now r).detached.trans hr
  | fail => exact (failRecord_same now _ _ _ r).detached.trans hr
  | refreshSuccess => exact (refreshSuccessRecord_frame now _ r).2.2.2.trans hr
  | prepareAuthInvalid | noteTrashFailure | updateMetadata => exact hr
  | upsert =>
    simp only [AccountStore.upsertRecord]
    split
    · exact hr
    · rfl
  | finalizeAuthInvalid | remove | retire => cases hop

/-- The operations of the prepare and finalize pair, and those that detach a record. -/
def StoreOp.retires : StoreOp → Bool
  | prepareAuthInvalid .. => true
  | op => op.detaches

/-- The account whose record an operation drops if it leaves it detached and idle. -/
def StoreOp.reaps? : StoreOp → Option String
  | markSuccess id | invalidate id | release id | fail id _ _ _ | refreshSuccess id _
  | finalizeAuthInvalid id => some id
  | applyRemove plan => some plan.accountId
  | _ => none

theorem removable_of_same {r r' : AccountRecord} (hdetached : r'.detached = r.detached)
    (hload : r'.load = r.load) : AccountStore.removable r' = AccountStore.removable r := by
  obtain ⟨hcount, hmark⟩ := Prod.mk.inj hload
  simp only [AccountStore.removable, hdetached, hcount, hmark]

namespace AccountStore

variable {store : AccountStore} {now : Time} {op : StoreOp} {id : String} {record : AccountRecord}

/-- No operation but the three detaches a record. -/
theorem attached_apply (hop : op.detaches = false)
    (h : ∀ r, store.record? id = some r → r.detached = false)
    (hrecord : (store.apply now op).record? id = some record) : record.detached = false := by
  rcases traced_apply hrecord with ⟨old, hold, hchanges⟩ | ⟨-, upsert, -, -, hchanges⟩
  · exact hchanges.invariant (fun _ _ hchange hr => hchange.attached hop hr) (h old hold)
  · exact hchanges.invariant (fun _ _ hchange hr => hchange.attached hop hr) rfl

theorem not_removable_of_update {f : AccountRecord → AccountRecord} {hf : ∀ r, (f r).id = r.id}
    (h : (store.update id f hf).record? id = some record) : removable record = false := by
  rw [record?_update, if_pos rfl, Option.filter_eq_some_iff] at h
  simpa using h.2

/-- What such an operation leaves of its account is not both detached and idle. -/
theorem not_removable_of_reaps? (hop : op.reaps? = some id) (hfits : op.fits now)
    (h : (store.apply now op).record? id = some record) : removable record = false := by
  cases op with
  | markSuccess | invalidate | release | applyRemove =>
    obtain rfl := Option.some.inj hop
    exact not_removable_of_update h
  | fail accountId failure retryAfter details =>
    obtain rfl := Option.some.inj hop
    simp only [apply, markRequestFailure, applyFailure] at h
    split at h
    next hnone =>
      rw [Outcome.state_returned, Option.map_eq_none_iff.mp hnone] at h
      cases h
    next => exact not_removable_of_update h
    next hpanic =>
      obtain ⟨old, -, hold⟩ := Option.map_eq_some_iff.mp hpanic
      obtain ⟨r', hr'⟩ := failRecord_returned hfits old
      rw [hr'] at hold
      cases hold
  | refreshSuccess accountId refreshed =>
    obtain rfl := Option.some.inj hop
    cases haccount : store.record? accountId with
    | none => simp [apply, finishRefreshSuccessWithoutPersist, haccount] at h
    | some _ =>
      simp only [apply, finishRefreshSuccessWithoutPersist, haccount, Option.map_some,
        Option.getD_some] at h
      exact not_removable_of_update h
  | finalizeAuthInvalid accountId =>
    obtain rfl := Option.some.inj hop
    cases haccount : store.record? accountId with
    | none => simp [apply, finalizeAuthInvalidFailure, haccount] at h
    | some _ =>
      simp only [apply, finalizeAuthInvalidFailure, haccount, Option.map_some,
        Option.getD_some] at h
      exact not_removable_of_update h
  | _ => cases hop

theorem removable_upsertDiskRecord {id' : String} {path : AccountPath} {disk : AccountFile}
    (h : (store.upsertDiskRecord id' path disk).record? id = some record)
    (hremovable : removable record = true) :
    ∃ old, store.record? id = some old ∧ removable old = true := by
  rcases of_record?_upsertDiskRecord h with ⟨old, hold, rfl⟩ | ⟨-, -, rfl⟩
  · refine ⟨old, hold, ?_⟩
    split at hremovable
    next =>
      obtain ⟨hdetached, hidle, hquiet⟩ := removable_iff.mp hremovable
      refine removable_iff.mpr ⟨?_, hidle, hquiet⟩
      simp only [upsertRecord] at hdetached
      split at hdetached
      · exact hdetached
      · cases hdetached
    next => exact hremovable
  · cases hremovable

theorem removable_applyUpserts {upserts : List DiskSyncUpsert}
    (h : (store.applyUpserts upserts).record? id = some record)
    (hremovable : removable record = true) :
    ∃ old, store.record? id = some old ∧ removable old = true := by
  induction upserts generalizing store with
  | nil => exact ⟨record, h, hremovable⟩
  | cons upsert upserts ih =>
    obtain ⟨middle, hmiddle, hmiddle'⟩ := ih h
    exact removable_upsertDiskRecord hmiddle hmiddle'

/-- A detached and idle record was so before the operation, or it is being invalidated. -/
theorem removable_origin (hfits : op.fits now)
    (h : (store.apply now op).record? id = some record) (hremovable : removable record = true) :
    (∃ details, op = .prepareAuthInvalid id details) ∨
      ∃ old, store.record? id = some old ∧ removable old = true := by
  by_cases hreaps : op.reaps? = some id
  · simp [not_removable_of_reaps? hreaps hfits h] at hremovable
  -- the rest keeps detachment and load of its record, or marks the record busy
  have hsame {r r' : AccountRecord} (hsame : SameAccount r r') (hload : r'.load = r.load) :
      removable r' = removable r := removable_of_same hsame.detached hload
  have hchange (hsync : ∀ plan, op ≠ .applySync plan) (hremove : ∀ plan, op ≠ .applyRemove plan)
      (hprepare : ∀ details, op ≠ .prepareAuthInvalid id details) {r r' : AccountRecord}
      (hid : r.id = id) (hchange : RecordChange now op r r') (hr' : removable r' = true) :
      removable r = true := by
    subst hid
    cases hchange with
    | expire | expireBeforeSelect =>
      rwa [hsame (expireRecord_same now r) (expireRecord_load now r)] at hr'
    | @select policy skew excluded _ heligible =>
      have hbusy := (removable_iff.mp hr').2.1
      have hpos : 0 < (selectRecord now skew r).inFlightRequests := by
        simp only [selectRecord]
        split <;> exact saturatingSucc32_pos _
      omega
    | wake | wakeAll =>
      rwa [removable_of_same (applyWake_same r now).detached (applyWake_load now r)] at hr'
    | markSuccess | invalidate | release | fail | refreshSuccess | finalizeAuthInvalid =>
      exact absurd rfl hreaps
    | prepareAuthInvalid => exact absurd rfl (hprepare _)
    | noteTrashFailure | updateMetadata => exact hr'
    | upsert =>
      obtain ⟨hdetached, hidle, hquiet⟩ := removable_iff.mp hr'
      refine removable_iff.mpr ⟨?_, hidle, hquiet⟩
      simp only [upsertRecord] at hdetached
      split at hdetached
      · exact hdetached
      · cases hdetached
    | remove => exact absurd rfl (hremove _)
    | retire => exact absurd rfl (hsync _)
  have hback (hsync : ∀ plan, op ≠ .applySync plan) (hremove : ∀ plan, op ≠ .applyRemove plan)
      (hprepare : ∀ details, op ≠ .prepareAuthInvalid id details) {old : AccountRecord}
      (hold : old.id = id) (hchanges : RecordChanges now op old record) :
      removable old = true := by
    have hinv : record.id = id ∧ (removable record = true → removable old = true) := by
      refine hchanges.invariant (P := fun r => r.id = id ∧ (removable r = true →
        removable old = true)) (fun r r' hstep hr => ⟨hstep.id_eq.trans hr.1, fun hr' => ?_⟩)
        ⟨hold, fun hr => hr⟩
      exact hr.2 (hchange hsync hremove hprepare hr.1 hstep hr')
    exact hinv.2 hremovable
  cases op with
  | applySync plan =>
    obtain ⟨old, hold, hretire⟩ := of_record?_retireAllUnseen h
    refine .inr (removable_applyUpserts hold ?_)
    unfold retireUnseen at hretire
    split_ifs at hretire with hseen hfailed hidle <;> cases hretire
    · exact hremovable
    · exact hremovable
    · exact absurd (removable_iff.mp hremovable).2 hidle
  | applyRemove plan =>
    obtain ⟨old, hold, rfl⟩ := of_record?_update h
    have hid : id ≠ plan.accountId := by
      rintro rfl
      exact hreaps rfl
    exact .inr ⟨old, hold, by simpa [hid] using hremovable⟩
  | prepareAuthInvalid accountId details =>
    by_cases hid : id = accountId
    · exact .inl ⟨details, by rw [hid]⟩
    · obtain ⟨old, hold, rfl⟩ := of_record?_prepareAuthInvalid h
      rw [if_neg hid] at hremovable
      exact .inr ⟨old, hold, hremovable⟩
  | _ =>
    right
    rcases traced_apply h with ⟨old, hold, hchanges⟩ | ⟨-, upsert, -, rfl, hchanges⟩
    · exact ⟨old, hold, hback (by simp) (by simp) (by simp) (id_of_record? hold) hchanges⟩
    · cases hback (by simp) (by simp) (by simp) rfl hchanges

theorem exists_record?_modify {f : AccountRecord → AccountRecord} {hf : ∀ r, (f r).id = r.id}
    {id' : String} (h : store.record? id = some record) :
    ∃ record', (store.modify id' f hf).record? id = some record' := by
  rw [record?_modify]
  by_cases hid : id = id'
  · subst hid
    simp [h]
  · simp [hid, h]

/-- An update that leaves its record attached keeps it. -/
theorem exists_record?_update {f : AccountRecord → AccountRecord} {hf : ∀ r, (f r).id = r.id}
    {id' : String} (h : store.record? id = some record)
    (hattached : id' = id → (f record).detached = false) :
    ∃ record', (store.update id' f hf).record? id = some record' := by
  rw [record?_update]
  by_cases hid : id = id'
  · subst hid
    have hkept : removable (f record) = false := by simp [removable, hattached rfl]
    simp [h, hkept]
  · simp [hid, h]

/-- A routine operation drops a record only where it settles or invalidates it, and only if the
record is detached. -/
theorem exists_record?_apply (hroutine : op.routine = true) (h : store.record? id = some record)
    (hkept : op.reaps? = some id → record.detached = false) :
    ∃ record', (store.apply now op).record? id = some record' := by
  have hupdate {f : AccountRecord → AccountRecord} {hf : ∀ r, (f r).id = r.id} {id' : String}
      (hsame : SameAccount record (f record)) (hreaps : op.reaps? = some id') :
      ∃ record', (store.update id' f hf).record? id = some record' :=
    exists_record?_update h fun hid => hsame.detached.trans (hkept (hid ▸ hreaps))
  cases op with
  | read => exact ⟨record, h⟩
  | rehash order => exact ⟨record, by simpa [apply] using h⟩
  | sweep =>
    rw [apply, refreshExpiredBlocks, record?_modifyAll, h]
    exact ⟨_, rfl⟩
  | select policy skew excluded =>
    rw [apply]
    rcases hselect : store.selectAccount now policy skew excluded with ⟨⟨⟩ | selection, store'⟩
    · rw [(selectAccount_error hselect).2, h]
      exact ⟨_, rfl⟩
    · obtain ⟨-, -, -, -, -, -, hstore⟩ := selectAccount_ok hselect
      rw [hstore, h]
      exact ⟨_, rfl⟩
  | wake accountId =>
    cases haccount : store.record? accountId with
    | none => exact ⟨record, by simpa [apply, wakeAccount, haccount] using h⟩
    | some _ =>
      simp only [apply, wakeAccount, haccount, Option.map_some, Option.getD_some]
      exact exists_record?_modify h
  | wakeAll =>
    rw [apply, wakeAllAccounts, record?_modifyAll, h]
    exact ⟨_, rfl⟩
  | markSuccess => exact hupdate (markSuccessRecord_same now record) rfl
  | invalidate => exact hupdate (invalidateRecord_same now record) rfl
  | release => exact hupdate (releaseRecord_same now record) rfl
  | fail accountId failure retryAfter details =>
    simp only [apply, markRequestFailure, applyFailure]
    split
    next => exact ⟨record, h⟩
    next => exact hupdate (failRecord_same now failure retryAfter details record) rfl
    next =>
      rw [Outcome.state_panicked]
      exact exists_record?_modify h
  | noteTrashFailure =>
    rw [apply, noteAuthInvalidTrashFailure]
    exact exists_record?_modify h
  | refreshSuccess | prepareAuthInvalid | finalizeAuthInvalid | applyImport | applyRemove
  | applySync => cases hroutine

/-- So does a list of them. -/
theorem exists_record?_foldl {ops : List StoreOp} (hroutine : ∀ op ∈ ops, op.routine = true)
    (h : store.record? id = some record)
    (hkept : record.detached = false ∨ ∀ op ∈ ops, op.reaps? ≠ some id) :
    ∃ record', (ops.foldl (fun store op => store.apply now op) store).record? id =
      some record' := by
  induction ops generalizing store record with
  | nil => exact ⟨record, h⟩
  | cons op ops ih =>
    have hroutine' := hroutine op List.mem_cons_self
    obtain ⟨record', hrecord'⟩ : ∃ record', (store.apply now op).record? id = some record' := by
      refine exists_record?_apply hroutine' h fun hreaps => ?_
      exact hkept.resolve_right fun hnever => hnever op List.mem_cons_self hreaps
    obtain ⟨old, hold, hsame⟩ := follows_apply hroutine' id record' hrecord'
    obtain rfl := Option.some.inj (h.symm.trans hold)
    refine ih (fun op' hop' => hroutine op' (List.mem_cons_of_mem _ hop')) hrecord' ?_
    exact hkept.imp hsame.detached.trans fun hnever op' hop' =>
      hnever op' (List.mem_cons_of_mem _ hop')

end AccountStore

end Codaze.Accounts
