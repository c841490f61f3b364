import Codaze.Accounts.Tokens

/-!
# The access tokens of the records

An account is given an access token by the commit of a refresh only; every other operation
keeps the token it has or clears it.
-/
namespace Codaze.Accounts
open Foundation

/-- The token is kept or cleared. -/
def KeepsOrClears (token token' : Option String) : Prop := token' = token ∨ token' = none

theorem KeepsOrClears.trans {token token' token'' : Option String}
    (h : KeepsOrClears token token') (h' : KeepsOrClears token' token'') :
    KeepsOrClears token token'' := by
  rcases h' with rfl | rfl
  · exact h
  · exact .inr rfl

theorem expireRecord_accessToken (now : Time) (r : AccountRecord) :
    (expireRecord now r).accessToken = r.accessToken := by
  simp only [expireRecord]
  split_ifs <;> rfl

theorem failRecord_accessToken (now : Time) (failure : FailureClass)
    (retryAfter : Option StdDuration) (details : String) (r : AccountRecord) :
    KeepsOrClears r.accessToken
      (failRecord now failure retryAfter details r).state.accessToken := by
  have hfixed (s : AccountRecord) (reason duration) :
      (applyFixedBlock s now reason duration).state.accessToken = s.accessToken :=
    (applyFixedBlock_same s now reason duration).accessToken
  have hretryable (s : AccountRecord) (reason) :
      (applyRetryableBlock s now reason retryAfter).state.accessToken = s.accessToken :=
    (applyRetryableBlock_same s now reason retryAfter).accessToken
  cases failure with
  | accessTokenRejected => exact .inr (hfixed _ _ _)
  | riskControlled => exact .inl (hfixed _ _ _)
  | authInvalid => exact .inr rfl
  | rateLimited | quotaExhausted =>
    refine .inl (Outcome.andThen_induction
      (P := fun s : AccountRecord => s.accessToken = r.accessToken) ?_ fun s hs => hs)
    exact hretryable _ _
  | temporaryFailure =>
    simp only [failRecord]
    split
    · exact .inl (hretryable _ _)
    · exact .inl (hfixed _ _ _)
  | requestRejected | internalFailure =>
    simp only [failRecord, Outcome.state_returned]
    split <;> exact .inl rfl

/-- The second rejection of a request clears the token and marks the account unavailable. -/
theorem failRecord_rejected (now : Time) (retryAfter : Option StdDuration) (details : String)
    (r : AccountRecord) :
    let failed := (failRecord now .accessTokenRejected retryAfter details r).state
    failed.accessToken = none ∧ failed.routingState = .temporarilyUnavailable := by
  simp only [failRecord, applyFixedBlock]
  split
  · simp only [Outcome.state_returned, applyBlockTransition]
    split <;> exact ⟨rfl, rfl⟩
  · exact ⟨rfl, rfl⟩

theorem RecordChange.accessToken {now : Time} {op : StoreOp} {r r' : AccountRecord}
    (h : RecordChange now op r r') (hop : op.commits? ≠ some r.id) :
    KeepsOrClears r.accessToken r'.accessToken := by
  cases h with
  | expire | expireBeforeSelect => exact .inl (expireRecord_accessToken now r)
  | select =>
    simp only [selectRecord]
    split <;> exact .inl rfl
  | wake | wakeAll => exact .inl (applyWake_same r now).accessToken
  | markSuccess =>
    simp only [markSuccessRecord]
    split <;> exact .inl rfl
  | invalidate =>
    simp only [invalidateRecord]
    split <;> exact .inr rfl
  | release =>
    simp only [releaseRecord]
    split <;> exact .inl rfl
  | fail => exact failRecord_accessToken now _ _ _ r
  | refreshSuccess => exact absurd rfl hop
  | prepareAuthInvalid | finalizeAuthInvalid => exact .inr rfl
  | noteTrashFailure | updateMetadata | upsert | remove | retire => exact .inl rfl

namespace AccountStore

variable {store : AccountStore} {now : Time}

/-- The access token of a later record is that of the earlier, or there is none. -/
theorem accessToken_apply {op : StoreOp} {id : String} {record : AccountRecord}
    (h : (store.apply now op).record? id = some record) (hop : op.commits? ≠ some id) :
    record.accessToken = none ∨
      ∃ old, store.record? id = some old ∧ record.accessToken = old.accessToken := by
  have hrun {old : AccountRecord} (hid : old.id = id) (hchanges : RecordChanges now op old record) :
      KeepsOrClears old.accessToken record.accessToken := by
    have hinv : record.id = id ∧ KeepsOrClears old.accessToken record.accessToken := by
      refine hchanges.invariant (P := fun r => r.id = id ∧
        KeepsOrClears old.accessToken r.accessToken) (fun r r' hchange hr => ?_) ⟨hid, .inl rfl⟩
      refine ⟨hchange.id_eq.trans hr.1, hr.2.trans (hchange.accessToken ?_)⟩
      rw [hr.1]
      exact hop
    exact hinv.2
  rcases traced_apply h with ⟨old, hold, hchanges⟩ | ⟨-, upsert, -, rfl, hchanges⟩
  · rcases hrun (id_of_record? hold) hchanges with hkept | hcleared
    · exact .inr ⟨old, hold, hkept⟩
    · exact .inl hcleared
  · rcases hrun rfl hchanges with hkept | hcleared
    · exact .inl hkept
    · exact .inl hcleared

theorem accessToken_applyOps {ops : List StoreOp} {id : String} {record : AccountRecord}
    (h : (ops.foldl (fun store op => store.apply now op) store).record? id = some record)
    (hops : ∀ op ∈ ops, op.commits? ≠ some id) :
    record.accessToken = none ∨
      ∃ old, store.record? id = some old ∧ record.accessToken = old.accessToken := by
  induction ops generalizing store with
  | nil => exact .inr ⟨record, h, rfl⟩
  | cons op ops ih =>
    rcases ih h (fun op' hop' => hops op' (List.mem_cons_of_mem _ hop')) with
      hnone | ⟨middle, hmiddle, hkept⟩
    · exact .inl hnone
    · rcases accessToken_apply hmiddle (hops op List.mem_cons_self) with hnone | ⟨old, hold, hkept'⟩
      · exact .inl (hkept.trans hnone)
      · exact .inr ⟨old, hold, hkept.trans hkept'⟩

/-- The token of an upstream account is that of its record. -/
theorem accessToken_of_upstreamAccount {id : String} {account : UpstreamAccount}
    {record : AccountRecord} (h : store.upstreamAccount id = .ok account)
    (hrecord : store.record? id = some record) : record.accessToken = some account.accessToken := by
  simp only [upstreamAccount, hrecord] at h
  split at h
  next => cases h
  next hsome =>
    cases h
    exact hsome

/-- After `invalidate_access_token` the account has no access token. -/
theorem accessToken_invalidate {id : String} {record : AccountRecord}
    (h : (store.apply now (.invalidate id)).record? id = some record) :
    record.accessToken = none := by
  obtain ⟨old, -, rfl⟩ := of_record?_update h
  rw [if_pos rfl]
  simp only [invalidateRecord]
  split <;> rfl

/-- After a rejection that counts against the account it has none and is unavailable. -/
theorem rejected_of_fail {id : String} {retryAfter : Option StdDuration} {details : String}
    {record : AccountRecord}
    (h : (store.apply now (.fail id .accessTokenRejected retryAfter details)).record? id =
      some record) :
    record.accessToken = none ∧ record.routingState = .temporarilyUnavailable := by
  obtain ⟨old, -, rfl⟩ := of_record?_applyFailure h
  rw [if_pos rfl]
  exact failRecord_rejected now retryAfter details old

end AccountStore

end Codaze.Accounts
