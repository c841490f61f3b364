import Codaze.Accounts.FailureTimes
import Codaze.Responses.ErrorSemantics

/-!
# Delays asked for by the upstream

The parsers read delays of up to `u64::MAX` seconds; the store adds them to the clock.
-/
namespace Codaze.Responses
open Foundation Accounts AccountStore

/-- A failure of an account completes, on both paths, and a cooldown leaves a block that is not
over, exactly if the delay it adds to the clock can be represented. -/
theorem failure_completes_iff {store : AccountStore} {now : Time} {id : String}
    {record : AccountRecord} {failure : FailureClass} {retryAfter : Option StdDuration}
    {details : String} {trashed : Except String Unit} (hrecord : store.record? id = some record) :
    (∃ marked finished,
      store.markRequestFailure now id failure retryAfter details = .returned marked ∧
      store.finishRefreshFailure now id failure retryAfter details trashed = .returned finished ∧
      (failure.cools = true → ∀ record',
        marked.record? id = some record' ∨ finished.record? id = some record' →
          instant now ≤ record'.block.endsAt)) ↔
    ∀ delay, failure.delay retryAfter record = some delay → Representable now delay := by
  have hcompletes := @completes_applyFailure store now id failure retryAfter details record hrecord
  constructor
  · rintro ⟨marked, -, hmarked, -⟩
    exact hcompletes.mp ⟨marked, hmarked⟩
  · intro hdelay
    obtain ⟨marked, hmarked⟩ := hcompletes.mpr hdelay
    by_cases hinvalid : failure = .authInvalid
    · subst hinvalid
      obtain ⟨finished, hfinished⟩ :=
        @completes_finishRefreshFailure_authInvalid store now id retryAfter details trashed
      exact ⟨marked, finished, hmarked, hfinished, fun hcools => by cases hcools⟩
    · refine ⟨marked, marked, hmarked, ?_, fun hcools record' hrecord' => ?_⟩
      · rw [finishRefreshFailure_of_ne hinvalid]
        exact hmarked
      · exact le_endsAt_applyFailure hcools hmarked (hrecord'.elim (fun h => h) fun h => h)

/-- One account under the id `a`. -/
def soleAccount : AccountRecord := newRecord "a" ⟨"a"⟩ ⟨"rt_1", none, none⟩

/-- `failure_completes_iff` for a rate limit of a minute. -/
theorem failure_completes_iff_minute :
    let store := AccountStore.new.insert soleAccount
    (∃ marked finished,
      store.markRequestFailure 0 "a" .rateLimited (some (fromSecs 60)) "429" = .returned marked ∧
      store.finishRefreshFailure 0 "a" .rateLimited (some (fromSecs 60)) "429" (.ok ()) =
        .returned finished ∧
      (FailureClass.rateLimited.cools = true → ∀ record',
        marked.record? "a" = some record' ∨ finished.record? "a" = some record' →
          instant 0 ≤ record'.block.endsAt)) ↔
    ∀ delay, FailureClass.rateLimited.delay (some (fromSecs 60)) soleAccount = some delay →
      Representable 0 delay :=
  failure_completes_iff (show (AccountStore.new.insert soleAccount).record? "a" = some soleAccount
    by simp [record?_insert, soleAccount, newRecord])

/-- A `Retry-After` header of `u64::MAX` seconds is read as a delay the store panics on. -/
theorem retry_after_header_panics :
    ∃ (headers : HeaderMap) (store : AccountStore) (record : AccountRecord),
      let semantics := (Libraries.ofTexts []).analyzeRequestHttp 0 .tooManyRequests (some headers)
        none
      headers.get "retry-after" = HeaderValue.fromStr "18446744073709551615" ∧
      store.record? "a" = some record ∧ semantics.failure = .rateLimited ∧
      ¬ ∃ marked, store.markRequestFailure 0 "a" semantics.failure semantics.retryAfter "429" =
        .returned marked := by
  let value : HeaderValue := ⟨utf8Bytes "18446744073709551615", by decide +kernel⟩
  refine ⟨[("retry-after", value)], AccountStore.new.insert soleAccount, soleAccount,
    ?_, ?_, ?_, ?_⟩
  · decide +kernel
  · simp [record?_insert, soleAccount, newRecord]
  · decide +kernel
  · have hrecord : (AccountStore.new.insert soleAccount).record? "a" = some soleAccount := by
      simp [record?_insert, soleAccount, newRecord]
    intro hmarked
    have hdelay := (completes_applyFailure hrecord).mp hmarked
    have hfits := hdelay (fromSecs u64Max) (by decide +kernel)
    exact absurd hfits (by decide)

end Codaze.Responses
