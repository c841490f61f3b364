import Codaze.Responses.ErrorSemantics
import Mathlib.Data.Nat.Find
import Mathlib.Order.Bounds.Basic

/-!
# Retries inside one upstream request

`execute_with_semantic_retry` makes an attempt for each number up to `max_attempts` and returns
early on a response or on an error that is not retried. The predicate that allows a retry
refuses the last attempt, so the fallback behind the loop is never reached.
-/
namespace Codaze.Upstream
open Foundation Accounts Responses

/-- `codex_client::RetryOn`. -/
structure RetryOn where
  retry429 : Bool
  retry5xx : Bool
  retryTransport : Bool
  deriving DecidableEq, Repr

/-- `codex_client::RetryPolicy`. -/
structure RetryPolicy where
  maxAttempts : ℕ
  baseDelay : StdDuration
  retryOn : RetryOn
  deriving DecidableEq, Repr

section Retry

variable (libs : Libraries)

def shouldRetryHttpFailure (now : Time) (status : StatusCode) (body : Option String) : Bool :=
  match libs.classifyRequestHttp now status body with
  | .temporaryFailure | .internalFailure => true
  | _ => false

def shouldRetryRequestError (now : Time) (policy : RetryPolicy) (error : TransportError)
    (attempt : ℕ) : Bool :=
  if policy.maxAttempts ≤ attempt then false
  else match error with
    | .http status _ body =>
      (policy.retryOn.retry429 && status.code == 429) ||
        (policy.retryOn.retry5xx && status.isServerError &&
          shouldRetryHttpFailure libs now status body)
    | .timeout | .network _ => policy.retryOn.retryTransport
    | .build _ | .retryLimit => false

/-- What the caller gets, the number of attempts, and the sleeps between them. -/
structure RetryTrace (T : Type*) where
  result : Except TransportError T
  attempts : ℕ
  sleeps : List StdDuration

-- `codex_client::backoff`, the clock at each attempt, and what the attempts come back with
variable {T : Type*} (backoff : StdDuration → ℕ → StdDuration) (policy : RetryPolicy)
  (clock : ℕ → Time) (outcome : ℕ → Except TransportError T)

/-- The loop with the number of attempts left; behind it stands the fallback. -/
def semanticRetryLoop : (left attempt : ℕ) → Option TransportError → List StdDuration →
    RetryTrace T
  | 0, attempt, lastError, sleeps => ⟨.error (lastError.getD .retryLimit), attempt, sleeps⟩
  | left + 1, attempt, _, sleeps => match outcome attempt with
    | .ok response => ⟨.ok response, attempt + 1, sleeps⟩
    | .error error =>
      if shouldRetryRequestError libs (clock attempt) policy error attempt then
        semanticRetryLoop left (attempt + 1) (some error)
          (sleeps ++ [backoff policy.baseDelay (attempt + 1)])
      else ⟨.error error, attempt + 1, sleeps⟩

def executeWithSemanticRetry : RetryTrace T :=
  semanticRetryLoop libs backoff policy clock outcome (policy.maxAttempts + 1) 0 none []

/-- The attempt ends the loop: it responds, or its error is not to be retried. -/
def endsRetries (attempt : ℕ) : Prop :=
  ∀ error, outcome attempt = .error error →
    shouldRetryRequestError libs (clock attempt) policy error attempt = false

theorem shouldRetryRequestError_last (now : Time) (error : TransportError) :
    shouldRetryRequestError libs now policy error policy.maxAttempts = false := by
  simp [shouldRetryRequestError]

/-- The last attempt ends the loop whatever it comes back with. -/
theorem endsRetries_maxAttempts :
    endsRetries libs policy clock outcome policy.maxAttempts :=
  fun error _ => shouldRetryRequestError_last libs policy _ error

/-- An error on a 5xx is retried only as a temporary or an internal failure. -/
theorem classified_of_retried_5xx {now : Time} {status : StatusCode} {headers : Option HeaderMap}
    {body : Option String} {attempt : ℕ} (h5xx : status.isServerError = true)
    (h : shouldRetryRequestError libs now policy (.http status headers body) attempt = true) :
    libs.classifyRequestHttp now status body = .temporaryFailure ∨
      libs.classifyRequestHttp now status body = .internalFailure := by
  have hne : status.code ≠ 429 := by
    simp only [StatusCode.isServerError, Bool.and_eq_true, decide_eq_true_eq] at h5xx
    omega
  unfold shouldRetryRequestError at h
  split at h
  · cases h
  · simp only [beq_eq_false_iff_ne.mpr hne, Bool.and_false, Bool.false_or, Bool.and_eq_true] at h
    have hretried := h.2
    unfold shouldRetryHttpFailure at hretried
    split at hretried
    next hclass => exact .inl hclass
    next hclass => exact .inr hclass
    next => cases hretried

/-- From an attempt before which nothing ended the loop, it runs to the first one that does. -/
theorem semanticRetryLoop_ends {last : ℕ} (hlast : endsRetries libs policy clock outcome last)
    {left attempt : ℕ} (hbefore : ∀ earlier, attempt ≤ earlier → earlier < last →
      ¬ endsRetries libs policy clock outcome earlier)
    (hattempt : attempt ≤ last) (hleft : last < attempt + left) (lastError : Option TransportError)
    (sleeps : List StdDuration) :
    semanticRetryLoop libs backoff policy clock outcome left attempt lastError sleeps =
      ⟨outcome last, last + 1, sleeps ++ (List.range' (attempt + 1) (last - attempt)).map
        (backoff policy.baseDelay)⟩ := by
  induction left generalizing attempt lastError sleeps with
  | zero => omega
  | succ left ih =>
    rw [semanticRetryLoop]
    by_cases hhere : attempt = last
    · subst hhere
      cases houtcome : outcome attempt with
      | ok response => simp
      | error error => simp [hlast error houtcome]
    · have hgo : ¬ endsRetries libs policy clock outcome attempt :=
        hbefore attempt le_rfl (by omega)
      simp only [endsRetries, not_forall, Bool.not_eq_false] at hgo
      obtain ⟨error, houtcome, hretry⟩ := hgo
      have hrest := @ih (attempt + 1) (fun earlier hle hlt => hbefore earlier (by omega) hlt)
        (by omega) (by omega) (some error) (sleeps ++ [backoff policy.baseDelay (attempt + 1)])
      have hsleeps : last - attempt = last - (attempt + 1) + 1 := by omega
      simp only [houtcome, hretry, if_true, hrest]
      rw [hsleeps, List.range'_succ]
      simp

/-- The loop makes the attempts up to the first that responds, fails with an error not to be
retried, or is the last one allowed, and returns what that attempt came back with. Every error
before it on a 5xx was a temporary or an internal failure. -/
theorem executeWithSemanticRetry_returns :
    ∃ last, IsLeast {attempt | endsRetries libs policy clock outcome attempt ∨
        attempt = policy.maxAttempts} last ∧
      executeWithSemanticRetry libs backoff policy clock outcome =
        ⟨outcome last, last + 1,
          (List.range' 1 last).map (backoff policy.baseDelay)⟩ ∧
      ∀ earlier < last, ∃ error, outcome earlier = .error error ∧
        shouldRetryRequestError libs (clock earlier) policy error earlier = true ∧
        ∀ status headers body, error = .http status headers body → status.isServerError = true →
          libs.classifyRequestHttp (clock earlier) status body = .temporaryFailure ∨
            libs.classifyRequestHttp (clock earlier) status body = .internalFailure := by
  classical
  have hends : ∃ attempt, endsRetries libs policy clock outcome attempt :=
    ⟨policy.maxAttempts, endsRetries_maxAttempts libs policy clock outcome⟩
  have hlast := Nat.find_spec hends
  have hbefore {earlier : ℕ} (hlt : earlier < Nat.find hends) :
      ¬ endsRetries libs policy clock outcome earlier := Nat.find_min hends hlt
  have hmax : Nat.find hends ≤ policy.maxAttempts :=
    Nat.find_le (endsRetries_maxAttempts libs policy clock outcome)
  refine ⟨Nat.find hends, ⟨.inl hlast, ?_⟩, ?_, fun earlier hlt => ?_⟩
  · rintro attempt (hattempt | rfl)
    · exact Nat.find_le hattempt
    · exact hmax
  · have hloop := semanticRetryLoop_ends libs backoff policy clock outcome hlast
      (fun _ _ hlt => hbefore hlt) (Nat.zero_le _) (show _ < 0 + (policy.maxAttempts + 1) by omega)
      none []
    simpa [executeWithSemanticRetry] using hloop
  · have hgo := hbefore hlt
    simp only [endsRetries, not_forall, Bool.not_eq_false] at hgo
    obtain ⟨error, houtcome, hretry⟩ := hgo
    refine ⟨error, houtcome, hretry, fun status headers body herror h5xx => ?_⟩
    subst herror
    exact classified_of_retried_5xx libs policy h5xx hretry

end Retry

end Codaze.Upstream
