import Codaze.Accounts.BlockFields
import Codaze.Failover.Request
import Codaze.Responses.ErrorSemantics

/-!
# Requests the upstream rejects

A 400 whose structured fields say nothing is classified by the text of its body. The body
repeats what the client sent, so the text decides whether the client's error cools down an
account.
-/
namespace Codaze.Responses
open Foundation Accounts Failover

/-- A phrase that `classify_http_from_status_and_text` takes for a limit of the account. -/
def namesLimit (lowered : String) : Bool :=
  contains lowered "rate limit" || contains lowered "quota" || contains lowered "credits" ||
    contains lowered "usage cap" || contains lowered "limit reached"

/-- The error object of the body has type `invalid_request_error` and a code that
`classify_structured_error` does not recognise. -/
structure InvalidRequest (libs : Libraries) (body : String) : Prop where
  errorType : (libs.parseStructuredErrorBody (some body)).errorType = some "invalid_request_error"
  code : classifyStructuredError (libs.parseStructuredErrorBody (some body)).code
    (some "invalid_request_error") = none

theorem classifyHttpFromStatusAndText_badRequest (body : String) :
    classifyHttpFromStatusAndText .badRequest (some body) = .requestRejected ↔
      namesLimit (toAsciiLowercase body) = false := by
  have hforbidden : StatusCode.badRequest ≠ .forbidden := by decide
  have htooMany : StatusCode.badRequest ≠ .tooManyRequests := by decide
  have hserver : StatusCode.badRequest.isServerError = false := by decide
  simp only [classifyHttpFromStatusAndText, Option.getD_some, hforbidden, htooMany, hserver,
    false_and, false_or, if_false, Bool.false_eq_true, namesLimit, Bool.or_eq_false_iff]
  generalize toAsciiLowercase body = lowered
  by_cases hrate : contains lowered "rate limit" = true
  · simp [hrate]
  · by_cases hquota : contains lowered "quota" = true ∨ contains lowered "credits" = true ∨
        contains lowered "usage cap" = true ∨ contains lowered "limit reached" = true
    · simp only [hrate, hquota, if_true, if_false, Bool.false_eq_true]
      refine iff_of_false (by simp) fun h => ?_
      simp [h] at hquota
    · simp only [hrate, hquota, if_false, Bool.false_eq_true]
      simp only [not_or, Bool.not_eq_true] at hrate hquota
      simp [hquota]

theorem analyzeRequestHttp_invalidRequest {libs : Libraries} {body : String}
    (h : InvalidRequest libs body) (now : Time) (headers : Option HeaderMap) :
    (libs.analyzeRequestHttp now .badRequest headers (some body)).failure =
      classifyHttpFromStatusAndText .badRequest (some body) := by
  have hunauthorized : StatusCode.badRequest ≠ .unauthorized := by decide
  simp only [Libraries.analyzeRequestHttp, Libraries.analyzeError, classifyError, Option.none_or,
    Option.some_or, h.errorType, h.code, hunauthorized, if_false, Option.getD_none]

/-- Two such bodies, whatever else they say, are both taken for rejected requests, cool down no
account and stop the failover loop, exactly if neither names a limit. -/
theorem invalidRequest_rejected_iff {libs : Libraries} {body body' : String}
    (h : InvalidRequest libs body) (h' : InvalidRequest libs body') (now now' : Time)
    (headers headers' : Option HeaderMap) :
    (let failure := (libs.analyzeRequestHttp now .badRequest headers (some body)).failure
     let failure' := (libs.analyzeRequestHttp now' .badRequest headers' (some body')).failure
     failure = .requestRejected ∧ failure' = failure ∧
       shouldFailoverFailureClass failure = false ∧
       ∀ settled retryAfter details record,
         (failRecord settled failure retryAfter details record).state.block = record.block) ↔
    namesLimit (toAsciiLowercase body) = false ∧ namesLimit (toAsciiLowercase body') = false := by
  rw [← classifyHttpFromStatusAndText_badRequest, ← classifyHttpFromStatusAndText_badRequest,
    analyzeRequestHttp_invalidRequest h, analyzeRequestHttp_invalidRequest h']
  constructor
  · rintro ⟨hrejected, hsame, -⟩
    exact ⟨hrejected, hsame.trans hrejected⟩
  · rintro ⟨hrejected, hrejected'⟩
    rw [hrejected, hrejected']
    refine ⟨rfl, rfl, rfl, fun settled retryAfter details record => ?_⟩
    simp only [failRecord, Outcome.state_returned]
    split <;> rfl

/-- An error body with the message given, as JSON text and as `serde_json` reads it. -/
def invalidValueBody (message : String) : String × Json :=
  ("\x7b\"error\":\x7b\"type\":\"invalid_request_error\",\"code\":\"invalid_value\"," ++
      "\"message\":\"" ++ message ++ "\"\x7d\x7d",
    .object [("error", .object [("type", .string "invalid_request_error"),
      ("code", .string "invalid_value"), ("message", .string message)])])

/-- Libraries that read two such bodies. -/
def invalidValueLibraries : Libraries :=
  .ofTexts [invalidValueBody "Unknown value: 'low'.", invalidValueBody "Unknown value: 'quota'."]

theorem invalidValue_low : InvalidRequest invalidValueLibraries
    (invalidValueBody "Unknown value: 'low'.").1 := ⟨by decide +kernel, by decide +kernel⟩

theorem invalidValue_quota : InvalidRequest invalidValueLibraries
    (invalidValueBody "Unknown value: 'quota'.").1 := ⟨by decide +kernel, by decide +kernel⟩

/-- `invalidRequest_rejected_iff` for one body twice. -/
theorem invalidRequest_rejected_iff_low :
    let body := (invalidValueBody "Unknown value: 'low'.").1
    (let failure :=
      (invalidValueLibraries.analyzeRequestHttp 0 .badRequest none (some body)).failure
     let failure' :=
      (invalidValueLibraries.analyzeRequestHttp 0 .badRequest none (some body)).failure
     failure = .requestRejected ∧ failure' = failure ∧
       shouldFailoverFailureClass failure = false ∧
       ∀ settled retryAfter details record,
         (failRecord settled failure retryAfter details record).state.block = record.block) ↔
    namesLimit (toAsciiLowercase body) = false ∧ namesLimit (toAsciiLowercase body) = false :=
  invalidRequest_rejected_iff invalidValue_low invalidValue_low 0 0 none none

/-- Two bodies that differ in the message alone are classified differently: the value `quota`
that the client sent exhausts the account. -/
theorem echoed_value_exhausts_account :
    ∃ (libs : Libraries) (body body' : String),
      InvalidRequest libs body ∧ InvalidRequest libs body' ∧
      (libs.analyzeRequestHttp 0 .badRequest none (some body)).failure = .requestRejected ∧
      (libs.analyzeRequestHttp 0 .badRequest none (some body')).failure = .quotaExhausted ∧
      shouldFailoverFailureClass .quotaExhausted = true :=
  ⟨invalidValueLibraries, _, _, invalidValue_low, invalidValue_quota, by decide +kernel,
    by decide +kernel, rfl⟩

end Codaze.Responses
