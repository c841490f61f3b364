import Codaze.Responses.ResponseHeaders

/-!
# The errors of an OpenAI client

Whatever went wrong and whatever the upstream said about it, an OpenAI client gets a
document of one shape. Three functions build it: from a payload, from the body of the
upstream, and from an error object of the upstream that has the shape already.
-/
namespace Codaze.Responses
open Foundation Accounts Upstream

/-- The body of the upstream that a failure carries. -/
def FailoverFailure.upstreamBody? : FailoverFailure → Option String
  | refresh error => some error.body
  | transport (.http _ _ body) => body
  | _ => none

/-- The parameter that the error object of the upstream names. -/
def FailoverFailure.upstreamParam? (libs : Libraries) (error : FailoverFailure) : Option Json :=
  (error.upstreamBody?.bind libs.fromStr).bind fun json =>
    (json.get? "error").bind (·.get? "param")

/-- A response whose document has no other fields; `param` is the only value that may come
from the upstream as it is. -/
structure ClosedSchema (param? : Option Json) (response : Response) : Prop where
  document : ∃ message errorType param code,
    response.body = .json (.object [("error", .object [("message", .string message),
      ("type", .string errorType), ("param", param), ("code", .string code)])]) ∧
    errorType ∈ ["authentication_error", "permission_error", "rate_limit_error", "server_error",
      "invalid_request_error"] ∧
    (param = .null ∨ param? = some param)
  contentType : (response.headers.getAll "content-type").map HeaderValue.toStr =
    [some "application/json"]

theorem isOpenaiErrorType_default (status : StatusCode) (code : String) :
    isOpenaiErrorType (defaultOpenaiErrorType status code) = true := by
  unfold defaultOpenaiErrorType
  split_ifs <;> decide

theorem isOpenaiErrorType_normalize (errorType : Option String) (status : StatusCode)
    (code : String) : isOpenaiErrorType (normalizeOpenaiErrorType errorType status code) =
      true := by
  unfold normalizeOpenaiErrorType
  cases errorType with
  | none => exact isOpenaiErrorType_default status code
  | some errorType =>
    dsimp only
    split
    next hknown => exact hknown
    next => exact isOpenaiErrorType_default status code

theorem contentType_json (headers : HeaderMap) :
    ((setContentType headers jsonContentType).getAll "content-type").map HeaderValue.toStr =
      [some "application/json"] := by
  obtain ⟨value, hvalue⟩ : ∃ value, HeaderValue.fromStr jsonContentType = some value :=
    Option.isSome_iff_exists.mp (by decide)
  have htext : value.toStr = some "application/json" := by
    rw [HeaderValue.toStr_fromStr hvalue, if_pos (by decide)]
    rfl
  rw [setContentType, insertHeader, hvalue]
  dsimp only
  rw [HeaderMap.getAll_insert_self, List.map_singleton, htext]

section

variable {libs : Libraries} {now : Time} {param? : Option Json}

/-- An answer made of a payload. -/
theorem closedSchema_openaiErrorResponse (status : StatusCode) (headers : HeaderMap)
    (payload : SyntheticResponseFailedPayload) :
    ClosedSchema param? (libs.openaiErrorResponse now status headers payload) where
  document := by
    refine ⟨_, _, _, _, rfl, ?_, .inl rfl⟩
    have hknown := isOpenaiErrorType_normalize payload.errorType status
      (payload.code.getD (libs.fallbackErrorCodeForHttp now status none))
    simpa only [isOpenaiErrorType, decide_eq_true_eq] using hknown
  contentType := contentType_json _

theorem get?_of_passthroughOpenaiError? {json error : Json}
    (h : Libraries.passthroughOpenaiError? json = some error) : json.get? "error" = some error :=
  (Option.filter_eq_some_iff.mp h).1

/-- An answer made of the body of the upstream. -/
theorem closedSchema_openaiErrorResponseFromUpstreamBody (status : StatusCode)
    (headers : HeaderMap) (body : Option String)
    (hparam : ∀ json error, body.bind libs.fromStr = some json →
      json.get? "error" = some error → param? = error.get? "param") :
    ClosedSchema param? (libs.openaiErrorResponseFromUpstreamBody now status headers body) := by
  unfold Libraries.openaiErrorResponseFromUpstreamBody
  cases hjson : body.bind libs.fromStr with
  | none => exact closedSchema_openaiErrorResponse _ _ _
  | some json =>
    dsimp only
    cases herror : Libraries.passthroughOpenaiError? json with
    | none => exact closedSchema_openaiErrorResponse _ _ _
    | some error =>
      refine ⟨⟨_, _, _, _, rfl, ?_, ?_⟩, contentType_json _⟩
      · have hknown := isOpenaiErrorType_normalize (getStr? error "type") status
          ((getStr? error "code").getD (libs.fallbackErrorCodeForHttp now status body))
        simpa only [isOpenaiErrorType, decide_eq_true_eq] using hknown
      · rw [hparam json error hjson (get?_of_passthroughOpenaiError? herror)]
        cases error.get? "param" with
        | none => exact .inl rfl
        | some param => exact .inr rfl

end

/-- Every failure is told to an OpenAI client in the closed schema, in both modes, and the
detail of an internal failure is not told. -/
theorem openai_errors_closed (libs : Libraries) (now : Time) (mode : FailureRenderMode) :
    (∀ error : FailoverFailure, ClosedSchema (error.upstreamParam? libs)
      (libs.renderFailoverFailure now error .openAi mode)) ∧
    ∀ status detail detail',
      libs.renderFailoverFailure now (.internal status detail) .openAi mode =
        libs.renderFailoverFailure now (.internal status detail') .openAi mode := by
  have hunary (error : FailoverFailure) : libs.renderFailoverFailure now error .openAi mode =
      libs.renderUnaryFailoverFailure now error .openAi := by
    cases mode <;> rfl
  refine ⟨fun error => ?_, fun status detail detail' => ?_⟩
  · rw [hunary]
    unfold Libraries.renderUnaryFailoverFailure
    split
    next => exact closedSchema_openaiErrorResponse _ _ _
    next =>
      cases error with
      | refresh error =>
        refine closedSchema_openaiErrorResponseFromUpstreamBody _ _ _
          fun json value hjson hvalue => ?_
        simp [FailoverFailure.upstreamParam?, FailoverFailure.upstreamBody?, hjson, hvalue]
      | transport error =>
        cases error with
        | http status headers body =>
          refine closedSchema_openaiErrorResponseFromUpstreamBody _ _ _
            fun json value hjson hvalue => ?_
          simp [FailoverFailure.upstreamParam?, FailoverFailure.upstreamBody?, hjson, hvalue]
        | _ => exact closedSchema_openaiErrorResponse _ _ _
      | poolBlocked summary => exact closedSchema_openaiErrorResponse _ _ _
      | callerJson status message => exact closedSchema_openaiErrorResponse _ _ _
      | internal status detail => exact closedSchema_openaiErrorResponse _ _ _
  · rw [hunary, hunary]
    rfl

end Codaze.Responses
