import Codaze.Accounts.Selection
import Codaze.Responses.Rendering
import Codaze.Upstream.Normalization

/-!
# Failures of a whole request

What a request that found no account, or was refused, is answered with: a JSON body, or
for Codex an event stream of one event.
-/
namespace Codaze.Responses
open Foundation Accounts Upstream

/-- `RefreshFailure` with the body it came with. -/
structure RefreshFailure where
  status : StatusCode
  body : String
  failure : FailureClass
  retryAfter : Option StdDuration

inductive FailoverFailure where
  | refresh (error : RefreshFailure)
  | transport (error : TransportError)
  | poolBlocked (summary : PoolBlockSummary)
  | callerJson (status : StatusCode) (message : String)
  | internal (status : StatusCode) (detail : String)

inductive FailureRenderMode where
  | unaryJson | responsesPreStream
  deriving DecidableEq, Repr

inductive ResponseBody where
  | json (body : Json)
  | text (body : String)
  | events (bytes : List Byte)

structure Response where
  status : StatusCode
  headers : HeaderMap
  body : ResponseBody

def jsonContentType : String := "application/json"
def sseContentType : String := "text/event-stream"

/-! ## Headers of an upstream response -/

/-- The names a `Connection` header lists. -/
def connectionTokens (value : HeaderValue) : List String :=
  match value.toStr with
  | some raw => (((raw.toList.splitOn ',').map trimChars).filter (· ≠ [])).map fun token =>
      toAsciiLowercase (String.ofList token)
  | none => []

def removeHopByHopResponseHeaders (headers : HeaderMap) : HeaderMap :=
  (((headers.getAll "connection").flatMap connectionTokens) ++ ["connection", "keep-alive",
    "proxy-authenticate", "proxy-authorization", "te", "trailer", "transfer-encoding",
    "upgrade"]).foldl HeaderMap.remove headers

def isUsedPercentHeader (name : String) : Bool :=
  "-primary-used-percent".toList <:+ (toAsciiLowercase name).toList ∨
    "-secondary-used-percent".toList <:+ (toAsciiLowercase name).toList

def normalizeRateLimitHeaders (headers : HeaderMap) : HeaderMap :=
  ((headers.map (·.1)).dedup.filter isUsedPercentHeader).foldl
    (fun headers name => insertHeader headers name "0.0") headers

def sanitizeResponseHeaders (headers : HeaderMap) : HeaderMap :=
  normalizeRateLimitHeaders
    (((removeHopByHopResponseHeaders headers).remove "content-encoding").remove "content-length")

/-- `shape_openai_http_headers`. -/
def shapeOpenaiHttpHeaders (headers : HeaderMap) : HeaderMap :=
  headers.filter (·.1 = "content-type") ++ headers.filter (·.1 = "cache-control")

def setContentType (headers : HeaderMap) (value : String) : HeaderMap :=
  insertHeader headers "content-type" value

/-! ## Error bodies -/

def structuredErrorBodyFromPayload (payload : SyntheticResponseFailedPayload) : Json :=
  .object [("error", errorObject payload (payload.code.getD "internal_server_error")
    (payload.message.getD "Upstream request failed."))]

def jsonError (status : StatusCode) (message : String) : Response where
  status := status
  headers := []
  body := .json (.object [("error", .object [("message", .string message)])])

def isOpenaiErrorType (errorType : String) : Bool :=
  errorType ∈ ["authentication_error", "permission_error", "rate_limit_error", "server_error",
    "invalid_request_error"]

def defaultOpenaiErrorType (status : StatusCode) (code : String) : String :=
  if status.code = 401 ∨ code = "invalid_api_key" then "authentication_error"
  else if status.code = 403 ∨ code = "insufficient_quota" ∨ code = "forbidden" then
    "permission_error"
  else if status.code = 429 then "rate_limit_error"
  else if status.isServerError then "server_error"
  else "invalid_request_error"

def normalizeOpenaiErrorType (errorType : Option String) (status : StatusCode) (code : String) :
    String :=
  match errorType with
  | some errorType =>
    if isOpenaiErrorType errorType then errorType else defaultOpenaiErrorType status code
  | none => defaultOpenaiErrorType status code

def openaiErrorObject (message errorType : String) (param : Json) (code : String) : Json :=
  .object [("error", .object [("message", .string message), ("type", .string errorType),
    ("param", param), ("code", .string code)])]

namespace Libraries

variable (libs : Libraries) (now : Time)

def openaiErrorBody (status : StatusCode) (payload : SyntheticResponseFailedPayload) : Json :=
  let message := payload.message.getD
    ((libs.canonicalReason status).getD "gateway request failed")
  let code := payload.code.getD (libs.fallbackErrorCodeForHttp now status none)
  openaiErrorObject message (normalizeOpenaiErrorType payload.errorType status code) .null code

def openaiErrorResponse (status : StatusCode) (headers : HeaderMap)
    (payload : SyntheticResponseFailedPayload) : Response where
  status := status
  headers := setContentType (shapeOpenaiHttpHeaders headers) jsonContentType
  body := .json (libs.openaiErrorBody now status payload)

def openaiErrorPayloadFromUpstreamJson (status : StatusCode) (body : Option String)
    (json : Json) : SyntheticResponseFailedPayload :=
  let payload := parseStructuredErrorValue ((json.get? "error").getD json)
  let fallback := match json with
    | .string value => some value
    | .object _ => getStr? json "detail"
    | other => libs.encode other
  { payload with
    code := payload.code.or (some (libs.fallbackErrorCodeForHttp now status body))
    message := payload.message.or fallback }

/-- The error object of a body `is_passthrough_openai_error_body` lets through. -/
def passthroughOpenaiError? (json : Json) : Option Json :=
  (json.get? "error").filter fun error =>
    error.asObject?.isSome && (getStr? error "message").isSome &&
      (getStr? error "type").any isOpenaiErrorType

def sanitizePassthroughOpenaiErrorBody (status : StatusCode) (error : Json)
    (body : Option String) : Json :=
  let message := (getStr? error "message").getD
    ((libs.canonicalReason status).getD "Upstream request failed")
  let code := (getStr? error "code").getD (libs.fallbackErrorCodeForHttp now status body)
  openaiErrorObject message (normalizeOpenaiErrorType (getStr? error "type") status code)
    ((error.get? "param").getD .null) code

def openaiErrorResponseFromUpstreamBody (status : StatusCode) (headers : HeaderMap)
    (body : Option String) : Response :=
  let shaped := shapeOpenaiHttpHeaders headers
  match body.bind libs.fromStr with
  | some json =>
    match passthroughOpenaiError? json with
    | some error => {
        status
        headers := setContentType shaped jsonContentType
        body := .json (libs.sanitizePassthroughOpenaiErrorBody now status error body) }
    | none => libs.openaiErrorResponse now status (setContentType shaped jsonContentType)
        (libs.openaiErrorPayloadFromUpstreamJson now status body json)
  | none =>
    let message := ((body.map trim).filter (· ≠ "")).getD
      ((libs.canonicalReason status).getD "Upstream request failed")
    libs.openaiErrorResponse now status shaped { message := some message }

def publicInternalErrorMessage (status : StatusCode) : String :=
  (libs.canonicalReason status).getD "Internal Server Error"

/-! ## Rendering -/

def failoverFailureKind : FailoverFailure → DownstreamFailureKind
  | .refresh _ | .poolBlocked _ => .gatewayUnavailable
  | .transport (.http status _ body) => libs.downstreamFailureKindForHttp now status body
  | .transport error => downstreamFailureKind (libs.classifyRequestError now error)
  | .callerJson .. | .internal .. => .callerError

def renderGatewayUnavailableResponse : ResponseShape → Response
  | .codex => {
      status := .serviceUnavailable
      headers := []
      body := .json (structuredErrorBodyFromPayload gatewayUnavailablePayload) }
  | .openAi => libs.openaiErrorResponse now .serviceUnavailable [] gatewayUnavailablePayload

def transportErrorResponse : TransportError → Response
  | .http status headers body => {
      status
      headers := (headers.map sanitizeResponseHeaders).getD []
      body := .text (body.getD "") }
  | other => jsonError .badGateway (libs.displayError other)

def openaiTransportErrorResponse : TransportError → Response
  | .http status headers body => libs.openaiErrorResponseFromUpstreamBody now status
      ((headers.map sanitizeResponseHeaders).getD []) body
  | _ => libs.openaiErrorResponse now .badGateway []
      { message := some (libs.publicInternalErrorMessage .badGateway) }

def refreshFailureResponse (error : RefreshFailure) : Response :=
  match libs.fromStr error.body with
  | some body => { status := error.status, headers := [], body := .json body }
  | none => jsonError error.status error.body

def renderUnaryFailoverFailure (error : FailoverFailure) (shape : ResponseShape) : Response :=
  if libs.failoverFailureKind now error = .gatewayUnavailable then
    libs.renderGatewayUnavailableResponse now shape
  else match shape, error with
    | .codex, .refresh error => libs.refreshFailureResponse error
    | .codex, .transport error => libs.transportErrorResponse error
    | .codex, .poolBlocked _ => {
        status := .serviceUnavailable
        headers := []
        body := .json (structuredErrorBodyFromPayload gatewayUnavailablePayload) }
    | .codex, .callerJson status message => jsonError status message
    | .codex, .internal status _ => jsonError status (libs.publicInternalErrorMessage status)
    | .openAi, .refresh error =>
      libs.openaiErrorResponseFromUpstreamBody now error.status [] (some error.body)
    | .openAi, .transport error => libs.openaiTransportErrorResponse now error
    | .openAi, .poolBlocked _ =>
      libs.openaiErrorResponse now .serviceUnavailable [] gatewayUnavailablePayload
    | .openAi, .callerJson status message =>
      libs.openaiErrorResponse now status [] { message := some message }
    | .openAi, .internal status _ => libs.openaiErrorResponse now status []
        { message := some (libs.publicInternalErrorMessage status) }

def syntheticResponseFailedPayloadFromHttpFailure (status : StatusCode) (body : Option String)
    (retryAfter : Option StdDuration) : SyntheticResponseFailedPayload :=
  let extracted := libs.parseStructuredErrorBody body
  { extracted with
    code := extracted.code.or (some (libs.fallbackErrorCodeForHttp now status body))
    message := extracted.message.or (some (libs.fallbackErrorMessageForHttp status retryAfter)) }

/-- The payload of a failure for which the code keeps apart what the caller did wrong. -/
def failoverFailurePayload : FailoverFailure → SyntheticResponseFailedPayload
  | .refresh error => libs.syntheticResponseFailedPayloadFromHttpFailure now error.status
      (some error.body) error.retryAfter
  | .transport error => libs.syntheticResponseFailedPayloadFromTransport now error
  | .poolBlocked _ => gatewayUnavailablePayload
  | .callerJson status message => {
      code := some (libs.fallbackErrorCodeForHttp now status none), message := some message }
  | .internal status _ => {
      code := some (libs.fallbackErrorCodeForHttp now status none)
      message := some (libs.publicInternalErrorMessage status) }

def renderCodexPreStreamFailure (error : FailoverFailure) : Response :=
  let payload := if libs.failoverFailureKind now error = .gatewayUnavailable then
      gatewayUnavailablePayload
    else libs.failoverFailurePayload now error
  { status := ⟨200, by decide⟩
    headers := insertHeader (insertHeader [] "content-type" sseContentType) "cache-control"
      "no-cache"
    body := .events ((libs.renderSyntheticResponseFailedEvent now none none payload).getD
      (sseEventBytes "response.failed" "\x7b\"type\":\"response.failed\"\x7d")) }

/-- `render_failover_failure`. -/
def renderFailoverFailure (error : FailoverFailure) (shape : ResponseShape)
    (mode : FailureRenderMode) : Response :=
  match mode, shape with
  | .responsesPreStream, .codex => libs.renderCodexPreStreamFailure now error
  | _, _ => libs.renderUnaryFailoverFailure now error shape

end Libraries

end Codaze.Responses
