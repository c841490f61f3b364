import Codaze.Accounts.Record
import Codaze.Foundation.Headers
import Codaze.Foundation.Json
import Codaze.Foundation.Text

/-!
# What an upstream error means

The classification of an error from its status, its structured fields and its text, and
the delay it asks for. `Libraries` holds what the response code calls outside the
repository; a clock reading is an argument.
-/
namespace Codaze.Responses
open Foundation Accounts

/-- `http::StatusCode`. -/
structure StatusCode where
  code : ℕ
  valid : 100 ≤ code ∧ code ≤ 999
  deriving DecidableEq, Repr

namespace StatusCode

/-- `StatusCode::from_u16`. -/
def fromU16 (code : ℕ) : Option StatusCode :=
  if h : 100 ≤ code ∧ code ≤ 999 then some ⟨code, h⟩ else none

def badRequest : StatusCode := ⟨400, by decide⟩
def unauthorized : StatusCode := ⟨401, by decide⟩
def forbidden : StatusCode := ⟨403, by decide⟩
def requestTimeout : StatusCode := ⟨408, by decide⟩
def tooManyRequests : StatusCode := ⟨429, by decide⟩
def badGateway : StatusCode := ⟨502, by decide⟩
def serviceUnavailable : StatusCode := ⟨503, by decide⟩

def isServerError (status : StatusCode) : Bool := 500 ≤ status.code && status.code ≤ 599

end StatusCode

/-- `codex_client::TransportError`. -/
inductive TransportError where
  | http (status : StatusCode) (headers : Option HeaderMap) (body : Option String)
  | retryLimit
  | timeout
  | network (error : String)
  | build (error : String)

/-- The unit behind the number of a delay. -/
inductive DelayUnit where
  | milliseconds | seconds | minutes | hours
  deriving DecidableEq, Repr

structure Libraries where
  /-- `serde_json::from_str::<Value>`. -/
  fromStr : String → Option Json
  /-- `serde_json::to_string`. -/
  encode : Json → Option String
  /-- A `Value` has no key that is not a string, so it can be written. -/
  encode_isSome (json : Json) : (encode json).isSome
  /-- `DateTime::parse_from_rfc2822`. -/
  parseFromRfc2822 : String → Option Time
  /-- `str::parse::<f64>`, times the seconds of the unit, as a `Duration`. -/
  durationFromDecimal : String → DelayUnit → Option StdDuration
  canonicalReason : StatusCode → Option String
  /-- `Duration::as_secs_f64`, as it is printed. -/
  secondsText : StdDuration → String
  /-- The `Display` of an error. -/
  displayError : TransportError → String

structure StructuredErrorPayload where
  code : Option String := none
  message : Option String := none
  errorType : Option String := none
  planType : Option String := none
  resetsAt : Option ℤ := none
  resetsInSeconds : Option ℤ := none
  deriving DecidableEq, Repr

structure UpstreamErrorSemantics where
  failure : FailureClass
  retryAfter : Option StdDuration
  payload : StructuredErrorPayload
  deriving DecidableEq, Repr

structure AnalyzeErrorContext where
  status : StatusCode
  headers : Option HeaderMap := none
  body : Option String := none
  explicitCode : Option String := none
  explicitMessage : Option String := none
  explicitErrorType : Option String := none
  explicitPlanType : Option String := none
  explicitResetsAt : Option ℤ := none
  explicitResetsInSeconds : Option ℤ := none
  explicitRetryAfter : Option StdDuration := none
  unauthorizedFailure : FailureClass := .accessTokenRejected
  allowMessageRetryAfter : Bool := true

/-- `json.get(key).and_then(Value::as_str)`. -/
def getStr? (json : Json) (key : String) : Option String := (json.get? key).bind Json.asStr?

def getI64? (json : Json) (key : String) : Option ℤ := (json.get? key).bind Json.asI64?

def parseStructuredErrorValue (value : Json) : StructuredErrorPayload where
  code := getStr? value "code"
  message := getStr? value "message"
  errorType := getStr? value "type"
  planType := getStr? value "plan_type"
  resetsAt := getI64? value "resets_at"
  resetsInSeconds := getI64? value "resets_in_seconds"

/-- `DateTime::timestamp`. -/
def timestamp (now : Time) : ℤ := now / nanosPerSecond

def parseResetsRetryAfterPayload (now : Time) (payload : StructuredErrorPayload) :
    Option StdDuration :=
  let atReset := payload.resetsAt.bind fun resetsAt =>
    if timestamp now < resetsAt then some (fromSecs (resetsAt - timestamp now).toNat) else none
  let inSeconds := payload.resetsInSeconds.bind fun seconds =>
    if 0 < seconds then some (fromSecs seconds.toNat) else none
  atReset.or inSeconds

def classifyStructuredError (code errorType : Option String) : Option FailureClass :=
  if errorType = some "usage_limit_reached" then some .quotaExhausted
  else if errorType = some "usage_not_included" then some .requestRejected
  else match code with
    | some "rate_limit_exceeded" => some .rateLimited
    | some "insufficient_quota" => some .quotaExhausted
    | some "websocket_connection_limit_reached" => some .temporaryFailure
    | some "server_is_overloaded" | some "slow_down" => some .temporaryFailure
    | some "invalid_prompt" | some "context_length_exceeded" => some .requestRejected
    | _ => none

/-- The text names a challenge of the upstream. -/
def namesChallenge (lowered : String) : Bool :=
  contains lowered "unusual activity" || contains lowered "arkose" ||
    contains lowered "turnstile"

def classifyHttpFromStatusAndText (status : StatusCode) (body : Option String) : FailureClass :=
  let body := toAsciiLowercase (body.getD "")
  if status = .forbidden ∧ namesChallenge body then .riskControlled
  else if status = .tooManyRequests ∨ contains body "rate limit" then .rateLimited
  else if contains body "quota" ∨ contains body "credits" ∨ contains body "usage cap" ∨
      contains body "limit reached" then .quotaExhausted
  else if status = .forbidden then .temporaryFailure
  else if status.isServerError then .temporaryFailure
  else .requestRejected

def classifyError (status : StatusCode) (code errorType fallbackText : Option String)
    (unauthorizedFailure : FailureClass) : FailureClass :=
  if status = .unauthorized then unauthorizedFailure
  else (classifyStructuredError code errorType).getD
    (classifyHttpFromStatusAndText status fallbackText)

namespace Libraries

variable (libs : Libraries)

def parseStructuredErrorBody (body : Option String) : StructuredErrorPayload :=
  match body.bind libs.fromStr with
  | none => {}
  | some json => parseStructuredErrorValue ((json.get? "error").getD json)

def parseRetryAfterStr (now : Time) (value : String) : Option StdDuration :=
  match parseU64 value with
  | some seconds => some (fromSecs seconds)
  | none => (libs.parseFromRfc2822 value).bind fun date =>
    if now ≤ date then some (date - now).toNat else none

def parseRetryAfterHeader (now : Time) (headers : Option HeaderMap) : Option StdDuration :=
  ((headers.bind fun headers => headers.get "retry-after").bind HeaderValue.toStr).bind
    fun value => libs.parseRetryAfterStr now (trim value)

def parseRetryAfterMessage (message : String) : Option StdDuration :=
  (afterFirst? "try again in".toList (toAsciiLowercase message).toList).bind fun rest =>
    let rest := trimStartChars rest
    let value := rest.takeWhile fun c => c.isDigit || c == '.'
    let unit := trimStartChars (rest.drop value.length)
    let delayUnit : DelayUnit :=
      if "millisecond".toList <+: unit ∨ "msec".toList <+: unit ∨ "ms".toList <+: unit then
        .milliseconds
      else if ['m'] <+: unit then .minutes
      else if ['h'] <+: unit then .hours
      else .seconds
    if value = [] then none else libs.durationFromDecimal (String.ofList value) delayUnit

def analyzeError (now : Time) (context : AnalyzeErrorContext) : UpstreamErrorSemantics :=
  let parsed := libs.parseStructuredErrorBody context.body
  let payload : StructuredErrorPayload := {
    code := context.explicitCode.or parsed.code
    message := context.explicitMessage.or parsed.message
    errorType := context.explicitErrorType.or parsed.errorType
    planType := context.explicitPlanType.or parsed.planType
    resetsAt := context.explicitResetsAt.or parsed.resetsAt
    resetsInSeconds := context.explicitResetsInSeconds.or parsed.resetsInSeconds }
  let fallbackText := context.body.or payload.message
  { failure := classifyError context.status payload.code payload.errorType fallbackText
      context.unauthorizedFailure
    retryAfter :=
      (context.explicitRetryAfter.or (libs.parseRetryAfterHeader now context.headers)).or
      ((parseResetsRetryAfterPayload now payload).or
        (if context.allowMessageRetryAfter then
          (payload.message.or context.body).bind libs.parseRetryAfterMessage
        else none))
    payload }

def analyzeRequestHttp (now : Time) (status : StatusCode) (headers : Option HeaderMap)
    (body : Option String) : UpstreamErrorSemantics :=
  libs.analyzeError now { status, headers, body }

/-- The class does not depend on the clock. -/
def classifyRequestHttp (now : Time) (status : StatusCode) (body : Option String) :
    FailureClass :=
  (libs.analyzeRequestHttp now status none body).failure

def classifyRequestError (now : Time) : TransportError → FailureClass
  | .timeout | .network _ | .retryLimit => .temporaryFailure
  | .build _ => .internalFailure
  | .http status _ body => libs.classifyRequestHttp now status body

/-- `extract_retry_after`, which reads the delay as of a 502. -/
def extractRetryAfter (now : Time) : TransportError → Option StdDuration
  | .http _ headers body => (libs.analyzeRequestHttp now .badGateway headers body).retryAfter
  | _ => none

end Libraries

/-- Libraries that read the JSON texts of a table and know no other text format. -/
def Libraries.ofTexts (texts : List (String × Json)) : Libraries where
  fromStr text := texts.lookup text
  encode json := some (String.ofList json.compact)
  encode_isSome _ := rfl
  parseFromRfc2822 _ := none
  durationFromDecimal _ _ := none
  canonicalReason _ := none
  secondsText delay := toString (delay / nanosPerSecond)
  displayError
    | .http status _ _ => "http " ++ toString status.code
    | .retryLimit => "retry limit reached"
    | .timeout => "timeout"
    | .network error => "network error: " ++ error
    | .build error => "request build error: " ++ error

end Codaze.Responses
