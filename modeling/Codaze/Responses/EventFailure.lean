import Codaze.Responses.ErrorSemantics

/-!
# Failures that arrive as events

The classification of the `error` object of a `response.failed` event and of an `error`
event, wrapped or flat. Neither has a status line, so the status is read from the event
or inferred.
-/
namespace Codaze.Responses
open Foundation Accounts

structure ClassifiedEventFailure where
  status : StatusCode
  failure : FailureClass
  retryAfter : Option StdDuration
  details : String
  deriving DecidableEq, Repr

/-- The status of an error without a code and a type that decide it. -/
def inferStatusFromDetails (details : String) : StatusCode :=
  let lowered := toAsciiLowercase details
  if contains lowered "unauthorized" then .unauthorized
  else if namesChallenge lowered then .forbidden
  else .badRequest

/-- The status of an error whose code or type decides it. -/
def statusOfCodeAndType (code errorType : Option String) : Option StatusCode :=
  if code = some "invalid_api_key" ∨ errorType = some "authentication_error" then
    some .unauthorized
  else if code = some "forbidden" ∨ errorType = some "permission_error" then some .forbidden
  else if errorType = some "usage_limit_reached" then some .tooManyRequests
  else if errorType = some "rate_limit_error" then some .tooManyRequests
  else if code = some "rate_limit_exceeded" then some .tooManyRequests
  else if code = some "insufficient_quota" then some .forbidden
  else if code = some "server_is_overloaded" ∨ code = some "slow_down" ∨
      code = some "internal_server_error" ∨ errorType = some "server_error" then
    some .serviceUnavailable
  else if code = some "invalid_prompt" ∨ code = some "context_length_exceeded" then
    some .badRequest
  else none

def inferResponseErrorStatus (code errorType : Option String) (details : String) : StatusCode :=
  (statusOfCodeAndType code errorType).getD (inferStatusFromDetails details)

/-- The first of `status` and `status_code` that is a status. -/
def wrappedErrorStatus (payload : Json) : Option StatusCode :=
  let read (key : String) := ((payload.get? key).bind Json.asU64?).bind StatusCode.fromU16
  (read "status").or (read "status_code")

/-- The text of a header that an event carries as JSON. -/
def headerText? : Json → Option String
  | .string value => some value
  | .number value => some value.toText
  | .bool value => some (toString value)
  | _ => none

def jsonHeaderValueFromJson (value : Json) : Option HeaderValue :=
  (headerText? value).bind HeaderValue.fromStr

/-- `payload.headers["retry-after"]`. -/
def retryAfterField? (payload : Json) : Option Json :=
  ((payload.get? "headers").bind Json.asObject?).bind fun headers =>
    (Json.object headers).get? "retry-after"

def describeWrappedWebsocketErrorEvent (payload : Json) : String :=
  let error := payload.get? "error"
  let stringField (name key : String) := (error.bind (getStr? · key)).map fun value =>
    name ++ "=" ++ value
  let integerField (name key : String) := (error.bind (getI64? · key)).map fun value =>
    name ++ "=" ++ toString value
  let segments := List.filterMap id [
    (wrappedErrorStatus payload).map fun status => "status=" ++ toString status.code,
    stringField "error.type" "type",
    stringField "error.code" "code",
    stringField "error.message" "message",
    integerField "error.resets_at" "resets_at",
    integerField "error.resets_in_seconds" "resets_in_seconds",
    ((retryAfterField? payload).bind headerText?).map ("headers.retry-after=" ++ ·)]
  if segments = [] then "responses websocket upstream returned error event"
  else "responses websocket upstream returned error event: " ++ " ".intercalate segments

namespace Libraries

variable (libs : Libraries)

/-- `parse_retry_after` of a header value. -/
def parseRetryAfter (now : Time) (value : HeaderValue) : Option StdDuration :=
  value.toStr.bind fun text => libs.parseRetryAfterStr now (trim text)

def classifyWrappedErrorEvent (now : Time) (payload : Json) (details : String) :
    ClassifiedEventFailure :=
  let fields := match payload.get? "error" with
    | some error => parseStructuredErrorValue error
    | none => {}
  let explicitRetryAfter := ((retryAfterField? payload).bind jsonHeaderValueFromJson).bind
    (libs.parseRetryAfter now)
  let status := (wrappedErrorStatus payload).getD
    (inferResponseErrorStatus fields.code fields.errorType (fields.message.getD details))
  let semantics := libs.analyzeError now {
    status
    explicitCode := fields.code
    explicitMessage := fields.message
    explicitErrorType := fields.errorType
    explicitPlanType := fields.planType
    explicitResetsAt := fields.resetsAt
    explicitResetsInSeconds := fields.resetsInSeconds
    explicitRetryAfter }
  { status, failure := semantics.failure, retryAfter := semantics.retryAfter, details }

/-- An error object that stands alone, with the text for one without a message. -/
def classifyErrorObject (now : Time) (error : Json) (fallback : String) :
    ClassifiedEventFailure :=
  let fields := parseStructuredErrorValue error
  let details := fields.message.getD fallback
  let status := inferResponseErrorStatus fields.code fields.errorType details
  let semantics := libs.analyzeError now {
    status
    explicitCode := fields.code
    explicitMessage := some details
    explicitErrorType := fields.errorType
    explicitPlanType := fields.planType
    explicitResetsAt := fields.resetsAt
    explicitResetsInSeconds := fields.resetsInSeconds }
  { status, failure := semantics.failure, retryAfter := semantics.retryAfter, details }

def classifyResponseFailedEvent (now : Time) (error : Json) : ClassifiedEventFailure :=
  libs.classifyErrorObject now error "response.failed event received"

def classifyOpenaiErrorEvent (now : Time) (error : Json) : ClassifiedEventFailure :=
  match error.get? "error" with
  | some inner =>
    libs.classifyWrappedErrorEvent now error ((getStr? inner "message").getD "error event received")
  | none => libs.classifyErrorObject now error "error event received"

def classifyWrappedWebsocketErrorEvent (now : Time) (payload : Json) : ClassifiedEventFailure :=
  libs.classifyWrappedErrorEvent now payload (describeWrappedWebsocketErrorEvent payload)

end Libraries

end Codaze.Responses
