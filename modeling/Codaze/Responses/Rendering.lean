import Codaze.Responses.EventFailure

/-!
# Failures as they are sent downstream

What the gateway makes of a failure for its own client: the kind of the failure, and
the terminal event that a stream without one is given.
-/
namespace Codaze.Responses
open Foundation Accounts

inductive ResponseShape where
  | codex | openAi
  deriving DecidableEq, Repr

inductive DownstreamFailureKind where
  | callerError | gatewayUnavailable
  deriving DecidableEq, Repr

def gatewayUnavailableCode : String := "server_is_overloaded"
def gatewayUnavailableMessage : String := "No account available right now. Try again later."

/-- `SyntheticResponseFailedPayload` has the fields of a structured error. -/
abbrev SyntheticResponseFailedPayload := StructuredErrorPayload

def gatewayUnavailablePayload : SyntheticResponseFailedPayload where
  code := some gatewayUnavailableCode
  message := some gatewayUnavailableMessage

def downstreamFailureKind : FailureClass → DownstreamFailureKind
  | .requestRejected => .callerError
  | _ => .gatewayUnavailable

def downstreamFailureKindFromStatus (status : StatusCode) (failure : FailureClass) :
    DownstreamFailureKind :=
  if status = .forbidden then .gatewayUnavailable else downstreamFailureKind failure

def isGatewayUnavailableStatusFailure (status : StatusCode) (failure : FailureClass) : Bool :=
  downstreamFailureKindFromStatus status failure = .gatewayUnavailable

/-- `status` in the ranges that `fallback_error_code_for_http` lists. -/
def fallbackCodeOfStatus (status : StatusCode) : String :=
  if status.code = 408 then "request_timeout"
  else if status.isServerError then "internal_server_error"
  else "http_error"

def fallbackCodeOfRejection (status : StatusCode) : String :=
  if status.code = 400 then "invalid_request_error"
  else if status.code = 403 then "forbidden"
  else if status.code = 404 then "not_found"
  else if status.code = 409 then "conflict"
  else fallbackCodeOfStatus status

/-- `i64 + 1` as the release profile computes it. -/
def wrappingSucc (n : ℤ) : ℤ := if n = i64Max then -i64Max - 1 else n + 1

/-- `i64::saturating_add(1).max(0)`. -/
def saturatingSucc (n : ℤ) : ℤ := max (min (n + 1) i64Max) 0

def errorObject (payload : SyntheticResponseFailedPayload) (code message : String) : Json :=
  .object <| [("code", .string code), ("message", .string message)] ++ List.filterMap id [
    payload.errorType.map fun errorType => ("type", .string errorType),
    payload.planType.map fun planType => ("plan_type", .string planType),
    payload.resetsAt.map fun resetsAt => ("resets_at", .ofI64 resetsAt),
    payload.resetsInSeconds.map fun seconds => ("resets_in_seconds", .ofI64 seconds)]

/-- `synthetic_response_failed_json`; the generated id and the time are read from the clock. -/
def syntheticResponseFailedJson (now : Time) (responseId : Option String) (sequenceNumber : ℤ)
    (extracted : SyntheticResponseFailedPayload) : Json :=
  let responseId := responseId.getD ("resp_gateway_" ++ toString (now / 1000))
  let message := extracted.message.getD "Upstream request failed."
  let code := extracted.code.getD "internal_server_error"
  .object [
    ("type", .string "response.failed"),
    ("sequence_number", .ofI64 sequenceNumber),
    ("response", .object [
      ("id", .string responseId),
      ("object", .string "response"),
      ("created_at", .ofI64 (timestamp now)),
      ("status", .string "failed"),
      ("background", .bool false),
      ("error", errorObject extracted code message),
      ("incomplete_details", .null)])]

def openaiStreamErrorJson (sequenceNumber : ℤ) (payload : SyntheticResponseFailedPayload) :
    Json :=
  .object [
    ("type", .string "error"),
    ("code", .string (payload.code.getD "internal_server_error")),
    ("message", .string (payload.message.getD "Upstream request failed.")),
    ("sequence_number", .ofI64 sequenceNumber)]

/-- `format!("event: {name}\ndata: {encoded}\n\n")`. -/
def sseEventBytes (name encoded : String) : List Byte :=
  utf8Bytes ("event: " ++ name ++ "\ndata: " ++ encoded ++ "\n\n")

namespace Libraries

variable (libs : Libraries)

def renderSyntheticResponseFailedEventWithMetadata (now : Time) (responseId : Option String)
    (sequenceNumber : ℤ) (payload : SyntheticResponseFailedPayload) : Option (List Byte) :=
  (libs.encode (syntheticResponseFailedJson now responseId sequenceNumber payload)).map
    (sseEventBytes "response.failed")

def renderSyntheticResponseFailedEvent (now : Time) (lastResponseId : Option String)
    (lastSequenceNumber : Option ℤ) (payload : SyntheticResponseFailedPayload) :
    Option (List Byte) :=
  libs.renderSyntheticResponseFailedEventWithMetadata now lastResponseId
    (wrappingSucc (lastSequenceNumber.getD (-1))) payload

def renderOpenaiStreamErrorEventWithSequence (sequenceNumber : ℤ)
    (payload : SyntheticResponseFailedPayload) : Option (List Byte) :=
  (libs.encode (openaiStreamErrorJson sequenceNumber payload)).map (sseEventBytes "error")

def renderOpenaiStreamErrorEvent (lastSequenceNumber : Option ℤ)
    (payload : SyntheticResponseFailedPayload) : Option (List Byte) :=
  libs.renderOpenaiStreamErrorEventWithSequence
    (saturatingSucc (lastSequenceNumber.getD (-1))) payload

def downstreamFailureKindForHttp (now : Time) (status : StatusCode) (body : Option String) :
    DownstreamFailureKind :=
  downstreamFailureKindFromStatus status (libs.classifyRequestHttp now status body)

def fallbackErrorCodeForHttp (now : Time) (status : StatusCode) (body : Option String) :
    String :=
  match libs.classifyRequestHttp now status body with
  | .accessTokenRejected | .authInvalid => "invalid_api_key"
  | .rateLimited => "rate_limit_exceeded"
  | .quotaExhausted => "insufficient_quota"
  | .riskControlled => "forbidden"
  | .requestRejected => fallbackCodeOfRejection status
  | .temporaryFailure | .internalFailure => fallbackCodeOfStatus status

def fallbackErrorCode (now : Time) : TransportError → String
  | .http status _ body => libs.fallbackErrorCodeForHttp now status body
  | .timeout => "request_timeout"
  | .network _ => "network_error"
  | .build _ => "internal_server_error"
  | .retryLimit => "retry_limit_reached"

def fallbackErrorMessageForHttp (status : StatusCode) (retryAfter : Option StdDuration) :
    String :=
  match retryAfter with
  | some delay =>
    if status = .tooManyRequests then
      "Rate limit reached. Please try again in " ++ libs.secondsText delay ++ "s."
    else "Upstream request failed with status " ++ toString status.code ++ "."
  | none => "Upstream request failed with status " ++ toString status.code ++ "."

def fallbackErrorMessage (now : Time) (error : TransportError) : String :=
  match error with
  | .http status _ _ => libs.fallbackErrorMessageForHttp status (libs.extractRetryAfter now error)
  | _ => libs.displayError error

def syntheticResponseFailedPayloadFromTransport (now : Time) (error : TransportError) :
    SyntheticResponseFailedPayload :=
  let extracted := match error with
    | .http _ _ body => libs.parseStructuredErrorBody body
    | _ => {}
  { extracted with
    code := extracted.code.or (some (libs.fallbackErrorCode now error))
    message := extracted.message.or (some (libs.fallbackErrorMessage now error)) }

end Libraries

end Codaze.Responses
