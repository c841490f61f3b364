import Codaze.Upstream.Requests
import Codaze.Websocket.Errors

/-!
# The messages of a session

What the proxy reads off a message, and how it rewrites the messages it passes on. The
predicates on an upstream message look at its `type`, its classification at the rest.
-/
namespace Codaze.Websocket
open Foundation Accounts Responses Upstream

def websocketConnectionLimitReachedCode : String := "websocket_connection_limit_reached"

def websocketConnectionLimitReachedMessage : String :=
  "Responses websocket connection limit reached (60 minutes). " ++
    "Create a new websocket connection to continue."

def websocketMessageType (libs : Libraries) (text : String) : Option String :=
  (libs.fromStr text).bind fun json => getStr? json "type"

def isResponsesWebsocketRequestStart (libs : Libraries) : Message → Bool
  | .text text => websocketMessageType libs text == some "response.create"
  | _ => false

/-- `should_replay_client_message`. -/
def shouldReplayClientMessage (message : Message) : Bool := message.isPayload

/-- `should_buffer_upstream_message_before_commit`. -/
def shouldBufferUpstreamMessageBeforeCommit (message : Message) : Bool := message.isPayload

def upstreamMessageCommitsRequest (libs : Libraries) : Message → Bool
  | .text text =>
    websocketMessageType libs text ∉ [some "error", some "response.failed",
      some "response.incomplete", some "codex.rate_limits"]
  | .binary _ => true
  | _ => false

def upstreamMessageIsTerminal (libs : Libraries) : Message → Bool
  | .text text =>
    websocketMessageType libs text ∈ [some "error", some "response.failed",
      some "response.incomplete", some "response.completed"]
  | .close _ => true
  | _ => false

def normalizeRateLimitWindowUsedPercent : Json → Json
  | .object window => .object (Fields.insert window "used_percent" (.number (.float "0.0")))
  | window => window

def normalizeRateLimitEventPayload (libs : Libraries) (text : String) : Option String :=
  match libs.fromStr text with
  | some (.object object) =>
    if getStr? (.object object) "type" ≠ some "codex.rate_limits" then none
    else match Fields.get? object "rate_limits" with
      | some (.object rateLimits) =>
        libs.encode (.object (Fields.insert object "rate_limits" (.object
          ((Fields.modify rateLimits "primary" normalizeRateLimitWindowUsedPercent).modify
            "secondary" normalizeRateLimitWindowUsedPercent))))
      | _ => none
  | _ => none

def normalizeWebsocketRateLimitMessage (libs : Libraries) (codexOriginator : Bool) :
    Message → Option Message
  | .text text =>
    if websocketMessageType libs text ≠ some "codex.rate_limits" then some (.text text)
    else if codexOriginator then
      some (.text ((normalizeRateLimitEventPayload libs text).getD text))
    else none
  | message => some message

def rewritePreviousResponseNotFoundPayload (libs : Libraries) (text : String) : Option String :=
  (libs.fromStr text).bind fun json =>
    if getStr? json "type" = some "error" ∧
        (json.getPath? ["error", "code"]).bind Json.asStr? = some "previous_response_not_found" then
      libs.encode (.object [
        ("type", .string "error"),
        ("status", .number (.posInt 400)),
        ("error", .object [
          ("type", .string "invalid_request_error"),
          ("code", .string websocketConnectionLimitReachedCode),
          ("message", .string websocketConnectionLimitReachedMessage)])])
    else none

def rewritePreviousResponseNotFoundMessage (libs : Libraries) : Message → Message
  | .text text => .text ((rewritePreviousResponseNotFoundPayload libs text).getD text)
  | message => message

def websocketWrappedErrorHasCode (libs : Libraries) (message : Message) (expectedCode : String) :
    Bool :=
  match message with
  | .text text => ((libs.fromStr text).bind fun json =>
      (json.getPath? ["error", "code"]).bind Json.asStr?) == some expectedCode
  | _ => false

def shouldPassthroughRetryableWebsocketReset (libs : Libraries)
    (hasPendingUncommittedRequest : Bool) (message : Message) : Bool :=
  hasPendingUncommittedRequest &&
    websocketWrappedErrorHasCode libs message websocketConnectionLimitReachedCode

/-- A message as the loop goes on with it: the rate limits normalized or dropped, the error on
an unknown previous response rewritten. -/
def normalizeUpstreamMessage (libs : Libraries) (codexOriginator : Bool) (message : Message) :
    Option Message :=
  (normalizeWebsocketRateLimitMessage libs codexOriginator message).map
    (rewritePreviousResponseNotFoundMessage libs)

def normalizeResponseCreateMessage (libs : Libraries) (mode : FingerprintMode)
    (codexOriginator : Bool) (snapshot : Option ModelsSnapshot) (installationId : Option String) :
    Message → Message
  | .text text => .text ((normalizeResponseCreatePayload libs mode codexOriginator snapshot
      installationId text).getD text)
  | message => message

@[simp] theorem isPayload_rewritePreviousResponseNotFoundMessage (libs : Libraries)
    (message : Message) :
    (rewritePreviousResponseNotFoundMessage libs message).isPayload = message.isPayload := by
  cases message <;> rfl

/-- A message that commits the request is part of the payload. -/
theorem isPayload_of_commits {libs : Libraries} {message : Message}
    (h : upstreamMessageCommitsRequest libs message = true) : message.isPayload = true := by
  cases message with
  | text => rfl
  | binary => rfl
  | _ => cases h

end Codaze.Websocket
