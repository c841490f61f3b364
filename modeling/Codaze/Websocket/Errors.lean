import Codaze.Responses.GatewayErrors
import Codaze.Responses.SseState
import Codaze.Websocket.Message

/-!
# Terminal messages of an upstream websocket

What a Text or Close message says about the end of a response, and of the connection, and
the message that tells a client that no account is left.
-/
namespace Codaze.Websocket
open Foundation Accounts Responses

inductive WebsocketProxyOutcome where
  | success
  | released
  | failed (failure : FailureClass) (retryAfter : Option StdDuration) (details : String)
  deriving DecidableEq, Repr

/-- The settlement `get_responses_websocket` makes of an outcome. -/
def WebsocketProxyOutcome.settlement : WebsocketProxyOutcome → Failover.AccountSettlement
  | success => .success
  | released => .release
  | failed failure retryAfter details => .failure failure retryAfter details

inductive WebsocketTerminal where
  | success
  | failed (classified : ClassifiedEventFailure)
  deriving DecidableEq, Repr

def WebsocketTerminal.outcome : WebsocketTerminal → WebsocketProxyOutcome
  | success => .success
  | failed classified => .failed classified.failure classified.retryAfter classified.details

/-- `analyze_websocket_terminal_text` on a text that is JSON. -/
def analyzeWebsocketTerminal (libs : Libraries) (now : Time) (json : Json) :
    Option WebsocketTerminal :=
  let eventType := getStr? json "type"
  if eventType = some "error" then
    some (.failed (libs.classifyWrappedWebsocketErrorEvent now json))
  else if eventType = some "response.completed" then some .success
  else if eventType = some "response.failed" then
    (json.get? "response").map fun response =>
      let classified := libs.classifyResponseFailedEvent now ((response.get? "error").getD .null)
      .failed { classified with details :=
        "responses websocket upstream returned response.failed: " ++ classified.details }
  else if eventType = some "response.incomplete" then
    (json.get? "response").map fun response =>
      let reason := (response.getPath? ["incomplete_details", "reason"]).bind Json.asStr?
      .failed {
        status := .badRequest
        failure := .requestRejected
        retryAfter := none
        details := "responses websocket upstream returned response.incomplete: reason=" ++
          reason.getD "unknown" }
  else none

def analyzeWebsocketTerminalText (libs : Libraries) (now : Time) (text : String) :
    Option WebsocketTerminal :=
  (libs.fromStr text).bind (analyzeWebsocketTerminal libs now)

/-- `classify_websocket_control_text`. -/
def classifyWebsocketControlText (libs : Libraries) (now : Time) (text : String) :
    Option WebsocketProxyOutcome :=
  (analyzeWebsocketTerminalText libs now text).map WebsocketTerminal.outcome

def classifyWebsocketCloseReason (reason : String) : Option WebsocketProxyOutcome :=
  let lowered := toAsciiLowercase reason
  let failure : Option FailureClass :=
    if namesChallenge lowered then some .riskControlled
    else if contains lowered "rate limit" then some .rateLimited
    else if contains lowered "quota" || contains lowered "usage cap" then some .quotaExhausted
    else none
  failure.map fun failure =>
    .failed failure none ("responses websocket upstream closed with error: reason=" ++ reason)

def classifyWebsocketCloseFrame (frame : CloseFrame) : WebsocketProxyOutcome :=
  match classifyWebsocketCloseReason frame.reason with
  | some outcome => outcome
  | none =>
    if isNormalWebsocketCloseCode frame.code then .released
    else .failed .temporaryFailure none
      ("responses websocket upstream closed with error: code=" ++ toString frame.code ++
        " reason=" ++ frame.reason)

/-- `classify_websocket_upstream_control_message`. -/
def classifyWebsocketUpstreamControlMessage (libs : Libraries) (now : Time) :
    Message → Option WebsocketProxyOutcome
  | .text text => classifyWebsocketControlText libs now text
  | .close (some frame) => some (classifyWebsocketCloseFrame frame)
  | .close none => some .released
  | _ => none

def classifyWebsocketUpstreamTerminalFailure (libs : Libraries) (now : Time) :
    Message → Option ClassifiedEventFailure
  | .text text =>
    match analyzeWebsocketTerminalText libs now text with
    | some (.failed classified) => some classified
    | _ => none
  | _ => none

/-- `websocket_error_message_from_payload`. -/
def websocketErrorMessageFromPayload (libs : Libraries) (now : Time) (status : StatusCode)
    (payload : SyntheticResponseFailedPayload) : Option Message :=
  let code := payload.code.getD (libs.fallbackErrorCodeForHttp now status none)
  let message := payload.message.getD
    ("Upstream request failed with status " ++ toString status.code ++ " " ++
      (libs.canonicalReason status).getD "<unknown status code>" ++ ".")
  (libs.encode (.object [
    ("type", .string "error"),
    ("status", .number (.posInt status.code)),
    ("error", errorObject payload code message)])).map .text

/-- The status a transport error is reported with. -/
def transportErrorStatus : TransportError → StatusCode
  | .http status _ _ => status
  | .timeout => .requestTimeout
  | .network _ | .build _ | .retryLimit => .badGateway

/-- The status a failover error is reported with. -/
def failoverFailureStatus : FailoverFailure → StatusCode
  | .refresh error => error.status
  | .transport error => transportErrorStatus error
  | .poolBlocked _ => .serviceUnavailable
  | .callerJson status _ | .internal status _ => status

def websocketErrorMessageForFailoverFailure (libs : Libraries) (now : Time)
    (failure : FailoverFailure) : Option Message :=
  if libs.failoverFailureKind now failure = .gatewayUnavailable then
    websocketErrorMessageFromPayload libs now .serviceUnavailable gatewayUnavailablePayload
  else websocketErrorMessageFromPayload libs now (failoverFailureStatus failure)
    (libs.failoverFailurePayload now failure)

end Codaze.Websocket
