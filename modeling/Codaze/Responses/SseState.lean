import Codaze.Failover.Request
import Codaze.Responses.Rendering

/-!
# The observer of an event stream

`ResponsesSseState` watches the bytes of an upstream response. Until a line starts like
a field of an event the bytes pass through; from then on they are held back until a
blank line ends an event, which is read and forwarded, rewritten if the client is not
to see it. Every function gives the state it leaves and the chunks it pushes.
-/
namespace Codaze.Responses
open Foundation Accounts

inductive ResponsesTerminalState where
  | completed
  | failed (failure : FailureClass) (retryAfter : Option StdDuration) (details : String)
  deriving DecidableEq, Repr

structure ResponsesSseState where
  buffer : List Byte := []
  lineStart : Bool := true
  sseMode : Bool := false
  lastSequenceNumber : Option ℤ := none
  lastResponseId : Option String := none
  terminalState : Option ResponsesTerminalState := none
  deriving DecidableEq, Repr

/-- `Full`, `Partial` and `None`. -/
inductive SseLineStartMatch where
  | full | incomplete | none
  deriving DecidableEq, Repr

abbrev lineFeed : Byte := 10
abbrev carriageReturn : Byte := 13

def sseLinePrefixes : List (List Byte) :=
  [utf8Bytes "event:", utf8Bytes "data:", utf8Bytes "id:", utf8Bytes "retry:", utf8Bytes ":"]

def classifySseLineStart (bytes : List Byte) : SseLineStartMatch :=
  if sseLinePrefixes.any (·.isPrefixOf bytes) then .full
  else if sseLinePrefixes.any (bytes.isPrefixOf ·) then .incomplete
  else .none

def lineStartAfterBytes (lineStart : Bool) (bytes : List Byte) : Bool :=
  bytes.foldl (fun _ b => b == lineFeed) lineStart

/-- The length of the buffer up to the end of its first event. -/
def findSseEventEnd : List Byte → Option ℕ
  | first :: second :: rest =>
    if first = lineFeed ∧ second = lineFeed then some 2
    else if first = carriageReturn ∧ second = lineFeed ∧
        [carriageReturn, lineFeed].isPrefixOf rest then some 4
    else (findSseEventEnd (second :: rest)).map (· + 1)
  | _ => none

/-- The lines of an event without their line ends. -/
def eventLines (eventBytes : List Byte) : List (List Char) :=
  (splitLines (fromUtf8Lossy eventBytes)).map (·.rdropWhile (· == '\r'))

/-- The values of a field, the blanks in front of them left out. -/
def fieldValues (field : String) (lines : List (List Char)) : List (List Char) :=
  (lines.filterMap (stripPrefix? field.toList)).map trimStartChars

def eventName? (eventBytes : List Byte) : Option String :=
  ((fieldValues "event:" (eventLines eventBytes)).getLast?).map String.ofList

/-- The data of an event, its lines joined. -/
def eventPayload? (eventBytes : List Byte) : Option String :=
  let dataLines := fieldValues "data:" (eventLines eventBytes)
  if dataLines = [] then none else some (String.ofList (['\n'].intercalate dataLines))

/-- The state a function leaves and the chunks it pushed. -/
abbrev Emitted := ResponsesSseState × List (List Byte)

namespace ResponsesTerminalState

def ofClassified (classified : ClassifiedEventFailure) : ResponsesTerminalState :=
  .failed classified.failure classified.retryAfter classified.details

/-- `terminal_action`. -/
def action : ResponsesTerminalState → Failover.AccountSettlement
  | .completed => .success
  | .failed failure retryAfter details => .failure failure retryAfter details

end ResponsesTerminalState

/-- The terminal state an event leads to, and whether the client is to see another event
in its place. -/
def Libraries.terminalOfEvent (libs : Libraries) (now : Time) (kind : String) (json : Json) :
    Option (ResponsesTerminalState × Bool) :=
  let ofFailure (classified : ClassifiedEventFailure) :=
    (ResponsesTerminalState.ofClassified classified,
      isGatewayUnavailableStatusFailure classified.status classified.failure)
  if kind = "response.completed" then some (.completed, false)
  else if kind = "response.failed" then
    some <| ofFailure <|
      libs.classifyResponseFailedEvent now ((json.getPath? ["response", "error"]).getD .null)
  else if kind = "error" then some (ofFailure (libs.classifyOpenaiErrorEvent now json))
  else if kind = "response.incomplete" then
    let reason := (json.getPath? ["response", "incomplete_details", "reason"]).bind Json.asStr?
    some (.failed .requestRejected none
      ("Incomplete response returned, reason: " ++ reason.getD "unknown"), false)
  else none

/-- `gateway_unavailable_payload_to_json`. -/
def gatewayUnavailableObject : Json :=
  .object [("code", .string gatewayUnavailableCode),
    ("message", .string gatewayUnavailableMessage)]

namespace ResponsesSseState

def hasTerminalEvent (state : ResponsesSseState) : Bool := state.terminalState.isSome

def terminalAction (state : ResponsesSseState) : Option Failover.AccountSettlement :=
  state.terminalState.map ResponsesTerminalState.action

/-- What an event says about the position in the stream. -/
def checkpoint (state : ResponsesSseState) (json : Json) : ResponsesSseState :=
  { state with
    lastSequenceNumber := (getI64? json "sequence_number").or state.lastSequenceNumber
    lastResponseId :=
      ((json.getPath? ["response", "id"]).bind Json.asStr?).or state.lastResponseId }

section

variable (libs : Libraries) (now : Time) (shape : ResponseShape)

def rewriteGatewayUnavailableEvent (state : ResponsesSseState) (kind : String) (json : Json) :
    List Byte :=
  let sequenceNumber := (getI64? json "sequence_number").getD
    (saturatingSucc (state.lastSequenceNumber.getD (-1)))
  match shape with
  | .codex =>
    if kind = "response.failed" then
      let rewritten := json.replacePath ["response", "error"] gatewayUnavailableObject
      sseEventBytes kind ((libs.encode rewritten).getD "\x7b\"type\":\"error\"\x7d")
    else
      (libs.renderSyntheticResponseFailedEventWithMetadata now state.lastResponseId sequenceNumber
        gatewayUnavailablePayload).getD
        (sseEventBytes "response.failed" "\x7b\"type\":\"response.failed\"\x7d")
  | .openAi =>
    (libs.renderOpenaiStreamErrorEventWithSequence sequenceNumber
      gatewayUnavailablePayload).getD (sseEventBytes "error" "\x7b\"type\":\"error\"\x7d")

def consumeEvent (state : ResponsesSseState) (eventBytes : List Byte) :
    ResponsesSseState × List Byte :=
  match (eventPayload? eventBytes).bind libs.fromStr with
  | none => (state, eventBytes)
  | some json =>
    let state := state.checkpoint json
    let kind := ((eventName? eventBytes).or (getStr? json "type")).getD ""
    match libs.terminalOfEvent now kind json with
    | none => (state, eventBytes)
    | some (terminal, replaced) =>
      ({ state with terminalState := some terminal },
        if replaced then state.rewriteGatewayUnavailableEvent libs now shape kind json
        else eventBytes)

/-- The loop of `consume_buffered_events`; every round takes bytes from the buffer. -/
def consumeEventsFrom : ℕ → ResponsesSseState → Emitted
  | 0, state => (state, [])
  | rounds + 1, state =>
    match findSseEventEnd state.buffer with
    | none => (state, [])
    | some eventEnd =>
      let (consumed, chunk) := consumeEvent libs now shape
        { state with buffer := state.buffer.drop eventEnd } (state.buffer.take eventEnd)
      if consumed.hasTerminalEvent then ({ consumed with buffer := [] }, [chunk])
      else
        let (left, chunks) := consumeEventsFrom rounds consumed
        (left, chunk :: chunks)

def consumeBufferedEvents (state : ResponsesSseState) : Emitted :=
  consumeEventsFrom libs now shape state.buffer.length state

/-- Bytes in SSE mode. -/
def bufferEvents (state : ResponsesSseState) (bytes : List Byte) : Emitted :=
  consumeBufferedEvents libs now shape { state with buffer := state.buffer ++ bytes }

/-- What passes before a line that starts like a field, how that line starts, and the bytes
from there on. -/
def scanPassthrough (lineStart : Bool) : List Byte → List Byte × SseLineStartMatch × List Byte
  | [] => ([], .none, [])
  | b :: bytes =>
    match if lineStart then classifySseLineStart (b :: bytes) else .none with
    | .none =>
      let (passed, found, rest) := scanPassthrough (b == lineFeed) bytes
      (b :: passed, found, rest)
    | found => ([], found, b :: bytes)

/-- Bytes outside SSE mode with nothing held back. -/
def passThrough (state : ResponsesSseState) (bytes : List Byte) : Emitted :=
  let (passed, found, rest) := scanPassthrough state.lineStart bytes
  let state := { state with lineStart := lineStartAfterBytes state.lineStart passed }
  let chunks := if passed = [] then [] else [passed]
  match found with
  | .full =>
    let (left, events) := bufferEvents libs now shape { state with sseMode := true } rest
    (left, chunks ++ events)
  | .incomplete => ({ state with buffer := state.buffer ++ rest }, chunks)
  | .none => (state, chunks)

/-- The bytes that decide about a line start that was held back; the last component is
what is left of them. -/
def resolvePendingLineStart (state : ResponsesSseState) :
    List Byte → ResponsesSseState × List (List Byte) × List Byte
  | [] => (state, [], [])
  | b :: bytes =>
    let pending := state.buffer ++ [b]
    match classifySseLineStart pending with
    | .full => ({ state with buffer := pending, sseMode := true }, [], bytes)
    | .incomplete => resolvePendingLineStart { state with buffer := pending } bytes
    | .none => ({ state with
        buffer := [], lineStart := lineStartAfterBytes state.lineStart pending },
        [pending], bytes)

def observeBytes (state : ResponsesSseState) (bytes : List Byte) : Emitted :=
  if state.hasTerminalEvent then (state, [])
  else
    let (state, resolved, bytes) :=
      if state.sseMode = false ∧ state.buffer ≠ [] then state.resolvePendingLineStart bytes
      else (state, [], bytes)
    let (left, chunks) :=
      if state.sseMode then bufferEvents libs now shape state bytes
      else passThrough libs now shape state bytes
    (left, resolved ++ chunks)

/-- An event the stream ends in, if its last line is complete. -/
def observeEof (state : ResponsesSseState) : Emitted :=
  if state.hasTerminalEvent ∨ state.sseMode = false ∨ state.buffer.getLast? ≠ some lineFeed then
    (state, [])
  else
    let (left, chunk) := consumeEvent libs now shape { state with buffer := [] } state.buffer
    (left, [chunk])

/-- What is held back outside SSE mode is passed on at the end, a partial field is not. -/
def takeTerminalPassthroughBytes (state : ResponsesSseState) :
    ResponsesSseState × Option (List Byte) :=
  if state.buffer = [] then (state, none)
  else if state.sseMode ∨ classifySseLineStart state.buffer = .incomplete then
    ({ state with buffer := [] }, none)
  else ({ state with buffer := [] }, some state.buffer)

def syntheticErrorEventWithPayload (state : ResponsesSseState)
    (payload : SyntheticResponseFailedPayload) : Option (List Byte) :=
  match shape with
  | .codex => libs.renderSyntheticResponseFailedEvent now state.lastResponseId
      state.lastSequenceNumber payload
  | .openAi => libs.renderOpenaiStreamErrorEvent state.lastSequenceNumber payload

def syntheticTransportErrorEvent (state : ResponsesSseState) (error : TransportError)
    (failure : FailureClass) : Option (List Byte) :=
  let payload := match error with
    | .http .. =>
      if downstreamFailureKind failure = .gatewayUnavailable then gatewayUnavailablePayload
      else libs.syntheticResponseFailedPayloadFromTransport now error
    | _ => libs.syntheticResponseFailedPayloadFromTransport now error
  state.syntheticErrorEventWithPayload libs now shape payload

end

end ResponsesSseState

end Codaze.Responses
