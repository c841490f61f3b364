import Codaze.Responses.Chunking

/-!
# The managed response stream

`ManagedResponseStream` hands the bytes of an upstream response on and settles the
account behind it. The inner stream is the list of what its polls will give. The stream
keeps two records that are not in the source: the settlements it has issued, and what
its polls and its drop have seen, in order.
-/
namespace Codaze.Responses
open Foundation Accounts

/-- What a poll of the inner stream gives. -/
inductive InnerPoll where
  | pending
  | chunk (bytes : List Byte)
  | error (error : TransportError)
  | finished

/-- What `poll_next` gives. -/
inductive Polled where
  | pending
  | item (bytes : List Byte)
  | failed (message : String)
  | finished

/-- The bytes a poll gives. -/
def Polled.bytes : Polled → List Byte
  | item bytes => bytes
  | _ => []

/-- What a poll or the drop sees, with the reading of the clock. -/
inductive Sighting where
  | chunk (now : Time) (bytes : List Byte)
  | error (now : Time) (error : TransportError)
  | finished (now : Time)
  | shutdown
  | dropped

structure ManagedResponseStream where
  inner : List InnerPoll
  settled : Bool := false
  responseShape : ResponseShape
  sseState : ResponsesSseState := {}
  pendingOutput : List (List Byte) := []
  closeAfterPendingOutput : Bool := false
  settlements : List Failover.AccountSettlement := []
  seen : List Sighting := []

/-- The `Debug` of a class. -/
def failureClassName : FailureClass → String
  | .accessTokenRejected => "AccessTokenRejected"
  | .authInvalid => "AuthInvalid"
  | .rateLimited => "RateLimited"
  | .quotaExhausted => "QuotaExhausted"
  | .riskControlled => "RiskControlled"
  | .temporaryFailure => "TemporaryFailure"
  | .requestRejected => "RequestRejected"
  | .internalFailure => "InternalFailure"

/-- `extract_failure_reason`. -/
def Libraries.extractFailureReason (libs : Libraries) (error : TransportError)
    (failure : FailureClass) : String :=
  match error with
  | .http status _ body => failureClassName failure ++ ": status=" ++ toString status.code ++ " " ++
      (libs.canonicalReason status).getD "<unknown status code>" ++ " body=" ++ body.getD ""
  | _ => failureClassName failure ++ ": " ++ libs.displayError error

def closedBeforeCompleted : String := "stream closed before response.completed"

namespace ManagedResponseStream

def start (shape : ResponseShape) (inner : List InnerPoll) : ManagedResponseStream where
  inner := inner
  responseShape := shape

def see (stream : ManagedResponseStream) (sighting : Sighting) : ManagedResponseStream :=
  { stream with seen := stream.seen ++ [sighting] }

def settle (stream : ManagedResponseStream) (settlement : Failover.AccountSettlement) :
    ManagedResponseStream :=
  if stream.settled then stream
  else { stream with settled := true, settlements := stream.settlements ++ [settlement] }

/-- What `observe_bytes` or `observe_eof` did, and the settlement of a terminal event. -/
def observe (stream : ManagedResponseStream) (emitted : Emitted) : ManagedResponseStream :=
  let stream := { stream with
    sseState := emitted.1, pendingOutput := stream.pendingOutput ++ emitted.2 }
  match emitted.1.terminalAction with
  | some action => { stream.settle action with closeAfterPendingOutput := true }
  | none => stream

/-- Returns the first chunk of the queue, and goes on if there is none. -/
def popOr (stream : ManagedResponseStream) (rest : ManagedResponseStream × Polled) :
    ManagedResponseStream × Polled :=
  match stream.pendingOutput with
  | [] => rest
  | chunk :: chunks => ({ stream with pendingOutput := chunks }, .item chunk)

/-- `take_terminal_passthrough_bytes`, pushed to the output. -/
def flushPassthrough (stream : ManagedResponseStream) : ManagedResponseStream :=
  let (sseState, buffered) := stream.sseState.takeTerminalPassthroughBytes
  { stream with sseState, pendingOutput := stream.pendingOutput ++ buffered.toList }

section

variable (libs : Libraries) (now : Time)

def observeChunk (stream : ManagedResponseStream) (bytes : List Byte) : ManagedResponseStream :=
  (stream.observe (stream.sseState.observeBytes libs now stream.responseShape bytes)).see
    (.chunk now bytes)

/-- A transport error, and whether a terminal chunk was pushed for it. -/
def observeError (stream : ManagedResponseStream) (error : TransportError) :
    ManagedResponseStream × Bool :=
  let stream := stream.flushPassthrough
  let failure := libs.classifyRequestError now error
  let terminalChunk := stream.sseState.syntheticTransportErrorEvent libs now
    stream.responseShape error failure
  let settled := (stream.settle (.failure failure (libs.extractRetryAfter now error)
    (libs.extractFailureReason error failure))).see (.error now error)
  match terminalChunk with
  | some chunk => ({ settled with
      pendingOutput := settled.pendingOutput ++ [chunk], closeAfterPendingOutput := true }, true)
  | none => (settled, false)

/-- The end of the inner stream. -/
def observeEnd (stream : ManagedResponseStream) : ManagedResponseStream :=
  let stream := (stream.observe (stream.sseState.observeEof libs now stream.responseShape)).see
    (.finished now)
  if stream.sseState.hasTerminalEvent then stream
  else
    let stream :=
      (stream.settle (.failure .temporaryFailure none closedBeforeCompleted)).flushPassthrough
    let chunk := stream.sseState.syntheticErrorEventWithPayload libs now stream.responseShape
      { code := some "internal_server_error", message := some closedBeforeCompleted }
    { stream with
      pendingOutput := stream.pendingOutput ++ chunk.toList, closeAfterPendingOutput := true }

/-- The loop of `poll_next`. -/
def pollInner (stream : ManagedResponseStream) : List InnerPoll → ManagedResponseStream × Polled
  | [] => ({ stream with inner := [] }, .pending)
  | .pending :: inner => ({ stream with inner }, .pending)
  | .chunk bytes :: inner =>
    let stream := observeChunk libs now { stream with inner } bytes
    stream.popOr <|
      if stream.sseState.hasTerminalEvent then (stream, .finished) else pollInner stream inner
  | .error error :: inner =>
    if stream.sseState.hasTerminalEvent then
      ({ stream with inner }.see (.error now error), .finished)
    else
      let (stream, rendered) := observeError libs now { stream with inner } error
      if rendered then stream.popOr (pollInner stream inner)
      else (stream, .failed (libs.displayError error))
  | .finished :: inner =>
    let stream := observeEnd libs now { stream with inner }
    stream.popOr (stream, .finished)

/-- `poll_next`; `cancelled` says whether the shutdown token is cancelled. -/
def pollNext (cancelled : Bool) (stream : ManagedResponseStream) :
    ManagedResponseStream × Polled :=
  stream.popOr <|
    if stream.closeAfterPendingOutput then (stream, .finished)
    else if cancelled then ((stream.settle .release).see .shutdown, .finished)
    else pollInner libs now stream stream.inner

end

/-- `Drop`. -/
def drop (stream : ManagedResponseStream) : ManagedResponseStream :=
  (if stream.settled then stream
   else stream.settle (stream.sseState.terminalAction.getD .release)).see .dropped

end ManagedResponseStream

/-- What happens to a stream before it is dropped. -/
inductive StreamEvent where
  /-- The shutdown token is cancelled. -/
  | cancel
  | poll (now : Time)

/-- A stream with the state of the shutdown token and the bytes its polls have given. -/
structure StreamLife where
  stream : ManagedResponseStream
  cancelled : Bool := false
  delivered : List Byte := []

namespace StreamLife

def start (shape : ResponseShape) (inner : List InnerPoll) : StreamLife where
  stream := .start shape inner

def step (libs : Libraries) (life : StreamLife) : StreamEvent → StreamLife
  | .cancel => { life with cancelled := true }
  | .poll now =>
    let (stream, polled) := life.stream.pollNext libs now life.cancelled
    { life with stream, delivered := life.delivered ++ polled.bytes }

def run (libs : Libraries) (life : StreamLife) (events : List StreamEvent) : StreamLife :=
  events.foldl (step libs) life

/-- The drop ends the life of the stream. -/
def drop (life : StreamLife) : StreamLife := { life with stream := life.stream.drop }

end StreamLife

end Codaze.Responses
