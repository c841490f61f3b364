import Codaze.Failover.Connect
import Codaze.Websocket.Protocol

/-!
# The websocket proxy

`get_responses_websocket` and the select loop of `proxy_websocket`, one round of the loop a
step. A socket is what it still takes: so many messages, and then every send fails. A step
leaves a trace of the accounts it was handed and settled and of the messages it passed on;
the connections of a session are numbered, and an upstream message carries the number of
the one it came in on.
-/
namespace Codaze.Websocket
open Foundation Accounts Responses Upstream

structure UpstreamWebsocketConnection where
  installationId : Option String
  turnState : Option String
  /-- The messages its stream still takes. -/
  takes : ℕ
  /-- The error of the first send behind them. -/
  sendError : String

structure UpstreamMessage where
  connection : ℕ
  message : Message

structure PendingWebsocketRequest where
  requestMessages : List Message := []
  bufferedUpstreamMessages : List UpstreamMessage := []
  triedAccounts : Finset String := ∅
  committed : Bool := false

/-- A request with nothing buffered for it. -/
def PendingWebsocketRequest.flushed (pending : PendingWebsocketRequest) :
    PendingWebsocketRequest := { pending with bufferedUpstreamMessages := [] }

/-- The fields of `WebsocketProxyOutcome::Failed`. -/
structure UpstreamFailure where
  failure : FailureClass
  retryAfter : Option StdDuration
  details : String
  deriving DecidableEq, Repr

def UpstreamFailure.outcome (failure : UpstreamFailure) : WebsocketProxyOutcome :=
  .failed failure.failure failure.retryAfter failure.details

/-- `responses websocket upstream stream failed: {error}`. -/
def streamFailure (error : String) : UpstreamFailure where
  failure := .temporaryFailure
  retryAfter := none
  details := "responses websocket upstream stream failed: " ++ error

/-- Why a session came to its end. -/
inductive Ending where
  | upgradeFailed
  | shutdown
  | clientClosed
  | clientSendFailed (known : Option WebsocketProxyOutcome)
  /-- A retryable reset was passed on to the client. -/
  | reset
  /-- The connection failed and was not replaced. -/
  | upstreamFailed (failure : UpstreamFailure)
  /-- A message that ends the session was delivered. -/
  | terminal (outcome : WebsocketProxyOutcome)
  deriving DecidableEq, Repr

def Ending.outcome : Ending → WebsocketProxyOutcome
  | upgradeFailed | shutdown | clientClosed | reset => .released
  | clientSendFailed known => known.getD .released
  | upstreamFailed failure => failure.outcome
  | terminal outcome => outcome

inductive Phase where
  | upgrading
  | proxying
  /-- The outcome is on its way to the account. -/
  | returned (accountId : String) (ending : Ending)
  | finished
  /-- The task of the session panicked. -/
  | panicked
  deriving DecidableEq, Repr

inductive Source where
  | upstream (connection : ℕ)
  | gateway
  deriving DecidableEq, Repr

inductive Action where
  /-- The connect helper handed over an account with a connection to it. -/
  | selected (accountId : String)
  | settled (accountId : String) (settlement : Failover.AccountSettlement)
  /-- The connection of an account failed. -/
  | failed (accountId : String) (outcome : WebsocketProxyOutcome)
  /-- A client message, as `map_client_message_to_upstream` maps it. -/
  | accepted (message : Message)
  /-- A connection's stream took a message. -/
  | sent (connection : ℕ) (message : Message)
  | received (message : UpstreamMessage)
  /-- The client's socket took a message. -/
  | delivered (source : Source) (message : Message)
  | switched (connection : ℕ) (installationId : Option String) (snapshot : Option ModelsSnapshot)

structure Session where
  phase : Phase
  requestHeaders : HeaderMap
  allowUpstreamTurnState : Bool
  currentAccountId : String
  upstreamConnection : UpstreamWebsocketConnection
  /-- The number of the current connection. -/
  connectionNumber : ℕ
  /-- How many connections the session was handed. -/
  connections : ℕ
  pendingRequest : Option PendingWebsocketRequest
  /-- The messages the client's socket still takes. -/
  clientTakes : ℕ
  trace : List Action

structure ProxyConfig where
  libs : Libraries
  failover : Failover.Config
  mode : FingerprintMode

/-- The store and the clock at a settlement. -/
structure Moment where
  store : AccountStore
  now : Time

/-- One round of the retry loop: what the connect helper met, the connection or the failure it
returned, and the moment at which a failed replay is settled. -/
structure Attempt where
  script : List (Failover.View × Failover.Input)
  connection : UpstreamWebsocketConnection
  failure : FailoverFailure
  snapshot : Option ModelsSnapshot
  settling : Moment

/-- What one round of the select loop meets. -/
structure Surroundings where
  now : Time
  snapshot : Option ModelsSnapshot
  attempts : List Attempt
  /-- The moment at which the replaced account is settled. -/
  settling : Moment

inductive Event where
  | upgradeFailed
  | upgraded
  | shutdown
  /-- `client_socket.next()`. -/
  | client (message : Option (Except String Message)) (surroundings : Surroundings)
  /-- `upstream_connection.stream.next()`. -/
  | upstream (message : Option (Except String Message)) (surroundings : Surroundings)
  /-- The task of `spawn_account_settlement`, or of the failed upgrade. -/
  | settle

def applyTurnStateToRequestHeaders (headers : HeaderMap) (turnState : Option String)
    (allowUpstreamTurnState : Bool) : HeaderMap :=
  match turnState with
  | some turnState =>
    if allowUpstreamTurnState then insertHeader headers "x-codex-turn-state" turnState else headers
  | none => headers

/-- A client message as it is sent on a connection. -/
def upstreamForm (config : ProxyConfig) (codexOriginator : Bool) (snapshot : Option ModelsSnapshot)
    (installationId : Option String) (message : Message) : Message :=
  if isResponsesWebsocketRequestStart config.libs message then
    normalizeResponseCreateMessage config.libs config.mode codexOriginator snapshot installationId
      message
  else message

/-- `replay_buffered_request_messages`: the error, what is left of the connection, and what it
took. -/
def replayBufferedRequestMessages (form : Message → Message) :
    UpstreamWebsocketConnection → List Message →
      Option String × UpstreamWebsocketConnection × List Message
  | connection, [] => (none, connection, [])
  | connection, message :: messages =>
    match connection.takes with
    | 0 => (some connection.sendError, connection, [])
    | takes + 1 =>
      let (error, connection, taken) :=
        replayBufferedRequestMessages form { connection with takes } messages
      (error, connection, form message :: taken)

def activeRequestCloseFailure (pending : Bool) (message : Message)
    (knownSettlement : Option WebsocketProxyOutcome) : Option WebsocketProxyOutcome :=
  if pending then
    match message, knownSettlement with
    | .close none, some .released | .close none, none => some (streamFailure "closed").outcome
    | .close (some frame), some .released =>
      some (.failed .temporaryFailure none
        ("responses websocket upstream closed before terminal response: code=" ++
          toString frame.code ++ " reason=" ++ frame.reason))
    | _, outcome => outcome
  else knownSettlement

def shouldFailoverPrecommitFailure (failure : UpstreamFailure)
    (classifiedFailure : Option ClassifiedEventFailure) : Bool :=
  match classifiedFailure with
  | some classified => isGatewayUnavailableStatusFailure classified.status classified.failure
  | none => Failover.shouldFailoverFailureClass failure.failure

namespace Session

/-- `codex_originator`; a turn state does not change it. -/
def codexOriginator (s : Session) : Bool := responseShapeForHeaders s.requestHeaders == .codex

def record (s : Session) (action : Action) : Session := { s with trace := s.trace ++ [action] }

/-- `pending_request.is_some_and(|pending| !pending.committed)`. -/
def hasPendingUncommitted (s : Session) : Bool := s.pendingRequest.any fun pending =>
  !pending.committed

/-- What is buffered for the pending request. -/
def bufferedUpstreamMessages (s : Session) : List UpstreamMessage :=
  s.pendingRequest.elim [] (·.bufferedUpstreamMessages)

def modifyPending (s : Session) (f : PendingWebsocketRequest → PendingWebsocketRequest) :
    Session := { s with pendingRequest := s.pendingRequest.map f }

def returns (s : Session) (ending : Ending) : Session :=
  { s with phase := .returned s.currentAccountId ending }

/-- `upstream_connection.stream.send`, with its error. -/
def sendUpstream (s : Session) (message : Message) : Option String × Session :=
  match s.upstreamConnection.takes with
  | 0 => (some s.upstreamConnection.sendError, s)
  | takes + 1 =>
    (none, { s with upstreamConnection := { s.upstreamConnection with takes } }.record
      (.sent s.connectionNumber message))

/-- `forward_upstream_message`. -/
def forwardUpstreamMessage (s : Session) (source : Source) (message : Message) : Bool × Session :=
  match mapUpstreamMessageToClient message with
  | none => (true, s)
  | some mapped =>
    match s.clientTakes with
    | 0 => (false, s)
    | clientTakes + 1 => (true, { s with clientTakes }.record (.delivered source mapped))

def flushBufferedUpstreamMessages (s : Session) : List UpstreamMessage → Bool × Session
  | [] => (true, s)
  | buffered :: messages =>
    match s.forwardUpstreamMessage (.upstream buffered.connection) buffered.message with
    | (true, s) => s.flushBufferedUpstreamMessages messages
    | (false, s) => (false, s)

/-- The session goes on in `ok` and has returned in `error`. -/
def flushBufferedOrSettle (s : Session) (known : Option WebsocketProxyOutcome) :
    Except Session Session :=
  let buffered := s.bufferedUpstreamMessages
  let s := s.modifyPending PendingWebsocketRequest.flushed
  match s.flushBufferedUpstreamMessages buffered with
  | (true, s) => .ok s
  | (false, s) => .error (s.returns (.clientSendFailed known))

def forwardMessageOrSettle (s : Session) (source : Source) (message : Message)
    (known : Option WebsocketProxyOutcome) : Except Session Session :=
  match s.forwardUpstreamMessage source message with
  | (true, s) => .ok s
  | (false, s) => .error (s.returns (.clientSendFailed known))

def deliverPendingRetryFailureOrSettle (s : Session) (clientMessage : Option Message)
    (known : Option WebsocketProxyOutcome) : Except Session Session :=
  (s.flushBufferedOrSettle known).bind fun s =>
    match clientMessage with
    | some message => s.forwardMessageOrSettle .gateway message known
    | none => .ok s

/-- Delivers what is buffered and then the message, and returns. -/
def deliverAndReturn (s : Session) (message : Message) (known : Option WebsocketProxyOutcome)
    (ending : Ending) : Session :=
  match (s.flushBufferedOrSettle known).bind fun s =>
      s.forwardMessageOrSettle (.upstream s.connectionNumber) message known with
  | .ok s => s.returns ending
  | .error s => s

/-- `apply_websocket_account_failure`; the selection is settled before the panic. -/
def applyWebsocketAccountFailure (s : Session) (moment : Moment) (accountId : String)
    (failure : UpstreamFailure) : Outcome Session :=
  let s := s.record (.settled accountId
    (.failure failure.failure failure.retryAfter failure.details))
  match moment.store.markRequestFailure moment.now accountId failure.failure failure.retryAfter
      failure.details with
  | .returned _ => .returned s
  | .panicked _ => .panicked s

inductive RetryResult where
  | switched (s : Session) (accountId : String) (number : ℕ)
      (connection : UpstreamWebsocketConnection) (snapshot : Option ModelsSnapshot)
  | noReplacement (s : Session) (clientMessage : Option Message)
  | panicked (s : Session)

/-- A new connection to an account has taken these messages. -/
def replays (s : Session) (accountId : String) (taken : List Message) : Session :=
  { s with
    connections := s.connections + 1
    trace := s.trace ++ Action.selected accountId :: taken.map (Action.sent s.connections) }

def withTried (s : Session) (tried : Finset String) : Session :=
  s.modifyPending fun pending => { pending with triedAccounts := tried }

/-- The loop of `retry_pending_websocket_request`; `none` where it still waits. -/
def retryLoop (config : ProxyConfig) (now : Time) (requestMessages : List Message) (s : Session)
    (tried : Finset String) : List Attempt → Option RetryResult
  | [] => none
  | attempt :: attempts =>
    match Failover.connectWithFailover config.failover tried attempt.script with
    | none => none
    | some (.panicked, tried) => some (.panicked (s.withTried tried))
    | some (.refused, tried) => some (.noReplacement (s.withTried tried)
        (websocketErrorMessageForFailoverFailure config.libs now attempt.failure))
    | some (.connected accountId, tried) =>
      let (error, connection, taken) := replayBufferedRequestMessages
        (upstreamForm config s.codexOriginator attempt.snapshot attempt.connection.installationId)
        attempt.connection requestMessages
      let number := s.connections
      let s := s.replays accountId taken
      match error with
      | none => some (.switched (s.withTried tried) accountId number connection attempt.snapshot)
      | some error =>
        let failure := streamFailure error
        match (s.record (.failed accountId failure.outcome)).applyWebsocketAccountFailure
            attempt.settling accountId failure with
        | .returned s => s.retryLoop config now requestMessages (insert accountId tried) attempts
        | .panicked s => some (.panicked s)

def retryPendingWebsocketRequest (config : ProxyConfig) (now : Time) (s : Session)
    (attempts : List Attempt) : Option RetryResult :=
  match s.pendingRequest with
  | none => some (.noReplacement s none)
  | some pending => s.retryLoop config now pending.requestMessages
      (insert s.currentAccountId pending.triedAccounts) attempts

def applyWebsocketRetrySwitch (s : Session) (moment : Moment) (failure : UpstreamFailure)
    (accountId : String) (number : ℕ) (connection : UpstreamWebsocketConnection)
    (snapshot : Option ModelsSnapshot) : Session :=
  match s.applyWebsocketAccountFailure moment s.currentAccountId failure with
  | .panicked s => { s with phase := .panicked }
  | .returned s =>
    let s := s.modifyPending PendingWebsocketRequest.flushed
    { s with
      currentAccountId := accountId
      requestHeaders := applyTurnStateToRequestHeaders s.requestHeaders connection.turnState
        s.allowUpstreamTurnState
      upstreamConnection := connection
      connectionNumber := number }.record (.switched number connection.installationId snapshot)

/-- The code that stands at all four places where a connection has failed: an uncommitted
request is moved to another account, any other failure ends the session. -/
def retryOrReturn (config : ProxyConfig) (s : Session) (surroundings : Surroundings)
    (failure : UpstreamFailure) : Option Session :=
  let s := s.record (.failed s.currentAccountId failure.outcome)
  if s.hasPendingUncommitted then
    (s.retryPendingWebsocketRequest config surroundings.now surroundings.attempts).map fun
      | .switched s accountId number connection snapshot =>
        s.applyWebsocketRetrySwitch surroundings.settling failure accountId number connection
          snapshot
      | .noReplacement s clientMessage =>
        match s.deliverPendingRetryFailureOrSettle clientMessage (some failure.outcome) with
        | .ok s => s.returns (.upstreamFailed failure)
        | .error s => s
      | .panicked s => { s with phase := .panicked }
  else some (s.returns (.upstreamFailed failure))

/-- A client message that `map_client_message_to_upstream` maps; a request that is not
committed keeps it for a replay. -/
def acceptClientMessage (config : ProxyConfig) (s : Session) (mapped : Message) : Session :=
  let s := s.record (.accepted mapped)
  let s := if isResponsesWebsocketRequestStart config.libs mapped then
      { s with pendingRequest := some {} }
    else s
  s.modifyPending fun pending =>
    if !pending.committed && shouldReplayClientMessage mapped then
      { pending with requestMessages := pending.requestMessages ++ [mapped] }
    else pending

/-- The client's branch of the loop, from the mapped message on. -/
def onClientMessage (config : ProxyConfig) (s : Session) (surroundings : Surroundings)
    (mapped : Message) (sentClose : Bool) : Option Session :=
  let s := s.acceptClientMessage config mapped
  match s.sendUpstream (upstreamForm config s.codexOriginator surroundings.snapshot
      s.upstreamConnection.installationId mapped) with
  | (some error, s) =>
    if sentClose then some (s.returns .clientClosed)
    else s.retryOrReturn config surroundings (streamFailure error)
  | (none, s) => if sentClose then some (s.returns .clientClosed) else some s

/-- A message before the commit is buffered or passed on; a message that commits the request
releases what is buffered. -/
def takePrecommitMessage (config : ProxyConfig) (s : Session) (message : Message)
    (known : Option WebsocketProxyOutcome) : Except Session Session :=
  let passed := if shouldBufferUpstreamMessageBeforeCommit message then
      .ok (s.modifyPending fun pending => { pending with bufferedUpstreamMessages :=
        pending.bufferedUpstreamMessages ++ [⟨s.connectionNumber, message⟩] })
    else s.forwardMessageOrSettle (.upstream s.connectionNumber) message known
  passed.bind fun s =>
    if upstreamMessageCommitsRequest config.libs message then
      (s.modifyPending fun pending => { pending with committed := true }).flushBufferedOrSettle
        known
    else .ok s

/-- A message before the commit that is no failure. -/
def onPrecommitMessage (config : ProxyConfig) (s : Session) (message : Message)
    (known : Option WebsocketProxyOutcome) : Session :=
  match s.takePrecommitMessage config message known with
  | .error s => s
  | .ok s =>
    if upstreamMessageIsTerminal config.libs message then
      let s := { s with pendingRequest := none }
      match known with
      | some outcome => s.returns (.terminal outcome)
      | none => s
    else s

/-- A message with no uncommitted request. -/
def onOtherMessage (config : ProxyConfig) (s : Session) (message : Message)
    (known : Option WebsocketProxyOutcome) : Session :=
  match s.forwardMessageOrSettle (.upstream s.connectionNumber) message known with
  | .error s => s
  | .ok s =>
    match known with
    | some outcome => s.returns (.terminal outcome)
    | none =>
      if upstreamMessageIsTerminal config.libs message then { s with pendingRequest := none } else s

/-- The failure a known settlement stands for. -/
def failureOf? : Option WebsocketProxyOutcome → Option UpstreamFailure
  | some (.failed failure retryAfter details) => some ⟨failure, retryAfter, details⟩
  | _ => none

/-- `known_settlement`. -/
def knownSettlement (config : ProxyConfig) (s : Session) (now : Time) (message : Message) :
    Option WebsocketProxyOutcome :=
  activeRequestCloseFailure s.pendingRequest.isSome message
    (classifyWebsocketUpstreamControlMessage config.libs now message)

/-- A session that has noted the failure a known settlement stands for. -/
def notesFailure (s : Session) (known : Option WebsocketProxyOutcome) : Session :=
  match failureOf? known with
  | some failure => s.record (.failed s.currentAccountId failure.outcome)
  | none => s

/-- An upstream message after its normalization. -/
def onUpstreamMessage (config : ProxyConfig) (s : Session) (surroundings : Surroundings)
    (message : Message) : Option Session :=
  let known := s.knownSettlement config surroundings.now message
  let classified := classifyWebsocketUpstreamTerminalFailure config.libs surroundings.now message
  if shouldPassthroughRetryableWebsocketReset config.libs s.hasPendingUncommitted message then
    some (s.deliverAndReturn message none .reset)
  else if s.hasPendingUncommitted then
    match failureOf? known with
    | some failure =>
      if shouldFailoverPrecommitFailure failure classified then
        s.retryOrReturn config surroundings failure
      else
        some ((s.notesFailure known).deliverAndReturn message known (.terminal failure.outcome))
    | none => some (s.onPrecommitMessage config message known)
  else some ((s.notesFailure known).onOtherMessage config message known)

/-- One round of the session. -/
def step (config : ProxyConfig) (s : Session) : Event → Option Session
  | .upgradeFailed => match s.phase with
    | .upgrading => some (s.returns .upgradeFailed)
    | _ => none
  | .upgraded => match s.phase with
    | .upgrading => some { s with
        phase := .proxying
        requestHeaders := applyTurnStateToRequestHeaders s.requestHeaders
          s.upstreamConnection.turnState s.allowUpstreamTurnState }
    | _ => none
  | .shutdown => match s.phase with
    | .proxying =>
      let s := (s.sendUpstream (.close none)).2
      some ((s.forwardUpstreamMessage .gateway (.close none)).2.returns .shutdown)
    | _ => none
  | .client message surroundings => match s.phase with
    | .proxying => match message with
      | none | some (.error _) => some ((s.sendUpstream (.close none)).2.returns .clientClosed)
      | some (.ok message) => match mapClientMessageToUpstream message with
        | none => some s
        | some mapped => s.onClientMessage config surroundings mapped
            (match message with | .close _ => true | _ => false)
    | _ => none
  | .upstream message surroundings => match s.phase with
    | .proxying => match message with
      | none => s.retryOrReturn config surroundings (streamFailure "closed")
      | some (.error error) => s.retryOrReturn config surroundings (streamFailure error)
      | some (.ok message) =>
        let s := s.record (.received ⟨s.connectionNumber, message⟩)
        match normalizeUpstreamMessage config.libs s.codexOriginator message with
        | none => some s
        | some message => s.onUpstreamMessage config surroundings message
    | _ => none
  | .settle => match s.phase with
    | .returned accountId ending => some ({ s with phase := .finished }.record
        (.settled accountId ending.outcome.settlement))
    | _ => none

/-- The session `get_responses_websocket` opens with the account it was handed. -/
def opened (headers : HeaderMap) (accountId : String) (connection : UpstreamWebsocketConnection)
    (clientTakes : ℕ) : Session :=
  let propagateTurnState := responseShapeForHeaders headers == .codex
  { phase := .upgrading
    requestHeaders := applyTurnStateToRequestHeaders headers connection.turnState
      propagateTurnState
    allowUpstreamTurnState := propagateTurnState
    currentAccountId := accountId
    upstreamConnection := connection
    connectionNumber := 0
    connections := 1
    pendingRequest := none
    clientTakes
    trace := [.selected accountId] }

end Session

/-! ## A small gateway -/

def readyAccount (id : String) : AccountRecord :=
  { AccountStore.newRecord id ⟨id⟩ ⟨"rt_" ++ id, none, none⟩ with
    accessToken := some ("at_" ++ id), accessTokenExpiresAt := some (fromSecs 60) }

/-- A pool of two accounts whose access tokens are good for a minute. -/
def twoAccounts : Failover.View where
  store := (AccountStore.new.insert (readyAccount "a")).insert (readyAccount "b")
  dir := Failover.Gateway.exampleDir
  now := 0
  routingPolicy := .fillFirst
  holdsDiskLock := false
  taskResult := none

def exampleConnection : UpstreamWebsocketConnection where
  installationId := none
  turnState := none
  takes := 5
  sendError := "closed"

/-- The connect helper finds an account that has not been tried. -/
def exampleSurroundings : Surroundings where
  now := 0
  snapshot := none
  attempts := [{
    script := [.scheduled, .scheduled, .scheduled, .executeResult (.ok none)].map fun input =>
      (twoAccounts, input)
    connection := exampleConnection
    failure := .internal .badGateway ""
    snapshot := none
    settling := ⟨twoAccounts.store, 0⟩ }]
  settling := ⟨twoAccounts.store, 0⟩

def createText : String := "\x7b\"type\":\"response.create\"\x7d"

/-- A gateway that reads a request and one other text. -/
def exampleConfig (text : String) (json : Json) : ProxyConfig where
  libs := .ofTexts [(createText, .object [("type", .string "response.create")]), (text, json)]
  failover := Failover.Gateway.exampleConfig
  mode := .passthrough

/-- A session with account `a` and a client that takes five messages. -/
def exampleSession : Session := .opened [] "a" exampleConnection 5

end Codaze.Websocket
