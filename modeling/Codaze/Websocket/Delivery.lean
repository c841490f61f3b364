import Codaze.Websocket.Transparency

/-!
# Messages on their way to the client

The Text and Binary messages that were received and delivered since the last switch are read off
the trace. A session has delivered what it received, but for what it still buffers; what it
buffers is lost when a request is replaced or ended without being committed.
-/
namespace Codaze.Websocket
open Foundation Accounts Responses Upstream

/-- The Text and Binary messages since the last switch, as the loop goes on with them and as the
client took them. -/
structure Passage where
  received : List Message := []
  delivered : List Message := []

def Passage.next (config : ProxyConfig) (codexOriginator : Bool) (passage : Passage) :
    Action → Passage
  | .received message => { passage with received := passage.received ++
      ((normalizeUpstreamMessage config.libs codexOriginator message.message).filter
        Message.isPayload).toList }
  | .delivered _ message =>
    if message.isPayload then { passage with delivered := passage.delivered ++ [message] }
    else passage
  | .switched .. => {}
  | _ => passage

/-- The passage a trace ends in. -/
def lastPassage (config : ProxyConfig) (codexOriginator : Bool) (trace : List Action) : Passage :=
  trace.foldl (Passage.next config codexOriginator) {}

/-- A message whose failure moves an uncommitted request to another account. -/
def failsOver (config : ProxyConfig) (now : Time) (message : Message) : Bool :=
  (Session.failureOf? (activeRequestCloseFailure true message
    (classifyWebsocketUpstreamControlMessage config.libs now message))).any fun failure =>
      shouldFailoverPrecommitFailure failure
        (classifyWebsocketUpstreamTerminalFailure config.libs now message)

/-- What a message was replaced by when no account was left, and the message. -/
def Replaced (config : ProxyConfig) (failing rendered : List Message) : Prop :=
  (∃ (now : Time) (cause : FailoverFailure),
    rendered = (websocketErrorMessageForFailoverFailure config.libs now cause).toList) ∧
  (failing = [] ∨ ∃ (now : Time) (message : Message),
    failing = [message] ∧ failsOver config now message = true)

/-- What an ending may leave of the messages of the last connection. -/
def Ending.Delivers (config : ProxyConfig) (passage : Passage) (buffered : List Message) :
    Ending → Prop
  | upgradeFailed | shutdown | clientClosed => passage.delivered ++ buffered = passage.received
  | clientSendFailed _ => passage.delivered <+: passage.received
  | reset | terminal _ => passage.delivered = passage.received
  | upstreamFailed _ => passage.delivered = passage.received ∨
      ∃ kept failing rendered, passage.received = kept ++ failing ∧
        passage.delivered = kept ++ rendered ∧ Replaced config failing rendered

/-- The Text and Binary messages among upstream messages. -/
def payloads (messages : List UpstreamMessage) : List Message :=
  (messages.map UpstreamMessage.message).filter Message.isPayload

/-- An action that passes no Text or Binary message on. -/
def Action.IsSilent : Action → Prop
  | .selected _ | .settled .. | .failed .. | .sent .. | .accepted _ => True
  | .delivered _ message => message.isPayload = false
  | _ => False

section passage

variable {config : ProxyConfig} {codexOriginator : Bool} {trace actions : List Action}

theorem lastPassage_append : lastPassage config codexOriginator (trace ++ actions) =
    actions.foldl (Passage.next config codexOriginator)
      (lastPassage config codexOriginator trace) := List.foldl_append

theorem lastPassage_snoc {action : Action} :
    lastPassage config codexOriginator (trace ++ [action]) =
      (lastPassage config codexOriginator trace).next config codexOriginator action :=
  lastPassage_append

theorem lastPassage_silent (h : ∀ action ∈ actions, action.IsSilent) :
    lastPassage config codexOriginator (trace ++ actions) =
      lastPassage config codexOriginator trace := by
  induction actions generalizing trace with
  | nil => rw [List.append_nil]
  | cons action actions ih =>
    have hsilent := h action List.mem_cons_self
    rw [List.append_cons, ih fun a ha => h a (List.mem_cons_of_mem _ ha), lastPassage_snoc]
    cases action with
    | selected | settled | failed | sent | accepted => rfl
    | delivered source message =>
      have hcontrol : message.isPayload = false := hsilent
      simp [Passage.next, hcontrol]
    | _ => exact hsilent.elim

@[simp] theorem payloads_append (messages messages' : List UpstreamMessage) :
    payloads (messages ++ messages') = payloads messages ++ payloads messages' := by
  simp [payloads]

theorem payloads_singleton (message : UpstreamMessage) :
    payloads [message] = if message.message.isPayload then [message.message] else [] := by
  simp [payloads, List.filter_singleton]

theorem payloads_eq_map {messages : List UpstreamMessage}
    (h : ∀ message ∈ messages, message.message.isPayload = true) :
    payloads messages = messages.map UpstreamMessage.message :=
  List.filter_eq_self.mpr fun message hmem => by
    obtain ⟨buffered, hbuffered, rfl⟩ := List.mem_map.mp hmem
    exact h buffered hbuffered

/-- A delivery adds a Text or Binary message as it is. -/
theorem lastPassage_delivery (source : Source) (message : Message) :
    lastPassage config codexOriginator (trace ++ Session.delivery source message) =
      { lastPassage config codexOriginator trace with
        delivered := (lastPassage config codexOriginator trace).delivered ++
          if message.isPayload then [message] else [] } := by
  cases message with
  | text | binary => exact lastPassage_snoc
  | ping | pong | close =>
    simp only [Message.isPayload, Bool.false_eq_true, if_false, List.append_nil]
    exact lastPassage_snoc
  | frame => simp [Session.delivery, mapUpstreamMessageToClient, Message.isPayload]

theorem lastPassage_deliveries (messages : List UpstreamMessage) :
    lastPassage config codexOriginator (trace ++ Session.deliveries messages) =
      { lastPassage config codexOriginator trace with
        delivered := (lastPassage config codexOriginator trace).delivered ++
          payloads messages } := by
  induction messages generalizing trace with
  | nil => simp [payloads]
  | cons message messages ih =>
    have hcons : Session.deliveries (message :: messages) =
        Session.delivery (.upstream message.connection) message.message ++
          Session.deliveries messages := rfl
    have hpayloads : payloads (message :: messages) =
        (if message.message.isPayload then [message.message] else []) ++ payloads messages := by
      rw [← payloads_singleton, ← payloads_append]
      rfl
    rw [hcons, ← List.append_assoc, ih, lastPassage_delivery, hpayloads, List.append_assoc]

theorem payloads_isPrefix {messages messages' : List UpstreamMessage} (h : messages <+: messages') :
    payloads messages <+: payloads messages' := (h.map _).filter _

/-- The gateway's own message is a text. -/
theorem lastPassage_rendered {now : Time} {cause : FailoverFailure} :
    lastPassage config codexOriginator (trace ++
        (websocketErrorMessageForFailoverFailure config.libs now cause).elim []
          (Session.delivery .gateway)) =
      { lastPassage config codexOriginator trace with
        delivered := (lastPassage config codexOriginator trace).delivered ++
          (websocketErrorMessageForFailoverFailure config.libs now cause).toList } := by
  cases hmessage : websocketErrorMessageForFailoverFailure config.libs now cause with
  | none => simp
  | some message =>
    have hpayload : message.isPayload = true := by
      unfold websocketErrorMessageForFailoverFailure websocketErrorMessageFromPayload at hmessage
      split at hmessage
      · obtain ⟨text, -, rfl⟩ := Option.map_eq_some_iff.mp hmessage
        rfl
      · obtain ⟨text, -, rfl⟩ := Option.map_eq_some_iff.mp hmessage
        rfl
    simp [lastPassage_delivery, hpayload]

end passage

/-- A passage and a pending request that holds what was not delivered yet. -/
structure Conveys (passage : Passage) (pending : Option PendingWebsocketRequest) : Prop where
  kept : passage.delivered ++ payloads (pending.elim [] (·.bufferedUpstreamMessages)) =
    passage.received
  payload : ∀ message ∈ pending.elim [] (·.bufferedUpstreamMessages),
    message.message.isPayload = true
  released : ∀ request, pending = some request → request.committed = true →
    request.bufferedUpstreamMessages = []

theorem Conveys.nothing {passage : Passage} (h : passage.delivered = passage.received) :
    Conveys passage none := by
  refine ⟨?_, List.forall_mem_nil _, fun _ hnone => by cases hnone⟩
  rw [← h]
  exact List.append_nil _

/-- A request with the same messages behind it. -/
theorem Conveys.of_buffered {passage : Passage} {pending pending' : Option PendingWebsocketRequest}
    (h : Conveys passage pending)
    (hbuffered : pending'.elim [] (·.bufferedUpstreamMessages) =
      pending.elim [] (·.bufferedUpstreamMessages))
    (hreleased : ∀ request, pending' = some request → request.committed = true →
      request.bufferedUpstreamMessages = []) : Conveys passage pending' := by
  refine ⟨?_, ?_, hreleased⟩
  · rw [hbuffered]
    exact h.kept
  · rw [hbuffered]
    exact h.payload

/-- Nothing is held back for a request that is committed, or for none. -/
theorem Conveys.delivered {passage : Passage} {pending : Option PendingWebsocketRequest}
    (h : Conveys passage pending)
    (hcommitted : ∀ request, pending = some request → request.committed = true) :
    pending.elim [] (·.bufferedUpstreamMessages) = [] ∧
      passage.delivered = passage.received := by
  have hempty : pending.elim [] (·.bufferedUpstreamMessages) = [] := by
    cases hpending : pending with
    | none => rfl
    | some request => exact h.released request hpending (hcommitted request hpending)
  have hkept := h.kept
  rw [hempty] at hkept
  exact ⟨hempty, (List.append_nil _).symm.trans hkept⟩

/-- A message that is received before the commit is delivered, or held back behind the ones
before it. -/
theorem Conveys.takesMessage {config : ProxyConfig} {passage : Passage}
    {pending : PendingWebsocketRequest} (h : Conveys passage (some pending))
    (message : UpstreamMessage) (huncommitted : pending.committed = false) :
    Conveys
      { received := passage.received ++ payloads [message]
        delivered := passage.delivered ++
          payloads (Session.takesMessage config pending message).2 }
      (some (Session.takesMessage config pending message).1) := by
  have hkept : passage.delivered ++ payloads pending.bufferedUpstreamMessages =
    passage.received := h.kept
  unfold Session.takesMessage
  split
  next hcommits =>
    refine ⟨?_, List.forall_mem_nil _, fun _ hrequest _ => by cases hrequest; rfl⟩
    change passage.delivered ++ payloads (pending.bufferedUpstreamMessages ++ [message]) ++ [] = _
    rw [payloads_append, List.append_nil, ← List.append_assoc, hkept]
  next =>
    split
    next hpayload =>
      refine ⟨?_, ?_, fun _ hrequest hcommitted => ?_⟩
      · change passage.delivered ++ [] ++ payloads (pending.bufferedUpstreamMessages ++ [message])
          = _
        rw [List.append_nil, payloads_append, ← List.append_assoc, hkept]
      · exact List.forall_mem_append.mpr ⟨h.payload, List.forall_mem_singleton.mpr hpayload⟩
      · obtain rfl := Option.some.inj hrequest
        exact absurd hcommitted (by simp [huncommitted])
    next hcontrol =>
      have hnone : payloads [message] = [] := by
        rw [payloads_singleton]
        exact if_neg hcontrol
      refine ⟨?_, h.payload, h.released⟩
      change passage.delivered ++ payloads [message] ++ _ = passage.received ++ payloads [message]
      rw [hnone, List.append_nil, List.append_nil]
      exact h.kept

namespace Session

variable {config : ProxyConfig} {codexOriginator : Bool} {s t u : Session} {phase : Phase}
  {pending : Option PendingWebsocketRequest} {actions : List Action}

/-- A message that ends an uncommitted request commits it, or is one that is delivered at once or
fails over. -/
def endsDelivered (config : ProxyConfig) (s : Session) (now : Time) (message : Message) : Prop :=
  s.hasPendingUncommitted = true → upstreamMessageIsTerminal config.libs message = true →
    upstreamMessageCommitsRequest config.libs message = true ∨
      shouldPassthroughRetryableWebsocketReset config.libs true message = true ∨
      (failureOf? (s.knownSettlement config now message)).isSome = true

/-- A round that settles its failures in time, and drops nothing that is buffered: no new request
comes while messages wait for a commit, and none of these messages ends its request. -/
def dropsNothing (config : ProxyConfig) (s : Session) (event : Event) : Prop :=
  settlesInTime config s event ∧
    match event with
    | .client (some (.ok message)) _ => ∀ mapped ∈ mapClientMessageToUpstream message,
      isResponsesWebsocketRequestStart config.libs mapped = true → s.bufferedUpstreamMessages = []
    | .upstream (some (.ok message)) surroundings =>
      ∀ normalized ∈ normalizeUpstreamMessage config.libs s.codexOriginator message,
        s.endsDelivered config surroundings.now normalized
    | _ => True

/-- A session that goes on with all it received delivered or buffered. -/
structure Conveying (config : ProxyConfig) (codexOriginator : Bool) (s : Session) : Prop where
  originator : s.codexOriginator = codexOriginator
  conveys : Conveys (lastPassage config codexOriginator s.trace) s.pendingRequest

/-- What was received and delivered when a session goes on, and when it has returned. -/
def Conveyed (config : ProxyConfig) (codexOriginator : Bool) (s : Session) : Prop :=
  match s.phase with
  | .upgrading | .proxying => Conveying config codexOriginator s
  | .returned _ ending => ending.Delivers config (lastPassage config codexOriginator s.trace)
      (s.bufferedUpstreamMessages.map UpstreamMessage.message)
  | .finished => True
  | .panicked => False

theorem Conveying.conveyed (h : Conveying config codexOriginator s)
    (hphase : s.phase = .upgrading ∨ s.phase = .proxying) : Conveyed config codexOriginator s := by
  unfold Conveyed
  rcases hphase with hphase | hphase
  · rw [hphase]
    exact h
  · rw [hphase]
    exact h

theorem Conveyed.of_proxying (h : Conveyed config codexOriginator s)
    (hphase : s.phase = .proxying) : Conveying config codexOriginator s := by
  unfold Conveyed at h
  rwa [hphase] at h

theorem conveyed_of_returned {accountId : String} {ending : Ending}
    (hphase : t.phase = .returned accountId ending)
    (h : ending.Delivers config (lastPassage config codexOriginator t.trace)
      (t.bufferedUpstreamMessages.map UpstreamMessage.message)) :
    Conveyed config codexOriginator t := by
  unfold Conveyed
  rwa [hphase]

/-- What passes no message on leaves all as it was. -/
theorem Conveying.silent (h : Conveying config codexOriginator s)
    (hbecomes : Becomes s t phase s.pendingRequest actions)
    (hsilent : ∀ action ∈ actions, action.IsSilent) : Conveying config codexOriginator t where
  originator := hbecomes.codexOriginator.trans h.originator
  conveys := by
    rw [hbecomes.trace, lastPassage_silent hsilent, hbecomes.pendingRequest]
    exact h.conveys

/-- A session that returns while messages are still buffered. -/
theorem Conveying.keeps (h : Conveying config codexOriginator s) :
    (lastPassage config codexOriginator s.trace).delivered ++
      s.bufferedUpstreamMessages.map UpstreamMessage.message =
        (lastPassage config codexOriginator s.trace).received := by
  unfold bufferedUpstreamMessages
  rw [← payloads_eq_map h.conveys.payload]
  exact h.conveys.kept

/-! ## The client's messages -/

theorem Conveying.accepts (h : Conveying config codexOriginator s) {message : Message}
    (hstart : isResponsesWebsocketRequestStart config.libs message = true →
      s.bufferedUpstreamMessages = []) :
    Conveying config codexOriginator (s.acceptClientMessage config message) := by
  have hbecomes := becomes_acceptClientMessage config s message
  refine ⟨hbecomes.codexOriginator.trans h.originator, ?_⟩
  rw [hbecomes.trace, lastPassage_snoc, pendingRequest_acceptClientMessage]
  change Conveys (lastPassage config codexOriginator s.trace) _
  split
  next hstarts =>
    have hempty : s.pendingRequest.elim [] (·.bufferedUpstreamMessages) = [] := hstart hstarts
    refine h.conveys.of_buffered ?_ fun request hrequest _ => ?_
    · rw [hempty]
      exact accepts_bufferedUpstreamMessages _ message
    · obtain rfl := Option.some.inj hrequest
      exact accepts_bufferedUpstreamMessages _ message
  next =>
    refine h.conveys.of_buffered ?_ fun request hrequest hcommitted => ?_
    · cases s.pendingRequest with
      | none => rfl
      | some before => exact accepts_bufferedUpstreamMessages before message
    · obtain ⟨before, hbefore, rfl⟩ := Option.map_eq_some_iff.mp hrequest
      rw [accepts_committed] at hcommitted
      rw [accepts_bufferedUpstreamMessages]
      exact h.conveys.released before hbefore hcommitted

/-! ## The retry -/

/-- A session between two rounds of the retry loop. -/
structure Waiting (config : ProxyConfig) (codexOriginator : Bool) (s u : Session) : Prop where
  phase : u.phase = s.phase
  originator : u.codexOriginator = s.codexOriginator
  passage : lastPassage config codexOriginator u.trace =
    lastPassage config codexOriginator s.trace
  pendingRequest : u.pendingRequest = s.pendingRequest

theorem isSilent_replays (accountId : String) (number : ℕ) (taken : List Message) :
    ∀ action ∈ Action.selected accountId :: taken.map (Action.sent number), action.IsSilent := by
  intro action hmem
  rcases List.mem_cons.mp hmem with rfl | hmem
  · trivial
  · obtain ⟨message, -, rfl⟩ := List.mem_map.mp hmem
    trivial

theorem Waiting.replayFailed {accountId : String} {taken : List Message}
    {failure : UpstreamFailure} (h : Waiting config codexOriginator s u) :
    Waiting config codexOriginator s (u.replayFailed accountId taken failure) := by
  refine ⟨h.phase, h.originator, ?_, h.pendingRequest⟩
  have hreplays : lastPassage config codexOriginator (u.replays accountId taken).trace =
      lastPassage config codexOriginator u.trace :=
    lastPassage_silent (isSilent_replays accountId u.connections taken)
  rw [← h.passage, ← hreplays]
  exact lastPassage_snoc.trans lastPassage_snoc

theorem Waiting.buffered {tried : Finset String} (h : Waiting config codexOriginator s u) :
    (u.withTried tried).bufferedUpstreamMessages =
      s.pendingRequest.elim [] (·.bufferedUpstreamMessages) := by
  unfold withTried modifyPending bufferedUpstreamMessages
  rw [← h.pendingRequest]
  cases u.pendingRequest <;> rfl

theorem committed_of_not_uncommitted (h : s.hasPendingUncommitted = false) :
    ∀ request, s.pendingRequest = some request → request.committed = true := by
  intro request hrequest
  simpa [hasPendingUncommitted, hrequest] using h

/-- The retry of a connection that failed, where a message whose failure it was is the one that
is not delivered. -/
theorem conveyed_retryOrReturn {surroundings : Surroundings} {failure : UpstreamFailure}
    {passage : Passage} {failing : List Message} (hphase : s.phase = .proxying)
    (horiginator : s.codexOriginator = codexOriginator)
    (hpassage : lastPassage config codexOriginator s.trace =
      { passage with received := passage.received ++ failing })
    (h : Conveys passage s.pendingRequest)
    (hfailing : failing = [] ∨ s.hasPendingUncommitted = true ∧
      ∃ now message, failing = [message] ∧ failsOver config now message = true)
    (hintime : s.retryInTime config surroundings failure)
    (hstep : s.retryOrReturn config surroundings failure = some t) :
    Conveyed config codexOriginator t := by
  have hfailed : lastPassage config codexOriginator
      (s.record (.failed s.currentAccountId failure.outcome)).trace =
        lastPassage config codexOriginator s.trace := lastPassage_snoc
  have hretried := retried_retryOrReturn (P := fun u _ => Waiting config codexOriginator s u)
    (fun _ _ _ _ _ _ h _ _ => h.replayFailed) (fun _ _ _ => ⟨rfl, rfl, hfailed, rfl⟩) hstep
  cases hretried with
  | returned hpending hbecomes =>
    have hnone : failing = [] := hfailing.resolve_right fun hfailing => by
      rw [hpending] at hfailing
      cases hfailing.1
    refine conveyed_of_returned hbecomes.phase (.inl ?_)
    rw [hbecomes.trace, lastPassage_snoc]
    change (lastPassage config codexOriginator s.trace).delivered =
      (lastPassage config codexOriginator s.trace).received
    rw [hpassage, hnone]
    exact (h.delivered (committed_of_not_uncommitted hpending)).2.trans (List.append_nil _).symm
  | @refused u _ tried' now cause hlast htried hbecomes =>
    refine conveyed_of_returned hbecomes.phase (.inr ⟨passage.received, failing,
      (websocketErrorMessageForFailoverFailure config.libs now cause).toList, ?_, ?_,
      ⟨now, cause, rfl⟩, hfailing.imp_right And.right⟩)
    · rw [hbecomes.trace, ← List.append_assoc, lastPassage_rendered, lastPassage_deliveries]
      change (lastPassage config codexOriginator u.trace).received = _
      rw [hlast.passage, hpassage]
    · rw [hbecomes.trace, ← List.append_assoc, lastPassage_rendered, lastPassage_deliveries]
      change (lastPassage config codexOriginator u.trace).delivered ++ _ ++ _ = _
      rw [hlast.passage, hpassage, hlast.buffered]
      exact congrArg (· ++ _) h.kept
  | @undelivered u _ tried' delivered _ hlast htried hinitial hbecomes =>
    refine conveyed_of_returned hbecomes.phase ?_
    change (lastPassage _ _ t.trace).delivered <+: (lastPassage _ _ t.trace).received
    rw [hbecomes.trace, lastPassage_deliveries]
    change (lastPassage config codexOriginator u.trace).delivered ++ _ <+:
      (lastPassage config codexOriginator u.trace).received
    rw [hlast.passage, hpassage]
    have hkept : passage.delivered ++ payloads delivered <+: passage.received := by
      rw [← h.kept, List.prefix_append_right_inj]
      rw [hlast.buffered] at hinitial
      exact payloads_isPrefix hinitial
    exact hkept.trans (List.prefix_append _ _)
  | @switched u _ tried' before _ _ _ hpending huncommitted hlast htried huntried hswitches =>
    refine Conveying.conveyed
      ⟨hswitches.codexOriginator.trans (hlast.originator.trans horiginator), ?_⟩
      (.inr (hswitches.phase.trans (hlast.phase.trans hphase)))
    have hpending' : u.pendingRequest = some before := hlast.pendingRequest.trans hpending
    have hcleared : t.pendingRequest = some { before with
        triedAccounts := tried', bufferedUpstreamMessages := [] } := by
      rw [hswitches.pendingRequest]
      simp [Session.withTried, modifyPending, Session.replays, hpending',
        PendingWebsocketRequest.flushed]
    have hfresh : lastPassage config codexOriginator t.trace = {} := by
      rw [hswitches.trace, List.append_cons, lastPassage_snoc]
      rfl
    rw [hfresh, hcleared]
    exact ⟨rfl, List.forall_mem_nil _, fun _ hrequest _ => by cases hrequest; rfl⟩
  | panicked hlast hpanicked htrace hrest =>
    exact absurd hpanicked (phase_ne_panicked_of_retryOrReturn hphase hintime hstep)

/-! ## The upstream's messages -/

/-- Messages that are passed on to the client are all delivered, or the session has returned
behind some of them. -/
theorem conveyed_of_passed {known : Option WebsocketProxyOutcome} {messages : List UpstreamMessage}
    (hreceived : (lastPassage config codexOriginator s.trace).delivered ++ payloads messages <+:
      (lastPassage config codexOriginator s.trace).received)
    (hpassed : Passed s known messages phase pending t)
    (hnext : Becomes s t phase pending (deliveries messages) →
      Conveyed config codexOriginator t) : Conveyed config codexOriginator t := by
  rcases hpassed with hbecomes | ⟨delivered, pending', hinitial, hbecomes⟩
  · exact hnext hbecomes
  · refine conveyed_of_returned hbecomes.phase ?_
    change (lastPassage _ _ t.trace).delivered <+: (lastPassage _ _ t.trace).received
    rw [hbecomes.trace, lastPassage_deliveries]
    exact ((List.prefix_append_right_inj _).mpr (payloads_isPrefix hinitial)).trans hreceived

/-- A session that has delivered all it received, and returns or goes on. -/
theorem conveyed_of_phaseBehind {known : Option WebsocketProxyOutcome}
    (hphase : s.phase = .proxying)
    (horiginator : s.codexOriginator = codexOriginator)
    (hbecomes : Becomes s t (s.phaseBehind known) pending actions)
    (hdelivered : (lastPassage config codexOriginator t.trace).delivered =
      (lastPassage config codexOriginator t.trace).received)
    (hpending : known = none → pending.elim [] (·.bufferedUpstreamMessages) = []) :
    Conveyed config codexOriginator t := by
  cases known with
  | some outcome => exact conveyed_of_returned hbecomes.phase hdelivered
  | none =>
    refine Conveying.conveyed ⟨hbecomes.codexOriginator.trans horiginator, ?_⟩
      (.inr (hbecomes.phase.trans hphase))
    rw [hbecomes.pendingRequest]
    refine (Conveys.nothing hdelivered).of_buffered (hpending rfl) fun request hrequest _ => ?_
    have hempty := hpending rfl
    rwa [hrequest] at hempty

theorem lastPassage_notesFailure (s : Session) (known : Option WebsocketProxyOutcome) :
    lastPassage config codexOriginator (s.notesFailure known).trace =
      lastPassage config codexOriginator s.trace := by
  rw [(becomes_notesFailure s known).trace]
  refine lastPassage_silent fun action hmem => ?_
  obtain ⟨failure, -, rfl⟩ := Option.map_eq_some_iff.mp (Option.mem_toList.mp hmem)
  trivial

/-- All that is buffered and then the message that was received. -/
theorem conveyed_of_offers {passage : Passage} {known : Option WebsocketProxyOutcome}
    {message : Message} {accountId : String} {ending : Ending}
    (hpassage : lastPassage config codexOriginator s.trace = { passage with
      received := passage.received ++ payloads [⟨s.connectionNumber, message⟩] })
    (h : Conveys passage s.pendingRequest)
    (hending : ∀ p buffered, p.delivered = p.received → ending.Delivers config p buffered)
    (hpassed : Passed s known (s.offers message) (.returned accountId ending) pending t) :
    Conveyed config codexOriginator t := by
  have hall : (lastPassage config codexOriginator s.trace).delivered ++
      payloads (s.offers message) = (lastPassage config codexOriginator s.trace).received := by
    rw [hpassage, offers, payloads_append, ← List.append_assoc]
    exact congrArg (· ++ _) h.kept
  refine conveyed_of_passed (hall ▸ List.prefix_refl _) hpassed fun hbecomes =>
    conveyed_of_returned hbecomes.phase (hending _ _ ?_)
  rw [hbecomes.trace, lastPassage_deliveries]
  exact hall

theorem conveyed_of_handled {surroundings : Surroundings} {passage : Passage} {message : Message}
    (hphase : s.phase = .proxying) (horiginator : s.codexOriginator = codexOriginator)
    (hpassage : lastPassage config codexOriginator s.trace = { passage with
      received := passage.received ++ payloads [⟨s.connectionNumber, message⟩] })
    (h : Conveys passage s.pendingRequest)
    (hends : s.endsDelivered config surroundings.now message)
    (hintime : ∀ failure ∈ failureOf? (s.knownSettlement config surroundings.now message),
      s.retryInTime config surroundings failure)
    (hhandled : Handled config s surroundings message
      (s.knownSettlement config surroundings.now message) t) :
    Conveyed config codexOriginator t := by
  cases hhandled with
  | reset huncommitted hpassed =>
    refine conveyed_of_offers hpassage h ?_ hpassed
    exact fun _ _ hdelivered => hdelivered
  | @retried failure huncommitted hknown hretries hretry =>
    refine conveyed_retryOrReturn hphase horiginator hpassage h ?_ (hintime failure hknown) hretry
    rw [payloads_singleton]
    split
    next =>
      refine .inr ⟨huncommitted, surroundings.now, message, rfl, ?_⟩
      obtain ⟨request, hpending, -⟩ := hasPendingUncommitted_iff.mp huncommitted
      rw [knownSettlement, hpending] at hknown
      simp only [Option.isSome_some] at hknown
      simp [failsOver, hknown, hretries]
    next => exact .inl rfl
  | rejected huncommitted hknown hpassed =>
    have hnoted := becomes_notesFailure s (s.knownSettlement config surroundings.now message)
    rw [← hnoted.connectionNumber, ← lastPassage_notesFailure s
      (s.knownSettlement config surroundings.now message)] at hpassage
    rw [← hnoted.pendingRequest] at h
    refine conveyed_of_offers hpassage h ?_ hpassed
    exact fun _ _ hdelivered => hdelivered
  | @waiting before hpending huncommitted hknown hreset hpassed =>
    rw [hpending] at h
    have htakes := @Conveys.takesMessage config _ _ h ⟨s.connectionNumber, message⟩ huncommitted
    have hreceived : (lastPassage config codexOriginator s.trace).delivered ++
        payloads (takesMessage config before ⟨s.connectionNumber, message⟩).2 <+:
          (lastPassage config codexOriginator s.trace).received := by
      rw [hpassage]
      exact ⟨_, htakes.kept⟩
    refine conveyed_of_passed hreceived hpassed fun hbecomes => ?_
    have hnext := hbecomes.trace
    apply congrArg (lastPassage config codexOriginator) at hnext
    rw [lastPassage_deliveries, hpassage] at hnext
    rw [← hnext] at htakes
    cases hterminal : upstreamMessageIsTerminal config.libs message with
    | true =>
      have hcommits : upstreamMessageCommitsRequest config.libs message = true := by
        rcases hends (hasPendingUncommitted_iff.mpr ⟨before, hpending, huncommitted⟩) hterminal with
          hcommits | hreset' | hfailure
        · exact hcommits
        · simp [hreset'] at hreset
        · simp [hknown] at hfailure
      simp only [hterminal, if_true] at hbecomes
      refine conveyed_of_phaseBehind hphase horiginator hbecomes ?_ fun _ => rfl
      refine (htakes.delivered fun request hrequest => ?_).2
      obtain rfl := Option.some.inj hrequest
      simp [takesMessage, hcommits]
    | false =>
      simp only [hterminal, Bool.false_eq_true, if_false] at hbecomes
      refine Conveying.conveyed ⟨hbecomes.codexOriginator.trans horiginator, ?_⟩
        (.inr (hbecomes.phase.trans hphase))
      rw [hbecomes.pendingRequest]
      exact htakes
  | passed hcommitted hpassed =>
    have hnoted := becomes_notesFailure s (s.knownSettlement config surroundings.now message)
    rw [← hnoted.connectionNumber, ← lastPassage_notesFailure s
      (s.knownSettlement config surroundings.now message)] at hpassage
    obtain ⟨hempty, hdelivered⟩ := h.delivered (committed_of_not_uncommitted hcommitted)
    rw [← hnoted.pendingRequest] at hempty
    have hall := hpassage
    apply congrArg Passage.delivered at hall
    have hreceived := hpassage
    apply congrArg Passage.received at hreceived
    rw [← hdelivered, ← hall] at hreceived
    refine conveyed_of_passed (hreceived ▸ List.prefix_refl _) hpassed fun hbecomes =>
      conveyed_of_phaseBehind (hnoted.phase.trans hphase)
        (hnoted.codexOriginator.trans horiginator) hbecomes ?_ fun _ => ?_
    · rw [hbecomes.trace, lastPassage_deliveries]
      exact hreceived.symm
    · split
      · rfl
      · exact hempty

/-! ## The rounds -/

theorem conveyed_step {event : Event} (h : Conveyed config codexOriginator s)
    (hdrops : dropsNothing config s event) (hstep : step config s event = some t) :
    Conveyed config codexOriginator t := by
  cases round_of_step hstep with
  | upgradeFailed hphase hbecomes =>
    unfold Conveyed at h
    rw [hphase] at h
    exact conveyed_of_returned hbecomes.phase (h.silent hbecomes (List.forall_mem_nil _)).keeps
  | upgraded hphase hbecomes =>
    unfold Conveyed at h
    rw [hphase] at h
    exact (h.silent hbecomes (List.forall_mem_nil _)).conveyed (.inr hbecomes.phase)
  | settled hphase hbecomes =>
    unfold Conveyed
    rw [hbecomes.phase]
    trivial
  | skipped => exact h
  | closed hphase hending hactions hbecomes =>
    have hsilent := (h.of_proxying hphase).silent hbecomes fun action hmem => by
      rcases List.mem_pair.mp (hactions hmem) with rfl | rfl
      · trivial
      · rfl
    refine conveyed_of_returned hbecomes.phase ?_
    rcases hending with rfl | rfl
    · exact hsilent.keeps
    · exact hsilent.keeps
  | @accepted _ _ mapped _ _ _ sent hphase hmapped hsent hnext hbecomes =>
    have haccepted := (h.of_proxying hphase).accepts (hdrops.2 mapped hmapped)
    have hsilent := haccepted.silent hbecomes fun action hmem => by
      obtain rfl := List.mem_singleton.mp (hsent hmem)
      trivial
    rcases hnext with rfl | rfl
    · exact hsilent.conveyed (.inr hbecomes.phase)
    · exact conveyed_of_returned hbecomes.phase hsilent.keeps
  | @unsent _ _ mapped _ _ hphase hmapped hretry =>
    have haccepted := (h.of_proxying hphase).accepts (hdrops.2 mapped hmapped)
    have hbecomes := becomes_acceptClientMessage config s mapped
    refine conveyed_retryOrReturn (hbecomes.phase.trans hphase) haccepted.originator ?_
      haccepted.conveys (.inl rfl) ?_ hretry
    · rw [List.append_nil]
    · exact hdrops.1 mapped hmapped
  | @broken _ message _ _ hphase hmessage hretry =>
    have hconveying := h.of_proxying hphase
    refine conveyed_retryOrReturn hphase hconveying.originator ?_ hconveying.conveys (.inl rfl) ?_
      hretry
    · rw [List.append_nil]
    · match message with
      | none | some (.error _) => exact hdrops.1
      | some (.ok message) => exact absurd rfl (hmessage message)
  | @dropped _ message _ hphase hnormalized hbecomes =>
    have hconveying := h.of_proxying hphase
    rw [hconveying.originator] at hnormalized
    refine Conveying.conveyed ⟨hbecomes.codexOriginator.trans hconveying.originator, ?_⟩
      (.inr hbecomes.phase)
    rw [hbecomes.trace, hbecomes.pendingRequest, lastPassage_snoc]
    simp only [Passage.next, hnormalized, Option.filter_none, Option.toList_none, List.append_nil]
    exact hconveying.conveys
  | @received _ message normalized surroundings hphase hnormalized hhandled =>
    have hconveying := h.of_proxying hphase
    have hends := hdrops.2 normalized hnormalized
    have hintime := hdrops.1 normalized hnormalized
    rw [hconveying.originator] at hnormalized
    refine @conveyed_of_handled config codexOriginator
      (s.record (.received ⟨s.connectionNumber, message⟩)) t surroundings
      (lastPassage config codexOriginator s.trace) normalized hphase hconveying.originator ?_
      hconveying.conveys hends hintime hhandled
    change lastPassage config codexOriginator (s.trace ++ [_]) = _
    rw [lastPassage_snoc, payloads_singleton]
    simp only [Passage.next, hnormalized]
    cases hpayload : normalized.isPayload <;> simp [hpayload]

theorem conveyed_opened (config : ProxyConfig) (headers : HeaderMap) (accountId : String)
    (connection : UpstreamWebsocketConnection) (clientTakes : ℕ) :
    Conveyed config (responseShapeForHeaders headers == .codex)
      (opened headers accountId connection clientTakes) := by
  refine Conveying.conveyed ⟨?_, Conveys.nothing rfl⟩ (.inl rfl)
  simp only [opened, codexOriginator, responseShape_applyTurnState]

/-- In every session that settles its failures in time and drops nothing that is buffered: the
Text and Binary messages that the client was sent since the last switch, with those still
buffered, are the ones received, in their order. A session that returns has delivered them all,
but for the message whose failure found no replacement and was answered by the gateway's own,
for a client that took no more, and for what is buffered when the client or the gateway closes. -/
theorem no_message_lost {headers : HeaderMap} {accountId : String}
    {connection : UpstreamWebsocketConnection} {clientTakes : ℕ}
    (hrun : Run (step config) (dropsNothing config)
      (opened headers accountId connection clientTakes) s) :
    let passage := lastPassage config (responseShapeForHeaders headers == .codex) s.trace
    let buffered := s.bufferedUpstreamMessages.map UpstreamMessage.message
    (s.phase = .upgrading ∨ s.phase = .proxying →
      passage.delivered ++ buffered = passage.received) ∧
    (∀ id ending, s.phase = .returned id ending → ending.Delivers config passage buffered) ∧
    s.phase ≠ .panicked := by
  intro passage buffered
  have h : Conveyed config (responseShapeForHeaders headers == .codex) s := hrun.invariant
    (fun _ _ _ h hdrops hstep => conveyed_step h hdrops hstep)
    (conveyed_opened config headers accountId connection clientTakes)
  unfold Conveyed at h
  refine ⟨fun halive => ?_, fun id ending hphase => ?_, fun hphase => ?_⟩
  · rcases halive with hphase | hphase
    · rw [hphase] at h
      exact h.keeps
    · rw [hphase] at h
      exact h.keeps
  · rw [hphase] at h
    exact h
  · rw [hphase] at h
    exact h

/-- A session with a Codex client, which is told its rate limits. -/
def codexSession : Session :=
  .opened (insertHeader [] "originator" "codex_cli_rs") "a" exampleConnection 5

def rateLimitsText : String := "\x7b\"type\":\"codex.rate_limits\"\x7d"

def rateLimitsConfig : ProxyConfig :=
  exampleConfig rateLimitsText (.object [("type", .string "codex.rate_limits")])

/-- Nothing is retried and nothing settled. -/
def quietSurroundings : Surroundings where
  now := 0
  snapshot := none
  attempts := []
  settling := ⟨.new, 0⟩

/-- The rate limits come before anything that commits the request. -/
def heldBack : List Event :=
  [.upgraded, .client (some (.ok (.text createText))) quietSurroundings,
    .upstream (some (.ok (.text rateLimitsText))) quietSurroundings]

theorem retryInTime_quietSurroundings (config : ProxyConfig) (s : Session)
    (failure : UpstreamFailure) : s.retryInTime config quietSurroundings failure :=
  fun _ _ _ => ⟨trivial, fun record delay hrecord => by cases hrecord⟩

theorem no_message_lost_heldBack :
    let s := stateAfter (step rateLimitsConfig) codexSession heldBack
    s.bufferedUpstreamMessages = [⟨0, .text rateLimitsText⟩] ∧
      (lastPassage rateLimitsConfig true s.trace).delivered ++
          s.bufferedUpstreamMessages.map UpstreamMessage.message =
        (lastPassage rateLimitsConfig true s.trace).received := by
  intro s
  have hnormalized : normalizeUpstreamMessage rateLimitsConfig.libs true (.text rateLimitsText) =
      some (.text rateLimitsText) := by decide +kernel
  have hgoesOn : upstreamMessageIsTerminal rateLimitsConfig.libs (.text rateLimitsText) =
      false := by
    decide +kernel
  have hrequest : ∀ u : Session, u.pendingRequest = none →
      dropsNothing rateLimitsConfig u
        (.client (some (.ok (.text createText))) quietSurroundings) := by
    intro u hpending
    refine ⟨fun _ _ => retryInTime_quietSurroundings _ _ _, fun _ _ _ => ?_⟩
    rw [bufferedUpstreamMessages, hpending]
    rfl
  have hlimits : ∀ u : Session, u.codexOriginator = true → dropsNothing rateLimitsConfig u
      (.upstream (some (.ok (.text rateLimitsText))) quietSurroundings) := by
    intro u horiginator
    refine ⟨fun _ _ _ _ => retryInTime_quietSurroundings _ _ _, ?_⟩
    intro normalized hmem _ hterminal
    rw [horiginator] at hmem
    obtain rfl := Option.some.inj (hnormalized.symm.trans hmem)
    cases hgoesOn.symm.trans hterminal
  have hrun : Run (step rateLimitsConfig) (dropsNothing rateLimitsConfig) codexSession s :=
    ((Relation.ReflTransGen.refl.tail ⟨.upgraded, ⟨trivial, trivial⟩, rfl⟩).tail
      ⟨_, hrequest _ rfl, rfl⟩).tail ⟨_, hlimits _ (by decide +kernel), rfl⟩
  exact ⟨rfl, (no_message_lost hrun).1 (.inr rfl)⟩

/-- A request that comes while the rate limits are buffered takes the place of the one they
wait for. -/
theorem new_request_drops_rate_limits :
    ∃ (config : ProxyConfig) (s : Session), Run (step config) anyEvent codexSession s ∧
      s.phase = .proxying ∧
      (lastPassage config true s.trace).delivered ++
          s.bufferedUpstreamMessages.map UpstreamMessage.message ≠
        (lastPassage config true s.trace).received := by
  refine ⟨rateLimitsConfig, stateAfter (step rateLimitsConfig) codexSession
    (heldBack ++ [.client (some (.ok (.text createText))) quietSurroundings]),
    .of_isSome ?_, ?_, ?_⟩
  · decide +kernel
  · decide +kernel
  · decide +kernel

end Session

end Codaze.Websocket
