import Codaze.Foundation.Histories
import Codaze.Websocket.Rounds

/-!
# Switches a client does not see

From one request of the client to the next, what the client sent, which connections delivered to
it and whether a message committed the request are read off the trace. A session delivers from one
connection, and switches only before the commit, to a connection that has taken the whole request.
-/
namespace Codaze.Websocket
open Foundation Accounts Responses Upstream

/-- What has happened since the client's last request. -/
structure Span where
  /-- The Text and Binary messages of the client. -/
  messages : List Message := []
  /-- The connections whose Text and Binary messages the client was sent. -/
  sources : List ℕ := []
  /-- A message that commits the request was received. -/
  committed : Bool := false

def Span.next (config : ProxyConfig) (codexOriginator : Bool) (span : Span) : Action → Span
  | .accepted message =>
    if isResponsesWebsocketRequestStart config.libs message then { messages := [message] }
    else if message.isPayload then { span with messages := span.messages ++ [message] }
    else span
  | .received message =>
    if (normalizeUpstreamMessage config.libs codexOriginator message.message).any
        (upstreamMessageCommitsRequest config.libs) then { span with committed := true }
    else span
  | .delivered (.upstream connection) message =>
    if message.isPayload then { span with sources := span.sources ++ [connection] } else span
  | _ => span

/-- The span a trace ends in. -/
def lastSpan (config : ProxyConfig) (codexOriginator : Bool) (trace : List Action) : Span :=
  trace.foldl (Span.next config codexOriginator) {}

/-- The messages a connection has taken. -/
def sentTo (number : ℕ) (trace : List Action) : List Message := trace.filterMap fun
  | .sent connection message => if connection = number then some message else none
  | _ => none

/-- The client is sent messages of one connection, and a connection that takes over has taken the
messages of the client, and nothing has committed the request. -/
def Transparent (config : ProxyConfig) (codexOriginator : Bool) (past : List Action) :
    Action → Prop
  | .delivered (.upstream connection) message => message.isPayload = true →
      ∀ source ∈ (lastSpan config codexOriginator past).sources, source = connection
  | .switched connection installationId snapshot =>
    (lastSpan config codexOriginator past).committed = false ∧
      sentTo connection past = (lastSpan config codexOriginator past).messages.map
        (upstreamForm config codexOriginator snapshot installationId)
  | _ => True

section span

variable {config : ProxyConfig} {codexOriginator : Bool} {trace actions : List Action} {number : ℕ}

theorem lastSpan_append : lastSpan config codexOriginator (trace ++ actions) =
    actions.foldl (Span.next config codexOriginator) (lastSpan config codexOriginator trace) :=
  List.foldl_append

theorem lastSpan_snoc {action : Action} : lastSpan config codexOriginator (trace ++ [action]) =
    (lastSpan config codexOriginator trace).next config codexOriginator action := lastSpan_append

theorem sentTo_append : sentTo number (trace ++ actions) =
    sentTo number trace ++ sentTo number actions := List.filterMap_append

theorem sentTo_eq_nil (h : ∀ message, Action.sent number message ∉ actions) :
    sentTo number actions = [] :=
  List.filterMap_eq_nil_iff.mpr fun action hmem => by
    cases action with
    | sent connection message =>
      by_cases heq : connection = number
      · exact absurd (heq ▸ hmem) (h message)
      · exact if_neg heq
    | _ => rfl

theorem sentTo_sent (messages : List Message) :
    sentTo number (messages.map (Action.sent number)) = messages := by
  simp [sentTo, List.filterMap_map]

/-- An action that belongs to the upstream side alone. -/
def Action.IsInternal : Action → Prop
  | .selected _ | .settled .. | .failed .. | .sent .. => True
  | .delivered .gateway _ => True
  | _ => False

theorem lastSpan_internal (h : ∀ action ∈ actions, action.IsInternal) :
    lastSpan config codexOriginator (trace ++ actions) = lastSpan config codexOriginator trace := by
  induction actions generalizing trace with
  | nil => rw [List.append_nil]
  | cons action actions ih =>
    have hinternal := h action List.mem_cons_self
    rw [List.append_cons, ih fun a ha => h a (List.mem_cons_of_mem _ ha), lastSpan_snoc]
    cases action with
    | selected | settled | failed | sent => rfl
    | delivered source message => cases source with
      | gateway => rfl
      | upstream => exact hinternal.elim
    | _ => exact hinternal.elim

theorem lawfulFrom_internal (h : ∀ action ∈ actions, action.IsInternal) :
    LawfulFrom (Transparent config codexOriginator) trace actions :=
  lawfulFrom_of_forall fun action hmem past => by
    have hinternal := h action hmem
    cases action with
    | selected | settled | failed | sent => trivial
    | delivered source message => cases source with
      | gateway => trivial
      | upstream => exact hinternal.elim
    | _ => exact hinternal.elim

/-- Messages of the connection that has delivered so far may be delivered. -/
theorem lawfulFrom_deliveries {messages : List UpstreamMessage}
    (hsources : ∀ source ∈ (lastSpan config codexOriginator trace).sources, source = number)
    (hmessages : ∀ message ∈ messages, message.connection = number) :
    LawfulFrom (Transparent config codexOriginator) trace (Session.deliveries messages) ∧
      ∀ source ∈ (lastSpan config codexOriginator (trace ++ Session.deliveries messages)).sources,
        source = number := by
  induction messages generalizing trace with
  | nil => exact ⟨trivial, by simpa using hsources⟩
  | cons message messages ih =>
    have hconnection := hmessages message List.mem_cons_self
    have hrest := fun m hm => hmessages m (List.mem_cons_of_mem message hm)
    have hcons : Session.deliveries (message :: messages) =
        Session.delivery (.upstream message.connection) message.message ++
          Session.deliveries messages := rfl
    rw [hcons, hconnection, lawfulFrom_append, ← List.append_assoc]
    cases hmapped : mapUpstreamMessageToClient message.message with
    | none =>
      have hempty : Session.delivery (.upstream number) message.message = [] := by
        simp [Session.delivery, hmapped]
      rw [hempty, List.append_nil]
      exact ⟨⟨trivial, (ih hsources hrest).1⟩, (ih hsources hrest).2⟩
    | some mapped =>
      have hone : Session.delivery (.upstream number) message.message =
          [.delivered (.upstream number) mapped] := by
        simp [Session.delivery, hmapped]
      have hnext : ∀ source ∈ (lastSpan config codexOriginator
          (trace ++ [.delivered (.upstream number) mapped])).sources, source = number := by
        intro source hmem
        rw [lastSpan_snoc] at hmem
        simp only [Span.next] at hmem
        split at hmem
        · rcases List.mem_append.mp hmem with hmem | hmem
          · exact hsources source hmem
          · exact List.mem_singleton.mp hmem
        · exact hsources source hmem
      rw [hone]
      obtain ⟨hlawful, hsources'⟩ := ih hnext hrest
      exact ⟨⟨⟨fun _ => hsources, trivial⟩, hlawful⟩, hsources'⟩

end span

namespace Session

variable {config : ProxyConfig} {codexOriginator : Bool} {s t u : Session} {phase : Phase}
  {pending : Option PendingWebsocketRequest} {actions : List Action}

/-- A session that has kept what the client sent, and has delivered from one connection. -/
structure Undivided (config : ProxyConfig) (codexOriginator : Bool) (s : Session) : Prop where
  lawful : Lawful (Transparent config codexOriginator) s.trace
  originator : s.codexOriginator = codexOriginator
  /-- No connection has taken a message before the session was handed it. -/
  fresh : ∀ number ≥ s.connections, sentTo number s.trace = []
  number : s.connectionNumber < s.connections
  sources : ∀ source ∈ (lastSpan config codexOriginator s.trace).sources,
    source = s.connectionNumber
  buffered : ∀ message ∈ s.bufferedUpstreamMessages, message.connection = s.connectionNumber
  /-- An uncommitted request keeps what the client sent, and nothing of it was answered. -/
  replayed : ∀ pending, s.pendingRequest = some pending → pending.committed = false →
    pending.requestMessages = (lastSpan config codexOriginator s.trace).messages ∧
      (lastSpan config codexOriginator s.trace).sources = []

/-- A session that can still switch without the client noticing. -/
structure Seamless (config : ProxyConfig) (codexOriginator : Bool) (s : Session) : Prop
    extends Undivided config codexOriginator s where
  uncommitted : ∀ pending, s.pendingRequest = some pending → pending.committed = false →
    (lastSpan config codexOriginator s.trace).committed = false

/-- A pending request with no more to replay and to deliver than another one. -/
def Within (number : ℕ) (pending pending' : Option PendingWebsocketRequest) : Prop :=
  (∀ message ∈ pending'.elim [] (·.bufferedUpstreamMessages), message.connection = number) ∧
    ∀ after, pending' = some after → after.committed = false →
      ∃ before, pending = some before ∧ before.committed = false ∧
        before.requestMessages = after.requestMessages

theorem Undivided.within (h : Undivided config codexOriginator s) :
    Within s.connectionNumber s.pendingRequest s.pendingRequest :=
  ⟨h.buffered, fun after hafter huncommitted => ⟨after, hafter, huncommitted, rfl⟩⟩

/-- What belongs to the upstream side alone changes nothing the client sees. -/
theorem Undivided.internal (h : Undivided config codexOriginator s)
    (hbecomes : Becomes s t phase pending actions)
    (hinternal : ∀ action ∈ actions, action.IsInternal)
    (hsent : ∀ number ≥ s.connections, sentTo number actions = [])
    (hwithin : Within s.connectionNumber s.pendingRequest pending) :
    Undivided config codexOriginator t where
  lawful := by
    rw [hbecomes.trace]
    exact h.lawful.append (lawfulFrom_internal hinternal)
  originator := hbecomes.codexOriginator.trans h.originator
  fresh number hnumber := by
    rw [hbecomes.connections] at hnumber
    rw [hbecomes.trace, sentTo_append, h.fresh number hnumber, hsent number hnumber]
    rfl
  number := by
    rw [hbecomes.connectionNumber, hbecomes.connections]
    exact h.number
  sources := by
    rw [hbecomes.trace, lastSpan_internal hinternal, hbecomes.connectionNumber]
    exact h.sources
  buffered := by
    unfold bufferedUpstreamMessages
    rw [hbecomes.pendingRequest, hbecomes.connectionNumber]
    exact hwithin.1
  replayed after hafter huncommitted := by
    rw [hbecomes.pendingRequest] at hafter
    obtain ⟨before, hbefore, huncommitted', heq⟩ := hwithin.2 after hafter huncommitted
    rw [hbecomes.trace, lastSpan_internal hinternal, ← heq]
    exact h.replayed before hbefore huncommitted'

theorem Seamless.internal (h : Seamless config codexOriginator s)
    (hbecomes : Becomes s t phase pending actions)
    (hinternal : ∀ action ∈ actions, action.IsInternal)
    (hsent : ∀ number ≥ s.connections, sentTo number actions = [])
    (hwithin : Within s.connectionNumber s.pendingRequest pending) :
    Seamless config codexOriginator t where
  toUndivided := h.toUndivided.internal hbecomes hinternal hsent hwithin
  uncommitted after hafter huncommitted := by
    rw [hbecomes.pendingRequest] at hafter
    obtain ⟨before, hbefore, huncommitted', -⟩ := hwithin.2 after hafter huncommitted
    rw [hbecomes.trace, lastSpan_internal hinternal]
    exact h.uncommitted before hbefore huncommitted'

/-- What a message of the client adds to a pending request. -/
def PendingWebsocketRequest.accepts (pending : PendingWebsocketRequest) (message : Message) :
    PendingWebsocketRequest :=
  if !pending.committed && shouldReplayClientMessage message then
    { pending with requestMessages := pending.requestMessages ++ [message] }
  else pending

theorem accepts_bufferedUpstreamMessages (pending : PendingWebsocketRequest) (message : Message) :
    (PendingWebsocketRequest.accepts pending message).bufferedUpstreamMessages =
      pending.bufferedUpstreamMessages := by
  unfold PendingWebsocketRequest.accepts
  split <;> rfl

theorem accepts_committed (pending : PendingWebsocketRequest) (message : Message) :
    (PendingWebsocketRequest.accepts pending message).committed = pending.committed := by
  unfold PendingWebsocketRequest.accepts
  split <;> rfl

theorem accepts_requestMessages {pending : PendingWebsocketRequest} (message : Message)
    (huncommitted : pending.committed = false) :
    (PendingWebsocketRequest.accepts pending message).requestMessages =
      if message.isPayload then pending.requestMessages ++ [message]
      else pending.requestMessages := by
  simp only [PendingWebsocketRequest.accepts, huncommitted, Bool.not_false, Bool.true_and,
    shouldReplayClientMessage]
  split <;> rfl

theorem isPayload_of_start {message : Message}
    (h : isResponsesWebsocketRequestStart config.libs message = true) :
    message.isPayload = true := by
  cases message with
  | text => rfl
  | _ => cases h

theorem pendingRequest_acceptClientMessage (s : Session) (message : Message) :
    (s.acceptClientMessage config message).pendingRequest =
      (if isResponsesWebsocketRequestStart config.libs message then some {}
        else s.pendingRequest).map (PendingWebsocketRequest.accepts · message) := by
  unfold acceptClientMessage
  dsimp only
  split <;> rfl

theorem Seamless.accepts (h : Seamless config codexOriginator s) (message : Message) :
    Seamless config codexOriginator (s.acceptClientMessage config message) := by
  have hbecomes := becomes_acceptClientMessage config s message
  have hpending := @pendingRequest_acceptClientMessage config s message
  have hspan : lastSpan config codexOriginator (s.acceptClientMessage config message).trace =
      (lastSpan config codexOriginator s.trace).next config codexOriginator
        (.accepted message) := by
    rw [hbecomes.trace, lastSpan_snoc]
  refine ⟨⟨?_, hbecomes.codexOriginator.trans h.originator, fun number hnumber => ?_, ?_, ?_, ?_,
    fun after hafter huncommitted => ?_⟩, fun after hafter huncommitted => ?_⟩
  · rw [hbecomes.trace]
    exact h.lawful.snoc trivial
  · rw [hbecomes.connections] at hnumber
    rw [hbecomes.trace, sentTo_append, h.fresh number hnumber]
    rfl
  · rw [hbecomes.connectionNumber, hbecomes.connections]
    exact h.number
  · rw [hspan, hbecomes.connectionNumber]
    simp only [Span.next]
    split
    · exact List.forall_mem_nil _
    · split <;> exact h.sources
  · unfold bufferedUpstreamMessages
    rw [hbecomes.connectionNumber, hpending]
    intro buffered hmem
    split at hmem
    · rw [Option.map_some, Option.elim_some, accepts_bufferedUpstreamMessages] at hmem
      cases hmem
    · cases hbefore : s.pendingRequest with
      | none =>
        rw [hbefore] at hmem
        cases hmem
      | some before =>
        rw [hbefore, Option.map_some, Option.elim_some, accepts_bufferedUpstreamMessages] at hmem
        refine h.buffered buffered ?_
        rw [bufferedUpstreamMessages, hbefore]
        exact hmem
  · rw [hpending] at hafter
    obtain ⟨before, hbefore, rfl⟩ := Option.map_eq_some_iff.mp hafter
    rw [accepts_committed] at huncommitted
    rw [hspan, accepts_requestMessages message huncommitted]
    split at hbefore
    next hstart =>
      obtain rfl := Option.some.inj hbefore
      simp [Span.next, hstart, isPayload_of_start hstart]
    next hstart =>
      obtain ⟨hmessages, hsources⟩ := h.replayed before hbefore huncommitted
      rw [hmessages]
      simp only [Span.next, hstart]
      split
      · exact ⟨rfl, hsources⟩
      · exact ⟨rfl, hsources⟩
  · rw [hpending] at hafter
    obtain ⟨before, hbefore, rfl⟩ := Option.map_eq_some_iff.mp hafter
    rw [accepts_committed] at huncommitted
    rw [hspan]
    split at hbefore
    next hstart => simp [Span.next, hstart]
    next hstart =>
      have hcommitted := h.uncommitted before hbefore huncommitted
      simp only [Span.next, if_neg hstart]
      split
      · exact hcommitted
      · exact hcommitted

theorem isInternal_replays (accountId : String) (number : ℕ) (taken : List Message) :
    ∀ action ∈ Action.selected accountId :: taken.map (Action.sent number), action.IsInternal := by
  intro action hmem
  rcases List.mem_cons.mp hmem with rfl | hmem
  · trivial
  · obtain ⟨message, -, rfl⟩ := List.mem_map.mp hmem
    trivial

theorem lastSpan_replays (s : Session) (accountId : String) (taken : List Message) :
    lastSpan config codexOriginator (s.replays accountId taken).trace =
      lastSpan config codexOriginator s.trace :=
  lastSpan_internal (isInternal_replays accountId s.connections taken)

/-- The new connection has taken the messages, and any later one nothing. -/
theorem Seamless.sentTo_replays (h : Seamless config codexOriginator s) (accountId : String)
    (taken : List Message) : sentTo s.connections (s.replays accountId taken).trace = taken := by
  change sentTo s.connections (s.trace ++ ([.selected accountId] ++ taken.map _)) = taken
  rw [sentTo_append, sentTo_append, h.fresh s.connections le_rfl, sentTo_sent]
  rfl

theorem Seamless.replays (h : Seamless config codexOriginator s) (accountId : String)
    (taken : List Message) : Seamless config codexOriginator (s.replays accountId taken) where
  lawful := h.lawful.append (lawfulFrom_internal (isInternal_replays accountId _ taken))
  originator := h.originator
  fresh number hnumber := by
    change s.connections + 1 ≤ number at hnumber
    change sentTo number (s.trace ++ ([.selected accountId] ++ taken.map _)) = []
    rw [sentTo_append, sentTo_append, h.fresh number (by omega)]
    refine sentTo_eq_nil fun message hmem => ?_
    obtain ⟨sent, -, heq⟩ := List.mem_map.mp hmem
    have hconnection := (Action.sent.inj heq).1
    omega
  number := by
    have hnumber := h.number
    change s.connectionNumber < s.connections + 1
    omega
  sources := by
    rw [lastSpan_replays]
    exact h.sources
  buffered := h.buffered
  replayed := by
    rw [lastSpan_replays]
    exact h.replayed
  uncommitted := by
    rw [lastSpan_replays]
    exact h.uncommitted

/-! ## The retry -/

/-- A session between two rounds of the retry loop. -/
structure Replaying (config : ProxyConfig) (codexOriginator : Bool) (s u : Session) : Prop where
  phase : u.phase = s.phase
  seamless : Seamless config codexOriginator u
  pendingRequest : u.pendingRequest = s.pendingRequest

theorem Seamless.record (h : Seamless config codexOriginator s) {action : Action}
    (hinternal : action.IsInternal) (hsent : ∀ number message, action ≠ .sent number message) :
    Seamless config codexOriginator (s.record action) :=
  h.internal (becomes_record s action) (List.forall_mem_singleton.mpr hinternal)
    (fun number _ => sentTo_eq_nil fun message hmem =>
      hsent number message (List.mem_singleton.mp hmem).symm) h.within

theorem Replaying.replayFailed {accountId : String} {taken : List Message}
    {failure : UpstreamFailure} (h : Replaying config codexOriginator s u) :
    Replaying config codexOriginator s (u.replayFailed accountId taken failure) := by
  have hfailed : Seamless config codexOriginator
      ((u.replays accountId taken).record (.failed accountId failure.outcome)) :=
    (h.seamless.replays accountId taken).record trivial (by simp)
  exact ⟨h.phase, hfailed.record trivial (by simp), h.pendingRequest⟩

/-- Behind a switch the session is as it was before it, on a connection that has taken the whole
request. -/
theorem Seamless.switched {failure : UpstreamFailure} {tried : Finset String} {accountId : String}
    {number : ℕ} {installationId : Option String} {snapshot : Option ModelsSnapshot}
    {pending : PendingWebsocketRequest} (h : Seamless config codexOriginator s)
    (hswitches : Switches s tried t failure accountId number installationId snapshot)
    (hnumber : number < s.connections) (hpending : s.pendingRequest = some pending)
    (huncommitted : pending.committed = false)
    (hsent : sentTo number s.trace = pending.requestMessages.map
      (upstreamForm config codexOriginator snapshot installationId)) :
    Seamless config codexOriginator t := by
  obtain ⟨hmessages, hsources⟩ := h.replayed pending hpending huncommitted
  have hcommitted := h.uncommitted pending hpending huncommitted
  have hsettled : lastSpan config codexOriginator
      (s.trace ++ [.settled s.currentAccountId failure.outcome.settlement]) =
        lastSpan config codexOriginator s.trace := lastSpan_snoc
  have hlawful : Lawful (Transparent config codexOriginator)
      (s.trace ++ [.settled s.currentAccountId failure.outcome.settlement]) :=
    h.lawful.snoc trivial
  have htrace : t.trace = s.trace ++ [.settled s.currentAccountId failure.outcome.settlement] ++
      [.switched number installationId snapshot] := by
    rw [hswitches.trace, List.append_assoc]
    rfl
  have hspan : lastSpan config codexOriginator t.trace =
      lastSpan config codexOriginator s.trace := by
    rw [htrace, lastSpan_snoc, hsettled]
    rfl
  have hafter : t.pendingRequest = some { pending with
      triedAccounts := tried, bufferedUpstreamMessages := [] } := by
    rw [hswitches.pendingRequest, withTried, modifyPending, hpending]
    rfl
  refine ⟨⟨?_, hswitches.codexOriginator.trans h.originator, fun connection hconnection => ?_, ?_,
    ?_, ?_, fun after hafter' _ => ?_⟩, fun _ _ _ => ?_⟩
  · rw [htrace]
    refine hlawful.snoc ⟨?_, ?_⟩
    · rw [hsettled]
      exact hcommitted
    · rw [hsettled, ← hmessages, sentTo_append, hsent]
      exact List.append_nil _
  · rw [hswitches.connections] at hconnection
    rw [htrace, sentTo_append, sentTo_append, h.fresh connection hconnection]
    rfl
  · rw [hswitches.connectionNumber, hswitches.connections]
    exact hnumber
  · rw [hspan, hsources]
    exact List.forall_mem_nil _
  · rw [bufferedUpstreamMessages, hafter]
    exact List.forall_mem_nil _
  · obtain rfl := Option.some.inj (hafter.symm.trans hafter')
    rw [hspan]
    exact ⟨hmessages, hsources⟩
  · rw [hspan]
    exact hcommitted

/-- The trace of a session, with what the session can still do while it goes on. -/
def Unnoticed (config : ProxyConfig) (codexOriginator : Bool) (s : Session) : Prop :=
  Lawful (Transparent config codexOriginator) s.trace ∧
    ((s.phase = .upgrading ∨ s.phase = .proxying) → Seamless config codexOriginator s)

theorem unnoticed_of_returned {accountId : String} {ending : Ending}
    (hphase : t.phase = .returned accountId ending)
    (hlawful : Lawful (Transparent config codexOriginator) t.trace) :
    Unnoticed config codexOriginator t := by
  refine ⟨hlawful, fun halive => ?_⟩
  rcases halive with halive | halive
  · cases hphase.symm.trans halive
  · cases hphase.symm.trans halive

/-- A session may deliver messages of its connection, and its own, and return. -/
theorem Undivided.returns {messages : List UpstreamMessage} {rest : List Action}
    {accountId : String} {ending : Ending} (h : Undivided config codexOriginator s)
    (hmessages : ∀ message ∈ messages, message.connection = s.connectionNumber)
    (hrest : ∀ action ∈ rest, action.IsInternal)
    (hbecomes : Becomes s t (.returned accountId ending) pending (deliveries messages ++ rest)) :
    Unnoticed config codexOriginator t := by
  refine unnoticed_of_returned hbecomes.phase ?_
  rw [hbecomes.trace, ← List.append_assoc]
  have hdeliveries := (lawfulFrom_deliveries h.sources hmessages).1
  exact (h.lawful.append hdeliveries).append (lawfulFrom_internal hrest)

theorem Seamless.withTried (h : Seamless config codexOriginator s) (tried : Finset String) :
    Seamless config codexOriginator (s.withTried tried) := by
  refine h.internal ((Becomes.refl s).modifyPending _) (List.forall_mem_nil _) (fun _ _ => rfl) ?_
  constructor
  · have hbuffered := h.buffered
    unfold bufferedUpstreamMessages at hbuffered
    cases hpending : s.pendingRequest with
    | none => exact List.forall_mem_nil _
    | some pending => simpa [hpending] using hbuffered
  · intro after hafter huncommitted
    obtain ⟨before, hbefore, rfl⟩ := Option.map_eq_some_iff.mp hafter
    exact ⟨before, hbefore, huncommitted, rfl⟩

theorem isInternal_gateway (message : Option Message) :
    ∀ action ∈ message.elim [] (delivery .gateway), action.IsInternal := by
  cases message with
  | none => exact List.forall_mem_nil _
  | some message =>
    intro action hmem
    obtain ⟨mapped, -, rfl⟩ := Option.map_eq_some_iff.mp (Option.mem_toList.mp hmem)
    trivial

theorem unnoticed_retryOrReturn {surroundings : Surroundings} {failure : UpstreamFailure}
    (h : Seamless config codexOriginator s)
    (hstep : s.retryOrReturn config surroundings failure = some t) :
    Unnoticed config codexOriginator t := by
  have hfailed : Seamless config codexOriginator
      (s.record (.failed s.currentAccountId failure.outcome)) := h.record trivial (by simp)
  have hstart : ∀ pending, s.pendingRequest = some pending → pending.committed = false →
      Replaying config codexOriginator s (s.record (.failed s.currentAccountId failure.outcome)) :=
    fun _ _ _ => ⟨rfl, hfailed, rfl⟩
  have hreplay : ∀ (u : Session) (tried tried' : Finset String) (accountId : String)
      (taken : List Message) (failure : UpstreamFailure), Replaying config codexOriginator s u →
      tried ⊆ tried' → accountId ∉ tried' →
      Replaying config codexOriginator s (u.replayFailed accountId taken failure) :=
    fun _ _ _ _ _ _ h _ _ => h.replayFailed
  cases retried_retryOrReturn hreplay hstart hstep with
  | returned hpending hbecomes =>
    exact unnoticed_of_returned hbecomes.phase (by
      rw [hbecomes.trace]
      exact h.lawful.snoc trivial)
  | @refused u _ tried' _ _ hlast htried hbecomes =>
    have hseamless := hlast.seamless.withTried tried'
    exact hseamless.returns hseamless.buffered (isInternal_gateway _) hbecomes
  | @undelivered u _ tried' _ _ hlast htried hinitial hbecomes =>
    have hseamless := hlast.seamless.withTried tried'
    rw [← List.append_nil (deliveries _)] at hbecomes
    exact hseamless.returns (fun message hmem => hseamless.buffered message (hinitial.subset hmem))
      (List.forall_mem_nil _) hbecomes
  | switched hpending huncommitted hlast htried huntried hswitches =>
    have hreplays := hlast.seamless.replays
    have hseamless := (hreplays _ _).switched hswitches (Nat.lt_succ_self _)
      (hlast.pendingRequest.trans hpending) huncommitted
      (by rw [hlast.seamless.sentTo_replays, hlast.seamless.originator])
    exact ⟨hseamless.lawful, fun _ => hseamless⟩
  | @panicked u _ rest hlast hpanicked htrace hrest =>
    have hinternal : ∀ action ∈ rest, action.IsInternal := by
      rcases hrest with rfl | ⟨accountId, taken, settlement, rfl⟩
      · exact List.forall_mem_nil _
      · intro action hmem
        rcases List.mem_append.mp hmem with hmem | hmem
        · exact isInternal_replays accountId u.connections taken action hmem
        · obtain rfl := List.mem_singleton.mp hmem
          trivial
    refine ⟨?_, fun halive => ?_⟩
    · rw [htrace]
      exact hlast.seamless.lawful.append (lawfulFrom_internal hinternal)
    · rcases halive with halive | halive
      · cases hpanicked.symm.trans halive
      · cases hpanicked.symm.trans halive

/-! ## The rounds -/

/-- A session that passes messages of its connection on goes on as its next phase says. -/
theorem Undivided.passed {known : Option WebsocketProxyOutcome} {messages : List UpstreamMessage}
    (h : Undivided config codexOriginator s)
    (hmessages : ∀ message ∈ messages, message.connection = s.connectionNumber)
    (hpassed : Passed s known messages phase pending t)
    (hnext : Becomes s t phase pending (deliveries messages) → Unnoticed config codexOriginator t) :
    Unnoticed config codexOriginator t := by
  rcases hpassed with hbecomes | ⟨delivered, pending', hinitial, hbecomes⟩
  · exact hnext hbecomes
  · rw [← List.append_nil (deliveries _)] at hbecomes
    exact h.returns (fun message hmem => hmessages message (hinitial.subset hmem))
      (List.forall_mem_nil _) hbecomes

theorem Undivided.offers (h : Undivided config codexOriginator s) (message : Message) :
    ∀ offered ∈ s.offers message, offered.connection = s.connectionNumber := by
  intro offered hmem
  rcases List.mem_append.mp hmem with hmem | hmem
  · exact h.buffered offered hmem
  · obtain rfl := List.mem_singleton.mp hmem
    rfl

/-- A session that goes on behind deliveries of its connection. -/
theorem Undivided.delivers {messages : List UpstreamMessage}
    (h : Undivided config codexOriginator s)
    (hmessages : ∀ message ∈ messages, message.connection = s.connectionNumber)
    (hbecomes : Becomes s t phase pending (deliveries messages))
    (hbuffered : ∀ message ∈ pending.elim [] (·.bufferedUpstreamMessages),
      message.connection = s.connectionNumber)
    (hpending : ∀ after, pending = some after → after.committed = false →
      after.requestMessages = (lastSpan config codexOriginator t.trace).messages ∧
        (lastSpan config codexOriginator t.trace).sources = [] ∧
        (lastSpan config codexOriginator t.trace).committed = false) :
    Seamless config codexOriginator t := by
  obtain ⟨hlawful, hsources⟩ := lawfulFrom_deliveries h.sources hmessages
  refine ⟨⟨?_, hbecomes.codexOriginator.trans h.originator, fun number hnumber => ?_, ?_, ?_, ?_,
    fun after hafter huncommitted => ?_⟩, fun after hafter huncommitted => ?_⟩
  · rw [hbecomes.trace]
    exact h.lawful.append hlawful
  · rw [hbecomes.connections] at hnumber
    rw [hbecomes.trace, sentTo_append, h.fresh number hnumber]
    refine sentTo_eq_nil fun message hmem => ?_
    obtain ⟨offered, -, hdelivery⟩ := List.mem_flatMap.mp hmem
    obtain ⟨mapped, -, heq⟩ := Option.map_eq_some_iff.mp (Option.mem_toList.mp hdelivery)
    cases heq
  · rw [hbecomes.connectionNumber, hbecomes.connections]
    exact h.number
  · rw [hbecomes.trace, hbecomes.connectionNumber]
    exact hsources
  · unfold bufferedUpstreamMessages
    rw [hbecomes.pendingRequest, hbecomes.connectionNumber]
    exact hbuffered
  · obtain ⟨hmessages, hsources, -⟩ :=
      hpending after (hbecomes.pendingRequest.symm.trans hafter) huncommitted
    exact ⟨hmessages, hsources⟩
  · exact (hpending after (hbecomes.pendingRequest.symm.trans hafter) huncommitted).2.2

theorem Seamless.unnoticed (h : Seamless config codexOriginator s) :
    Unnoticed config codexOriginator s := ⟨h.lawful, fun _ => h⟩

theorem activeRequestCloseFailure_of_isPayload {pending : Bool} {message : Message}
    (known : Option WebsocketProxyOutcome) (hpayload : message.isPayload = true) :
    activeRequestCloseFailure pending message known = known := by
  cases message with
  | text | binary => simp [activeRequestCloseFailure]
  | _ => cases hpayload

/-- Only an event that ends a response without success is read as a failure. -/
theorem type_of_analyzeWebsocketTerminal {libs : Libraries} {now : Time} {json : Json}
    {classified : ClassifiedEventFailure}
    (h : analyzeWebsocketTerminal libs now json = some (.failed classified)) :
    getStr? json "type" ∈ [some "error", some "response.failed", some "response.incomplete"] := by
  unfold analyzeWebsocketTerminal at h
  dsimp only at h
  split at h
  next htype => simp [htype]
  next =>
    split at h
    next => simp at h
    next =>
      split at h
      next htype => simp [htype]
      next =>
        split at h
        next htype => simp [htype]
        next => cases h

/-- A failure is not read off a message that commits the request. -/
theorem not_commits_of_known {now : Time} {message : Message} {failure : UpstreamFailure}
    (hknown : failureOf? (s.knownSettlement config now message) = some failure) :
    upstreamMessageCommitsRequest config.libs message = false := by
  unfold knownSettlement at hknown
  cases message with
  | text text =>
    rw [activeRequestCloseFailure_of_isPayload _ rfl] at hknown
    simp only [classifyWebsocketUpstreamControlMessage, classifyWebsocketControlText] at hknown
    cases hterminal : analyzeWebsocketTerminalText config.libs now text with
    | none => simp [hterminal, failureOf?] at hknown
    | some terminal =>
      cases terminal with
      | success => simp [hterminal, WebsocketTerminal.outcome, failureOf?] at hknown
      | failed classified =>
        obtain ⟨json, hjson, hanalyzed⟩ := Option.bind_eq_some_iff.mp hterminal
        have htype := type_of_analyzeWebsocketTerminal hanalyzed
        simp only [upstreamMessageCommitsRequest, websocketMessageType, hjson, Option.bind_some]
        simp only [List.mem_cons, List.not_mem_nil, or_false] at htype
        rcases htype with htype | htype | htype <;> simp [htype]
  | binary =>
    rw [activeRequestCloseFailure_of_isPayload _ rfl] at hknown
    cases hknown
  | _ => rfl

/-- A control message is none that the client is answered with. -/
theorem lastSpan_control {trace : List Action} {message : UpstreamMessage}
    (hcontrol : message.message.isPayload = false) :
    lastSpan config codexOriginator (trace ++ deliveries [message]) =
      lastSpan config codexOriginator trace := by
  rw [deliveries_singleton]
  cases hmessage : message.message with
  | text | binary =>
    rw [hmessage] at hcontrol
    cases hcontrol
  | ping | pong | close => exact lastSpan_snoc
  | frame => simp [delivery, mapUpstreamMessageToClient]

theorem Undivided.notesFailure (h : Undivided config codexOriginator s)
    (known : Option WebsocketProxyOutcome) :
    Undivided config codexOriginator (s.notesFailure known) := by
  refine h.internal (becomes_notesFailure s known) (fun action hmem => ?_) (fun number _ => ?_)
    h.within
  · obtain ⟨failure, -, rfl⟩ := Option.map_eq_some_iff.mp (Option.mem_toList.mp hmem)
    trivial
  · refine sentTo_eq_nil fun message hmem => ?_
    obtain ⟨failure, -, heq⟩ := Option.map_eq_some_iff.mp (Option.mem_toList.mp hmem)
    cases heq

theorem Undivided.passesAndReturns {known : Option WebsocketProxyOutcome}
    {messages : List UpstreamMessage} {accountId : String} {ending : Ending}
    (h : Undivided config codexOriginator s)
    (hmessages : ∀ message ∈ messages, message.connection = s.connectionNumber)
    (hpassed : Passed s known messages (.returned accountId ending) pending t) :
    Unnoticed config codexOriginator t :=
  h.passed hmessages hpassed fun hbecomes => by
    rw [← List.append_nil (deliveries _)] at hbecomes
    exact h.returns hmessages (List.forall_mem_nil _) hbecomes

theorem unnoticed_of_handled {surroundings : Surroundings} {message : Message}
    {known : Option WebsocketProxyOutcome} (h : Undivided config codexOriginator s)
    (hcommitted : ∀ pending, s.pendingRequest = some pending → pending.committed = false →
      (lastSpan config codexOriginator s.trace).committed =
        upstreamMessageCommitsRequest config.libs message)
    (hfailure : ∀ failure, failureOf? known = some failure →
      upstreamMessageCommitsRequest config.libs message = false)
    (hhandled : Handled config s surroundings message known t) :
    Unnoticed config codexOriginator t := by
  cases hhandled with
  | reset huncommitted hpassed => exact h.passesAndReturns (h.offers message) hpassed
  | retried huncommitted hknown hretries hretry =>
    refine unnoticed_retryOrReturn ⟨h, fun pending hpending huncommitted' => ?_⟩ hretry
    rw [hcommitted pending hpending huncommitted', hfailure _ hknown]
  | @rejected failure huncommitted hknown hpassed =>
    have hnoted := h.notesFailure known
    exact hnoted.passesAndReturns (hnoted.offers message) hpassed
  | @waiting before hpending huncommitted hknown hreset hpassed =>
    have hbuffered := h.buffered
    rw [bufferedUpstreamMessages, hpending, Option.elim_some] at hbuffered
    have hoffers := h.offers message
    rw [offers, bufferedUpstreamMessages, hpending, Option.elim_some] at hoffers
    have hreplayed := h.replayed before hpending huncommitted
    have hcommitted' := hcommitted before hpending huncommitted
    unfold takesMessage at hpassed
    split at hpassed
    next hcommits =>
      refine h.passed hoffers hpassed fun hbecomes =>
        (h.delivers hoffers hbecomes ?_ fun after hafter huncommitted' => ?_).unnoticed
      · split <;> exact List.forall_mem_nil _
      · split at hafter
        · cases hafter
        · obtain rfl := Option.some.inj hafter
          cases huncommitted'
    next hcommits =>
      rw [Bool.eq_false_of_not_eq_true hcommits] at hcommitted'
      split at hpassed
      next hpayload =>
        refine h.passed (List.forall_mem_nil _) hpassed fun hbecomes =>
          (h.delivers (List.forall_mem_nil _) hbecomes ?_ fun after hafter _ => ?_).unnoticed
        · split
          · exact List.forall_mem_nil _
          · exact hoffers
        · split at hafter
          · cases hafter
          · obtain rfl := Option.some.inj hafter
            rw [hbecomes.trace, deliveries_nil, List.append_nil]
            exact ⟨hreplayed.1, hreplayed.2, hcommitted'⟩
      next hcontrol =>
        have hone : ∀ offered ∈ [(⟨s.connectionNumber, message⟩ : UpstreamMessage)],
            offered.connection = s.connectionNumber := List.forall_mem_singleton.mpr rfl
        refine h.passed hone hpassed fun hbecomes =>
          (h.delivers hone hbecomes ?_ fun after hafter _ => ?_).unnoticed
        · split
          · exact List.forall_mem_nil _
          · exact hbuffered
        · split at hafter
          · cases hafter
          · obtain rfl := Option.some.inj hafter
            rw [hbecomes.trace, lastSpan_control (Bool.eq_false_of_not_eq_true hcontrol)]
            exact ⟨hreplayed.1, hreplayed.2, hcommitted'⟩
  | passed hcommitted' hpassed =>
    have hnoted := h.notesFailure known
    have hnoting := becomes_notesFailure s known
    refine hnoted.passed (List.forall_mem_singleton.mpr rfl) hpassed fun hbecomes => ?_
    refine (hnoted.delivers (List.forall_mem_singleton.mpr rfl) hbecomes ?_
      fun after hafter huncommitted => ?_).unnoticed
    · split
      · exact List.forall_mem_nil _
      · exact hnoted.buffered
    · split at hafter
      · cases hafter
      · rw [hnoting.pendingRequest] at hafter
        have huncommitted' := hasPendingUncommitted_iff.mpr ⟨after, hafter, huncommitted⟩
        rw [hcommitted'] at huncommitted'
        cases huncommitted'

/-- A message that is received is no answer yet, but may be one that commits the request. -/
theorem lastSpan_received {trace : List Action} {message : UpstreamMessage} :
    let span := lastSpan config codexOriginator trace
    lastSpan config codexOriginator (trace ++ [.received message]) = { span with
      committed := span.committed || (normalizeUpstreamMessage config.libs codexOriginator
        message.message).any (upstreamMessageCommitsRequest config.libs) } := by
  intro span
  rw [lastSpan_snoc]
  simp only [Span.next]
  split
  next hcommits => simp [span, hcommits]
  next hcommits => simp [span, Bool.eq_false_of_not_eq_true hcommits]

theorem Undivided.receives {message : UpstreamMessage} (h : Undivided config codexOriginator s)
    (hbecomes : Becomes s t phase s.pendingRequest [.received message]) :
    Undivided config codexOriginator t where
  lawful := by
    rw [hbecomes.trace]
    exact h.lawful.snoc trivial
  originator := hbecomes.codexOriginator.trans h.originator
  fresh number hnumber := by
    rw [hbecomes.connections] at hnumber
    rw [hbecomes.trace, sentTo_append, h.fresh number hnumber]
    rfl
  number := by
    rw [hbecomes.connectionNumber, hbecomes.connections]
    exact h.number
  sources := by
    rw [hbecomes.trace, lastSpan_received, hbecomes.connectionNumber]
    exact h.sources
  buffered := by
    unfold bufferedUpstreamMessages
    rw [hbecomes.pendingRequest, hbecomes.connectionNumber]
    exact h.buffered
  replayed := by
    rw [hbecomes.trace, lastSpan_received, hbecomes.pendingRequest]
    exact h.replayed

theorem unnoticed_step {event : Event} (h : Unnoticed config codexOriginator s)
    (hstep : step config s event = some t) : Unnoticed config codexOriginator t := by
  cases round_of_step hstep with
  | upgradeFailed hphase hbecomes =>
    exact (h.2 (.inl hphase)).returns (List.forall_mem_nil _) (List.forall_mem_nil _) hbecomes
  | upgraded hphase hbecomes =>
    have hseamless := h.2 (.inl hphase)
    exact (hseamless.internal hbecomes (List.forall_mem_nil _) (fun _ _ => rfl)
      hseamless.within).unnoticed
  | settled hphase hbecomes =>
    refine ⟨?_, fun halive => ?_⟩
    · rw [hbecomes.trace]
      exact h.1.snoc trivial
    · rcases halive with halive | halive
      · cases hbecomes.phase.symm.trans halive
      · cases hbecomes.phase.symm.trans halive
  | skipped => exact h
  | closed hphase hending hactions hbecomes =>
    refine (h.2 (.inr hphase)).returns (List.forall_mem_nil _) (fun action hmem => ?_) hbecomes
    rcases List.mem_pair.mp (hactions hmem) with rfl | rfl <;> trivial
  | @accepted _ _ mapped _ _ _ sent hphase hmapped hsent hnext hbecomes =>
    have haccepted := (h.2 (.inr hphase)).accepts mapped
    refine (haccepted.internal hbecomes (fun action hmem => ?_) (fun number hnumber => ?_)
      haccepted.within).unnoticed
    · obtain rfl := List.mem_singleton.mp (hsent hmem)
      trivial
    · have hlt := (h.2 (.inr hphase)).number
      have hconnections := (becomes_acceptClientMessage config s mapped).connections
      refine sentTo_eq_nil fun message hmem => ?_
      have heq := (Action.sent.inj (List.mem_singleton.mp (hsent hmem))).1
      omega
  | @unsent _ _ mapped _ _ hphase hmapped hretry =>
    exact unnoticed_retryOrReturn ((h.2 (.inr hphase)).accepts mapped) hretry
  | broken hphase hmessage hretry => exact unnoticed_retryOrReturn (h.2 (.inr hphase)) hretry
  | dropped hphase hnormalized hbecomes =>
    have hseamless := h.2 (.inr hphase)
    rw [hseamless.originator] at hnormalized
    refine Seamless.unnoticed ⟨hseamless.toUndivided.receives hbecomes,
      fun pending hpending huncommitted => ?_⟩
    rw [hbecomes.pendingRequest] at hpending
    rw [hbecomes.trace, lastSpan_received, hnormalized,
      hseamless.uncommitted pending hpending huncommitted]
    rfl
  | @received _ message normalized _ hphase hnormalized hhandled =>
    have hseamless := h.2 (.inr hphase)
    rw [hseamless.originator] at hnormalized
    have hreceived := hseamless.toUndivided.receives
      (becomes_record s (.received ⟨s.connectionNumber, message⟩))
    refine unnoticed_of_handled hreceived (fun pending hpending huncommitted => ?_)
      (fun failure hknown => not_commits_of_known hknown) hhandled
    change (lastSpan config codexOriginator (s.trace ++ [_])).committed = _
    rw [lastSpan_received, hnormalized, hseamless.uncommitted pending hpending huncommitted]
    rfl

theorem unnoticed_opened (config : ProxyConfig) (headers : HeaderMap) (accountId : String)
    (connection : UpstreamWebsocketConnection) (clientTakes : ℕ) :
    Unnoticed config (responseShapeForHeaders headers == .codex)
      (opened headers accountId connection clientTakes) := by
  refine Seamless.unnoticed ⟨⟨⟨trivial, trivial⟩, ?_, fun _ _ => rfl, Nat.one_pos,
    List.forall_mem_nil _, List.forall_mem_nil _, fun _ hpending => ?_⟩, fun _ hpending => ?_⟩
  · simp only [opened, Session.codexOriginator, responseShape_applyTurnState]
  · cases hpending
  · cases hpending

/-- In every session, between two requests of the client: the Text and Binary messages that the
client is sent come from one connection, no switch happens once a message that commits the
request was received, and at a switch the connection that takes over has taken exactly the
client's Text and Binary messages since the last request, each request normalized with this
connection's own installation id. -/
theorem failover_transparent {headers : HeaderMap} {accountId : String}
    {connection : UpstreamWebsocketConnection} {clientTakes : ℕ}
    (hrun : Run (step config) anyEvent (opened headers accountId connection clientTakes) s) :
    let codexOriginator := responseShapeForHeaders headers == .codex
    (∀ (before : List Action) (number : ℕ) (message : Message) (after : List Action),
      s.trace = before ++ Action.delivered (.upstream number) message :: after →
      message.isPayload = true →
      ∀ source ∈ (lastSpan config codexOriginator before).sources, source = number) ∧
    (∀ (before : List Action) (number : ℕ) (installationId : Option String)
      (snapshot : Option ModelsSnapshot) (after : List Action),
      s.trace = before ++ Action.switched number installationId snapshot :: after →
      (lastSpan config codexOriginator before).committed = false ∧
        sentTo number before = (lastSpan config codexOriginator before).messages.map
          (upstreamForm config codexOriginator snapshot installationId)) := by
  intro codexOriginator
  have h : Unnoticed config codexOriginator s := hrun.invariant
    (fun _ _ _ h _ hstep => unnoticed_step h hstep)
    (unnoticed_opened config headers accountId connection clientTakes)
  exact ⟨fun before number message after heq => h.1.allowed_of_eq heq,
    fun before number installationId snapshot after heq => h.1.allowed_of_eq heq⟩

/-- The first connection fails before it has answered the request. -/
def unanswered : List Event :=
  [.upgraded, .client (some (.ok (.text createText))) exampleSurroundings,
    .upstream none exampleSurroundings]

/-- The second connection takes over and has taken the request. -/
theorem failover_transparent_unanswered :
    let s := stateAfter (step (exampleConfig "" .null)) exampleSession unanswered
    s.connectionNumber = 1 ∧ ∃ before after,
      s.trace = before ++ Action.switched 1 none none :: after ∧
        (lastSpan (exampleConfig "" .null) false before).committed = false ∧
        sentTo 1 before = (lastSpan (exampleConfig "" .null) false before).messages.map
          (upstreamForm (exampleConfig "" .null) false none none) := by
  intro s
  have hrun : Run (step (exampleConfig "" .null)) anyEvent exampleSession s :=
    .of_isSome (by decide +kernel)
  have htrace : s.trace = s.trace.dropLast ++ Action.switched 1 none none :: [] := rfl
  exact ⟨rfl, s.trace.dropLast, [], htrace, (failover_transparent hrun).2 _ _ _ _ _ htrace⟩

end Session

end Codaze.Websocket
