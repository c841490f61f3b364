import Codaze.Websocket.Session

/-!
# What a round leaves behind

Most of a round only sends, delivers and returns: `Becomes` says what such a part leaves of a
session, with the actions it adds to the trace. The rule `retryLoop_rule` is the induction over
the rounds of the retry loop.
-/
namespace Codaze.Websocket
open Foundation Accounts Responses Upstream

namespace Session

variable {config : ProxyConfig} {s t u : Session}

/-- A session with other messages in its sockets, in a phase, with a pending request and some
more actions. -/
structure Becomes (s t : Session) (phase : Phase) (pending : Option PendingWebsocketRequest)
    (actions : List Action) : Prop where
  phase : t.phase = phase
  pendingRequest : t.pendingRequest = pending
  trace : t.trace = s.trace ++ actions
  currentAccountId : t.currentAccountId = s.currentAccountId
  connectionNumber : t.connectionNumber = s.connectionNumber
  connections : t.connections = s.connections
  codexOriginator : t.codexOriginator = s.codexOriginator

theorem Becomes.refl (s : Session) : Becomes s s s.phase s.pendingRequest [] :=
  ⟨rfl, rfl, (List.append_nil _).symm, rfl, rfl, rfl, rfl⟩

theorem Becomes.trans {phase phase' : Phase} {pending pending' : Option PendingWebsocketRequest}
    {actions actions' : List Action} (h : Becomes s t phase pending actions)
    (h' : Becomes t u phase' pending' actions') :
    Becomes s u phase' pending' (actions ++ actions') where
  phase := h'.phase
  pendingRequest := h'.pendingRequest
  trace := by rw [h'.trace, h.trace, List.append_assoc]
  currentAccountId := h'.currentAccountId.trans h.currentAccountId
  connectionNumber := h'.connectionNumber.trans h.connectionNumber
  connections := h'.connections.trans h.connections
  codexOriginator := h'.codexOriginator.trans h.codexOriginator

theorem becomes_record (s : Session) (action : Action) :
    Becomes s (s.record action) s.phase s.pendingRequest [action] :=
      ⟨rfl, rfl, rfl, rfl, rfl, rfl, rfl⟩

/-- A session that has become another one returns as the account it had. -/
theorem Becomes.returns {phase : Phase} {pending : Option PendingWebsocketRequest}
    {actions : List Action} (h : Becomes s t phase pending actions) (ending : Ending) :
    Becomes s (t.returns ending) (.returned s.currentAccountId ending) pending actions where
  phase := congrArg (Phase.returned · ending) h.currentAccountId
  pendingRequest := h.pendingRequest
  trace := h.trace
  currentAccountId := h.currentAccountId
  connectionNumber := h.connectionNumber
  connections := h.connections
  codexOriginator := h.codexOriginator

theorem Becomes.modifyPending {phase : Phase} {pending : Option PendingWebsocketRequest}
    {actions : List Action} (h : Becomes s t phase pending actions)
    (f : PendingWebsocketRequest → PendingWebsocketRequest) :
    Becomes s (t.modifyPending f) phase (pending.map f) actions where
  phase := h.phase
  pendingRequest := congrArg (Option.map f) h.pendingRequest
  trace := h.trace
  currentAccountId := h.currentAccountId
  connectionNumber := h.connectionNumber
  connections := h.connections
  codexOriginator := h.codexOriginator

theorem Becomes.clears {phase : Phase} {pending : Option PendingWebsocketRequest}
    {actions : List Action} (h : Becomes s t phase pending actions) :
    Becomes s { t with pendingRequest := none } phase none actions :=
  ⟨h.phase, rfl, h.trace, h.currentAccountId, h.connectionNumber, h.connections, h.codexOriginator⟩

theorem becomes_sendUpstream (s : Session) (message : Message) :
    ∃ sent, sent ⊆ [Action.sent s.connectionNumber message] ∧
      Becomes s (s.sendUpstream message).2 s.phase s.pendingRequest sent := by
  unfold sendUpstream
  split
  · exact ⟨[], List.nil_subset _, .refl s⟩
  · exact ⟨_, List.Subset.refl _, ⟨rfl, rfl, rfl, rfl, rfl, rfl, rfl⟩⟩

theorem eq_of_sendUpstream_error {message : Message} {error : String}
    (h : s.sendUpstream message = (some error, t)) : t = s := by
  unfold sendUpstream at h
  split at h
  · exact (Prod.mk.inj h).2.symm
  · cases h

/-! ## Deliveries -/

/-- The delivery of a message that the client's socket took. -/
def delivery (source : Source) (message : Message) : List Action :=
  ((mapUpstreamMessageToClient message).map (Action.delivered source)).toList

/-- The deliveries of messages, one after the other. -/
def deliveries (messages : List UpstreamMessage) : List Action :=
  messages.flatMap fun message => delivery (.upstream message.connection) message.message

@[simp] theorem deliveries_nil : deliveries [] = [] := rfl

@[simp] theorem deliveries_append (messages messages' : List UpstreamMessage) :
    deliveries (messages ++ messages') = deliveries messages ++ deliveries messages' :=
  List.flatMap_append

@[simp] theorem deliveries_singleton (message : UpstreamMessage) :
    deliveries [message] = delivery (.upstream message.connection) message.message := by
  simp [deliveries]

theorem becomes_forwardUpstreamMessage (s : Session) (source : Source) (message : Message) :
    Becomes s (s.forwardUpstreamMessage source message).2 s.phase s.pendingRequest
      (if (s.forwardUpstreamMessage source message).1 then delivery source message else []) := by
  unfold forwardUpstreamMessage delivery
  cases hmapped : mapUpstreamMessageToClient message with
  | none => exact .refl s
  | some mapped =>
    dsimp only
    split
    · exact .refl s
    · exact ⟨rfl, rfl, rfl, rfl, rfl, rfl, rfl⟩

/-- The client took all of the messages, or some of them and then failed. -/
theorem becomes_flushBufferedUpstreamMessages (s : Session) (messages : List UpstreamMessage) :
    ∃ delivered, delivered <+: messages ∧
      ((s.flushBufferedUpstreamMessages messages).1 = true → delivered = messages) ∧
      Becomes s (s.flushBufferedUpstreamMessages messages).2 s.phase s.pendingRequest
        (deliveries delivered) := by
  induction messages generalizing s with
  | nil => exact ⟨[], List.prefix_refl [], fun _ => rfl, .refl s⟩
  | cons message messages ih =>
    have hforward := becomes_forwardUpstreamMessage s (.upstream message.connection) message.message
    unfold flushBufferedUpstreamMessages
    cases hsent : s.forwardUpstreamMessage (.upstream message.connection) message.message with
    | mk took s' =>
      rw [hsent] at hforward
      cases took with
      | false => exact ⟨[], List.nil_prefix, by simp, hforward⟩
      | true =>
        obtain ⟨delivered, hinitial, hall, hbecomes⟩ := ih s'
        refine ⟨message :: delivered, List.cons_prefix_cons.mpr ⟨rfl, hinitial⟩,
          fun htook => congrArg _ (hall htook), ?_⟩
        have htrans := hforward.trans hbecomes
        rw [hforward.phase, hforward.pendingRequest] at htrans
        exact htrans

/-- What becomes of a session that offers messages to the client: it goes on with all of them
delivered, or it has returned behind some of them. -/
def Offered (s : Session) (pending : Option PendingWebsocketRequest)
    (known : Option WebsocketProxyOutcome) (messages : List UpstreamMessage) :
    Except Session Session → Prop
  | .ok t => Becomes s t s.phase pending (deliveries messages)
  | .error t => ∃ delivered pending', delivered <+: messages ∧
      Becomes s t (.returned s.currentAccountId (.clientSendFailed known)) pending'
        (deliveries delivered)

theorem Offered.of_modifyPending {f : PendingWebsocketRequest → PendingWebsocketRequest}
    {pending : Option PendingWebsocketRequest} {known : Option WebsocketProxyOutcome}
    {messages : List UpstreamMessage} {result : Except Session Session}
    (h : Offered (s.modifyPending f) pending known messages result) :
    Offered s pending known messages result := by
  have hmodified := (Becomes.refl s).modifyPending f
  cases result with
  | ok t => exact hmodified.trans h
  | error t =>
    obtain ⟨delivered, pending', hinitial, hbecomes⟩ := h
    exact ⟨delivered, pending', hinitial, hmodified.trans hbecomes⟩

theorem offered_flushBufferedOrSettle (s : Session) (known : Option WebsocketProxyOutcome) :
    Offered s (s.pendingRequest.map PendingWebsocketRequest.flushed) known
      s.bufferedUpstreamMessages (s.flushBufferedOrSettle known) := by
  unfold flushBufferedOrSettle
  dsimp only
  have hcleared := (Becomes.refl s).modifyPending PendingWebsocketRequest.flushed
  obtain ⟨delivered, hinitial, hall, hbecomes⟩ := becomes_flushBufferedUpstreamMessages
    (s.modifyPending PendingWebsocketRequest.flushed) s.bufferedUpstreamMessages
  have htrans := hcleared.trans hbecomes
  split
  next t hflushed =>
    rw [hflushed] at hall htrans
    obtain rfl := hall rfl
    exact htrans
  next t hflushed =>
    rw [hflushed] at htrans
    exact ⟨delivered, _, hinitial, htrans.returns (.clientSendFailed known)⟩

theorem offered_forwardMessageOrSettle (s : Session) (message : UpstreamMessage)
    (known : Option WebsocketProxyOutcome) :
    Offered s s.pendingRequest known [message]
      (s.forwardMessageOrSettle (.upstream message.connection) message.message known) := by
  have hforward := becomes_forwardUpstreamMessage s (.upstream message.connection) message.message
  unfold forwardMessageOrSettle
  split
  next t hsent =>
    rw [hsent] at hforward
    simpa [Offered] using hforward
  next t hsent =>
    rw [hsent] at hforward
    exact ⟨[], _, List.nil_prefix, hforward.returns (.clientSendFailed known)⟩

/-- Messages are offered one after the other. -/
theorem Offered.bind {pending pending' : Option PendingWebsocketRequest}
    {known : Option WebsocketProxyOutcome} {messages messages' : List UpstreamMessage}
    {result : Except Session Session} {f : Session → Except Session Session}
    (h : Offered s pending known messages result)
    (hf : ∀ t, result = .ok t → Offered t pending' known messages' (f t)) :
    Offered s pending' known (messages ++ messages') (result.bind f) := by
  cases result with
  | error t =>
    obtain ⟨delivered, pending'', hinitial, hbecomes⟩ := h
    exact ⟨delivered, pending'', hinitial.trans (List.prefix_append _ _), hbecomes⟩
  | ok t =>
    have hf' := hf t rfl
    change Offered s pending' known (messages ++ messages') (f t)
    cases hnext : f t with
    | ok u =>
      rw [hnext] at hf'
      have htrans := h.trans hf'
      rw [← deliveries_append, h.phase] at htrans
      exact htrans
    | error u =>
      rw [hnext] at hf'
      obtain ⟨delivered, pending'', hinitial, hbecomes⟩ := hf'
      have htrans := h.trans hbecomes
      rw [← deliveries_append, h.currentAccountId] at htrans
      exact ⟨messages ++ delivered, pending'', (List.prefix_append_right_inj messages).mpr hinitial,
        htrans⟩

/-- What becomes of a session that passes messages on to the client. -/
def Passed (s : Session) (known : Option WebsocketProxyOutcome) (messages : List UpstreamMessage)
    (phase : Phase) (pending : Option PendingWebsocketRequest) (t : Session) : Prop :=
  Becomes s t phase pending (deliveries messages) ∨
    ∃ delivered pending', delivered <+: messages ∧
      Becomes s t (.returned s.currentAccountId (.clientSendFailed known)) pending'
        (deliveries delivered)

/-- What is buffered before a message, with the message. -/
def offers (s : Session) (message : Message) : List UpstreamMessage :=
  s.bufferedUpstreamMessages ++ [⟨s.connectionNumber, message⟩]

theorem passed_deliverAndReturn (s : Session) (message : Message)
    (known : Option WebsocketProxyOutcome) (ending : Ending) :
    Passed s known (s.offers message) (.returned s.currentAccountId ending)
      (s.pendingRequest.map PendingWebsocketRequest.flushed)
      (s.deliverAndReturn message known ending) := by
  have hflushed := offered_flushBufferedOrSettle s known
  have hforward : ∀ t, s.flushBufferedOrSettle known = .ok t →
      Offered t (s.pendingRequest.map PendingWebsocketRequest.flushed) known
        [⟨s.connectionNumber, message⟩]
        (t.forwardMessageOrSettle (.upstream t.connectionNumber) message known) := by
    intro t ht
    rw [ht] at hflushed
    rw [← hflushed.pendingRequest, ← hflushed.connectionNumber]
    exact offered_forwardMessageOrSettle t ⟨t.connectionNumber, message⟩ known
  have hoffered := hflushed.bind hforward
  unfold deliverAndReturn
  split
  next t hok =>
    rw [hok] at hoffered
    exact .inl (hoffered.returns ending)
  next t herror =>
    rw [herror] at hoffered
    exact .inr hoffered

/-! ## Messages before and after the commit -/

/-- An uncommitted request behind a message that is no failure, with what the client is
offered. -/
def takesMessage (config : ProxyConfig) (pending : PendingWebsocketRequest)
    (message : UpstreamMessage) : PendingWebsocketRequest × List UpstreamMessage :=
  if upstreamMessageCommitsRequest config.libs message.message then
    ({ pending with committed := true, bufferedUpstreamMessages := [] },
      pending.bufferedUpstreamMessages ++ [message])
  else if shouldBufferUpstreamMessageBeforeCommit message.message then
    ({ pending with bufferedUpstreamMessages := pending.bufferedUpstreamMessages ++ [message] }, [])
  else (pending, [message])

theorem triedAccounts_takesMessage (config : ProxyConfig) (pending : PendingWebsocketRequest)
    (message : UpstreamMessage) :
    (takesMessage config pending message).1.triedAccounts = pending.triedAccounts := by
  unfold takesMessage
  split
  · rfl
  · split <;> rfl

/-- The phase of a session that has passed a message on. -/
def phaseBehind (s : Session) (known : Option WebsocketProxyOutcome) : Phase :=
  match known with
  | some outcome => .returned s.currentAccountId (.terminal outcome)
  | none => s.phase

/-- A message before the commit is buffered or offered, and behind the commit comes what was
buffered. -/
theorem offered_takePrecommitMessage (config : ProxyConfig) {pending : PendingWebsocketRequest}
    (message : Message) (known : Option WebsocketProxyOutcome)
    (hpending : s.pendingRequest = some pending) :
    Offered s (some (takesMessage config pending ⟨s.connectionNumber, message⟩).1) known
      (takesMessage config pending ⟨s.connectionNumber, message⟩).2
      (s.takePrecommitMessage config message known) := by
  unfold takePrecommitMessage takesMessage
  have hbuffered := (Becomes.refl s).modifyPending fun pending =>
    { pending with bufferedUpstreamMessages :=
        pending.bufferedUpstreamMessages ++ [⟨s.connectionNumber, message⟩] }
  cases hcommits : upstreamMessageCommitsRequest config.libs message with
  | true =>
    have hpayload : shouldBufferUpstreamMessageBeforeCommit message = true :=
      isPayload_of_commits hcommits
    have hflushed := offered_flushBufferedOrSettle ((s.modifyPending fun pending =>
      { pending with bufferedUpstreamMessages :=
          pending.bufferedUpstreamMessages ++ [⟨s.connectionNumber, message⟩] }).modifyPending
        fun pending => { pending with committed := true }) known
    have hoffered := hflushed.of_modifyPending.of_modifyPending
    simp only [modifyPending, bufferedUpstreamMessages, hpending, Option.map_some,
      Option.elim_some] at hoffered
    simp only [hpayload, if_true, Except.bind, modifyPending, hpending, Option.map_some]
    exact hoffered
  | false =>
    cases hbuffers : shouldBufferUpstreamMessageBeforeCommit message with
    | true =>
      rw [hpending] at hbuffered
      exact hbuffered
    | false =>
      have hforward := offered_forwardMessageOrSettle s ⟨s.connectionNumber, message⟩ known
      rw [hpending] at hforward
      exact hforward.bind fun t ht => by
        rw [ht] at hforward
        exact hforward.pendingRequest ▸ Becomes.refl t

theorem passed_onPrecommitMessage (config : ProxyConfig) {pending : PendingWebsocketRequest}
    (message : Message) (known : Option WebsocketProxyOutcome)
    (hpending : s.pendingRequest = some pending) :
    Passed s known (takesMessage config pending ⟨s.connectionNumber, message⟩).2
      (if upstreamMessageIsTerminal config.libs message then s.phaseBehind known else s.phase)
      (if upstreamMessageIsTerminal config.libs message then none
        else some (takesMessage config pending ⟨s.connectionNumber, message⟩).1)
      (s.onPrecommitMessage config message known) := by
  have htaken := offered_takePrecommitMessage config message known hpending
  unfold onPrecommitMessage
  cases hresult : s.takePrecommitMessage config message known with
  | error t =>
    rw [hresult] at htaken
    exact .inr htaken
  | ok t =>
    rw [hresult] at htaken
    refine .inl ?_
    cases hterminal : upstreamMessageIsTerminal config.libs message with
    | false => simpa [hterminal, Offered] using htaken
    | true =>
      have hcleared := Becomes.clears htaken
      cases known with
      | none => simpa [hterminal, phaseBehind] using hcleared
      | some outcome => simpa [hterminal, phaseBehind] using hcleared.returns (.terminal outcome)

theorem passed_onOtherMessage (config : ProxyConfig) (s : Session) (message : Message)
    (known : Option WebsocketProxyOutcome) :
    Passed s known [⟨s.connectionNumber, message⟩] (s.phaseBehind known)
      (if known = none ∧ upstreamMessageIsTerminal config.libs message = true then none
        else s.pendingRequest)
      (s.onOtherMessage config message known) := by
  have hforward := offered_forwardMessageOrSettle s ⟨s.connectionNumber, message⟩ known
  unfold onOtherMessage
  cases hsent : s.forwardMessageOrSettle (.upstream s.connectionNumber) message known with
  | error t =>
    rw [hsent] at hforward
    exact .inr hforward
  | ok t =>
    rw [hsent] at hforward
    refine .inl ?_
    cases known with
    | some outcome => simpa [phaseBehind] using hforward.returns (.terminal outcome)
    | none =>
      cases hterminal : upstreamMessageIsTerminal config.libs message with
      | true => simpa [phaseBehind, hterminal] using hforward.clears
      | false => simpa [phaseBehind, hterminal, Offered] using hforward

/-! ## The retry loop -/

theorem replayBufferedRequestMessages_ok {form : Message → Message}
    {connection connection' : UpstreamWebsocketConnection} {messages taken : List Message}
    (h : replayBufferedRequestMessages form connection messages = (none, connection', taken)) :
    taken = messages.map form ∧ connection'.installationId = connection.installationId := by
  induction messages generalizing connection taken with
  | nil =>
    simp only [replayBufferedRequestMessages, Prod.mk.injEq, true_and] at h
    obtain ⟨rfl, rfl⟩ := h
    exact ⟨rfl, rfl⟩
  | cons message messages ih =>
    unfold replayBufferedRequestMessages at h
    split at h
    · simp at h
    · simp only [Prod.mk.injEq] at h
      obtain ⟨herror, rfl, rfl⟩ := h
      obtain ⟨htaken, hinstallation⟩ := ih (Prod.ext herror rfl)
      exact ⟨congrArg _ htaken, hinstallation⟩

/-- A turn state does not change the shape of the responses. -/
theorem responseShape_applyTurnState (headers : HeaderMap) (turnState : Option String)
    (allow : Bool) :
    responseShapeForHeaders (applyTurnStateToRequestHeaders headers turnState allow) =
      responseShapeForHeaders headers := by
  have hname : "x-codex-turn-state" ≠ "originator" := by decide
  unfold applyTurnStateToRequestHeaders insertHeader
  split
  next =>
    split
    · split
      · simp only [responseShapeForHeaders, HeaderMap.get_eq_head?,
          HeaderMap.getAll_insert_of_ne hname]
      · rfl
    · rfl
  next => rfl

/-- The failure is settled, whether or not the settlement panics behind it. -/
theorem state_applyWebsocketAccountFailure (s : Session) (moment : Moment) (accountId : String)
    (failure : UpstreamFailure) :
    (s.applyWebsocketAccountFailure moment accountId failure).state =
      s.record (.settled accountId failure.outcome.settlement) := by
  unfold applyWebsocketAccountFailure
  dsimp only
  split <;> rfl

/-- What a replay that failed leaves of a session. -/
def replayFailed (s : Session) (accountId : String) (taken : List Message)
    (failure : UpstreamFailure) : Session :=
  ((s.replays accountId taken).record (.failed accountId failure.outcome)).record
    (.settled accountId failure.outcome.settlement)

/-- What the retry loop ends with, where `P` holds of the session and the accounts tried before
its last round. -/
def RetryEnds (config : ProxyConfig) (now : Time) (requestMessages : List Message)
    (P : Session → Finset String → Prop) : RetryResult → Prop
  | .switched t accountId number connection snapshot => ∃ u tried tried', P u tried ∧
      tried ⊆ tried' ∧ accountId ∉ tried' ∧ number = u.connections ∧
      t = (u.replays accountId (requestMessages.map (upstreamForm config u.codexOriginator snapshot
        connection.installationId))).withTried tried'
  | .noReplacement t message => ∃ u tried tried' failure, P u tried ∧ tried ⊆ tried' ∧
      t = u.withTried tried' ∧
      message = websocketErrorMessageForFailoverFailure config.libs now failure
  | .panicked t => ∃ u tried tried', P u tried ∧ (t = u ∨ t = u.withTried tried')

/-- The induction over the rounds of the retry loop: what holds before it and behind every
failed replay holds where it ends. -/
theorem retryLoop_rule {P : Session → Finset String → Prop} {now : Time}
    {requestMessages : List Message} {tried : Finset String} {attempts : List Attempt}
    {result : RetryResult}
    (hreplay : ∀ s tried tried' accountId taken failure, P s tried → tried ⊆ tried' →
      accountId ∉ tried' → P (s.replayFailed accountId taken failure) (insert accountId tried'))
    (hstart : P s tried)
    (h : s.retryLoop config now requestMessages tried attempts = some result) :
    RetryEnds config now requestMessages P result := by
  induction attempts generalizing s tried with
  | nil => cases h
  | cons attempt attempts ih =>
    unfold retryLoop at h
    split at h
    next => cases h
    next tried' _ =>
      obtain rfl := Option.some.inj h
      exact ⟨s, tried, tried', hstart, .inr rfl⟩
    next tried' hrefused =>
      obtain rfl := Option.some.inj h
      exact ⟨s, tried, tried', attempt.failure, hstart,
        Failover.connectWithFailover_tried hrefused, rfl, rfl⟩
    next accountId tried' hconnected =>
      have htried := Failover.connectWithFailover_tried hconnected
      have huntried := Failover.connectWithFailover_connected hconnected
      dsimp only at h
      split at h
      next hreplayed =>
        obtain rfl := Option.some.inj h
        obtain ⟨htaken, hinstallation⟩ := replayBufferedRequestMessages_ok (Prod.ext hreplayed rfl)
        refine ⟨s, tried, tried', hstart, htried, huntried, rfl, ?_⟩
        rw [htaken, hinstallation]
      next error hreplayed =>
        have hreplayFailed := hreplay _ _ _ accountId (replayBufferedRequestMessages
          (upstreamForm config s.codexOriginator attempt.snapshot attempt.connection.installationId)
          attempt.connection requestMessages).2.2 (streamFailure error) hstart htried huntried
        split at h
        next t hreturned =>
          have ht := congrArg Outcome.state hreturned
          rw [state_applyWebsocketAccountFailure] at ht
          subst ht
          exact ih hreplayFailed h
        next t hpanicked =>
          have ht := congrArg Outcome.state hpanicked
          rw [state_applyWebsocketAccountFailure] at ht
          subst ht
          obtain rfl := Option.some.inj h
          exact ⟨_, _, ∅, hreplayFailed, .inl rfl⟩

/-- What a switch leaves of a session whose replay has succeeded. -/
structure Switches (s : Session) (tried : Finset String) (t : Session) (failure : UpstreamFailure)
    (accountId : String) (number : ℕ) (installationId : Option String)
    (snapshot : Option ModelsSnapshot) : Prop where
  phase : t.phase = s.phase
  pendingRequest : t.pendingRequest = (s.withTried tried).pendingRequest.map
    PendingWebsocketRequest.flushed
  trace : t.trace = s.trace ++ [.settled s.currentAccountId failure.outcome.settlement,
    .switched number installationId snapshot]
  currentAccountId : t.currentAccountId = accountId
  connectionNumber : t.connectionNumber = number
  connections : t.connections = s.connections
  codexOriginator : t.codexOriginator = s.codexOriginator

/-- What the retry of a failed connection leaves, where `P` holds of the session and the accounts
tried before the last round of the retry loop. -/
inductive Retried (config : ProxyConfig) (s : Session) (failure : UpstreamFailure)
    (P : Session → Finset String → Prop) : Session → Prop
  | returned {t : Session} (hpending : s.hasPendingUncommitted = false)
      (hbecomes : Becomes s t (.returned s.currentAccountId (.upstreamFailed failure))
        s.pendingRequest [.failed s.currentAccountId failure.outcome]) :
      Retried config s failure P t
  | refused {t u : Session} {tried tried' : Finset String} {now : Time} {cause : FailoverFailure}
      (hlast : P u tried) (htried : tried ⊆ tried')
      (hbecomes : Becomes (u.withTried tried') t
        (.returned u.currentAccountId (.upstreamFailed failure))
        ((u.withTried tried').pendingRequest.map PendingWebsocketRequest.flushed)
        (deliveries (u.withTried tried').bufferedUpstreamMessages ++
          (websocketErrorMessageForFailoverFailure config.libs now cause).elim []
            (delivery .gateway))) :
      Retried config s failure P t
  | undelivered {t u : Session} {tried tried' : Finset String} {delivered : List UpstreamMessage}
      {pending : Option PendingWebsocketRequest} (hlast : P u tried) (htried : tried ⊆ tried')
      (hinitial : delivered <+: (u.withTried tried').bufferedUpstreamMessages)
      (hbecomes : Becomes (u.withTried tried') t
        (.returned u.currentAccountId (.clientSendFailed (some failure.outcome))) pending
        (deliveries delivered)) :
      Retried config s failure P t
  | switched {t u : Session} {tried tried' : Finset String} {pending : PendingWebsocketRequest}
      {accountId : String} {snapshot : Option ModelsSnapshot} {installationId : Option String}
      (hpending : s.pendingRequest = some pending) (huncommitted : pending.committed = false)
      (hlast : P u tried) (htried : tried ⊆ tried') (huntried : accountId ∉ tried')
      (hswitches : Switches (u.replays accountId (pending.requestMessages.map
        (upstreamForm config u.codexOriginator snapshot installationId))) tried' t
        failure accountId u.connections installationId snapshot) :
      Retried config s failure P t
  | panicked {t u : Session} {tried : Finset String} {rest : List Action} (hlast : P u tried)
      (hphase : t.phase = .panicked) (htrace : t.trace = u.trace ++ rest)
      (hrest : rest = [] ∨ ∃ (accountId : String) (taken : List Message)
        (settlement : Failover.AccountSettlement), rest = (Action.selected accountId ::
          taken.map (Action.sent u.connections)) ++ [.settled u.currentAccountId settlement]) :
      Retried config s failure P t

theorem switched_applyWebsocketRetrySwitch (s : Session) (tried : Finset String) (moment : Moment)
    (failure : UpstreamFailure) (accountId : String) (number : ℕ)
    (connection : UpstreamWebsocketConnection) (snapshot : Option ModelsSnapshot) :
    let t := (s.withTried tried).applyWebsocketRetrySwitch moment failure accountId number
      connection snapshot
    Switches s tried t failure accountId number connection.installationId snapshot ∨
      t.phase = .panicked ∧
        t.trace = s.trace ++ [.settled s.currentAccountId failure.outcome.settlement] := by
  intro t
  have hstate := state_applyWebsocketAccountFailure (s.withTried tried) moment
    (s.withTried tried).currentAccountId failure
  simp only [t, applyWebsocketRetrySwitch]
  split
  next u hpanicked =>
    rw [hpanicked] at hstate
    obtain rfl := hstate
    exact .inr ⟨rfl, rfl⟩
  next u hreturned =>
    rw [hreturned] at hstate
    obtain rfl := hstate
    refine .inl ⟨rfl, rfl, ?_, rfl, rfl, rfl, ?_⟩
    · simp [record, modifyPending, withTried]
    · simp only [codexOriginator, record, modifyPending, withTried, responseShape_applyTurnState]

/-- A session that could not replace a failed connection has returned, with what was buffered and
the gateway's own message delivered or behind some of them. -/
theorem becomes_deliverPendingRetryFailure (s : Session) (message : Option Message)
    (failure : UpstreamFailure) :
    let t := match s.deliverPendingRetryFailureOrSettle message (some failure.outcome) with
      | .ok s => s.returns (.upstreamFailed failure)
      | .error s => s
    Becomes s t (.returned s.currentAccountId (.upstreamFailed failure))
        (s.pendingRequest.map PendingWebsocketRequest.flushed)
        (deliveries s.bufferedUpstreamMessages ++ message.elim [] (delivery .gateway)) ∨
      ∃ delivered pending, delivered <+: s.bufferedUpstreamMessages ∧
        Becomes s t (.returned s.currentAccountId (.clientSendFailed (some failure.outcome)))
          pending (deliveries delivered) := by
  intro t
  have hflushed := offered_flushBufferedOrSettle s (some failure.outcome)
  simp only [t, deliverPendingRetryFailureOrSettle]
  cases hresult : s.flushBufferedOrSettle (some failure.outcome) with
  | error u =>
    rw [hresult] at hflushed
    exact .inr hflushed
  | ok u =>
    rw [hresult] at hflushed
    cases message with
    | none => exact .inl ((List.append_nil _).symm ▸ hflushed.returns (.upstreamFailed failure))
    | some message =>
      have hforward := hflushed.trans (becomes_forwardUpstreamMessage u .gateway message)
      rw [hflushed.phase, hflushed.pendingRequest] at hforward
      simp only [Except.bind, forwardMessageOrSettle]
      cases hsent : u.forwardUpstreamMessage .gateway message with
      | mk took v =>
        rw [hsent] at hforward
        cases took with
        | true => exact .inl (hforward.returns (.upstreamFailed failure))
        | false =>
          have hbehind := hforward.returns (.clientSendFailed (some failure.outcome))
          rw [if_neg Bool.false_ne_true, List.append_nil] at hbehind
          exact .inr ⟨_, _, List.prefix_refl _, hbehind⟩

theorem hasPendingUncommitted_iff :
    s.hasPendingUncommitted = true ↔
      ∃ pending, s.pendingRequest = some pending ∧ pending.committed = false := by
  cases hpending : s.pendingRequest <;> simp [hasPendingUncommitted, hpending]

theorem retried_retryOrReturn {P : Session → Finset String → Prop} {surroundings : Surroundings}
    {failure : UpstreamFailure}
    (hreplay : ∀ s tried tried' accountId taken failure, P s tried → tried ⊆ tried' →
      accountId ∉ tried' → P (s.replayFailed accountId taken failure) (insert accountId tried'))
    (hstart : ∀ pending, s.pendingRequest = some pending → pending.committed = false →
      P (s.record (.failed s.currentAccountId failure.outcome))
        (insert s.currentAccountId pending.triedAccounts))
    (h : s.retryOrReturn config surroundings failure = some t) :
    Retried config s failure P t := by
  unfold retryOrReturn at h
  dsimp only at h
  split at h
  next huncommitted =>
    obtain ⟨pending, hpending, hcommitted⟩ := hasPendingUncommitted_iff.mp huncommitted
    have hpending' : s.pendingRequest = some pending := hpending
    obtain ⟨result, hresult, rfl⟩ := Option.map_eq_some_iff.mp h
    have hends : RetryEnds config surroundings.now pending.requestMessages P result := by
      unfold retryPendingWebsocketRequest at hresult
      simp only [hpending] at hresult
      exact retryLoop_rule hreplay (hstart pending hpending' hcommitted) hresult
    cases result with
    | switched v accountId number connection snapshot =>
      obtain ⟨u, tried, tried', hlast, htried, huntried, rfl, rfl⟩ := hends
      rcases switched_applyWebsocketRetrySwitch (u.replays accountId (pending.requestMessages.map
        (upstreamForm config u.codexOriginator snapshot connection.installationId))) tried'
        surroundings.settling failure accountId u.connections connection snapshot with
        hswitches | ⟨hphase, htrace⟩
      · exact .switched hpending' hcommitted hlast htried huntried hswitches
      · exact .panicked hlast hphase (htrace.trans (List.append_assoc ..))
          (.inr ⟨accountId, _, _, rfl⟩)
    | noReplacement v message =>
      obtain ⟨u, tried, tried', cause, hlast, htried, rfl, rfl⟩ := hends
      rcases becomes_deliverPendingRetryFailure (u.withTried tried')
        (websocketErrorMessageForFailoverFailure config.libs surroundings.now cause) failure with
        hbecomes | ⟨delivered, pending', hinitial, hbecomes⟩
      · exact .refused hlast htried hbecomes
      · exact .undelivered hlast htried hinitial hbecomes
    | panicked v =>
      obtain ⟨u, tried, tried', hlast, rfl | rfl⟩ := hends
      · exact .panicked hlast rfl (List.append_nil _).symm (.inl rfl)
      · exact .panicked hlast rfl (List.append_nil _).symm (.inl rfl)
  next huncommitted =>
    obtain rfl := Option.some.inj h
    exact .returned (Bool.eq_false_of_not_eq_true huncommitted)
      ((becomes_record s _).returns (.upstreamFailed failure))

/-! ## Failures that are settled in time -/

/-- The rounds of the retry loop settle their failures in time. -/
def attemptsInTime (config : ProxyConfig) : Finset String → List Attempt → Prop
  | _, [] => True
  | tried, attempt :: attempts =>
    Failover.ScriptInTime config.failover (.new .holdUntilCaller tried) .starting attempt.script ∧
      ∀ accountId tried', Failover.connectWithFailover config.failover tried attempt.script =
          some (.connected accountId, tried') →
        attempt.settling.store.SettlesInTime attempt.settling.now accountId .temporaryFailure none ∧
          attemptsInTime config (insert accountId tried') attempts

instance decidableAttemptsInTime (config : ProxyConfig) :
    (tried : Finset String) → (attempts : List Attempt) →
      Decidable (attemptsInTime config tried attempts)
  | _, [] => .isTrue trivial
  | tried, attempt :: attempts =>
    match hconnected : Failover.connectWithFailover config.failover tried attempt.script with
    | some (.connected accountId, tried') =>
      have := decidableAttemptsInTime config (insert accountId tried') attempts
      decidable_of_iff
        (Failover.ScriptInTime config.failover (.new .holdUntilCaller tried) .starting
          attempt.script ∧
          attempt.settling.store.SettlesInTime attempt.settling.now accountId .temporaryFailure
            none ∧ attemptsInTime config (insert accountId tried') attempts)
        (by simp [attemptsInTime, hconnected])
    | none | some (.refused, _) | some (.panicked, _) =>
      decidable_of_iff
        (Failover.ScriptInTime config.failover (.new .holdUntilCaller tried) .starting
          attempt.script)
        (by simp [attemptsInTime, hconnected])

/-- If the failure of the current connection leads to a retry, all failures are settled in
time. -/
def retryInTime (config : ProxyConfig) (s : Session) (surroundings : Surroundings)
    (failure : UpstreamFailure) : Prop :=
  ∀ pending, s.pendingRequest = some pending → pending.committed = false →
    attemptsInTime config (insert s.currentAccountId pending.triedAccounts)
        surroundings.attempts ∧
      surroundings.settling.store.SettlesInTime surroundings.settling.now s.currentAccountId
        failure.failure failure.retryAfter

instance (config : ProxyConfig) (s : Session) (surroundings : Surroundings)
    (failure : UpstreamFailure) : Decidable (s.retryInTime config surroundings failure) :=
  inferInstanceAs (Decidable (∀ pending ∈ s.pendingRequest, pending.committed = false → _ ∧ _))

/-- No failure that a round settles sets a deadline that cannot be represented. The moments of
settlements that a round does not make are free. -/
def settlesInTime (config : ProxyConfig) (s : Session) : Event → Prop
  | .client (some (.ok message)) surroundings =>
    ∀ mapped ∈ mapClientMessageToUpstream message,
      (s.acceptClientMessage config mapped).retryInTime config surroundings (streamFailure "")
  | .upstream (some (.ok message)) surroundings =>
    ∀ normalized ∈ normalizeUpstreamMessage config.libs s.codexOriginator message,
      ∀ failure ∈ failureOf? (s.knownSettlement config surroundings.now normalized),
        s.retryInTime config surroundings failure
  | .upstream _ surroundings => s.retryInTime config surroundings (streamFailure "")
  | _ => True

instance (config : ProxyConfig) (s : Session) (event : Event) :
    Decidable (settlesInTime config s event) := by
  unfold settlesInTime
  split <;> infer_instance

theorem applyWebsocketAccountFailure_returned {moment : Moment} {accountId : String}
    {failure : UpstreamFailure}
    (hintime : moment.store.SettlesInTime moment.now accountId failure.failure failure.retryAfter) :
    s.applyWebsocketAccountFailure moment accountId failure =
      .returned (s.record (.settled accountId failure.outcome.settlement)) := by
  obtain ⟨store, hreturned⟩ := (@AccountStore.completes_markRequestFailure_iff moment.store
    moment.now accountId failure.failure failure.retryAfter failure.details).mpr hintime
  simp only [applyWebsocketAccountFailure, hreturned]
  rfl

theorem phase_applyWebsocketRetrySwitch {moment : Moment} {failure : UpstreamFailure}
    {accountId : String} {number : ℕ} {connection : UpstreamWebsocketConnection}
    {snapshot : Option ModelsSnapshot}
    (hintime : moment.store.SettlesInTime moment.now s.currentAccountId failure.failure
      failure.retryAfter) :
    (s.applyWebsocketRetrySwitch moment failure accountId number connection snapshot).phase =
      s.phase := by
  unfold applyWebsocketRetrySwitch
  rw [applyWebsocketAccountFailure_returned hintime]
  rfl

theorem retryLoop_ne_panicked {now : Time} {requestMessages : List Message}
    {tried : Finset String} {attempts : List Attempt}
    (hintime : attemptsInTime config tried attempts) :
    s.retryLoop config now requestMessages tried attempts ≠ some (.panicked t) := by
  intro h
  induction attempts generalizing s tried with
  | nil => cases h
  | cons attempt attempts ih =>
    unfold retryLoop at h
    split at h
    next => cases h
    next tried' hpanicked =>
      exact Failover.connectWithFailover_ne_panicked hintime.1 hpanicked
    next => cases h
    next accountId tried' hconnected =>
      obtain ⟨hsettles, hrest⟩ := hintime.2 accountId tried' hconnected
      dsimp only at h
      split at h
      next => cases h
      next error _ =>
        rw [applyWebsocketAccountFailure_returned hsettles] at h
        exact ih hrest h

theorem phase_ne_panicked_of_retryOrReturn {surroundings : Surroundings} {failure : UpstreamFailure}
    (hphase : s.phase = .proxying) (hintime : s.retryInTime config surroundings failure)
    (h : s.retryOrReturn config surroundings failure = some t) : t.phase ≠ .panicked := by
  unfold retryOrReturn at h
  dsimp only at h
  split at h
  next huncommitted =>
    obtain ⟨pending, hpending, hcommitted⟩ := hasPendingUncommitted_iff.mp huncommitted
    obtain ⟨hattempts, hsettles⟩ := hintime pending hpending hcommitted
    obtain ⟨result, hresult, rfl⟩ := Option.map_eq_some_iff.mp h
    unfold retryPendingWebsocketRequest at hresult
    simp only [hpending] at hresult
    let P := fun (u : Session) (_ : Finset String) =>
      u.phase = .proxying ∧ u.currentAccountId = s.currentAccountId
    have hstart : P (s.record (.failed s.currentAccountId failure.outcome))
        (insert s.currentAccountId pending.triedAccounts) := ⟨hphase, rfl⟩
    have hends := retryLoop_rule (fun _ _ _ _ _ _ h _ _ => h) hstart hresult
    cases result with
    | switched v accountId number connection snapshot =>
      obtain ⟨u, tried, tried', ⟨hproxying, haccount⟩, -, -, -, rfl⟩ := hends
      rw [← haccount] at hsettles
      have hswitched := @phase_applyWebsocketRetrySwitch ((u.replays accountId
        (pending.requestMessages.map (upstreamForm config u.codexOriginator snapshot
          connection.installationId))).withTried tried') surroundings.settling failure accountId
        number connection snapshot hsettles
      intro hpanicked
      have hphase' : u.phase = .panicked := hswitched.symm.trans hpanicked
      cases hproxying.symm.trans hphase'
    | noReplacement v message =>
      have hbecomes := becomes_deliverPendingRetryFailure v message failure
      rcases hbecomes with hbecomes | ⟨_, _, -, hbecomes⟩
      · exact hbecomes.phase ▸ by simp
      · exact hbecomes.phase ▸ by simp
    | panicked v => exact absurd hresult (retryLoop_ne_panicked hattempts)
  next =>
    obtain rfl := Option.some.inj h
    simp [returns]

/-! ## One round -/

theorem becomes_notesFailure (s : Session) (known : Option WebsocketProxyOutcome) :
    Becomes s (s.notesFailure known) s.phase s.pendingRequest
      ((failureOf? known).map fun failure =>
        Action.failed s.currentAccountId failure.outcome).toList := by
  unfold notesFailure
  cases failureOf? known with
  | none => exact .refl s
  | some failure => exact becomes_record s _

/-- What becomes of an upstream message. -/
inductive Handled (config : ProxyConfig) (s : Session) (surroundings : Surroundings)
    (message : Message) (known : Option WebsocketProxyOutcome) : Session → Prop
  | reset {t : Session} (huncommitted : s.hasPendingUncommitted = true)
      (hpassed : Passed s none (s.offers message) (.returned s.currentAccountId .reset)
        (s.pendingRequest.map PendingWebsocketRequest.flushed) t) :
      Handled config s surroundings message known t
  | retried {t : Session} {failure : UpstreamFailure}
      (huncommitted : s.hasPendingUncommitted = true) (hknown : failureOf? known = some failure)
      (hretries : shouldFailoverPrecommitFailure failure
        (classifyWebsocketUpstreamTerminalFailure config.libs surroundings.now message) = true)
      (h : s.retryOrReturn config surroundings failure = some t) :
      Handled config s surroundings message known t
  | rejected {t : Session} {failure : UpstreamFailure}
      (huncommitted : s.hasPendingUncommitted = true) (hknown : failureOf? known = some failure)
      (hpassed : Passed (s.notesFailure known) known ((s.notesFailure known).offers message)
        (.returned (s.notesFailure known).currentAccountId (.terminal failure.outcome))
        ((s.notesFailure known).pendingRequest.map PendingWebsocketRequest.flushed) t) :
      Handled config s surroundings message known t
  | waiting {t : Session} {pending : PendingWebsocketRequest}
      (hpending : s.pendingRequest = some pending) (huncommitted : pending.committed = false)
      (hknown : failureOf? known = none)
      (hreset : shouldPassthroughRetryableWebsocketReset config.libs true message = false)
      (hpassed : Passed s known (takesMessage config pending ⟨s.connectionNumber, message⟩).2
        (if upstreamMessageIsTerminal config.libs message then s.phaseBehind known else s.phase)
        (if upstreamMessageIsTerminal config.libs message then none
          else some (takesMessage config pending ⟨s.connectionNumber, message⟩).1) t) :
      Handled config s surroundings message known t
  | passed {t : Session} (hcommitted : s.hasPendingUncommitted = false)
      (hpassed : Passed (s.notesFailure known) known
        [⟨(s.notesFailure known).connectionNumber, message⟩]
        ((s.notesFailure known).phaseBehind known)
        (if known = none ∧ upstreamMessageIsTerminal config.libs message = true then none
          else (s.notesFailure known).pendingRequest) t) :
      Handled config s surroundings message known t

theorem handled_onUpstreamMessage {surroundings : Surroundings} {message : Message}
    (h : s.onUpstreamMessage config surroundings message = some t) :
    Handled config s surroundings message
      (s.knownSettlement config surroundings.now message) t := by
  unfold onUpstreamMessage at h
  dsimp only at h
  split at h
  next hreset =>
    obtain rfl := Option.some.inj h
    have huncommitted : s.hasPendingUncommitted = true := by
      unfold shouldPassthroughRetryableWebsocketReset at hreset
      exact (Bool.and_eq_true_iff.mp hreset).1
    exact .reset huncommitted (passed_deliverAndReturn s message none .reset)
  next hreset =>
    split at h
    next huncommitted =>
      rw [huncommitted] at hreset
      split at h
      next failure hknown =>
        split at h
        next hretries => exact .retried huncommitted hknown hretries h
        next =>
          obtain rfl := Option.some.inj h
          exact .rejected huncommitted hknown (passed_deliverAndReturn _ message _ _)
      next hknown =>
        obtain rfl := Option.some.inj h
        obtain ⟨pending, hpending, hcommitted⟩ := hasPendingUncommitted_iff.mp huncommitted
        exact .waiting hpending hcommitted hknown (Bool.eq_false_of_not_eq_true hreset)
          (passed_onPrecommitMessage config message _ hpending)
    next hcommitted =>
      obtain rfl := Option.some.inj h
      exact .passed (Bool.eq_false_of_not_eq_true hcommitted)
        (passed_onOtherMessage config _ message _)

/-- What a round leaves of a session. -/
inductive Round (config : ProxyConfig) (s : Session) : Event → Session → Prop
  | upgradeFailed {t : Session} (hphase : s.phase = .upgrading)
      (hbecomes : Becomes s t (.returned s.currentAccountId .upgradeFailed) s.pendingRequest []) :
      Round config s .upgradeFailed t
  | upgraded {t : Session} (hphase : s.phase = .upgrading)
      (hbecomes : Becomes s t .proxying s.pendingRequest []) : Round config s .upgraded t
  | settled {t : Session} {accountId : String} {ending : Ending}
      (hphase : s.phase = .returned accountId ending)
      (hbecomes : Becomes s t .finished s.pendingRequest
        [.settled accountId ending.outcome.settlement]) : Round config s .settle t
  | skipped {event : Event} (hphase : s.phase = .proxying) : Round config s event s
  | closed {event : Event} {t : Session} {ending : Ending} {actions : List Action}
      (hphase : s.phase = .proxying) (hending : ending = .shutdown ∨ ending = .clientClosed)
      (hactions : actions ⊆ [.sent s.connectionNumber (.close none),
        .delivered .gateway (.close none)])
      (hbecomes : Becomes s t (.returned s.currentAccountId ending) s.pendingRequest actions) :
      Round config s event t
  | accepted {t : Session} {message mapped form : Message} {surroundings : Surroundings}
      {phase : Phase} {sent : List Action} (hphase : s.phase = .proxying)
      (hmapped : mapClientMessageToUpstream message = some mapped)
      (hsent : sent ⊆ [.sent s.connectionNumber form])
      (hnext : phase = .proxying ∨ phase = .returned s.currentAccountId .clientClosed)
      (hbecomes : Becomes (s.acceptClientMessage config mapped) t phase
        (s.acceptClientMessage config mapped).pendingRequest sent) :
      Round config s (.client (some (.ok message)) surroundings) t
  | unsent {t : Session} {message mapped : Message} {surroundings : Surroundings} {error : String}
      (hphase : s.phase = .proxying) (hmapped : mapClientMessageToUpstream message = some mapped)
      (h : (s.acceptClientMessage config mapped).retryOrReturn config surroundings
        (streamFailure error) = some t) :
      Round config s (.client (some (.ok message)) surroundings) t
  | broken {t : Session} {message : Option (Except String Message)} {surroundings : Surroundings}
      {error : String} (hphase : s.phase = .proxying) (hmessage : ∀ m, message ≠ some (.ok m))
      (h : s.retryOrReturn config surroundings (streamFailure error) = some t) :
      Round config s (.upstream message surroundings) t
  | dropped {t : Session} {message : Message} {surroundings : Surroundings}
      (hphase : s.phase = .proxying)
      (hnormalized : normalizeUpstreamMessage config.libs s.codexOriginator message = none)
      (hbecomes : Becomes s t .proxying s.pendingRequest
        [.received ⟨s.connectionNumber, message⟩]) :
      Round config s (.upstream (some (.ok message)) surroundings) t
  | received {t : Session} {message normalized : Message} {surroundings : Surroundings}
      (hphase : s.phase = .proxying)
      (hnormalized : normalizeUpstreamMessage config.libs s.codexOriginator message =
        some normalized)
      (hhandled : Handled config (s.record (.received ⟨s.connectionNumber, message⟩)) surroundings
        normalized (s.knownSettlement config surroundings.now normalized) t) :
      Round config s (.upstream (some (.ok message)) surroundings) t

theorem becomes_acceptClientMessage (config : ProxyConfig) (s : Session) (mapped : Message) :
    Becomes s (s.acceptClientMessage config mapped) s.phase
      (s.acceptClientMessage config mapped).pendingRequest [.accepted mapped] := by
  unfold acceptClientMessage
  dsimp only
  split <;> exact ⟨rfl, rfl, rfl, rfl, rfl, rfl, rfl⟩

theorem round_of_onClientMessage {message mapped : Message} {surroundings : Surroundings}
    {sentClose : Bool} (hphase : s.phase = .proxying)
    (hmapped : mapClientMessageToUpstream message = some mapped)
    (h : s.onClientMessage config surroundings mapped sentClose = some t) :
    Round config s (.client (some (.ok message)) surroundings) t := by
  have haccepted := becomes_acceptClientMessage config s mapped
  have hsent := becomes_sendUpstream (s.acceptClientMessage config mapped)
    (upstreamForm config (s.acceptClientMessage config mapped).codexOriginator surroundings.snapshot
      (s.acceptClientMessage config mapped).upstreamConnection.installationId mapped)
  rw [haccepted.phase, haccepted.connectionNumber, hphase] at hsent
  unfold onClientMessage at h
  dsimp only at h
  split at h
  next error u hfailed =>
    rw [hfailed] at hsent
    obtain ⟨sent, hsent, hbecomes⟩ := hsent
    split at h
    next =>
      obtain rfl := Option.some.inj h
      refine .accepted hphase hmapped hsent (.inr rfl) ?_
      rw [← haccepted.currentAccountId]
      exact hbecomes.returns .clientClosed
    next =>
      obtain rfl := eq_of_sendUpstream_error hfailed
      exact .unsent hphase hmapped h
  next u hok =>
    rw [hok] at hsent
    obtain ⟨sent, hsent, hbecomes⟩ := hsent
    split at h
    next =>
      obtain rfl := Option.some.inj h
      refine .accepted hphase hmapped hsent (.inr rfl) ?_
      rw [← haccepted.currentAccountId]
      exact hbecomes.returns .clientClosed
    next =>
      obtain rfl := Option.some.inj h
      exact .accepted hphase hmapped hsent (.inl rfl) hbecomes

/-- The client is gone, and the connection is closed. -/
theorem round_of_close {event : Event} (hphase : s.phase = .proxying)
    (h : some ((s.sendUpstream (.close none)).2.returns .clientClosed) = some t) :
    Round config s event t := by
  obtain rfl := Option.some.inj h
  obtain ⟨sent, hsent, hclosed⟩ := becomes_sendUpstream s (.close none)
  exact .closed hphase (.inr rfl) (List.Subset.trans hsent (List.subset_append_left _ [_]))
    (hclosed.returns .clientClosed)

theorem round_of_step {event : Event} (h : step config s event = some t) :
    Round config s event t := by
  cases event with
  | upgradeFailed =>
    simp only [step] at h
    split at h
    next hphase =>
      obtain rfl := Option.some.inj h
      exact .upgradeFailed hphase ((Becomes.refl s).returns .upgradeFailed)
    next => cases h
  | upgraded =>
    simp only [step] at h
    split at h
    next hphase =>
      obtain rfl := Option.some.inj h
      refine .upgraded hphase ⟨rfl, rfl, (List.append_nil _).symm, rfl, rfl, rfl, ?_⟩
      simp only [codexOriginator, responseShape_applyTurnState]
    next => cases h
  | settle =>
    simp only [step] at h
    split at h
    next accountId ending hphase =>
      obtain rfl := Option.some.inj h
      exact .settled hphase ⟨rfl, rfl, rfl, rfl, rfl, rfl, rfl⟩
    next => cases h
  | shutdown =>
    simp only [step] at h
    split at h
    next hphase =>
      obtain rfl := Option.some.inj h
      obtain ⟨sent, hsent, hclosed⟩ := becomes_sendUpstream s (.close none)
      have hforward := becomes_forwardUpstreamMessage (s.sendUpstream (.close none)).2 .gateway
        (.close none)
      rw [hclosed.phase, hclosed.pendingRequest] at hforward
      refine .closed hphase (.inl rfl) ?_ ((hclosed.trans hforward).returns .shutdown)
      refine List.append_subset.mpr ⟨List.Subset.trans hsent (List.subset_append_left _ [_]), ?_⟩
      split
      · exact List.subset_append_right [_] _
      · exact List.nil_subset _
    next => cases h
  | client message surroundings =>
    simp only [step] at h
    split at h
    next hphase =>
      split at h
      next => exact round_of_close hphase h
      next => exact round_of_close hphase h
      next message =>
        split at h
        next => exact Option.some.inj h ▸ .skipped hphase
        next mapped hmapped => exact round_of_onClientMessage hphase hmapped h
    next => cases h
  | upstream message surroundings =>
    simp only [step] at h
    split at h
    next hphase =>
      split at h
      next => exact .broken hphase (by simp) h
      next => exact .broken hphase (by simp) h
      next message =>
        split at h
        next hnormalized =>
          obtain rfl := Option.some.inj h
          have hdropped := becomes_record s (.received ⟨s.connectionNumber, message⟩)
          rw [hphase] at hdropped
          exact .dropped hphase hnormalized hdropped
        next normalized hnormalized =>
          exact .received hphase hnormalized (handled_onUpstreamMessage h)
    next => cases h

end Session

end Codaze.Websocket
