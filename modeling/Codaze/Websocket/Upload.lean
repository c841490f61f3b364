import Codaze.Websocket.Transparency

/-!
# What a session sends upstream

The other direction of a session. What the current connection owes the client is read off the
trace: the request it took over, and the messages of the client since. It has taken exactly
these, in their order, each request normalized with the installation id of its own account.
-/
namespace Codaze.Websocket
open Foundation Accounts Responses Upstream

/-- What a connection has to take. -/
structure Upload where
  /-- The installation id of the account of the current connection. -/
  installationId : Option String
  /-- The Text and Binary messages of the client since its last request. -/
  request : List Message := []
  /-- The messages of the client that the current connection has to take. -/
  owed : List Message := []

def Upload.next (config : ProxyConfig) (upload : Upload) : Action → Upload
  | .accepted message => {
      upload with
      request := if isResponsesWebsocketRequestStart config.libs message then [message]
        else if message.isPayload then upload.request ++ [message] else upload.request
      owed := upload.owed ++ [message] }
  | .switched _ installationId _ =>
    { upload with installationId, owed := upload.request }
  | _ => upload

/-- What the current connection has to take behind a trace. -/
def lastUpload (config : ProxyConfig) (installationId : Option String) (trace : List Action) :
    Upload := trace.foldl (Upload.next config) { installationId }

/-- Each message in a form for the account, one for one. -/
def HasTaken (config : ProxyConfig) (codexOriginator : Bool) (installationId : Option String) :
    List Message → List Message → Prop :=
  List.Forall₂ fun message sent => ∃ snapshot,
    sent = upstreamForm config codexOriginator snapshot installationId message

/-- An action that neither the client nor the current connection sees. -/
def Action.IsAside (number : ℕ) : Action → Prop
  | .accepted _ | .switched .. => False
  | .sent connection _ => connection ≠ number
  | _ => True

section trace

variable {config : ProxyConfig} {installationId : Option String} {trace actions : List Action}
  {number : ℕ}

theorem lastUpload_append : lastUpload config installationId (trace ++ actions) =
    actions.foldl (Upload.next config) (lastUpload config installationId trace) :=
  List.foldl_append

theorem lastUpload_snoc {action : Action} :
    lastUpload config installationId (trace ++ [action]) =
      (lastUpload config installationId trace).next config action := lastUpload_append

theorem lastUpload_aside (h : ∀ action ∈ actions, action.IsAside number) :
    lastUpload config installationId (trace ++ actions) =
      lastUpload config installationId trace := by
  induction actions generalizing trace with
  | nil => rw [List.append_nil]
  | cons action actions ih =>
    have haside := h action List.mem_cons_self
    rw [List.append_cons, ih fun a ha => h a (List.mem_cons_of_mem _ ha), lastUpload_snoc]
    cases action with
    | accepted | switched => exact haside.elim
    | _ => rfl

theorem sentTo_aside (h : ∀ action ∈ actions, action.IsAside number) :
    sentTo number (trace ++ actions) = sentTo number trace := by
  rw [sentTo_append, sentTo_eq_nil fun message hmem => h _ hmem rfl, List.append_nil]

/-- The request is what the client has sent since it began. -/
theorem lastUpload_request (codexOriginator : Bool) :
    (lastUpload config installationId trace).request =
      (lastSpan config codexOriginator trace).messages := by
  induction trace using List.reverseRecOn with
  | nil => rfl
  | append_singleton trace action ih =>
    rw [lastUpload_snoc, lastSpan_snoc]
    cases action with
    | accepted message =>
      simp only [Upload.next, Span.next]
      split
      · rfl
      · split
        · rw [ih]
        · exact ih
    | received message =>
      simp only [Span.next]
      split <;> exact ih
    | delivered source message =>
      cases source with
      | gateway => exact ih
      | upstream connection =>
        simp only [Span.next]
        split <;> exact ih
    | _ => exact ih

end trace

namespace Session

variable {config : ProxyConfig} {codexOriginator : Bool} {installationId : Option String}
  {s t u : Session} {phase : Phase} {pending : Option PendingWebsocketRequest}
  {actions : List Action}

/-! ## The installation id of a connection -/

/-- The current connection belongs to the account that the trace says. -/
def Installed (config : ProxyConfig) (installationId : Option String) (s : Session) : Prop :=
  s.upstreamConnection.installationId = (lastUpload config installationId s.trace).installationId

/-- The session of a result, whether it goes on or has returned. -/
def behind : Except Session Session → Session
  | .ok s | .error s => s

theorem Installed.record (h : Installed config installationId s) {action : Action}
    (hstays : ∀ number installationId snapshot,
      action ≠ .switched number installationId snapshot) :
    Installed config installationId (s.record action) := by
  refine Eq.trans h ?_
  simp only [Session.record, lastUpload_snoc]
  cases action with
  | switched number installationId snapshot => exact absurd rfl (hstays _ _ _)
  | _ => rfl

theorem Installed.sendUpstream (h : Installed config installationId s) (message : Message) :
    Installed config installationId (s.sendUpstream message).2 := by
  unfold Session.sendUpstream
  split
  · exact h
  next takes _ =>
    have htakes : Installed config installationId
        { s with upstreamConnection := { s.upstreamConnection with takes } } := h
    exact htakes.record (by simp)

theorem Installed.forwardUpstreamMessage (h : Installed config installationId s) (source : Source)
    (message : Message) :
    Installed config installationId (s.forwardUpstreamMessage source message).2 := by
  unfold Session.forwardUpstreamMessage
  split
  · exact h
  · split
    · exact h
    next clientTakes _ =>
      have htakes : Installed config installationId { s with clientTakes } := h
      exact htakes.record (by simp)

theorem Installed.flushBufferedUpstreamMessages (h : Installed config installationId s)
    (messages : List UpstreamMessage) :
    Installed config installationId (s.flushBufferedUpstreamMessages messages).2 := by
  induction messages generalizing s with
  | nil => exact h
  | cons message messages ih =>
    have hforward := h.forwardUpstreamMessage (.upstream message.connection) message.message
    unfold Session.flushBufferedUpstreamMessages
    split
    next hsent =>
      rw [hsent] at hforward
      exact ih hforward
    next hsent =>
      rw [hsent] at hforward
      exact hforward

theorem Installed.flushBufferedOrSettle (h : Installed config installationId s)
    (known : Option WebsocketProxyOutcome) :
    Installed config installationId (behind (s.flushBufferedOrSettle known)) := by
  have hcleared : Installed config installationId
      (s.modifyPending PendingWebsocketRequest.flushed) := h
  have hflushed := hcleared.flushBufferedUpstreamMessages s.bufferedUpstreamMessages
  unfold Session.flushBufferedOrSettle
  dsimp only
  split
  next hsent =>
    rw [hsent] at hflushed
    exact hflushed
  next hsent =>
    rw [hsent] at hflushed
    exact hflushed

theorem Installed.forwardMessageOrSettle (h : Installed config installationId s)
    (source : Source) (message : Message) (known : Option WebsocketProxyOutcome) :
    Installed config installationId (behind (s.forwardMessageOrSettle source message known)) := by
  have hforward := h.forwardUpstreamMessage source message
  unfold Session.forwardMessageOrSettle
  split
  next hsent =>
    rw [hsent] at hforward
    exact hforward
  next hsent =>
    rw [hsent] at hforward
    exact hforward

theorem installed_bind {result : Except Session Session} {f : Session → Except Session Session}
    (h : Installed config installationId (behind result))
    (hf : ∀ t, Installed config installationId t → Installed config installationId (behind (f t))) :
    Installed config installationId (behind (result.bind f)) := by
  cases result with
  | error t => exact h
  | ok t => exact hf t h

theorem Installed.takePrecommitMessage (h : Installed config installationId s)
    (message : Message) (known : Option WebsocketProxyOutcome) :
    Installed config installationId (behind (s.takePrecommitMessage config message known)) := by
  unfold Session.takePrecommitMessage
  refine installed_bind ?_ fun t ht => ?_
  · split
    · exact h
    · exact h.forwardMessageOrSettle _ message known
  · split
    · have hcommitted : Installed config installationId (t.modifyPending fun pending =>
        { pending with committed := true }) := ht
      exact hcommitted.flushBufferedOrSettle known
    · exact ht

theorem Installed.onPrecommitMessage (h : Installed config installationId s)
    (message : Message) (known : Option WebsocketProxyOutcome) :
    Installed config installationId (s.onPrecommitMessage config message known) := by
  have htaken := h.takePrecommitMessage message known
  unfold Session.onPrecommitMessage
  split
  next hresult =>
    rw [hresult] at htaken
    exact htaken
  next hresult =>
    rw [hresult] at htaken
    dsimp only
    split
    · split <;> exact htaken
    · exact htaken

theorem Installed.onOtherMessage (h : Installed config installationId s)
    (message : Message) (known : Option WebsocketProxyOutcome) :
    Installed config installationId (s.onOtherMessage config message known) := by
  have hforward := h.forwardMessageOrSettle (.upstream s.connectionNumber) message known
  unfold Session.onOtherMessage
  split
  next hresult =>
    rw [hresult] at hforward
    exact hforward
  next hresult =>
    rw [hresult] at hforward
    split
    · exact hforward
    · split <;> exact hforward

theorem Installed.deliverAndReturn (h : Installed config installationId s) (message : Message)
    (known : Option WebsocketProxyOutcome) (ending : Ending) :
    Installed config installationId (s.deliverAndReturn message known ending) := by
  have hdelivered : Installed config installationId (behind
      ((s.flushBufferedOrSettle known).bind fun s =>
        s.forwardMessageOrSettle (.upstream s.connectionNumber) message known)) :=
    installed_bind (h.flushBufferedOrSettle known) fun _ ht => ht.forwardMessageOrSettle ..
  unfold Session.deliverAndReturn
  split
  next hresult =>
    rw [hresult] at hdelivered
    exact hdelivered
  next hresult =>
    rw [hresult] at hdelivered
    exact hdelivered

theorem Installed.deliverPendingRetryFailure (h : Installed config installationId s)
    (message : Option Message) (known : Option WebsocketProxyOutcome) :
    Installed config installationId
      (behind (s.deliverPendingRetryFailureOrSettle message known)) := by
  refine installed_bind (h.flushBufferedOrSettle known) fun t ht => ?_
  split
  · exact ht.forwardMessageOrSettle ..
  · exact ht

theorem Installed.notesFailure (h : Installed config installationId s)
    (known : Option WebsocketProxyOutcome) :
    Installed config installationId (s.notesFailure known) := by
  unfold Session.notesFailure
  split
  · exact h.record (by simp)
  · exact h

theorem Installed.acceptClientMessage (h : Installed config installationId s)
    (message : Message) :
    Installed config installationId (s.acceptClientMessage config message) := by
  have haccepted : Installed config installationId (s.record (.accepted message)) :=
    h.record (by simp)
  unfold Session.acceptClientMessage
  dsimp only
  split <;> exact haccepted

theorem Installed.replays (h : Installed config installationId s) (accountId : String)
    (taken : List Message) : Installed config installationId (s.replays accountId taken) := by
  have haside : ∀ action ∈ Action.selected accountId :: taken.map (Action.sent s.connections),
      action.IsAside (s.connections + 1) := by
    intro action hmem
    rcases List.mem_cons.mp hmem with rfl | hmem
    · trivial
    · obtain ⟨message, -, rfl⟩ := List.mem_map.mp hmem
      exact (Nat.lt_succ_self _).ne
  exact h.trans (congrArg Upload.installationId (lastUpload_aside haside)).symm

/-- A session that moves to a connection notes the account it belongs to. -/
theorem Installed.applyWebsocketRetrySwitch (h : Installed config installationId s)
    (moment : Moment) (failure : UpstreamFailure) (accountId : String) (number : ℕ)
    (connection : UpstreamWebsocketConnection) (snapshot : Option ModelsSnapshot) :
    Installed config installationId
      (s.applyWebsocketRetrySwitch moment failure accountId number connection snapshot) := by
  have hstate := state_applyWebsocketAccountFailure s moment s.currentAccountId failure
  unfold Session.applyWebsocketRetrySwitch
  split
  next u hpanicked =>
    rw [hpanicked] at hstate
    obtain rfl := hstate
    exact h.record (by simp)
  next u hreturned =>
    unfold Installed
    simp only [Session.record, lastUpload_snoc]
    rfl

theorem Installed.retryOrReturn {surroundings : Surroundings} {failure : UpstreamFailure}
    (h : Installed config installationId s)
    (hretry : s.retryOrReturn config surroundings failure = some t) :
    Installed config installationId t := by
  have hfailed : Installed config installationId
      (s.record (.failed s.currentAccountId failure.outcome)) := h.record (by simp)
  unfold Session.retryOrReturn at hretry
  dsimp only at hretry
  split at hretry
  next huncommitted =>
    obtain ⟨result, hresult, rfl⟩ := Option.map_eq_some_iff.mp hretry
    obtain ⟨pending, hpending, -⟩ := hasPendingUncommitted_iff.mp huncommitted
    have hends : RetryEnds config surroundings.now pending.requestMessages
        (fun u _ => Installed config installationId u) result := by
      unfold retryPendingWebsocketRequest at hresult
      simp only [hpending] at hresult
      refine retryLoop_rule (fun u _ _ accountId taken failure hu _ _ => ?_) hfailed hresult
      have hreplayed : Installed config installationId ((u.replays accountId
          taken).record (.failed accountId failure.outcome)) :=
        (hu.replays accountId taken).record (by simp)
      exact hreplayed.record (by simp)
    cases result with
    | switched v accountId number connection snapshot =>
      obtain ⟨u, tried, tried', hlast, -, -, rfl, rfl⟩ := hends
      have hreplayed : Installed config installationId ((u.replays accountId
          (pending.requestMessages.map (upstreamForm config u.codexOriginator snapshot
            connection.installationId))).withTried tried') := hlast.replays accountId _
      exact hreplayed.applyWebsocketRetrySwitch ..
    | noReplacement v message =>
      obtain ⟨u, tried, tried', cause, hlast, -, rfl, rfl⟩ := hends
      have hlast' : Installed config installationId (u.withTried tried') := hlast
      have hdelivered := hlast'.deliverPendingRetryFailure
        (websocketErrorMessageForFailoverFailure config.libs surroundings.now cause)
        (some failure.outcome)
      dsimp only
      split
      next hsent =>
        rw [hsent] at hdelivered
        exact hdelivered
      next hsent =>
        rw [hsent] at hdelivered
        exact hdelivered
    | panicked v =>
      obtain ⟨u, tried, tried', hlast, rfl | rfl⟩ := hends
      · exact hlast
      · exact hlast
  next =>
    obtain rfl := Option.some.inj hretry
    exact hfailed

theorem Installed.onClientMessage {surroundings : Surroundings} {message : Message}
    {sentClose : Bool} (h : Installed config installationId s)
    (hstep : s.onClientMessage config surroundings message sentClose = some t) :
    Installed config installationId t := by
  have haccepted := h.acceptClientMessage message
  unfold Session.onClientMessage at hstep
  dsimp only at hstep
  have hsent := haccepted.sendUpstream (upstreamForm config
    (s.acceptClientMessage config message).codexOriginator surroundings.snapshot
    (s.acceptClientMessage config message).upstreamConnection.installationId message)
  split at hstep
  next error u hfailed =>
    rw [hfailed] at hsent
    split at hstep
    · obtain rfl := Option.some.inj hstep
      exact hsent
    · exact hsent.retryOrReturn hstep
  next u htook =>
    rw [htook] at hsent
    split at hstep
    · obtain rfl := Option.some.inj hstep
      exact hsent
    · obtain rfl := Option.some.inj hstep
      exact hsent

theorem Installed.onUpstreamMessage {surroundings : Surroundings} {message : Message}
    (h : Installed config installationId s)
    (hstep : s.onUpstreamMessage config surroundings message = some t) :
    Installed config installationId t := by
  unfold Session.onUpstreamMessage at hstep
  dsimp only at hstep
  split at hstep
  · obtain rfl := Option.some.inj hstep
    exact h.deliverAndReturn ..
  · split at hstep
    · split at hstep
      · split at hstep
        · exact h.retryOrReturn hstep
        · obtain rfl := Option.some.inj hstep
          exact (h.notesFailure _).deliverAndReturn ..
      · obtain rfl := Option.some.inj hstep
        exact h.onPrecommitMessage ..
    · obtain rfl := Option.some.inj hstep
      exact (h.notesFailure _).onOtherMessage ..

theorem installed_step {event : Event} (h : Installed config installationId s)
    (hstep : step config s event = some t) : Installed config installationId t := by
  cases event with
  | upgradeFailed | upgraded | settle =>
    simp only [step] at hstep
    split at hstep
    · obtain rfl := Option.some.inj hstep
      first | exact h | exact h.record (by simp)
    · cases hstep
  | shutdown =>
    simp only [step] at hstep
    split at hstep
    · obtain rfl := Option.some.inj hstep
      exact (h.sendUpstream (.close none)).forwardUpstreamMessage .gateway (.close none)
    · cases hstep
  | client message surroundings =>
    simp only [step] at hstep
    split at hstep
    · split at hstep
      · obtain rfl := Option.some.inj hstep
        exact h.sendUpstream (.close none)
      · obtain rfl := Option.some.inj hstep
        exact h.sendUpstream (.close none)
      · split at hstep
        · exact Option.some.inj hstep ▸ h
        · exact h.onClientMessage hstep
    · cases hstep
  | upstream message surroundings =>
    simp only [step] at hstep
    split at hstep
    · split at hstep
      · exact h.retryOrReturn hstep
      · exact h.retryOrReturn hstep
      next received =>
        have hreceived : Installed config installationId
            (s.record (.received ⟨s.connectionNumber, received⟩)) := h.record (by simp)
        split at hstep
        · exact Option.some.inj hstep ▸ hreceived
        · exact hreceived.onUpstreamMessage hstep
    · cases hstep

/-! ## The messages of a connection -/

/-- The current connection has taken what it had to take. -/
def InOrder (config : ProxyConfig) (codexOriginator : Bool) (installationId : Option String)
    (s : Session) : Prop :=
  let upload := lastUpload config installationId s.trace
  HasTaken config codexOriginator upload.installationId upload.owed
    (sentTo s.connectionNumber s.trace)

/-- The same but for the last message, and a closing frame of the gateway may have followed. -/
def NearlyInOrder (config : ProxyConfig) (codexOriginator : Bool)
    (installationId : Option String) (s : Session) : Prop :=
  let upload := lastUpload config installationId s.trace
  ∃ accepted taken closing, accepted <+: upload.owed ∧
    upload.owed.length ≤ accepted.length + 1 ∧ closing <+: [.close none] ∧
    sentTo s.connectionNumber s.trace = taken ++ closing ∧
    HasTaken config codexOriginator upload.installationId accepted taken

theorem InOrder.nearly (h : InOrder config codexOriginator installationId s) :
    NearlyInOrder config codexOriginator installationId s :=
  ⟨_, _, [], List.prefix_refl _, Nat.le_succ _, List.nil_prefix, (List.append_nil _).symm, h⟩

/-- What a session has sent, as long as it is alive and when it has returned. -/
def Uploads (config : ProxyConfig) (codexOriginator : Bool) (installationId : Option String)
    (s : Session) : Prop :=
  (s.phase = .upgrading ∨ s.phase = .proxying →
    InOrder config codexOriginator installationId s) ∧
  (s.phase ≠ .panicked → NearlyInOrder config codexOriginator installationId s)

theorem InOrder.uploads (h : InOrder config codexOriginator installationId s) :
    Uploads config codexOriginator installationId s := ⟨fun _ => h, fun _ => h.nearly⟩

theorem NearlyInOrder.uploads {accountId : String} {ending : Ending}
    (h : NearlyInOrder config codexOriginator installationId s)
    (hphase : s.phase = .returned accountId ending) :
    Uploads config codexOriginator installationId s := by
  refine ⟨fun halive => ?_, fun _ => h⟩
  rcases halive with halive | halive
  · cases hphase.symm.trans halive
  · cases hphase.symm.trans halive

theorem InOrder.aside (h : InOrder config codexOriginator installationId s)
    (hbecomes : Becomes s t phase pending actions)
    (haside : ∀ action ∈ actions, action.IsAside s.connectionNumber) :
    InOrder config codexOriginator installationId t := by
  unfold InOrder
  rw [hbecomes.trace, hbecomes.connectionNumber, lastUpload_aside haside, sentTo_aside haside]
  exact h

theorem NearlyInOrder.aside (h : NearlyInOrder config codexOriginator installationId s)
    (hbecomes : Becomes s t phase pending actions)
    (haside : ∀ action ∈ actions, action.IsAside s.connectionNumber) :
    NearlyInOrder config codexOriginator installationId t := by
  unfold NearlyInOrder
  rw [hbecomes.trace, hbecomes.connectionNumber, lastUpload_aside haside, sentTo_aside haside]
  exact h

theorem isAside_deliveries {number : ℕ} (messages : List UpstreamMessage) :
    ∀ action ∈ deliveries messages, action.IsAside number := by
  intro action hmem
  obtain ⟨message, -, hdelivery⟩ := List.mem_flatMap.mp hmem
  obtain ⟨mapped, -, rfl⟩ := Option.map_eq_some_iff.mp (Option.mem_toList.mp hdelivery)
  trivial

theorem isAside_notesFailure {number : ℕ} (accountId : String)
    (known : Option WebsocketProxyOutcome) :
    ∀ action ∈ ((failureOf? known).map fun failure =>
      Action.failed accountId failure.outcome).toList, action.IsAside number := by
  intro action hmem
  obtain ⟨failure, -, rfl⟩ := Option.map_eq_some_iff.mp (Option.mem_toList.mp hmem)
  trivial

/-- Passing messages on to the client sends nothing upstream. -/
theorem InOrder.passed {known : Option WebsocketProxyOutcome} {messages : List UpstreamMessage}
    (h : InOrder config codexOriginator installationId s)
    (hpassed : Passed s known messages phase pending t) :
    InOrder config codexOriginator installationId t := by
  rcases hpassed with hbecomes | ⟨delivered, pending', -, hbecomes⟩
  · exact h.aside hbecomes (isAside_deliveries messages)
  · exact h.aside hbecomes (isAside_deliveries delivered)

/-! ## The retry -/

/-- A session between two rounds of the retry loop; the failed connection is still current. -/
structure Trying (config : ProxyConfig) (codexOriginator : Bool) (installationId : Option String)
    (s u : Session) : Prop where
  replaying : Replaying config codexOriginator s u
  nearly : NearlyInOrder config codexOriginator installationId u

theorem isAside_replays {number : ℕ} (accountId : String) (taken : List Message)
    (hnumber : number < s.connections) :
    ∀ action ∈ Action.selected accountId :: taken.map (Action.sent s.connections),
      action.IsAside number := by
  intro action hmem
  rcases List.mem_cons.mp hmem with rfl | hmem
  · trivial
  · obtain ⟨message, -, rfl⟩ := List.mem_map.mp hmem
    exact hnumber.ne'

theorem Trying.replayFailed {accountId : String} {taken : List Message}
    {failure : UpstreamFailure} (h : Trying config codexOriginator installationId s u) :
    Trying config codexOriginator installationId s (u.replayFailed accountId taken failure) := by
  refine ⟨h.replaying.replayFailed, ?_⟩
  have hreplays : NearlyInOrder config codexOriginator installationId
      (u.replays accountId taken) := by
    have haside := isAside_replays accountId taken h.replaying.seamless.number
    have hnearly := h.nearly
    unfold NearlyInOrder
    simp only [Session.replays, lastUpload_aside haside, sentTo_aside haside]
    exact hnearly
  have hfailed := hreplays.aside (becomes_record _ (.failed accountId failure.outcome))
    (List.forall_mem_singleton.mpr trivial)
  exact hfailed.aside (becomes_record _ (.settled accountId failure.outcome.settlement))
    (List.forall_mem_singleton.mpr trivial)

/-- A switch makes the new connection owe what it has taken, the pending request. -/
theorem inOrder_switched {failure : UpstreamFailure} {accountId : String} {tried : Finset String}
    {request : PendingWebsocketRequest} {accountInstallationId : Option String}
    {snapshot : Option ModelsSnapshot} (h : Seamless config codexOriginator u)
    (hrequest : u.pendingRequest = some request) (huncommitted : request.committed = false)
    (hswitches : Switches (u.replays accountId (request.requestMessages.map
        (upstreamForm config u.codexOriginator snapshot accountInstallationId))) tried t
        failure accountId u.connections accountInstallationId snapshot) :
    InOrder config codexOriginator installationId t := by
  have hmessages := (h.replayed request hrequest huncommitted).1
  have htaken := h.sentTo_replays accountId (request.requestMessages.map
    (upstreamForm config u.codexOriginator snapshot accountInstallationId))
  have hspan := @lastSpan_replays config codexOriginator u accountId (request.requestMessages.map
    (upstreamForm config u.codexOriginator snapshot accountInstallationId))
  have howed : (lastUpload config installationId t.trace).owed = request.requestMessages := by
    rw [hswitches.trace, lastUpload_append]
    change (lastUpload config installationId _).request = _
    rw [lastUpload_request codexOriginator, hspan, hmessages]
  have hinstallation : (lastUpload config installationId t.trace).installationId =
      accountInstallationId := by
    rw [hswitches.trace, lastUpload_append]
    rfl
  have hsent : sentTo t.connectionNumber t.trace = request.requestMessages.map
      (upstreamForm config codexOriginator snapshot accountInstallationId) := by
    rw [hswitches.connectionNumber, hswitches.trace, sentTo_append, htaken, h.originator]
    exact List.append_nil _
  unfold InOrder
  dsimp only
  rw [howed, hinstallation, hsent]
  exact List.forall₂_map_right_iff.mpr (List.forall₂_same.mpr fun message _ => ⟨snapshot, rfl⟩)

theorem uploads_retryOrReturn {surroundings : Surroundings} {failure : UpstreamFailure}
    (hseamless : Seamless config codexOriginator s)
    (h : NearlyInOrder config codexOriginator installationId s)
    (hretry : s.retryOrReturn config surroundings failure = some t) :
    Uploads config codexOriginator installationId t := by
  have hfailed : Seamless config codexOriginator
      (s.record (.failed s.currentAccountId failure.outcome)) := hseamless.record trivial (by simp)
  have hnoted := h.aside (becomes_record s (.failed s.currentAccountId failure.outcome))
    (List.forall_mem_singleton.mpr trivial)
  have hstart : ∀ pending, s.pendingRequest = some pending → pending.committed = false →
      Trying config codexOriginator installationId s
        (s.record (.failed s.currentAccountId failure.outcome)) :=
    fun _ _ _ => ⟨⟨rfl, hfailed, rfl⟩, hnoted⟩
  have hreplay : ∀ (u : Session) (tried tried' : Finset String) (accountId : String)
      (taken : List Message) (failure : UpstreamFailure),
      Trying config codexOriginator installationId s u → tried ⊆ tried' → accountId ∉ tried' →
      Trying config codexOriginator installationId s (u.replayFailed accountId taken failure) :=
    fun _ _ _ _ _ _ h _ _ => h.replayFailed
  cases retried_retryOrReturn hreplay hstart hretry with
  | returned hpending hbecomes =>
    exact (h.aside hbecomes (List.forall_mem_singleton.mpr trivial)).uploads hbecomes.phase
  | @refused u _ tried' _ _ hlast htried hbecomes =>
    have hnearly : NearlyInOrder config codexOriginator installationId (u.withTried tried') :=
      hlast.nearly
    refine (hnearly.aside hbecomes fun action hmem => ?_).uploads hbecomes.phase
    rcases List.mem_append.mp hmem with hmem | hmem
    · exact isAside_deliveries _ action hmem
    · have hgateway := isInternal_gateway _ action hmem
      cases action with
      | accepted | switched => exact hgateway.elim
      | sent connection message =>
        exfalso
        revert hmem
        cases websocketErrorMessageForFailoverFailure config.libs _ _ <;> simp [delivery]
      | _ => trivial
  | @undelivered u _ tried' _ _ hlast htried hinitial hbecomes =>
    have hnearly : NearlyInOrder config codexOriginator installationId (u.withTried tried') :=
      hlast.nearly
    exact (hnearly.aside hbecomes (isAside_deliveries _)).uploads hbecomes.phase
  | switched hpending huncommitted hlast htried huntried hswitches =>
    exact (inOrder_switched hlast.replaying.seamless
      (hlast.replaying.pendingRequest.trans hpending) huncommitted hswitches).uploads
  | panicked hlast hpanicked htrace hrest =>
    refine ⟨fun halive => ?_, fun hnot => absurd hpanicked hnot⟩
    rcases halive with halive | halive
    · cases hpanicked.symm.trans halive
    · cases hpanicked.symm.trans halive

/-! ## The rounds -/

/-- A message of the client is owed. -/
theorem lastUpload_accepted (s : Session) (message : Message) :
    let upload := lastUpload config installationId s.trace
    let next := lastUpload config installationId (s.acceptClientMessage config message).trace
    next.owed = upload.owed ++ [message] ∧ next.installationId = upload.installationId ∧
      sentTo s.connectionNumber (s.acceptClientMessage config message).trace =
        sentTo s.connectionNumber s.trace := by
  intro upload next
  have htrace := (becomes_acceptClientMessage config s message).trace
  simp only [next, upload, htrace, lastUpload_snoc, sentTo_append]
  exact ⟨rfl, rfl, List.append_nil _⟩

theorem InOrder.accepted (h : InOrder config codexOriginator installationId s)
    (message : Message) : NearlyInOrder config codexOriginator installationId
      (s.acceptClientMessage config message) := by
  obtain ⟨howed, hinstallation, hsent⟩ := @lastUpload_accepted config installationId s message
  have hnumber := (becomes_acceptClientMessage config s message).connectionNumber
  refine ⟨(lastUpload config installationId s.trace).owed, sentTo s.connectionNumber s.trace, [],
    ?_, ?_, List.nil_prefix, ?_, ?_⟩
  · rw [howed]
    exact List.prefix_append _ _
  · rw [howed, List.length_append, List.length_singleton]
  · rw [hnumber, hsent, List.append_nil]
  · rw [hinstallation]
    exact h

theorem becomes_of_sent {message : Message} (h : s.sendUpstream message = (none, t)) :
    Becomes s t s.phase s.pendingRequest [.sent s.connectionNumber message] := by
  unfold sendUpstream at h
  split at h
  · cases h
  · obtain rfl := (Prod.mk.inj h).2
    exact ⟨rfl, rfl, rfl, rfl, rfl, rfl, rfl⟩

/-- A message of the client that the connection has taken. -/
theorem InOrder.sent {message : Message} {snapshot : Option ModelsSnapshot}
    (h : InOrder config codexOriginator installationId s)
    (hseamless : Seamless config codexOriginator s)
    (hinstalled : Installed config installationId s)
    (hsent : (s.acceptClientMessage config message).sendUpstream (upstreamForm config
      (s.acceptClientMessage config message).codexOriginator snapshot
      (s.acceptClientMessage config message).upstreamConnection.installationId message) =
        (none, t)) :
    InOrder config codexOriginator installationId t := by
  obtain ⟨howed, hinstallation, htaken⟩ := @lastUpload_accepted config installationId s message
  have hnumber := (becomes_acceptClientMessage config s message).connectionNumber
  have hbecomes := becomes_of_sent hsent
  rw [(hseamless.accepts message).originator, hinstalled.acceptClientMessage message,
    hinstallation] at hbecomes
  unfold InOrder
  dsimp only
  rw [hbecomes.trace, hbecomes.connectionNumber, hnumber, lastUpload_snoc, sentTo_append, htaken]
  change HasTaken config codexOriginator (lastUpload config installationId _).installationId
    (lastUpload config installationId _).owed _
  rw [howed, hinstallation]
  refine List.rel_append h ?_
  simp only [sentTo, List.filterMap_cons, if_true, List.filterMap_nil]
  exact .cons ⟨snapshot, rfl⟩ .nil

/-- The gateway closes the connection behind what it has taken. -/
theorem InOrder.closes (h : InOrder config codexOriginator installationId s) :
    NearlyInOrder config codexOriginator installationId (s.sendUpstream (.close none)).2 := by
  cases hclosed : s.sendUpstream (.close none) with
  | mk error t =>
    cases error with
    | some error =>
      obtain rfl := eq_of_sendUpstream_error hclosed
      exact h.nearly
    | none =>
      have hbecomes := becomes_of_sent hclosed
      unfold NearlyInOrder
      dsimp only
      rw [hbecomes.trace, hbecomes.connectionNumber, lastUpload_snoc, sentTo_append]
      exact ⟨_, _, [.close none], List.prefix_refl _, Nat.le_succ _, List.prefix_refl _,
        by simp [sentTo], h⟩

theorem uploads_onClientMessage {surroundings : Surroundings} {message : Message}
    {sentClose : Bool} (hseamless : Seamless config codexOriginator s)
    (hinstalled : Installed config installationId s)
    (h : InOrder config codexOriginator installationId s)
    (hstep : s.onClientMessage config surroundings message sentClose = some t) :
    Uploads config codexOriginator installationId t := by
  have haccepted := h.accepted message
  unfold onClientMessage at hstep
  dsimp only at hstep
  split at hstep
  next error u hfailed =>
    obtain rfl := eq_of_sendUpstream_error hfailed
    split at hstep
    · obtain rfl := Option.some.inj hstep
      exact NearlyInOrder.uploads haccepted rfl
    · exact uploads_retryOrReturn (hseamless.accepts message) haccepted hstep
  next u htook =>
    have hsent := h.sent hseamless hinstalled htook
    split at hstep
    · obtain rfl := Option.some.inj hstep
      exact NearlyInOrder.uploads (s := u.returns .clientClosed) hsent.nearly rfl
    · obtain rfl := Option.some.inj hstep
      exact hsent.uploads

theorem InOrder.notesFailure (h : InOrder config codexOriginator installationId s)
    (known : Option WebsocketProxyOutcome) :
    InOrder config codexOriginator installationId (s.notesFailure known) :=
  h.aside (becomes_notesFailure s known) (isAside_notesFailure s.currentAccountId known)

theorem uploads_of_handled {surroundings : Surroundings} {message : Message}
    {known : Option WebsocketProxyOutcome}
    (hseamless : ∀ failure, failureOf? known = some failure → Seamless config codexOriginator s)
    (h : InOrder config codexOriginator installationId s)
    (hhandled : Handled config s surroundings message known t) :
    Uploads config codexOriginator installationId t := by
  cases hhandled with
  | reset huncommitted hpassed => exact (h.passed hpassed).uploads
  | retried huncommitted hknown hretries hretry =>
    exact uploads_retryOrReturn (hseamless _ hknown) h.nearly hretry
  | rejected huncommitted hknown hpassed => exact ((h.notesFailure known).passed hpassed).uploads
  | waiting hpending huncommitted hknown hreset hpassed => exact (h.passed hpassed).uploads
  | passed hcommitted hpassed => exact ((h.notesFailure known).passed hpassed).uploads

/-- What a session has sent, with what it needs to go on. -/
structure Uploading (config : ProxyConfig) (codexOriginator : Bool)
    (installationId : Option String) (s : Session) : Prop where
  unnoticed : Unnoticed config codexOriginator s
  installed : Installed config installationId s
  uploads : Uploads config codexOriginator installationId s

theorem uploads_step {event : Event} (h : Uploading config codexOriginator installationId s)
    (hstep : step config s event = some t) : Uploads config codexOriginator installationId t := by
  cases event with
  | upgradeFailed =>
    simp only [step] at hstep
    split at hstep
    next hphase =>
      obtain rfl := Option.some.inj hstep
      exact NearlyInOrder.uploads (s := s.returns .upgradeFailed)
        (h.uploads.1 (.inl hphase)).nearly rfl
    next => cases hstep
  | upgraded =>
    simp only [step] at hstep
    split at hstep
    next hphase =>
      obtain rfl := Option.some.inj hstep
      exact InOrder.uploads (h.uploads.1 (.inl hphase))
    next => cases hstep
  | settle =>
    simp only [step] at hstep
    split at hstep
    next accountId ending hphase =>
      obtain rfl := Option.some.inj hstep
      have hnearly := h.uploads.2 (by simp [hphase])
      have hsettled := hnearly.aside
        (becomes_record s (.settled accountId ending.outcome.settlement))
        (List.forall_mem_singleton.mpr trivial)
      refine ⟨fun halive => ?_, fun _ => hsettled⟩
      rcases halive with halive | halive
      · cases halive
      · cases halive
    next => cases hstep
  | shutdown =>
    simp only [step] at hstep
    split at hstep
    next hphase =>
      obtain rfl := Option.some.inj hstep
      have hclosed := (h.uploads.1 (.inr hphase)).closes
      have hforward := becomes_forwardUpstreamMessage (s.sendUpstream (.close none)).2 .gateway
        (.close none)
      refine NearlyInOrder.uploads
        (hclosed.aside (hforward.returns .shutdown) fun action hmem => ?_)
        rfl
      split at hmem
      · obtain rfl := List.mem_singleton.mp hmem
        trivial
      · cases hmem
    next => cases hstep
  | client message surroundings =>
    simp only [step] at hstep
    split at hstep
    next hphase =>
      have hinOrder := h.uploads.1 (.inr hphase)
      split at hstep
      · obtain rfl := Option.some.inj hstep
        exact NearlyInOrder.uploads (s := (s.sendUpstream (.close none)).2.returns .clientClosed)
          hinOrder.closes rfl
      · obtain rfl := Option.some.inj hstep
        exact NearlyInOrder.uploads (s := (s.sendUpstream (.close none)).2.returns .clientClosed)
          hinOrder.closes rfl
      · split at hstep
        · exact Option.some.inj hstep ▸ h.uploads
        · exact uploads_onClientMessage (h.unnoticed.2 (.inr hphase)) h.installed hinOrder hstep
    next => cases hstep
  | upstream message surroundings =>
    simp only [step] at hstep
    split at hstep
    next hphase =>
      have hseamless := h.unnoticed.2 (.inr hphase)
      have hinOrder := h.uploads.1 (.inr hphase)
      split at hstep
      · exact uploads_retryOrReturn hseamless hinOrder.nearly hstep
      · exact uploads_retryOrReturn hseamless hinOrder.nearly hstep
      next received =>
        have hreceived := hinOrder.aside
          (becomes_record s (.received ⟨s.connectionNumber, received⟩))
          (List.forall_mem_singleton.mpr trivial)
        split at hstep
        next => exact Option.some.inj hstep ▸ hreceived.uploads
        next normalized hnormalized =>
          have hundivided := hseamless.toUndivided.receives
            (becomes_record s (.received ⟨s.connectionNumber, received⟩))
          rw [hundivided.originator] at hnormalized
          refine uploads_of_handled (fun failure hknown => ⟨hundivided,
            fun pending hpending huncommitted => ?_⟩) hreceived (handled_onUpstreamMessage hstep)
          -- a message that is a failure does not commit the request
          change (lastSpan config codexOriginator (s.trace ++ [_])).committed = _
          rw [lastSpan_received, hnormalized, hseamless.uncommitted pending hpending huncommitted]
          exact not_commits_of_known hknown
    next => cases hstep

theorem uploading_opened (config : ProxyConfig) (headers : HeaderMap) (accountId : String)
    (connection : UpstreamWebsocketConnection) (clientTakes : ℕ) :
    Uploading config (responseShapeForHeaders headers == .codex) connection.installationId
      (opened headers accountId connection clientTakes) where
  unnoticed := unnoticed_opened config headers accountId connection clientTakes
  installed := rfl
  uploads := InOrder.uploads List.Forall₂.nil

/-- In every session, across all switches of the account: the messages that the current
connection has taken are the request it took over and then the client's messages since, each of
them once and in the client's order, normalized with the installation id of the connection's own
account. When the session has returned, at most the last message is missing, and at most a
closing frame of the gateway was sent behind them. -/
theorem upload_in_order {headers : HeaderMap} {accountId : String}
    {connection : UpstreamWebsocketConnection} {clientTakes : ℕ}
    (hrun : Run (step config) anyEvent (opened headers accountId connection clientTakes) s) :
    let codexOriginator := responseShapeForHeaders headers == .codex
    let upload := lastUpload config connection.installationId s.trace
    (s.phase = .proxying → HasTaken config codexOriginator upload.installationId upload.owed
      (sentTo s.connectionNumber s.trace)) ∧
    (s.phase ≠ .panicked → ∃ accepted taken closing, accepted <+: upload.owed ∧
      upload.owed.length ≤ accepted.length + 1 ∧ closing <+: [.close none] ∧
      sentTo s.connectionNumber s.trace = taken ++ closing ∧
      HasTaken config codexOriginator upload.installationId accepted taken) := by
  intro codexOriginator upload
  have h : Uploading config codexOriginator connection.installationId s := hrun.invariant
    (fun _ _ _ h _ hstep =>
      ⟨unnoticed_step h.unnoticed hstep, installed_step h.installed hstep, uploads_step h hstep⟩)
    (uploading_opened config headers accountId connection clientTakes)
  exact ⟨fun hphase => h.uploads.1 (.inr hphase), h.uploads.2⟩

/-- The second connection has the request of the first, and a message the client sent since. -/
theorem upload_in_order_unanswered :
    let s := stateAfter (step (exampleConfig "" .null)) exampleSession
      (unanswered ++ [.client (some (.ok (.binary []))) exampleSurroundings])
    (lastUpload (exampleConfig "" .null) none s.trace).owed = [.text createText, .binary []] ∧
      HasTaken (exampleConfig "" .null) false none [.text createText, .binary []]
        (sentTo s.connectionNumber s.trace) := by
  intro s
  have hrun : Run (step (exampleConfig "" .null)) anyEvent exampleSession s :=
    .of_isSome (by decide +kernel)
  have howed : (lastUpload (exampleConfig "" .null) none s.trace).owed =
      [.text createText, .binary []] := by decide +kernel
  have htaken := (upload_in_order hrun).1 rfl
  exact ⟨howed, howed ▸ htaken⟩

end Session

end Codaze.Websocket
