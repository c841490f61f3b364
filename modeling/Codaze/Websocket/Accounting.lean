import Codaze.Foundation.Histories
import Codaze.Websocket.Rounds

/-!
# The accounts of a session

The selections a session is handed are settled one by one: at most two are open at a time, the
current account and the replacement it is about to be left for. The trace is read as the books of
the session, and every round keeps them.
-/
namespace Codaze.Websocket
open Foundation Accounts Responses Upstream

/-! ## The books -/

namespace Action

def selects (id : String) : Action → Bool
  | .selected accountId => accountId == id
  | _ => false

def settles (id : String) : Action → Bool
  | .settled accountId _ => accountId == id
  | _ => false

/-- An action that opens or closes no selection. -/
def IsIdle : Action → Prop
  | .selected _ | .settled .. => False
  | _ => True

/-- An action that is about messages, not about accounts. -/
def IsQuiet : Action → Prop
  | .accepted _ | .sent .. | .received _ | .delivered .. => True
  | _ => False

/-- An action that only passes a message on. -/
def IsPassing : Action → Prop
  | .sent .. | .received _ | .delivered .. => True
  | _ => False

theorem IsQuiet.isIdle {action : Action} (h : action.IsQuiet) : action.IsIdle := by
  cases action with
  | accepted | sent | received | delivered => trivial
  | _ => exact h.elim

theorem IsPassing.isQuiet {action : Action} (h : action.IsPassing) : action.IsQuiet := by
  cases action with
  | sent | received | delivered => trivial
  | _ => exact h.elim

end Action

/-- How often a session was handed an account. -/
def selections (id : String) (trace : List Action) : ℕ := trace.countP (Action.selects id)

/-- How often a session settled an account. -/
def settlements (id : String) (trace : List Action) : ℕ := trace.countP (Action.settles id)

/-- The accounts of the connections a session was handed, by their number. -/
def selectedAccounts (trace : List Action) : List String := trace.filterMap fun
  | .selected accountId => some accountId
  | _ => none

/-- The accounts whose connections failed since the client's last request. -/
def failedAccounts (config : ProxyConfig) (trace : List Action) : List String :=
  trace.foldl (fun failed action => match action with
    | .accepted message =>
      if isResponsesWebsocketRequestStart config.libs message then [] else failed
    | .failed accountId _ => accountId :: failed
    | _ => failed) []

/-- How the connection of an account failed, since the last switch. -/
def failureSinceSwitch (id : String) (trace : List Action) : Option WebsocketProxyOutcome :=
  trace.foldl (fun failure action => match action with
    | .switched .. => none
    | .failed accountId outcome => if accountId = id then some outcome else failure
    | _ => failure) none

/-- An account is selected when it is not in hand and its connection has not failed the request,
and settled when it was selected once more than settled. -/
def Accountable (config : ProxyConfig) (past : List Action) : Action → Prop
  | .selected id => selections id past = settlements id past ∧ id ∉ failedAccounts config past
  | .settled id _ => selections id past = settlements id past + 1
  | _ => True

section passing

variable {config : ProxyConfig} {trace actions : List Action} {id : String}

theorem selections_append : selections id (trace ++ actions) =
    selections id trace + selections id actions := List.countP_append

theorem settlements_append : settlements id (trace ++ actions) =
    settlements id trace + settlements id actions := List.countP_append

theorem selectedAccounts_append : selectedAccounts (trace ++ actions) =
    selectedAccounts trace ++ selectedAccounts actions := List.filterMap_append

theorem selections_idle (h : ∀ action ∈ actions, action.IsIdle) : selections id actions = 0 :=
  List.countP_eq_zero.mpr fun action hmem => by
    have hidle := h action hmem
    cases action with
    | selected | settled => exact hidle.elim
    | _ => exact Bool.false_ne_true

theorem settlements_idle (h : ∀ action ∈ actions, action.IsIdle) : settlements id actions = 0 :=
  List.countP_eq_zero.mpr fun action hmem => by
    have hidle := h action hmem
    cases action with
    | selected | settled => exact hidle.elim
    | _ => exact Bool.false_ne_true

theorem selectedAccounts_idle (h : ∀ action ∈ actions, action.IsIdle) :
    selectedAccounts actions = [] :=
  List.filterMap_eq_nil_iff.mpr fun action hmem => by
    have hidle := h action hmem
    cases action with
    | selected | settled => exact hidle.elim
    | _ => rfl

theorem failedAccounts_passing (h : ∀ action ∈ actions, action.IsPassing) :
    failedAccounts config (trace ++ actions) = failedAccounts config trace := by
  induction actions generalizing trace with
  | nil => rw [List.append_nil]
  | cons action actions ih =>
    have hpassing := h action List.mem_cons_self
    rw [List.append_cons, ih fun a ha => h a (List.mem_cons_of_mem _ ha)]
    cases action with
    | sent | received | delivered => simp [failedAccounts]
    | _ => exact hpassing.elim

theorem failureSinceSwitch_quiet (h : ∀ action ∈ actions, action.IsQuiet) :
    failureSinceSwitch id (trace ++ actions) = failureSinceSwitch id trace := by
  induction actions generalizing trace with
  | nil => rw [List.append_nil]
  | cons action actions ih =>
    have hquiet := h action List.mem_cons_self
    rw [List.append_cons, ih fun a ha => h a (List.mem_cons_of_mem _ ha)]
    cases action with
    | accepted | sent | received | delivered => simp [failureSinceSwitch]
    | _ => exact hquiet.elim

@[simp] theorem failedAccounts_snoc_failed {outcome : WebsocketProxyOutcome} :
    failedAccounts config (trace ++ [.failed id outcome]) = id :: failedAccounts config trace := by
  simp [failedAccounts]

@[simp] theorem failedAccounts_snoc_settled {settlement : Failover.AccountSettlement} :
    failedAccounts config (trace ++ [.settled id settlement]) = failedAccounts config trace := by
  simp [failedAccounts]

@[simp] theorem failedAccounts_snoc_switched {number : ℕ} {installationId : Option String}
    {snapshot : Option ModelsSnapshot} :
    failedAccounts config (trace ++ [.switched number installationId snapshot]) =
      failedAccounts config trace := by
  simp [failedAccounts]

@[simp] theorem failureSinceSwitch_snoc_failed {id' : String} {outcome : WebsocketProxyOutcome} :
    failureSinceSwitch id (trace ++ [.failed id' outcome]) =
      if id' = id then some outcome else failureSinceSwitch id trace := by
  simp [failureSinceSwitch]

@[simp] theorem failureSinceSwitch_snoc_settled {id' : String}
    {settlement : Failover.AccountSettlement} :
    failureSinceSwitch id (trace ++ [.settled id' settlement]) = failureSinceSwitch id trace := by
  simp [failureSinceSwitch]

@[simp] theorem failureSinceSwitch_snoc_switched {number : ℕ} {installationId : Option String}
    {snapshot : Option ModelsSnapshot} :
    failureSinceSwitch id (trace ++ [.switched number installationId snapshot]) = none := by
  simp [failureSinceSwitch]

theorem isPassing_delivery (source : Source) (message : Message) :
    ∀ action ∈ Session.delivery source message, action.IsPassing := by
  intro action hmem
  obtain ⟨mapped, -, rfl⟩ := Option.map_eq_some_iff.mp (Option.mem_toList.mp hmem)
  trivial

theorem isPassing_deliveries (messages : List UpstreamMessage) :
    ∀ action ∈ Session.deliveries messages, action.IsPassing := by
  intro action hmem
  obtain ⟨message, -, hdelivery⟩ := List.mem_flatMap.mp hmem
  exact isPassing_delivery _ _ action hdelivery

end passing

/-- The books of a session that has these accounts in hand. -/
structure Books (config : ProxyConfig) (trace : List Action) (held : List String) : Prop where
  lawful : Lawful (Accountable config) trace
  balanced : ∀ id, selections id trace = settlements id trace + held.count id
  nodup : held.Nodup

namespace Books

variable {config : ProxyConfig} {trace actions : List Action} {held : List String} {id : String}

theorem idle (h : Books config trace held) (hidle : ∀ action ∈ actions, action.IsIdle) :
    Books config (trace ++ actions) held where
  lawful := h.lawful.append (lawfulFrom_of_forall fun action hmem past => by
    have haction := hidle action hmem
    cases action with
    | selected | settled => exact haction.elim
    | _ => trivial)
  balanced id := by
    rw [selections_append, settlements_append, selections_idle hidle, settlements_idle hidle]
    exact h.balanced id
  nodup := h.nodup

theorem select (h : Books config trace held) (hfree : id ∉ held)
    (hunbroken : id ∉ failedAccounts config trace) :
    Books config (trace ++ [.selected id]) (id :: held) where
  lawful := h.lawful.snoc ⟨by rw [h.balanced, List.count_eq_zero.mpr hfree]; rfl, hunbroken⟩
  balanced id' := by
    have hbalanced := h.balanced id'
    by_cases hid : id = id'
    · subst hid
      simp [selections, settlements, Action.selects, Action.settles] at hbalanced ⊢
      omega
    · simp [selections, settlements, Action.selects, Action.settles, hid] at hbalanced ⊢
      omega
  nodup := List.nodup_cons.mpr ⟨hfree, h.nodup⟩

theorem settle {settlement : Failover.AccountSettlement} (h : Books config trace held)
    (hheld : id ∈ held) : Books config (trace ++ [.settled id settlement]) (held.erase id) where
  lawful := h.lawful.snoc (by
    change selections id trace = settlements id trace + 1
    rw [h.balanced, List.count_eq_one_of_mem h.nodup hheld])
  balanced id' := by
    have hbalanced := h.balanced id'
    by_cases hid : id = id'
    · subst hid
      have hcount := List.count_eq_one_of_mem h.nodup hheld
      simp [selections, settlements, Action.selects, Action.settles, List.count_erase_self]
        at hbalanced ⊢
      omega
    · simp [selections, settlements, Action.selects, Action.settles, hid,
        List.count_erase_of_ne (Ne.symm hid)] at hbalanced ⊢
      omega
  nodup := h.nodup.erase id

end Books

/-! ## What a round keeps -/

/-- The failure an outcome reports. -/
def WebsocketProxyOutcome.failure? : WebsocketProxyOutcome → Option WebsocketProxyOutcome
  | outcome@(.failed ..) => some outcome
  | _ => none

namespace Session

variable {config : ProxyConfig} {s t u : Session} {failure : UpstreamFailure}
  {outcome : Option WebsocketProxyOutcome} {phase : Phase}
  {pending : Option PendingWebsocketRequest} {actions : List Action}

/-- A session that has the account of the current connection in hand, with the failure of this
connection. -/
structure InHand (config : ProxyConfig) (s : Session) (failure : Option WebsocketProxyOutcome) :
    Prop where
  books : Books config s.trace [s.currentAccountId]
  current : (selectedAccounts s.trace)[s.connectionNumber]? = some s.currentAccountId
  counted : (selectedAccounts s.trace).length = s.connections
  failure : failureSinceSwitch s.currentAccountId s.trace = failure

/-- A request that may still be moved has tried all accounts that failed it. -/
def HasTried (config : ProxyConfig) (s : Session) : Prop :=
  ∀ pending, s.pendingRequest = some pending → pending.committed = false →
    ∀ id ∈ failedAccounts config s.trace, id ∈ pending.triedAccounts

/-- The books of a session between two rounds. -/
def Accounted (config : ProxyConfig) (s : Session) : Prop :=
  match s.phase with
  | .upgrading => InHand config s none ∧ s.pendingRequest = none
  | .proxying => InHand config s none ∧ HasTried config s
  | .returned accountId ending =>
    accountId = s.currentAccountId ∧ InHand config s ending.outcome.failure?
  | .finished => ∃ u ending, InHand config u (Ending.outcome ending).failure? ∧
    Becomes u s .finished s.pendingRequest
      [.settled u.currentAccountId (Ending.outcome ending).settlement]
  | .panicked => False

theorem InHand.becomes (h : InHand config s outcome) (hbecomes : Becomes s t phase pending actions)
    (hquiet : ∀ action ∈ actions, action.IsQuiet) : InHand config t outcome where
  books := by
    rw [hbecomes.trace, hbecomes.currentAccountId]
    exact h.books.idle fun action hmem => (hquiet action hmem).isIdle
  current := by
    rw [hbecomes.trace, hbecomes.connectionNumber, hbecomes.currentAccountId,
      selectedAccounts_append, selectedAccounts_idle fun a ha => (hquiet a ha).isIdle,
      List.append_nil]
    exact h.current
  counted := by
    rw [hbecomes.trace, hbecomes.connections, selectedAccounts_append,
      selectedAccounts_idle fun a ha => (hquiet a ha).isIdle, List.append_nil]
    exact h.counted
  failure := by
    rw [hbecomes.trace, hbecomes.currentAccountId, failureSinceSwitch_quiet hquiet]
    exact h.failure

theorem InHand.passed {known : Option WebsocketProxyOutcome} {messages : List UpstreamMessage}
    (h : InHand config s outcome) (hpassed : Passed s known messages phase pending t) :
    InHand config t outcome := by
  rcases hpassed with hbecomes | ⟨delivered, pending', -, hbecomes⟩
  · exact h.becomes hbecomes fun action hmem => (isPassing_deliveries _ action hmem).isQuiet
  · exact h.becomes hbecomes fun action hmem => (isPassing_deliveries _ action hmem).isQuiet

theorem InHand.fails {outcome' : WebsocketProxyOutcome} (h : InHand config s outcome)
    (hbecomes : Becomes s t phase pending [.failed s.currentAccountId outcome']) :
    InHand config t (some outcome') where
  books := by
    rw [hbecomes.trace, hbecomes.currentAccountId]
    exact h.books.idle fun action hmem => by
      obtain rfl := List.mem_singleton.mp hmem
      trivial
  current := by
    rw [hbecomes.trace, hbecomes.connectionNumber, hbecomes.currentAccountId,
      selectedAccounts_append]
    simpa [selectedAccounts] using h.current
  counted := by
    rw [hbecomes.trace, hbecomes.connections, selectedAccounts_append]
    simpa [selectedAccounts] using h.counted
  failure := by
    rw [hbecomes.trace, hbecomes.currentAccountId, failureSinceSwitch_snoc_failed, if_pos rfl]

theorem InHand.notesFailure (h : InHand config s none) (known : Option WebsocketProxyOutcome) :
    InHand config (s.notesFailure known)
      ((failureOf? known).map UpstreamFailure.outcome) := by
  unfold Session.notesFailure
  cases failureOf? known with
  | none => exact h
  | some failure => exact h.fails (becomes_record s _)

/-- A session that has returned has its account in hand. -/
theorem accounted_of_returned {accountId : String} {ending : Ending}
    (hphase : t.phase = .returned accountId ending) (haccount : accountId = t.currentAccountId)
    (h : InHand config t ending.outcome.failure?) : Accounted config t := by
  unfold Accounted
  rw [hphase]
  exact ⟨haccount, h⟩

theorem accounted_of_proxying (hphase : t.phase = .proxying) (h : InHand config t none)
    (htried : HasTried config t) : Accounted config t := by
  unfold Accounted
  rw [hphase]
  exact ⟨h, htried⟩

/-! ## The retry -/

/-- The books between two rounds of the retry loop. -/
structure Retrying (config : ProxyConfig) (s : Session) (failure : UpstreamFailure) (u : Session)
    (tried : Finset String) : Prop where
  phase : u.phase = .proxying
  hand : InHand config u (some failure.outcome)
  tries : u.currentAccountId ∈ tried
  tried : ∀ id ∈ failedAccounts config u.trace, id ∈ tried

theorem Retrying.fresh {tried tried' : Finset String} {accountId : String}
    (h : Retrying config s failure u tried) (htried : tried ⊆ tried')
    (huntried : accountId ∉ tried') :
    accountId ≠ u.currentAccountId ∧ accountId ∉ failedAccounts config u.trace :=
  ⟨fun heq => huntried (htried (heq ▸ h.tries)), fun hmem => huntried (htried (h.tried _ hmem))⟩

section replays

variable {accountId : String} (taken : List Message)

theorem isPassing_sent (number : ℕ) : ∀ action ∈ taken.map (Action.sent number),
    action.IsPassing := by
  intro action hmem
  obtain ⟨message, -, rfl⟩ := List.mem_map.mp hmem
  trivial

theorem trace_replays : (u.replays accountId taken).trace =
    u.trace ++ [Action.selected accountId] ++ taken.map (Action.sent u.connections) := by
  simp [replays]

theorem books_replays (h : Books config u.trace [u.currentAccountId])
    (hother : accountId ≠ u.currentAccountId)
    (hunbroken : accountId ∉ failedAccounts config u.trace) :
    Books config (u.replays accountId taken).trace [accountId, u.currentAccountId] := by
  have hselected := h.select (by simpa using hother) hunbroken
  rw [trace_replays]
  exact hselected.idle fun action hmem => (isPassing_sent taken _ action hmem).isQuiet.isIdle

theorem selectedAccounts_replays : selectedAccounts (u.replays accountId taken).trace =
    selectedAccounts u.trace ++ [accountId] := by
  rw [trace_replays, selectedAccounts_append,
    selectedAccounts_idle fun action hmem => (isPassing_sent taken _ action hmem).isQuiet.isIdle,
    List.append_nil, selectedAccounts_append]
  rfl

theorem failedAccounts_replays : failedAccounts config (u.replays accountId taken).trace =
    failedAccounts config u.trace := by
  rw [trace_replays, failedAccounts_passing (isPassing_sent taken _)]
  simp [failedAccounts]

theorem failureSinceSwitch_replays {id : String} :
    failureSinceSwitch id (u.replays accountId taken).trace = failureSinceSwitch id u.trace := by
  rw [trace_replays, failureSinceSwitch_quiet fun action hmem =>
    (isPassing_sent taken _ action hmem).isQuiet]
  simp [failureSinceSwitch]

end replays

theorem Retrying.replayFailed {tried tried' : Finset String} {accountId : String}
    {taken : List Message} {failure' : UpstreamFailure} (h : Retrying config s failure u tried)
    (htried : tried ⊆ tried') (huntried : accountId ∉ tried') :
    Retrying config s failure (u.replayFailed accountId taken failure')
      (insert accountId tried') := by
  obtain ⟨hother, hunbroken⟩ := h.fresh htried huntried
  have htrace : (u.replayFailed accountId taken failure').trace =
      (u.replays accountId taken).trace ++ [.failed accountId failure'.outcome] ++
        [.settled accountId failure'.outcome.settlement] := rfl
  have hselected : selectedAccounts (u.replayFailed accountId taken failure').trace =
      selectedAccounts u.trace ++ [accountId] := by
    rw [htrace, selectedAccounts_append, selectedAccounts_append, selectedAccounts_replays]
    simp [selectedAccounts]
  refine ⟨h.phase, ⟨?_, ?_, ?_, ?_⟩, ?_, ?_⟩
  · have hbooks := books_replays taken h.hand.books hother hunbroken
    have hfailed : Books config ((u.replays accountId taken).trace ++
        [.failed accountId failure'.outcome]) [accountId, u.currentAccountId] :=
      hbooks.idle fun action hmem => by
        obtain rfl := List.mem_singleton.mp hmem
        trivial
    have hsettled := @Books.settle _ _ _ _ failure'.outcome.settlement hfailed List.mem_cons_self
    rw [List.erase_cons_head] at hsettled
    exact hsettled
  · rw [hselected]
    have hbound := (List.getElem?_eq_some_iff.mp h.hand.current).1
    exact (List.getElem?_append_left hbound).trans h.hand.current
  · rw [hselected, List.length_append, h.hand.counted]
    rfl
  · rw [htrace, failureSinceSwitch_snoc_settled, failureSinceSwitch_snoc_failed]
    change (if accountId = u.currentAccountId then _ else _) = _
    rw [if_neg hother, failureSinceSwitch_replays]
    exact h.hand.failure
  · exact Finset.mem_insert_of_mem (htried h.tries)
  · intro id hid
    rw [htrace, failedAccounts_snoc_settled, failedAccounts_snoc_failed,
      failedAccounts_replays] at hid
    rcases List.mem_cons.mp hid with rfl | hmem
    · exact Finset.mem_insert_self _ _
    · exact Finset.mem_insert_of_mem (htried (h.tried id hmem))

theorem InHand.withTried (h : InHand config s outcome) (tried : Finset String) :
    InHand config (s.withTried tried) outcome :=
  h.becomes ((Becomes.refl s).modifyPending _) (List.forall_mem_nil _)

/-- Behind a switch the replacement is in hand, and the account it replaces is settled. -/
theorem Retrying.switched {tried tried' : Finset String} {accountId : String}
    {taken : List Message} {installationId : Option String} {snapshot : Option ModelsSnapshot}
    (h : Retrying config s failure u tried) (htried : tried ⊆ tried')
    (huntried : accountId ∉ tried')
    (hswitches : Switches (u.replays accountId taken) tried' t failure accountId u.connections
      installationId snapshot) : InHand config t none ∧ HasTried config t := by
  obtain ⟨hother, hunbroken⟩ := h.fresh htried huntried
  have htrace : t.trace = (u.replays accountId taken).trace ++
      [.settled u.currentAccountId failure.outcome.settlement] ++
        [.switched u.connections installationId snapshot] := by
    rw [hswitches.trace, List.append_assoc]
    rfl
  have hselected : selectedAccounts t.trace = selectedAccounts u.trace ++ [accountId] := by
    rw [htrace, selectedAccounts_append, selectedAccounts_append, selectedAccounts_replays]
    simp [selectedAccounts]
  have hnumber : t.connectionNumber = (selectedAccounts u.trace).length := by
    rw [hswitches.connectionNumber, h.hand.counted]
  refine ⟨⟨?_, ?_, ?_, ?_⟩, fun pending hpending _ id hid => ?_⟩
  · have hbooks := books_replays taken h.hand.books hother hunbroken
    have hsettled := @Books.settle _ _ _ _ failure.outcome.settlement hbooks
      (List.mem_cons_of_mem accountId (List.mem_singleton.mpr rfl))
    have herase : [accountId, u.currentAccountId].erase u.currentAccountId = [accountId] := by
      simp [hother]
    rw [herase] at hsettled
    rw [htrace, hswitches.currentAccountId]
    exact hsettled.idle fun action hmem => by
      obtain rfl := List.mem_singleton.mp hmem
      trivial
  · rw [hselected, hnumber, hswitches.currentAccountId]
    simp
  · rw [hselected, List.length_append, h.hand.counted, hswitches.connections]
    rfl
  · rw [htrace, failureSinceSwitch_snoc_switched]
  · have hsame : failedAccounts config t.trace = failedAccounts config u.trace := by
      rw [htrace, failedAccounts_snoc_switched, failedAccounts_snoc_settled,
        failedAccounts_replays]
    rw [hswitches.pendingRequest] at hpending
    obtain ⟨retried, hretried, rfl⟩ := Option.map_eq_some_iff.mp hpending
    obtain ⟨_, -, rfl⟩ := Option.map_eq_some_iff.mp hretried
    exact htried (h.tried id (hsame ▸ hid))

theorem accounted_retryOrReturn {surroundings : Surroundings} (hphase : s.phase = .proxying)
    (h : InHand config s none) (htried : HasTried config s)
    (hintime : s.retryInTime config surroundings failure)
    (hstep : s.retryOrReturn config surroundings failure = some t) : Accounted config t := by
  have hstart : ∀ pending, s.pendingRequest = some pending → pending.committed = false →
      Retrying config s failure (s.record (.failed s.currentAccountId failure.outcome))
        (insert s.currentAccountId pending.triedAccounts) := by
    intro pending hpending huncommitted
    refine ⟨hphase, h.fails (becomes_record s _), Finset.mem_insert_self _ _, fun id hid => ?_⟩
    change id ∈ failedAccounts config (s.trace ++ _) at hid
    rw [failedAccounts_snoc_failed] at hid
    rcases List.mem_cons.mp hid with rfl | hmem
    · exact Finset.mem_insert_self _ _
    · exact Finset.mem_insert_of_mem (htried pending hpending huncommitted id hmem)
  have hreplay := fun s' tried tried' accountId taken failure' =>
    @Retrying.replayFailed config s s' failure tried tried' accountId taken failure'
  cases retried_retryOrReturn hreplay hstart hstep with
  | returned hpending hbecomes =>
    exact accounted_of_returned hbecomes.phase hbecomes.currentAccountId.symm (h.fails hbecomes)
  | refused hlast htried' hbecomes =>
    refine accounted_of_returned hbecomes.phase hbecomes.currentAccountId.symm ?_
    refine (hlast.hand.withTried _).becomes hbecomes fun action hmem => ?_
    rcases List.mem_append.mp hmem with hmem | hmem
    · exact (isPassing_deliveries _ action hmem).isQuiet
    · generalize websocketErrorMessageForFailoverFailure _ _ _ = message at hmem
      cases message with
      | none => cases hmem
      | some message => exact (isPassing_delivery _ _ action hmem).isQuiet
  | undelivered hlast htried' hinitial hbecomes =>
    refine accounted_of_returned hbecomes.phase hbecomes.currentAccountId.symm ?_
    exact (hlast.hand.withTried _).becomes hbecomes fun action hmem =>
      (isPassing_deliveries _ action hmem).isQuiet
  | switched hpending huncommitted hlast htried' huntried hswitches =>
    obtain ⟨hhand, htried''⟩ := hlast.switched htried' huntried hswitches
    exact accounted_of_proxying (hswitches.phase.trans hlast.phase) hhand htried''
  | panicked hlast hpanicked =>
    exact absurd hpanicked (phase_ne_panicked_of_retryOrReturn hphase hintime hstep)

/-! ## The rounds -/

/-- A request that may still be moved has tried what it had tried before. -/
theorem HasTried.becomes (h : HasTried config s) (hbecomes : Becomes s t phase pending actions)
    (hpassing : ∀ action ∈ actions, action.IsPassing)
    (hpending : ∀ after, pending = some after → after.committed = false →
      ∃ before, s.pendingRequest = some before ∧ before.committed = false ∧
        before.triedAccounts = after.triedAccounts) : HasTried config t := by
  intro after hafter huncommitted id hid
  obtain ⟨before, hbefore, huncommitted', heq⟩ :=
    hpending after (hbecomes.pendingRequest.symm.trans hafter) huncommitted
  rw [hbecomes.trace, failedAccounts_passing hpassing] at hid
  rw [← heq]
  exact h before hbefore huncommitted' id hid

theorem HasTried.accepts (h : HasTried config s) (message : Message) :
    HasTried config (s.acceptClientMessage config message) := by
  intro after hafter huncommitted id hid
  have htrace := (becomes_acceptClientMessage config s message).trace
  rw [htrace] at hid
  cases hstart : isResponsesWebsocketRequestStart config.libs message with
  | true => simp [failedAccounts, hstart] at hid
  | false =>
    have hsame : failedAccounts config (s.trace ++ [.accepted message]) =
        failedAccounts config s.trace := by simp [failedAccounts, hstart]
    rw [hsame] at hid
    simp only [acceptClientMessage, hstart, Bool.false_eq_true, if_false, modifyPending, record]
      at hafter
    obtain ⟨before, hbefore, rfl⟩ := Option.map_eq_some_iff.mp hafter
    split at huncommitted
    next hrecorded =>
      rw [if_pos hrecorded]
      exact h before hbefore huncommitted id hid
    next hrecorded =>
      rw [if_neg hrecorded]
      exact h before hbefore huncommitted id hid

theorem Accounted.of_proxying (h : Accounted config s) (hphase : s.phase = .proxying) :
    InHand config s none ∧ HasTried config s := by
  unfold Accounted at h
  rwa [hphase] at h

theorem InHand.accepts (h : InHand config s outcome) (message : Message) :
    InHand config (s.acceptClientMessage config message) outcome :=
  h.becomes (becomes_acceptClientMessage config s message) fun action hmem => by
    obtain rfl := List.mem_singleton.mp hmem
    trivial

theorem failure?_getD (known : Option WebsocketProxyOutcome) :
    (failureOf? known).map UpstreamFailure.outcome = (known.getD .released).failure? := by
  cases known with
  | none => rfl
  | some outcome => cases outcome <;> rfl

/-- Messages that are passed on to the client leave the books to the way the session goes on. -/
theorem accounted_of_passed {known : Option WebsocketProxyOutcome} {messages : List UpstreamMessage}
    (h : InHand config s (known.getD .released).failure?)
    (hpassed : Passed s known messages phase pending t)
    (hnext : ∀ _ : Becomes s t phase pending (deliveries messages),
      InHand config t (known.getD .released).failure? → Accounted config t) :
    Accounted config t := by
  have hhand := h.passed hpassed
  rcases hpassed with hbecomes | ⟨delivered, pending', -, hbecomes⟩
  · exact hnext hbecomes hhand
  · exact accounted_of_returned hbecomes.phase hbecomes.currentAccountId.symm hhand

theorem accounted_of_phaseBehind {known : Option WebsocketProxyOutcome}
    (hphase : s.phase = .proxying) (hbecomes : Becomes s t (s.phaseBehind known) pending actions)
    (hhand : InHand config t (known.getD .released).failure?)
    (htried : known = none → HasTried config t) : Accounted config t := by
  cases known with
  | none => exact accounted_of_proxying (hbecomes.phase.trans hphase) hhand (htried rfl)
  | some outcome => exact accounted_of_returned hbecomes.phase hbecomes.currentAccountId.symm hhand

theorem accounted_of_handled {surroundings : Surroundings} {message : Message}
    {known : Option WebsocketProxyOutcome} (hphase : s.phase = .proxying)
    (hhand : InHand config s none) (htried : HasTried config s)
    (hintime : ∀ failure ∈ failureOf? known, s.retryInTime config surroundings failure)
    (hhandled : Handled config s surroundings message known t) : Accounted config t := by
  cases hhandled with
  | reset huncommitted hpassed =>
    exact accounted_of_passed hhand hpassed fun hbecomes hhand' =>
      accounted_of_returned hbecomes.phase hbecomes.currentAccountId.symm hhand'
  | retried huncommitted hknown hretries hretry =>
    exact accounted_retryOrReturn hphase hhand htried (hintime _ hknown) hretry
  | @rejected failure huncommitted hknown hpassed =>
    have hfailed := hhand.notesFailure known
    have houtcome : (known.getD .released).failure? = failure.outcome.failure? := by
      rw [← failure?_getD, hknown]
      rfl
    rw [failure?_getD] at hfailed
    exact accounted_of_passed hfailed hpassed fun hbecomes hhand' =>
      accounted_of_returned hbecomes.phase hbecomes.currentAccountId.symm (houtcome ▸ hhand')
  | @waiting before hpending huncommitted hknown hreset hpassed =>
    have hquiet : (known.getD .released).failure? = none := by rw [← failure?_getD, hknown]; rfl
    rw [← hquiet] at hhand
    refine accounted_of_passed hhand hpassed fun hbecomes hhand' => ?_
    cases hterminal : upstreamMessageIsTerminal config.libs message with
    | true =>
      simp only [hterminal, if_true] at hbecomes
      refine accounted_of_phaseBehind hphase hbecomes hhand' fun _ after hafter => ?_
      cases hbecomes.pendingRequest.symm.trans hafter
    | false =>
      simp only [hterminal, Bool.false_eq_true, if_false] at hbecomes
      rw [hquiet] at hhand'
      refine accounted_of_proxying (hbecomes.phase.trans hphase) hhand'
        (htried.becomes hbecomes (isPassing_deliveries _) fun after hafter _ => ?_)
      obtain rfl := Option.some.inj hafter
      exact ⟨before, hpending, huncommitted, (triedAccounts_takesMessage ..).symm⟩
  | passed hcommitted hpassed =>
    have hfailed := hhand.notesFailure known
    rw [failure?_getD] at hfailed
    have hphase' : (s.notesFailure known).phase = .proxying :=
      (becomes_notesFailure s known).phase.trans hphase
    refine accounted_of_passed hfailed hpassed fun hbecomes hhand' =>
      accounted_of_phaseBehind hphase' hbecomes hhand' fun hknown => ?_
    subst hknown
    refine htried.becomes hbecomes (isPassing_deliveries _) fun after hafter huncommitted => ?_
    split at hafter
    · cases hafter
    · exact ⟨after, hafter, huncommitted, rfl⟩

theorem accounted_step {event : Event} (h : Accounted config s)
    (hintime : settlesInTime config s event) (hstep : step config s event = some t) :
    Accounted config t := by
  cases round_of_step hstep with
  | upgradeFailed hphase hbecomes =>
    unfold Accounted at h
    rw [hphase] at h
    exact accounted_of_returned hbecomes.phase hbecomes.currentAccountId.symm
      (h.1.becomes hbecomes (List.forall_mem_nil _))
  | upgraded hphase hbecomes =>
    unfold Accounted at h
    rw [hphase] at h
    refine accounted_of_proxying hbecomes.phase (h.1.becomes hbecomes (List.forall_mem_nil _)) ?_
    intro pending hpending
    cases (hbecomes.pendingRequest.trans h.2).symm.trans hpending
  | settled hphase hbecomes =>
    unfold Accounted at h
    rw [hphase] at h
    obtain ⟨rfl, hhand⟩ := h
    unfold Accounted
    rw [hbecomes.phase, hbecomes.pendingRequest]
    exact ⟨s, _, hhand, hbecomes⟩
  | skipped => exact h
  | closed hphase hending hactions hbecomes =>
    obtain ⟨hhand, -⟩ := h.of_proxying hphase
    refine accounted_of_returned hbecomes.phase hbecomes.currentAccountId.symm ?_
    have hquiet := hhand.becomes hbecomes fun action hmem => by
      rcases List.mem_pair.mp (hactions hmem) with rfl | rfl <;> trivial
    rcases hending with rfl | rfl
    · exact hquiet
    · exact hquiet
  | @accepted _ _ mapped _ _ _ sent hphase hmapped hsent hnext hbecomes =>
    obtain ⟨hhand, htried⟩ := h.of_proxying hphase
    have haccepted := becomes_acceptClientMessage config s mapped
    have hpassing : ∀ action ∈ sent, action.IsPassing := fun action hmem => by
      obtain rfl := List.mem_singleton.mp (hsent hmem)
      trivial
    have hhand' := (hhand.accepts mapped).becomes hbecomes fun action hmem =>
      (hpassing action hmem).isQuiet
    rcases hnext with rfl | rfl
    · exact accounted_of_proxying hbecomes.phase hhand' ((htried.accepts mapped).becomes hbecomes
        hpassing fun after hafter huncommitted => ⟨after, hafter, huncommitted, rfl⟩)
    · exact accounted_of_returned hbecomes.phase
        (hbecomes.currentAccountId.trans haccepted.currentAccountId).symm hhand'
  | @unsent _ _ mapped _ _ hphase hmapped hretry =>
    obtain ⟨hhand, htried⟩ := h.of_proxying hphase
    have haccepted := becomes_acceptClientMessage config s mapped
    refine accounted_retryOrReturn (haccepted.phase.trans hphase) (hhand.accepts mapped)
      (htried.accepts mapped) ?_ hretry
    exact hintime mapped hmapped
  | @broken _ message _ _ hphase hmessage hretry =>
    obtain ⟨hhand, htried⟩ := h.of_proxying hphase
    refine accounted_retryOrReturn hphase hhand htried ?_ hretry
    match message with
    | none | some (.error _) => exact hintime
    | some (.ok message) => exact absurd rfl (hmessage message)
  | dropped hphase hnormalized hbecomes =>
    obtain ⟨hhand, htried⟩ := h.of_proxying hphase
    exact accounted_of_proxying hbecomes.phase
      (hhand.becomes hbecomes (List.forall_mem_singleton.mpr trivial))
      (htried.becomes hbecomes (List.forall_mem_singleton.mpr trivial)
        fun after hafter huncommitted => ⟨after, hafter, huncommitted, rfl⟩)
  | @received _ message normalized _ hphase hnormalized hhandled =>
    obtain ⟨hhand, htried⟩ := h.of_proxying hphase
    have hreceived := becomes_record s (.received ⟨s.connectionNumber, message⟩)
    have hhand' := hhand.becomes hreceived (List.forall_mem_singleton.mpr trivial)
    have htried' := htried.becomes hreceived (List.forall_mem_singleton.mpr trivial)
      fun after hafter huncommitted => ⟨after, hafter, huncommitted, rfl⟩
    have hphase' : (s.record (.received ⟨s.connectionNumber, message⟩)).phase = .proxying := hphase
    exact accounted_of_handled hphase' hhand' htried' (hintime normalized hnormalized) hhandled

theorem accounted_opened (config : ProxyConfig) (headers : HeaderMap) (accountId : String)
    (connection : UpstreamWebsocketConnection) (clientTakes : ℕ) :
    Accounted config (opened headers accountId connection clientTakes) := by
  refine ⟨⟨?_, rfl, rfl, rfl⟩, rfl⟩
  have hempty : Books config [] [] := ⟨trivial, fun _ => rfl, List.nodup_nil⟩
  exact hempty.select (List.not_mem_nil) (List.not_mem_nil)

/-- The accounts a session has in hand. -/
def held (s : Session) : List String :=
  match s.phase with
  | .finished => []
  | _ => [s.currentAccountId]

/-- The books and the current account, in any phase. -/
theorem Accounted.closed (h : Accounted config s) :
    Books config s.trace s.held ∧
      (selectedAccounts s.trace)[s.connectionNumber]? = some s.currentAccountId := by
  unfold Accounted at h
  unfold held
  cases hphase : s.phase with
  | upgrading =>
    rw [hphase] at h
    exact ⟨h.1.books, h.1.current⟩
  | proxying =>
    rw [hphase] at h
    exact ⟨h.1.books, h.1.current⟩
  | returned accountId ending =>
    rw [hphase] at h
    exact ⟨h.2.books, h.2.current⟩
  | finished =>
    rw [hphase] at h
    obtain ⟨u, ending, hhand, hbecomes⟩ := h
    have hsettled := @Books.settle _ _ _ _ (Ending.outcome ending).settlement hhand.books
      List.mem_cons_self
    rw [List.erase_cons_head] at hsettled
    rw [hbecomes.trace, hbecomes.connectionNumber, hbecomes.currentAccountId,
      selectedAccounts_append]
    refine ⟨hsettled, ?_⟩
    simpa [selectedAccounts] using hhand.current
  | panicked => simp [hphase] at h

/-- In a session whose failures are all settled in time, an account is selected only when it is
not in hand and its connection has not failed the same request, and is settled once for each
selection; the outcome goes to the account of the current connection, and reports the failure of
this connection, if there was one. -/
theorem accounts_settled_once {headers : HeaderMap} {accountId : String}
    {connection : UpstreamWebsocketConnection} {clientTakes : ℕ}
    (hrun : Run (step config) (settlesInTime config)
      (opened headers accountId connection clientTakes) s) :
    (∀ (before : List Action) (id : String) (after : List Action),
      s.trace = before ++ Action.selected id :: after →
      selections id before = settlements id before ∧ id ∉ failedAccounts config before) ∧
    (∀ (before : List Action) (id : String) (settlement : Failover.AccountSettlement)
      (after : List Action), s.trace = before ++ Action.settled id settlement :: after →
      selections id before = settlements id before + 1) ∧
    (∀ id, selections id s.trace = settlements id s.trace + s.held.count id) ∧
    (selectedAccounts s.trace)[s.connectionNumber]? = some s.currentAccountId ∧
    s.phase ≠ .panicked ∧
    (∀ id ending, s.phase = .returned id ending → id = s.currentAccountId ∧
      ending.outcome.failure? = failureSinceSwitch s.currentAccountId s.trace) ∧
    (s.phase = .finished → ∃ (before : List Action) (ending : Ending),
      s.trace = before ++ [.settled s.currentAccountId ending.outcome.settlement] ∧
      ending.outcome.failure? = failureSinceSwitch s.currentAccountId before) := by
  have h : Accounted config s := hrun.invariant
    (fun _ _ _ h hintime hstep => accounted_step h hintime hstep)
    (accounted_opened config headers accountId connection clientTakes)
  obtain ⟨hbooks, hcurrent⟩ := h.closed
  refine ⟨fun before id after heq => hbooks.lawful.allowed_of_eq heq,
    fun before id settlement after heq => hbooks.lawful.allowed_of_eq heq, hbooks.balanced,
    hcurrent, fun hphase => ?_, fun id ending hphase => ?_, fun hphase => ?_⟩
  · unfold Accounted at h
    rw [hphase] at h
    exact h
  · unfold Accounted at h
    rw [hphase] at h
    exact ⟨h.1, h.2.failure.symm⟩
  · unfold Accounted at h
    rw [hphase] at h
    obtain ⟨u, ending, hhand, hbecomes⟩ := h
    rw [hbecomes.trace, hbecomes.currentAccountId]
    exact ⟨u.trace, ending, rfl, hhand.failure.symm⟩

/-- The first connection breaks before it has answered the request; another account takes it
over, and the client leaves. -/
def brokenConnection : List Event :=
  [.upgraded, .client (some (.ok (.text createText))) exampleSurroundings,
    .upstream none exampleSurroundings, .client none exampleSurroundings, .settle]

theorem accounts_settled_once_brokenConnection :
    let s := stateAfter (step (exampleConfig "" .null)) exampleSession brokenConnection
    s.phase = .finished ∧ selections "a" s.trace = 1 ∧ selections "b" s.trace = 1 ∧
      ∀ id, selections id s.trace = settlements id s.trace := by
  intro s
  have hrun : Run (step (exampleConfig "" .null)) (settlesInTime (exampleConfig "" .null))
      exampleSession s := .of_isSome (by decide +kernel)
  have hphase : s.phase = .finished := by decide +kernel
  have hheld : s.held = [] := by unfold held; rw [hphase]
  obtain ⟨-, -, hbalanced, -⟩ := accounts_settled_once hrun
  refine ⟨hphase, by decide +kernel, by decide +kernel, fun id => ?_⟩
  rw [hbalanced, hheld, List.count_nil, Nat.add_zero]

theorem step_of_panicked {event : Event} (hphase : s.phase = .panicked) :
    step config s event = none := by
  cases event <;> simp [step, hphase]

/-- A rate limit that ends later than any clock can say. -/
def endlessRateLimitText : String :=
  "\x7b\"type\":\"error\",\"status\":429," ++
    "\"headers\":\x7b\"retry-after\":18446744073709551615\x7d\x7d"

def endlessRateLimit : Json :=
  .object [("type", .string "error"), ("status", .number (.posInt 429)),
    ("headers", .object [("retry-after", .number (.posInt u64Max))])]

/-- A request is rate-limited on the first connection. -/
def rateLimited : List Event :=
  [.upgraded, .client (some (.ok (.text createText))) exampleSurroundings,
    .upstream (some (.ok (.text endlessRateLimitText))) exampleSurroundings]

/-- The settlement of the current account panics, and nothing is left to settle the
replacement. -/
theorem panic_leaves_replacement :
    ∃ (config : ProxyConfig) (s : Session), Run (step config) anyEvent exampleSession s ∧
      selections "b" s.trace = 1 ∧ settlements "b" s.trace = 0 ∧
      ∀ event, step config s event = none := by
  have hpanicked : (stateAfter (step (exampleConfig endlessRateLimitText endlessRateLimit))
      exampleSession rateLimited).phase = .panicked := by decide +kernel
  refine ⟨exampleConfig endlessRateLimitText endlessRateLimit, stateAfter (step _) _ rateLimited,
    .of_isSome ?_, ?_, ?_, fun event => step_of_panicked hpanicked⟩
  · decide +kernel
  · decide +kernel
  · decide +kernel

end Session

end Codaze.Websocket
