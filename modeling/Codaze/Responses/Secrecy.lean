import Codaze.Foundation.Fields
import Codaze.Responses.ClientView
import Codaze.Responses.GatewayErrors

/-!
# What a client learns of a failure of the pool

A failure for which no account is to blame in the eyes of the client is shown as one and the same
event: two responses of upstream that agree up to such a failure, and in what the failure says
apart from its error, are the same to the client, whatever the errors say, whatever follows them
and wherever the bytes are cut. Only an error of the connection itself, which is no answer of
upstream, is shown by its kind and its text.
-/
namespace Codaze.Responses
open Foundation Accounts

/-! ## Documents that differ in their error -/

theorem get?_replacePath_of_ne {key name : String} (hname : name ≠ key) (json value : Json)
    (path : List String) : (json.replacePath (key :: path) value).get? name = json.get? name := by
  cases json with
  | object fields =>
    exact @Fields.get?_map_onKey_of_ne fields key name
      (fun field => field.replacePath path value) hname
  | _ => rfl

theorem get?_replacePath (json value : Json) (key : String) (path : List String) :
    (json.replacePath (key :: path) value).get? key =
      (json.get? key).map fun field => field.replacePath path value := by
  cases json with
  | object fields =>
    exact @Fields.get?_map_onKey fields key fun field => field.replacePath path value
  | _ => rfl

/-- Of two replacements at one place the second one counts. -/
theorem replacePath_replacePath (path : List String) (json value value' : Json) :
    (json.replacePath path value).replacePath path value' = json.replacePath path value' := by
  induction path generalizing json with
  | nil => cases json <;> rfl
  | cons key path ih =>
    cases json with
    | object fields =>
      simp only [Json.replacePath, List.map_map]
      refine congrArg Json.object (List.map_congr_left fun field _ => ?_)
      by_cases hkey : field.1 = key
      · simp [hkey, ih]
      · simp [hkey]
    | _ => rfl

/-- The documents of two failures that differ in what they tell of the failure. -/
inductive AlikeButError : String → Json → Json → Prop
  | failed (json error error' : Json) :
      AlikeButError "response.failed" (json.replacePath ["response", "error"] error)
        (json.replacePath ["response", "error"] error')
  | error {json json' : Json}
      (hnumber : getI64? json "sequence_number" = getI64? json' "sequence_number")
      (hid : (json.getPath? ["response", "id"]).bind Json.asStr? =
        (json'.getPath? ["response", "id"]).bind Json.asStr?) :
      AlikeButError "error" json json'

namespace AlikeButError

variable {kind : String} {json json' : Json}

theorem number (h : AlikeButError kind json json') :
    getI64? json "sequence_number" = getI64? json' "sequence_number" := by
  cases h with
  | failed json error error' =>
    simp only [getI64?, get?_replacePath_of_ne (show "sequence_number" ≠ "response" by decide)]
  | error hnumber hid => exact hnumber

theorem id (h : AlikeButError kind json json') :
    (json.getPath? ["response", "id"]).bind Json.asStr? =
      (json'.getPath? ["response", "id"]).bind Json.asStr? := by
  cases h with
  | failed json error error' =>
    simp only [Json.getPath?, get?_replacePath]
    cases json.get? "response" with
    | none => rfl
    | some response =>
      simp only [Option.map_some, Option.bind_some,
        get?_replacePath_of_ne (show "id" ≠ "error" by decide)]
  | error hnumber hid => exact hid

theorem kind_eq (h : AlikeButError kind json json') :
    kind = "response.failed" ∨ kind = "error" := by
  cases h with
  | failed => exact .inl rfl
  | error => exact .inr rfl

/-- The same event takes the place of both failures. -/
theorem rewrite_eq (h : AlikeButError kind json json') (libs : Libraries) (now : Time)
    (shape : ResponseShape) (state : ResponsesSseState) :
    (state.checkpoint json).rewriteGatewayUnavailableEvent libs now shape kind json =
      (state.checkpoint json').rewriteGatewayUnavailableEvent libs now shape kind json' := by
  have hstate : state.checkpoint json = state.checkpoint json' := by
    simp only [ResponsesSseState.checkpoint, h.number, h.id]
  unfold ResponsesSseState.rewriteGatewayUnavailableEvent
  rw [hstate, h.number]
  cases h with
  | failed json error error' => simp only [replacePath_replacePath]
  | error hnumber hid => rfl

end AlikeButError

/-! ## Responses that break off -/

section

variable (libs : Libraries) (now : Time) (shape : ResponseShape)

/-- The observer behind events that do not end the response. -/
def behindEvents (front : List SseEvent) : ResponsesSseState :=
  (ResponsesSseState.consumeEach libs 0 shape { sseMode := true } front).1

/-- What is shown in the place of a failure. -/
def shownFailure (front : List SseEvent) (kind : String) (json : Json) : List Byte :=
  ((behindEvents libs shape front).checkpoint json).rewriteGatewayUnavailableEvent libs now shape
    kind json

/-- What a client is told of an error of the pool: an answer of upstream says nothing, a timeout
or another error of the connection its kind and its text. -/
def shownPayload : TransportError → SyntheticResponseFailedPayload
  | .http .. => gatewayUnavailablePayload
  | error => libs.syntheticResponseFailedPayloadFromTransport 0 error

/-- What is shown where the connection breaks. -/
def shownBreak (upstream : List SseEvent) (payload : SyntheticResponseFailedPayload) : List Byte :=
  ((behindEvents libs shape upstream).syntheticErrorEventWithPayload libs now shape
    payload).getD []

end

/-- An event with a document of a kind that is shown as another event. -/
structure FailsWith (libs : Libraries) (kind : String) (json : Json) (event : SseEvent) : Prop where
  reads : (eventPayload? event.encode).bind libs.fromStr = some json
  kind_eq : ((eventName? event.encode).or (getStr? json "type")).getD "" = kind
  unavailable : (libs.terminalOfEvent 0 kind json).map (·.2) = some true

/-- Events that do not end the response, then such a failure and anything behind it. -/
structure BreaksWith (libs : Libraries) (front : List SseEvent) (kind : String) (json : Json)
    (inner : List InnerPoll) : Prop where
  bytes : ∃ event back tail, FailsWith libs kind json event ∧ findSseEventEnd tail = none ∧
    upstreamBytes inner = (front ++ event :: back).flatMap WireEvent.encode ++ tail
  start : classifySseLineStart (upstreamBytes inner) ≠ .none

/-- Events that do not end the response and part of another one, then an error of which no account
is to blame, and what a client is told of it. -/
structure BreaksOff (libs : Libraries) (upstream : List SseEvent)
    (payload : SyntheticResponseFailedPayload) (inner : List InnerPoll) : Prop where
  bytes : ∃ tail, findSseEventEnd tail = none ∧
    upstreamBytes inner = upstream.flatMap WireEvent.encode ++ tail
  start : classifySseLineStart (upstreamBytes inner) ≠ .none
  ends : ∃ error, upstreamEnd inner = some (.error error) ∧
    downstreamFailureKind (libs.classifyRequestError 0 error) = .gatewayUnavailable ∧
    shownPayload libs error = payload

section

variable {libs : Libraries} {now now' : Time} {shape : ResponseShape} {front : List SseEvent}
  {kind : String} {json json' : Json} {inner : List InnerPoll} {out : List Byte}
  {settlement : Failover.AccountSettlement}

/-- Events that do not end the response are read the same way at any time. -/
theorem consumeEach_anytime {state : ResponsesSseState} (hopen : state.hasTerminalEvent = false)
    (hfront : ∀ event ∈ front, libs.endsResponse event.encode = false) :
    ResponsesSseState.consumeEach libs now' shape state front =
      ResponsesSseState.consumeEach libs now shape state front := by
  induction front generalizing state with
  | nil => rfl
  | cons event front ih =>
    have hstill : (state.consumeEvent libs now shape event.encode).1.hasTerminalEvent = false :=
      (ResponsesSseState.consumeEvent_hasTerminalEvent hopen _).trans
        (hfront event List.mem_cons_self)
    rw [ResponsesSseState.consumeEach, ResponsesSseState.consumeEach,
      @ResponsesSseState.consumeEvent_anytime libs now now' shape state event.encode hstill,
      hstill, if_neg Bool.false_ne_true, if_neg Bool.false_ne_true]
    exact emitThen_congr (ih hstill fun other h => hfront other (List.mem_cons_of_mem _ h))

/-- The first event that ends a response is where it is. -/
theorem first_end_unique {p : SseEvent → Bool} {front front' back back' : List SseEvent}
    {event event' : SseEvent} (hfront : ∀ event ∈ front, p event = false) (hevent : p event = true)
    (hfront' : ∀ event ∈ front', p event = false) (hevent' : p event' = true)
    (h : front ++ event :: back = front' ++ event' :: back') : front = front' ∧ event = event' := by
  induction front generalizing front' with
  | nil =>
    cases front' with
    | nil => exact ⟨rfl, (List.cons.inj h).1⟩
    | cons first front' =>
      have hfirst := hfront' first List.mem_cons_self
      rw [← (List.cons.inj h).1, hevent] at hfirst
      cases hfirst
  | cons first front ih =>
    cases front' with
    | nil =>
      have hfirst := hfront first List.mem_cons_self
      rw [(List.cons.inj h).1, hevent'] at hfirst
      cases hfirst
    | cons first' front' =>
      obtain ⟨rfl, hrest⟩ := List.cons.inj h
      have hsame := ih (fun other h => hfront other (List.mem_cons_of_mem _ h))
        (fun other h => hfront' other (List.mem_cons_of_mem _ h)) hrest
      exact ⟨congrArg (first :: ·) hsame.1, hsame.2⟩

/-- The clock decides about the delay of a failure, not about its class. -/
theorem class_anytime (libs : Libraries) (now : Time) (error : Json) :
    (∀ fallback, (libs.classifyErrorObject now error fallback).status =
        (libs.classifyErrorObject 0 error fallback).status ∧
      (libs.classifyErrorObject now error fallback).failure =
        (libs.classifyErrorObject 0 error fallback).failure) ∧
    (libs.classifyOpenaiErrorEvent now error).status =
      (libs.classifyOpenaiErrorEvent 0 error).status ∧
    (libs.classifyOpenaiErrorEvent now error).failure =
      (libs.classifyOpenaiErrorEvent 0 error).failure := by
  refine ⟨fun _ => ⟨rfl, rfl⟩, ?_⟩
  unfold Libraries.classifyOpenaiErrorEvent
  cases error.get? "error" with
  | none => exact ⟨rfl, rfl⟩
  | some inner => exact ⟨rfl, rfl⟩

theorem replaced_anytime (libs : Libraries) (now : Time) (kind : String) (json : Json) :
    (libs.terminalOfEvent now kind json).map (·.2) =
      (libs.terminalOfEvent 0 kind json).map (·.2) := by
  have hfailed := (class_anytime libs now ((json.getPath? ["response", "error"]).getD .null)).1
    "response.failed event received"
  have herror := (class_anytime libs now json).2
  unfold Libraries.terminalOfEvent Libraries.classifyResponseFailedEvent
  dsimp only
  split_ifs
  · rfl
  · simp only [Option.map_some, hfailed.1, hfailed.2]
  · simp only [Option.map_some, herror.1, herror.2]
  · rfl
  · rfl

namespace FailsWith

variable {event : SseEvent}

theorem terminalOfEvent_eq (h : FailsWith libs kind json event) (now : Time) :
    ∃ terminal, libs.terminalOfEvent now kind json = some (terminal, true) := by
  obtain ⟨⟨terminal, _⟩, hterminal, rfl⟩ :=
    Option.map_eq_some_iff.mp ((replaced_anytime libs now kind json).trans h.unavailable)
  exact ⟨terminal, hterminal⟩

theorem endsResponse (h : FailsWith libs kind json event) :
    libs.endsResponse event.encode = true := by
  obtain ⟨terminal, hterminal⟩ := h.terminalOfEvent_eq 0
  have hkind := (terminalOfEvent_isSome libs 0 kind json).mp (by simp [hterminal])
  rw [Libraries.endsResponse, Libraries.eventKind?, h.reads, Option.map_some, h.kind_eq]
  simpa using hkind

theorem consumeEvent_eq (h : FailsWith libs kind json event) (now : Time) (shape : ResponseShape)
    (state : ResponsesSseState) : (state.consumeEvent libs now shape event.encode).2 =
      (state.checkpoint json).rewriteGatewayUnavailableEvent libs now shape kind json := by
  obtain ⟨terminal, hterminal⟩ := h.terminalOfEvent_eq now
  unfold ResponsesSseState.consumeEvent
  rw [h.reads]
  dsimp only
  rw [h.kind_eq, hterminal]
  rfl

end FailsWith

/-- A response that breaks off with a failure comes to one outcome but for the time. -/
theorem StreamOutcome.shownFailure
    (hfront : ∀ event ∈ front, libs.endsResponse event.encode = false)
    (hbreaks : BreaksWith libs front kind json inner)
    (h : StreamOutcome libs shape inner out settlement) :
    ∃ now, out = front.flatMap WireEvent.encode ++ shownFailure libs now shape front kind json := by
  obtain ⟨event, back, tail, hfails, htail, hbytes⟩ := hbreaks.bytes
  have hstart := hbreaks.start
  rw [hbytes] at hstart
  -- a response that is read to its end would have been ended by the failure
  have hended {state : ResponsesSseState} {out : List Byte}
      (hread : Observed libs shape (upstreamBytes inner) state out) : False := by
    rw [hbytes] at hread
    have hopen := (hread.passed hstart htail).noTerminal event (by simp)
    rw [hfails.endsResponse] at hopen
    cases hopen
  cases h with
  | @event now bytes terminal hcut hterminal =>
    rw [hbytes] at hcut
    obtain ⟨read, unread, held, hupstream, rfl, hheld⟩ := exists_cut _ htail hcut
    have hstart' : classifySseLineStart (read.flatMap WireEvent.encode ++ held) ≠ .none := by
      obtain ⟨more, hmore⟩ := hcut
      exact fun h => hstart (hmore ▸ classifySseLineStart_none_append h more)
    obtain ⟨mode, hmode, hread⟩ := @ResponsesSseState.observeBytes_encode libs now shape read held
      hstart' hheld
    have hfirst : ({ sseMode := mode } : ResponsesSseState).hasTerminalEvent = false := rfl
    rw [hread] at hterminal ⊢
    dsimp only at hterminal ⊢
    rcases exists_first_end libs read with hnone | ⟨front', event', back', rfl, hopen, hevent'⟩
    · have hstill := (@ResponsesSseState.consumeEach_passes libs now shape _ hfirst read hnone).1
      rw [ResponsesSseState.hasTerminalEvent, hterminal] at hstill
      cases hstill
    · have hsplit : front ++ event :: back = front' ++ event' :: (back' ++ unread) := by
        rw [hupstream]
        simp
      obtain ⟨rfl, rfl⟩ := first_end_unique hfront hfails.endsResponse hopen hevent' hsplit
      obtain rfl : mode = true := by
        by_contra hno
        simpa using (hmode (by simpa using hno)).2
      refine ⟨now, ?_⟩
      have hpasses := (@ResponsesSseState.consumeEach_passes libs now shape _ hfirst front hopen).2
      rw [ResponsesSseState.consumeEach_ends hfirst hopen hevent', emitThen, hpasses,
        List.flatten_append, List.flatten_singleton, List.flatMap_def, hfails.consumeEvent_eq,
        @consumeEach_anytime libs 0 now shape front _ hfirst hopen]
      rfl
  | lastEvent now hfinished hread hterminal => exact (hended hread).elim
  | error now herror hread => exact (hended hread).elim
  | unfinished now hfinished hread hopen => exact (hended hread).elim

/-- The error event of an error of the pool says what a client is told of it. -/
theorem syntheticTransportErrorEvent_eq {error : TransportError}
    (hkind : downstreamFailureKind (libs.classifyRequestError 0 error) = .gatewayUnavailable)
    (state : ResponsesSseState) (now : Time) :
    state.syntheticTransportErrorEvent libs now shape error (libs.classifyRequestError now error) =
      state.syntheticErrorEventWithPayload libs now shape (shownPayload libs error) := by
  unfold ResponsesSseState.syntheticTransportErrorEvent
  cases error with
  | http status headers body =>
    -- the class of an answer does not depend on the time
    have hnow : downstreamFailureKind (libs.classifyRequestError now (.http status headers body)) =
        .gatewayUnavailable := hkind
    simp only [hnow, if_true]
    rfl
  | _ => rfl

/-- Where the connection breaks, the outcome says of the error what the client is told, and the
time. -/
theorem StreamOutcome.shownBreak {upstream : List SseEvent}
    {payload : SyntheticResponseFailedPayload}
    (hopen : ∀ event ∈ upstream, libs.endsResponse event.encode = false)
    (hbreaks : BreaksOff libs upstream payload inner)
    (h : StreamOutcome libs shape inner out settlement) :
    ∃ now, out = upstream.flatMap WireEvent.encode ++
      shownBreak libs now shape upstream payload := by
  obtain ⟨tail, htail, hbytes⟩ := hbreaks.bytes
  obtain ⟨failed, hends, hunavailable, rfl⟩ := hbreaks.ends
  have hstart := hbreaks.start
  rw [hbytes] at hstart
  cases h with
  | @event now bytes terminal hcut hterminal =>
    -- no event has ended the response
    rw [hbytes] at hcut
    obtain ⟨read, unread, held, rfl, rfl, hheld⟩ := exists_cut upstream htail hcut
    have hstart' : classifySseLineStart (read.flatMap WireEvent.encode ++ held) ≠ .none := by
      obtain ⟨more, hmore⟩ := hcut
      exact fun h => hstart (hmore ▸ classifySseLineStart_none_append h more)
    obtain ⟨mode, -, hread⟩ := @ResponsesSseState.observeBytes_encode libs now shape read held
      hstart' hheld
    have hfirst : ({ sseMode := mode } : ResponsesSseState).hasTerminalEvent = false := rfl
    have hstill := (@ResponsesSseState.consumeEach_passes libs now shape _ hfirst read
      fun event hmem => hopen event (List.mem_append_left _ hmem)).1
    rw [hread] at hterminal
    rw [ResponsesSseState.hasTerminalEvent] at hstill
    dsimp only at hterminal
    rw [hterminal] at hstill
    cases hstill
  | lastEvent now hfinished => cases hends.symm.trans hfinished
  | unfinished now hfinished => cases hends.symm.trans hfinished
  | @error now error state out herror hread =>
    obtain rfl : failed = error := by
      simpa using hends.symm.trans herror
    rw [hbytes] at hread
    have hpassed := hread.passed hstart htail
    obtain ⟨mode, hmode, hobserved⟩ := @ResponsesSseState.observeBytes_encode libs 0 shape upstream
      tail hstart htail
    have hreads := hread.reads 0
    rw [hobserved] at hreads
    obtain ⟨rfl, -⟩ := Prod.mk.inj hreads
    refine ⟨now, ?_⟩
    rw [hpassed.out_eq, hpassed.closingBytes_eq, syntheticTransportErrorEvent_eq hunavailable]
    cases mode with
    | true => rfl
    | false =>
      obtain rfl := (hmode rfl).2
      rfl

end

/-- Two responses of upstream that break off alike, behind the same events, and what is shown of
the break. Errors of the connection are alike where a client is told the same of them, as of any two
answers of upstream. -/
inductive BreakAlike (libs : Libraries) (shape : ResponseShape) (front : List SseEvent)
    (inner inner' : List InnerPoll) : (Time → List Byte) → Prop
  | failure {kind json json'} (halike : AlikeButError kind json json')
      (hbreaks : BreaksWith libs front kind json inner)
      (hbreaks' : BreaksWith libs front kind json' inner') :
      BreakAlike libs shape front inner inner' fun now =>
        shownFailure libs now shape front kind json
  | connection {payload} (hbreaks : BreaksOff libs front payload inner)
      (hbreaks' : BreaksOff libs front payload inner') :
      BreakAlike libs shape front inner inner' fun now => shownBreak libs now shape front payload

namespace StreamLife

/-- A failed response, with some error. -/
def failedJson (error : Json) : Json :=
  Json.replacePath (.object [("type", .string "response.failed"),
    ("response", .object [("id", .string "r1"), ("error", .null)])]) ["response", "error"] error

def limitedError (message : String) (seconds : ℤ) : Json :=
  .object [("code", .string "rate_limit_exceeded"), ("message", .string message),
    ("resets_in_seconds", .ofI64 seconds)]

def failedText (error : Json) : String := String.ofList (failedJson error).compact

def weeklyError : Json := limitedError "Weekly limit" 86400
def burstError : Json := limitedError "Slow down" 5

def limitedLibraries : Libraries :=
  .ofTexts [(createdText, .object [("type", .string "response.created")]),
    (failedText weeklyError, failedJson weeklyError),
    (failedText burstError, failedJson burstError)]

def failedEvent (error : Json) (hline : OneLine (failedText error)) : SseEvent where
  lines := [utf8Bytes ("data: " ++ failedText error)]
  lineEnd := .feed
  nonempty := List.cons_ne_nil _ _
  clean line hmem := by
    rw [List.mem_singleton.mp hmem]
    exact clean_utf8Bytes (by decide) (by decide) hline

def weeklyEvent : SseEvent := failedEvent weeklyError (by decide +kernel)
def burstEvent : SseEvent := failedEvent burstError (by decide +kernel)

def weeklyInner : List InnerPoll := [.chunk createdEvent.encode, .chunk weeklyEvent.encode]

/-- The failure is cut, and followed by the first event again. -/
def burstInner : List InnerPoll :=
  [.chunk (createdEvent.encode ++ burstEvent.encode.take 20), .pending,
    .chunk (burstEvent.encode.drop 20 ++ createdEvent.encode)]

theorem fromStr_failedText :
    limitedLibraries.fromStr (failedText weeklyError) = some (failedJson weeklyError) ∧
      limitedLibraries.fromStr (failedText burstError) = some (failedJson burstError) := by
  have hweekly : (failedText weeklyError == createdText) = false := by decide +kernel
  have hburst : (failedText burstError == createdText) = false := by decide +kernel
  have hother : (failedText burstError == failedText weeklyError) = false := by decide +kernel
  simp only [limitedLibraries, Libraries.ofTexts, List.lookup_cons, hweekly, hburst, hother,
    BEq.rfl, and_self]

theorem breaksWith_weekly :
    BreaksWith limitedLibraries [createdEvent] "response.failed" (failedJson weeklyError)
      weeklyInner where
  bytes := by
    have hpayload : eventPayload? weeklyEvent.encode = some (failedText weeklyError) := by
      decide +kernel
    refine ⟨weeklyEvent, [], [], ⟨?_, by decide +kernel, by decide +kernel⟩, rfl, by decide +kernel⟩
    rw [hpayload, Option.bind_some, fromStr_failedText.1]
  start := by decide +kernel

theorem breaksWith_burst :
    BreaksWith limitedLibraries [createdEvent] "response.failed" (failedJson burstError)
      burstInner where
  bytes := by
    have hpayload : eventPayload? burstEvent.encode = some (failedText burstError) := by
      decide +kernel
    refine ⟨burstEvent, [createdEvent], [], ⟨?_, by decide +kernel, by decide +kernel⟩, rfl,
      by decide +kernel⟩
    rw [hpayload, Option.bind_some, fromStr_failedText.2]
  start := by decide +kernel

theorem closed_weekly :
    let stream := ((start .openAi weeklyInner).run limitedLibraries
      [.poll 0, .poll 1, .poll 2]).stream
    stream.closeAfterPendingOutput = true ∧ stream.pendingOutput = [] := by
  decide +kernel

theorem closed_burst :
    let stream := ((start .openAi burstInner).run limitedLibraries
      [.poll 5, .poll 6, .poll 7]).stream
    stream.closeAfterPendingOutput = true ∧ stream.pendingOutput = [] := by
  decide +kernel

end StreamLife

end Codaze.Responses
