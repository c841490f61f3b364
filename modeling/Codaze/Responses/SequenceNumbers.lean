import Codaze.Foundation.Fields
import Codaze.Responses.ManagedStream

/-!
# The numbers of the events the gateway adds

An event that the gateway sends in place of the upstream is to go on with the numbering of
the events before it. A transport error and an early end of the stream have one path for
each shape, a replaced event has a third one.
-/
namespace Codaze.Responses
open Foundation Accounts

/-- The number an event gives itself. -/
def eventNumber? (libs : Libraries) (event : List Byte) : Option ℤ :=
  ((eventPayload? event).bind libs.fromStr).bind (getI64? · "sequence_number")

/-- The observer after some events, each read at its own time. -/
def readEvents (libs : Libraries) (shape : ResponseShape) (history : List (Time × List Byte)) :
    ResponsesSseState :=
  history.foldl (fun state event => (state.consumeEvent libs event.1 shape event.2).1) {}

/-- The last number observed. -/
def lastNumber? (libs : Libraries) (history : List (Time × List Byte)) : Option ℤ :=
  (history.filterMap fun event => eventNumber? libs event.2).getLast?

/-- How the gateway comes to end a stream itself. -/
inductive GatewayEnding where
  | transportError (error : TransportError) (failure : FailureClass)
  /-- The stream is closed before a terminal event. -/
  | closed
  /-- The last event is replaced; it has no number of its own. -/
  | replaced (kind : String) (json : Json) (unnumbered : getI64? json "sequence_number" = none)

namespace GatewayEnding

/-- What the stream ends with. -/
def event (libs : Libraries) (now : Time) (shape : ResponseShape) (state : ResponsesSseState) :
    GatewayEnding → Option (List Byte)
  | transportError error failure => state.syntheticTransportErrorEvent libs now shape error failure
  | closed => state.syntheticErrorEventWithPayload libs now shape
      { code := some "internal_server_error", message := some closedBeforeCompleted }
  | replaced kind json _ => some (state.rewriteGatewayUnavailableEvent libs now shape kind json)

/-- What is told about the failure. -/
def payload (libs : Libraries) (now : Time) : GatewayEnding → SyntheticResponseFailedPayload
  | transportError (.http status headers body) failure =>
    if downstreamFailureKind failure = .gatewayUnavailable then gatewayUnavailablePayload
    else libs.syntheticResponseFailedPayloadFromTransport now (.http status headers body)
  | transportError error _ => libs.syntheticResponseFailedPayloadFromTransport now error
  | closed => { code := some "internal_server_error", message := some closedBeforeCompleted }
  | replaced .. => gatewayUnavailablePayload

/-- The number each path computes. -/
def nextNumber (shape : ResponseShape) (last : Option ℤ) : GatewayEnding → ℤ
  | replaced .. => saturatingSucc (last.getD (-1))
  | _ => match shape with
    | .codex => wrappingSucc (last.getD (-1))
    | .openAi => saturatingSucc (last.getD (-1))

/-- An upstream failure that a Codex client gets with its error replaced. -/
def edited? (shape : ResponseShape) : GatewayEnding → Option Json
  | replaced kind json _ =>
    if shape = .codex ∧ kind = "response.failed" then
      some (json.replacePath ["response", "error"] gatewayUnavailableObject)
    else none
  | _ => none

/-- The document of the event. -/
def document (libs : Libraries) (now : Time) (shape : ResponseShape) (state : ResponsesSseState)
    (ending : GatewayEnding) : Json :=
  let number := ending.nextNumber shape state.lastSequenceNumber
  (ending.edited? shape).getD <| match shape with
    | .codex => syntheticResponseFailedJson now state.lastResponseId number
        (ending.payload libs now)
    | .openAi => openaiStreamErrorJson number (ending.payload libs now)

/-- The name of the event. -/
def eventName : ResponseShape → String
  | .codex => "response.failed"
  | .openAi => "error"

theorem event_eq (libs : Libraries) (now : Time) (shape : ResponseShape)
    (state : ResponsesSseState) (ending : GatewayEnding) :
    ∃ text, libs.encode (ending.document libs now shape state) = some text ∧
      ending.event libs now shape state = some (sseEventBytes (eventName shape) text) := by
  obtain ⟨text, htext⟩ := Option.isSome_iff_exists.mp
    (libs.encode_isSome (ending.document libs now shape state))
  have hevent : ending.event libs now shape state =
      (libs.encode (ending.document libs now shape state)).map
        (sseEventBytes (eventName shape)) := by
    cases ending with
    | transportError error failure =>
      have hpayload : ∀ shape, (transportError error failure).event libs now shape state =
          state.syntheticErrorEventWithPayload libs now shape
            ((transportError error failure).payload libs now) := by
        cases error <;> exact fun _ => rfl
      rw [hpayload]
      cases shape <;> rfl
    | closed => cases shape <;> rfl
    | replaced kind json unnumbered =>
      simp only [event, ResponsesSseState.rewriteGatewayUnavailableEvent, unnumbered,
        Option.getD_none]
      cases shape with
      | codex =>
        by_cases hkind : kind = "response.failed"
        · have hdocument : (replaced kind json unnumbered).document libs now .codex state =
              json.replacePath ["response", "error"] gatewayUnavailableObject := by
            simp [document, edited?, hkind]
          rw [hdocument] at htext ⊢
          simp [hkind, htext, eventName]
        · have hdocument : (replaced kind json unnumbered).document libs now .codex state =
              syntheticResponseFailedJson now state.lastResponseId
                (saturatingSucc (state.lastSequenceNumber.getD (-1)))
                gatewayUnavailablePayload := by
            simp [document, edited?, hkind, nextNumber, payload]
          rw [hdocument] at htext ⊢
          simp [hkind, htext, eventName, Libraries.renderSyntheticResponseFailedEventWithMetadata]
      | openAi =>
        have hdocument : (replaced kind json unnumbered).document libs now .openAi state =
            openaiStreamErrorJson (saturatingSucc (state.lastSequenceNumber.getD (-1)))
              gatewayUnavailablePayload := by
          simp [document, edited?, nextNumber, payload]
        rw [hdocument] at htext ⊢
        simp [htext, eventName, Libraries.renderOpenaiStreamErrorEventWithSequence]
  exact ⟨text, htext, by rw [hevent, htext]; rfl⟩

end GatewayEnding

/-! ## The numbers -/

def InI64 (n : ℤ) : Prop := -i64Max - 1 ≤ n ∧ n ≤ i64Max

theorem getI64?_ofI64 {n : ℤ} (hn : InI64 n) : (Json.ofI64 n).asI64? = some n := by
  obtain ⟨hlow, hhigh⟩ := hn
  unfold Json.ofI64
  by_cases hpos : 0 ≤ n
  · have hcast : (n.toNat : ℤ) = n := Int.toNat_of_nonneg hpos
    simp only [hpos, if_true, Json.asI64?, hcast, hhigh]
  · simp only [hpos, if_false, Json.asI64?]

theorem inI64_saturatingSucc (n : ℤ) : InI64 (saturatingSucc n) := by
  simp only [InI64, saturatingSucc, i64Max]
  omega

theorem inI64_wrappingSucc {n : ℤ} (hn : InI64 n) : InI64 (wrappingSucc n) := by
  simp only [InI64, wrappingSucc, i64Max] at hn ⊢
  split <;> omega

/-- The number does not see what else an event carries. -/
theorem number_replacePath (json : Json) :
    getI64? (json.replacePath ["response", "error"] gatewayUnavailableObject) "sequence_number" =
      getI64? json "sequence_number" := by
  cases json with
  | object fields =>
    have hother := @Fields.get?_map_onKey_of_ne fields "response" "sequence_number"
      (fun value => value.replacePath ["error"] gatewayUnavailableObject) (by decide)
    exact congrArg (Option.bind · Json.asI64?) hother
  | _ => rfl

theorem lastSequenceNumber_readEvents (libs : Libraries) (shape : ResponseShape)
    (history : List (Time × List Byte)) :
    (readEvents libs shape history).lastSequenceNumber = lastNumber? libs history := by
  induction history using List.reverseRecOn with
  | nil => rfl
  | append_singleton history event ih =>
    have hstep : ((readEvents libs shape history).consumeEvent libs event.1 shape
        event.2).1.lastSequenceNumber =
          (eventNumber? libs event.2).or (readEvents libs shape history).lastSequenceNumber := by
      unfold ResponsesSseState.consumeEvent eventNumber?
      cases (eventPayload? event.2).bind libs.fromStr with
      | none => rfl
      | some json =>
        dsimp only
        split <;> rfl
    have hfold : readEvents libs shape (history ++ [event]) =
        ((readEvents libs shape history).consumeEvent libs event.1 shape event.2).1 := by
      simp only [readEvents, List.foldl_append, List.foldl_cons, List.foldl_nil]
    rw [hfold, hstep, ih, lastNumber?, lastNumber?, List.filterMap_append, List.getLast?_append]
    cases hnumber : eventNumber? libs event.2 with
    | none => simp [hnumber]
    | some n => simp [hnumber]

/-- The number is one after the last observed number, as far as there is one. -/
def GoesOn (last : Option ℤ) (n : ℤ) : Prop :=
  0 ≤ n ∧ n ≤ i64Max ∧ ∀ m, last = some m → m < n ∨ (m = i64Max ∧ n = i64Max)

/-- Clients of both shapes get one number, and it goes on with the history. -/
def Numbered (libs : Libraries) (now : Time) (history : List (Time × List Byte))
    (ending : GatewayEnding) : Prop :=
  ∃ n, GoesOn (lastNumber? libs history) n ∧ ∀ shape,
    getI64? (ending.document libs now shape (readEvents libs shape history)) "sequence_number" =
      some n

/-- The upstream counts from zero without reaching the last number, or its last event is
replaced by one that is written anew. -/
def GatewayEnding.Countable (last : Option ℤ) : GatewayEnding → Prop
  | replaced kind _ _ => kind ≠ "response.failed"
  | _ => ∀ m, last = some m → -1 ≤ m ∧ m < i64Max

section

variable {libs : Libraries} {now : Time} {history : List (Time × List Byte)}

/-- An event that is written anew carries the number its path computes. -/
theorem number_document {shape : ResponseShape} {ending : GatewayEnding}
    (hedited : ending.edited? shape = none)
    (hnumber : InI64 (ending.nextNumber shape (lastNumber? libs history))) :
    getI64? (ending.document libs now shape (readEvents libs shape history)) "sequence_number" =
      some (ending.nextNumber shape (lastNumber? libs history)) := by
  rw [← getI64?_ofI64 hnumber]
  unfold GatewayEnding.document
  rw [hedited, lastSequenceNumber_readEvents]
  cases shape <;> rfl

theorem GatewayEnding.edited?_openAi (ending : GatewayEnding) : ending.edited? .openAi = none := by
  cases ending with
  | replaced kind json unnumbered => simp [edited?]
  | _ => rfl

/-- The number of an OpenAI client always goes on with the history. -/
theorem goesOn_saturatingSucc {last : Option ℤ} (hlast : ∀ m, last = some m → InI64 m) :
    GoesOn last (saturatingSucc (last.getD (-1))) := by
  have hrange := inI64_saturatingSucc (last.getD (-1))
  refine ⟨le_max_right _ _, hrange.2, fun m hm => ?_⟩
  obtain ⟨hlow, hhigh⟩ := hlast m hm
  subst hm
  simp only [Option.getD_some, saturatingSucc, i64Max] at hlow hhigh ⊢
  omega

theorem wrappingSucc_eq_saturatingSucc_iff {last : Option ℤ}
    (hlast : ∀ m, last = some m → InI64 m) :
    wrappingSucc (last.getD (-1)) = saturatingSucc (last.getD (-1)) ↔
      ∀ m, last = some m → -1 ≤ m ∧ m < i64Max := by
  cases last with
  | none => simp [wrappingSucc, saturatingSucc, i64Max]
  | some m =>
    have hm := hlast m rfl
    simp only [InI64, Option.getD_some, Option.some.injEq, forall_eq', wrappingSucc,
      saturatingSucc, i64Max] at hm ⊢
    split <;> omega

end

/-- Every event the gateway ends a stream with is the encoding of a document; it goes on with
the numbering just when the last number observed is in range, or when the event replaces one
that is not edited in its place. -/
theorem numbering_goes_on_iff (libs : Libraries) (now : Time)
    (history : List (Time × List Byte)) (ending : GatewayEnding)
    (hlast : ∀ m, lastNumber? libs history = some m → InI64 m) :
    (∀ shape, ∃ text,
      libs.encode (ending.document libs now shape (readEvents libs shape history)) = some text ∧
      ending.event libs now shape (readEvents libs shape history) =
        some (sseEventBytes (GatewayEnding.eventName shape) text)) ∧
    (Numbered libs now history ending ↔ ending.Countable (lastNumber? libs history)) := by
  refine ⟨fun shape => ending.event_eq libs now shape _, ?_⟩
  have hopenAi : getI64? (ending.document libs now .openAi (readEvents libs .openAi history))
      "sequence_number" = some (ending.nextNumber .openAi (lastNumber? libs history)) := by
    refine number_document ending.edited?_openAi ?_
    cases ending <;> exact inI64_saturatingSucc _
  have hnext : ending.nextNumber .openAi (lastNumber? libs history) =
      saturatingSucc ((lastNumber? libs history).getD (-1)) := by
    cases ending <;> rfl
  rw [hnext] at hopenAi
  -- both shapes get the number that is computed with saturation, or none is right
  have hnumbered : Numbered libs now history ending ↔
      getI64? (ending.document libs now .codex (readEvents libs .codex history))
        "sequence_number" = some (saturatingSucc ((lastNumber? libs history).getD (-1))) := by
    constructor
    · rintro ⟨n, -, hshapes⟩
      have hn : saturatingSucc ((lastNumber? libs history).getD (-1)) = n :=
        Option.some.inj (hopenAi.symm.trans (hshapes .openAi))
      rw [hn]
      exact hshapes .codex
    · intro hcodex
      refine ⟨_, goesOn_saturatingSucc hlast, fun shape => ?_⟩
      cases shape with
      | codex => exact hcodex
      | openAi => exact hopenAi
  rw [hnumbered]
  have hwrapped (hedited : ending.edited? .codex = none)
      (hcodex : ending.nextNumber .codex (lastNumber? libs history) =
        wrappingSucc ((lastNumber? libs history).getD (-1))) :
      getI64? (ending.document libs now .codex (readEvents libs .codex history))
        "sequence_number" = some (wrappingSucc ((lastNumber? libs history).getD (-1))) := by
    rw [← hcodex]
    refine number_document hedited (hcodex ▸ inI64_wrappingSucc ?_)
    cases hnone : lastNumber? libs history with
    | none => exact ⟨by decide, by decide⟩
    | some m => exact hlast m hnone
  cases ending with
  | transportError error failure =>
    rw [hwrapped rfl rfl, Option.some.injEq]
    exact wrappingSucc_eq_saturatingSucc_iff hlast
  | closed =>
    rw [hwrapped rfl rfl, Option.some.injEq]
    exact wrappingSucc_eq_saturatingSucc_iff hlast
  | replaced kind json unnumbered =>
    by_cases hkind : kind = "response.failed"
    · have hedited : (GatewayEnding.replaced kind json unnumbered).document libs now .codex
          (readEvents libs .codex history) =
            json.replacePath ["response", "error"] gatewayUnavailableObject := by
        simp [GatewayEnding.document, GatewayEnding.edited?, hkind]
      rw [hedited, number_replacePath, unnumbered]
      exact iff_of_false (Option.some_ne_none _).symm (fun hcountable => hcountable hkind)
    · have hedited : (GatewayEnding.replaced kind json unnumbered).edited? .codex = none := by
        simp [GatewayEnding.edited?, hkind]
      exact iff_of_true (number_document hedited (inI64_saturatingSucc _)) hkind

/-- A stream whose one event has the number. -/
def numberedEvent (n : ℤ) : Time × List Byte :=
  (0, utf8Bytes ("data: \x7b\"sequence_number\":" ++ toString n ++ "\x7d\n\n"))

def numberedLibraries (n : ℤ) : Libraries :=
  .ofTexts [("\x7b\"sequence_number\":" ++ toString n ++ "\x7d",
    .object [("sequence_number", .ofI64 n)])]

theorem lastNumber?_seven : lastNumber? (numberedLibraries 7) [numberedEvent 7] = some 7 := by
  decide +kernel

theorem lastNumber?_negative :
    lastNumber? (numberedLibraries (-5)) [numberedEvent (-5)] = some (-5) := by
  decide +kernel

theorem numbering_goes_on_iff_seven :
    Numbered (numberedLibraries 7) 0 [numberedEvent 7] .closed := by
  refine (numbering_goes_on_iff _ 0 _ .closed fun m hm => ?_).2.mpr fun m hm => ?_
  · obtain rfl := Option.some.inj (lastNumber?_seven.symm.trans hm)
    exact ⟨by decide, by decide⟩
  · obtain rfl := Option.some.inj (lastNumber?_seven.symm.trans hm)
    exact ⟨by decide, by decide⟩

/-- After the number -5 a Codex client is given -4. -/
theorem numbering_breaks_off :
    ¬Numbered (numberedLibraries (-5)) 0 [numberedEvent (-5)] .closed := by
  rintro ⟨n, ⟨hpos, -⟩, hshapes⟩
  have hcodex : getI64? (GatewayEnding.document (numberedLibraries (-5)) 0 .codex
      (readEvents (numberedLibraries (-5)) .codex [numberedEvent (-5)]) .closed)
        "sequence_number" = some (-4) := by
    have hnext : GatewayEnding.closed.nextNumber .codex
        (lastNumber? (numberedLibraries (-5)) [numberedEvent (-5)]) = -4 := by
      rw [lastNumber?_negative]
      decide
    rw [number_document rfl (by rw [hnext]; exact ⟨by decide, by decide⟩), hnext]
  have hn : n = -4 := Option.some.inj ((hshapes .codex).symm.trans hcodex)
  omega

end Codaze.Responses
