import Codaze.Responses.EventRelay
import Codaze.Responses.StreamSettlement

/-!
# What a response comes to

`StreamOutcome` says what may be pushed for a response, and how it is settled, without the polls:
the bytes of the inner stream are read at once, then its end. A stream that is polled
comes to one of these outcomes, wherever its bytes are cut and whenever they are read.
-/
namespace Codaze.Responses
open Foundation Accounts

/-- The bytes of the inner stream up to its end. -/
def upstreamBytes : List InnerPoll → List Byte
  | [] => []
  | .pending :: inner => upstreamBytes inner
  | .chunk bytes :: inner => bytes ++ upstreamBytes inner
  | .error _ :: _ => []
  | .finished :: _ => []

/-- The error or the end that the inner stream comes to. -/
def upstreamEnd : List InnerPoll → Option InnerPoll
  | [] => none
  | .pending :: inner => upstreamEnd inner
  | .chunk _ :: inner => upstreamEnd inner
  | .error error :: _ => some (.error error)
  | .finished :: _ => some .finished

/-- Bytes without a terminal event, the state they leave the observer in and what it lets
through, at any time. -/
structure Observed (libs : Libraries) (shape : ResponseShape) (bytes : List Byte)
    (state : ResponsesSseState) (out : List Byte) : Prop where
  noTerminal : state.hasTerminalEvent = false
  atRest : ResponsesSseState.AtRest state
  reads (now : Time) : ResponsesSseState.joined
    (ResponsesSseState.observeBytes libs now shape {} bytes) = (state, out)

/-- What is pushed for a response that ends without a terminal event. -/
def closingBytes (state : ResponsesSseState)
    (synthetic : ResponsesSseState → Option (List Byte)) : List Byte :=
  let (state, buffered) := state.takeTerminalPassthroughBytes
  buffered.getD [] ++ (synthetic state).getD []

/-- What is pushed for a response, and its settlement. -/
inductive StreamOutcome (libs : Libraries) (shape : ResponseShape) (inner : List InnerPoll) :
    List Byte → Failover.AccountSettlement → Prop where
  | event (now : Time) {bytes : List Byte} {terminal : ResponsesTerminalState}
      (hbytes : bytes <+: upstreamBytes inner)
      (hterminal : (ResponsesSseState.observeBytes libs now shape {} bytes).1.terminalState =
        some terminal) :
      StreamOutcome libs shape inner
        (ResponsesSseState.observeBytes libs now shape {} bytes).2.flatten terminal.action
  | lastEvent (now : Time) {state : ResponsesSseState} {out : List Byte}
      {terminal : ResponsesTerminalState} (hend : upstreamEnd inner = some .finished)
      (hread : Observed libs shape (upstreamBytes inner) state out)
      (hterminal : (state.observeEof libs now shape).1.terminalState = some terminal) :
      StreamOutcome libs shape inner
        (out ++ (state.observeEof libs now shape).2.flatten) terminal.action
  | error (now : Time) {error : TransportError} {state : ResponsesSseState} {out : List Byte}
      (hend : upstreamEnd inner = some (.error error))
      (hread : Observed libs shape (upstreamBytes inner) state out) :
      StreamOutcome libs shape inner
        (out ++ closingBytes state fun left => left.syntheticTransportErrorEvent libs now shape
          error (libs.classifyRequestError now error))
        (.failure (libs.classifyRequestError now error) (libs.extractRetryAfter now error)
          (libs.extractFailureReason error (libs.classifyRequestError now error)))
  | unfinished (now : Time) {state : ResponsesSseState} {out : List Byte}
      (hend : upstreamEnd inner = some .finished)
      (hread : Observed libs shape (upstreamBytes inner) state out)
      (hopen : (state.observeEof libs now shape).1.hasTerminalEvent = false) :
      StreamOutcome libs shape inner
        (out ++ (state.observeEof libs now shape).2.flatten ++
          closingBytes (state.observeEof libs now shape).1 fun left =>
            left.syntheticErrorEventWithPayload libs now shape
              { code := some "internal_server_error", message := some closedBeforeCompleted })
        (.failure .temporaryFailure none closedBeforeCompleted)

section

variable {libs : Libraries} {shape : ResponseShape} {read bytes out : List Byte}
  {state : ResponsesSseState}

theorem observed_nil (libs : Libraries) (shape : ResponseShape) : Observed libs shape [] {} [] where
  noTerminal := rfl
  atRest := ResponsesSseState.atRest_default
  reads now := ResponsesSseState.observeBytes_nil libs now shape ResponsesSseState.atRest_default

/-- A chunk behind what was read. -/
theorem Observed.append (h : Observed libs shape read state out) (now : Time) (bytes : List Byte) :
    ResponsesSseState.joined (ResponsesSseState.observeBytes libs now shape {} (read ++ bytes)) =
      ((state.observeBytes libs now shape bytes).1,
        out ++ (state.observeBytes libs now shape bytes).2.flatten) := by
  rw [ResponsesSseState.observeBytes_append libs now shape ResponsesSseState.atRest_default,
    h.reads now]
  rfl

theorem Observed.chunk (h : Observed libs shape read state out) {now : Time}
    (hopen : (state.observeBytes libs now shape bytes).1.hasTerminalEvent = false) :
    Observed libs shape (read ++ bytes) (state.observeBytes libs now shape bytes).1
      (out ++ (state.observeBytes libs now shape bytes).2.flatten) where
  noTerminal := hopen
  atRest := ResponsesSseState.AtRest.after_observeBytes libs now shape h.atRest bytes
  reads now' := by
    have hsame := @ResponsesSseState.observeBytes_anytime libs now now' shape state bytes hopen
    rw [h.append now' bytes, hsame]

end

namespace ManagedResponseStream

section

variable {libs : Libraries} {shape : ResponseShape} {now : Time} {stream : ManagedResponseStream}
  {emitted : Emitted}

theorem observe_open (h : emitted.1.terminalState = none) :
    stream.observe emitted =
      { stream with
        sseState := emitted.1, pendingOutput := stream.pendingOutput ++ emitted.2 } := by
  simp [observe, ResponsesSseState.terminalAction, h]

theorem observe_terminal {terminal : ResponsesTerminalState}
    (h : emitted.1.terminalState = some terminal) (hunsettled : stream.settled = false) :
    stream.observe emitted =
      { stream with
        sseState := emitted.1
        pendingOutput := stream.pendingOutput ++ emitted.2
        settled := true
        settlements := stream.settlements ++ [terminal.action]
        closeAfterPendingOutput := true } := by
  simp [observe, ResponsesSseState.terminalAction, h, settle, hunsettled]

/-- A settlement touches nothing but the settlements. -/
theorem settle_frame (settlement : Failover.AccountSettlement) :
    (stream.settle settlement).inner = stream.inner ∧
      (stream.settle settlement).responseShape = stream.responseShape ∧
      (stream.settle settlement).sseState = stream.sseState ∧
      (stream.settle settlement).pendingOutput = stream.pendingOutput ∧
      (stream.settle settlement).closeAfterPendingOutput = stream.closeAfterPendingOutput ∧
      (stream.settle settlement).settled = true := by
  unfold settle
  split
  next hsettled => exact ⟨rfl, rfl, rfl, rfl, rfl, hsettled⟩
  next => exact ⟨rfl, rfl, rfl, rfl, rfl, rfl⟩

theorem observeChunk_inner (stream : ManagedResponseStream) (bytes : List Byte) :
    (observeChunk libs now stream bytes).inner = stream.inner := by
  simp only [observeChunk, observe, see]
  cases (stream.sseState.observeBytes libs now stream.responseShape bytes).1.terminalAction with
  | none => rfl
  | some action => exact (settle_frame action).1

theorem terminalState_eq_none {state : ResponsesSseState} :
    state.terminalState = none ↔ state.hasTerminalEvent = false := by
  rw [ResponsesSseState.hasTerminalEvent, Option.isSome_eq_false_iff, Option.isNone_iff_eq_none]

end

/-- How far a stream has come with its response. -/
structure Relaying (libs : Libraries) (shape : ResponseShape) (inner : List InnerPoll)
    (cancelled : Bool) (delivered : List Byte) (stream : ManagedResponseStream) : Prop where
  shape_eq : shape = stream.responseShape
  unsettled : stream.settled = false →
    stream.closeAfterPendingOutput = false ∧ stream.settlements = [] ∧
    ∃ read, upstreamBytes inner = read ++ upstreamBytes stream.inner ∧
      upstreamEnd inner = upstreamEnd stream.inner ∧
      Observed libs shape read stream.sseState (delivered ++ stream.pendingOutput.flatten)
  settled : stream.settled = true → stream.closeAfterPendingOutput = false →
    cancelled = true ∧ stream.pendingOutput = [] ∧ stream.settlements = [.release] ∧
    ∃ read state, read <+: upstreamBytes inner ∧ Observed libs shape read state delivered
  ended : stream.settled = true → stream.closeAfterPendingOutput = true →
    ∃ settlement, stream.settlements = [settlement] ∧
      StreamOutcome libs shape inner (delivered ++ stream.pendingOutput.flatten) settlement

namespace Relaying

variable {libs : Libraries} {shape : ResponseShape} {inner rest : List InnerPoll}
  {cancelled : Bool} {delivered : List Byte} {stream : ManagedResponseStream}

theorem start (shape : ResponseShape) (inner : List InnerPoll) :
    Relaying libs shape inner cancelled [] (.start shape inner) where
  shape_eq := rfl
  unsettled _ := ⟨rfl, rfl, [], rfl, rfl, observed_nil libs shape⟩
  settled h := by cases h
  ended h := by cases h

/-- A response that has come to its outcome. -/
theorem of_outcome {out : List Byte} {settlement : Failover.AccountSettlement}
    (houtcome : StreamOutcome libs shape inner out settlement)
    (hshape : shape = stream.responseShape) (hsettled : stream.settled = true)
    (hclose : stream.closeAfterPendingOutput = true) (hone : stream.settlements = [settlement])
    (hout : delivered ++ stream.pendingOutput.flatten = out) :
    Relaying libs shape inner cancelled delivered stream where
  shape_eq := hshape
  unsettled h := absurd (h.symm.trans hsettled) (by simp)
  settled _ h := absurd (h.symm.trans hclose) (by simp)
  ended _ _ := ⟨settlement, hone, hout ▸ houtcome⟩

/-- Handing out a queued chunk, or going on without one. -/
theorem popOr (h : Relaying libs shape inner cancelled delivered stream)
    {next : ManagedResponseStream × Polled}
    (hnext : stream.pendingOutput = [] →
      Relaying libs shape inner cancelled (delivered ++ next.2.bytes) next.1) :
    Relaying libs shape inner cancelled (delivered ++ (stream.popOr next).2.bytes)
      (stream.popOr next).1 := by
  cases hpending : stream.pendingOutput with
  | nil => simpa [ManagedResponseStream.popOr, hpending] using hnext hpending
  | cons chunk chunks =>
    have hbytes : delivered ++ chunk ++ chunks.flatten =
        delivered ++ stream.pendingOutput.flatten := by simp [hpending]
    simp only [ManagedResponseStream.popOr, hpending, Polled.bytes]
    refine ⟨h.shape_eq, fun hunsettled => ?_, fun hsettled hopen => ?_, fun hsettled hclose => ?_⟩
    · obtain ⟨hopen, hnone, read, hread, hend, hobserved⟩ := h.unsettled hunsettled
      refine ⟨hopen, hnone, read, hread, hend, ?_⟩
      rw [hbytes]
      exact hobserved
    · have hempty := (h.settled hsettled hopen).2.1
      rw [hpending] at hempty
      cases hempty
    · obtain ⟨settlement, hone, houtcome⟩ := h.ended hsettled hclose
      refine ⟨settlement, hone, ?_⟩
      rw [hbytes]
      exact houtcome

theorem withInner (h : Relaying libs shape inner cancelled delivered stream)
    (hinner : stream.inner = rest) :
    Relaying libs shape inner cancelled delivered { stream with inner := rest } := by
  subst hinner
  exact h

/-- The polls that give nothing. -/
theorem skip (h : Relaying libs shape inner cancelled delivered { stream with inner := rest })
    {rest' : List InnerPoll} (hbytes : upstreamBytes rest = upstreamBytes rest')
    (hend : upstreamEnd rest = upstreamEnd rest') :
    Relaying libs shape inner cancelled delivered { stream with inner := rest' } where
  shape_eq := h.shape_eq
  unsettled hunsettled := by
    obtain ⟨hopen, hnone, read, hread, hended, hobserved⟩ := h.unsettled hunsettled
    exact ⟨hopen, hnone, read, hread.trans (congrArg (read ++ ·) hbytes), hended.trans hend,
      hobserved⟩
  settled := h.settled
  ended := h.ended

theorem after_observeChunk {bytes : List Byte}
    (h : Relaying libs shape inner cancelled delivered
      { stream with inner := .chunk bytes :: rest })
    (hunsettled : stream.settled = false) (now : Time) :
    Relaying libs shape inner cancelled delivered
      (observeChunk libs now { stream with inner := rest } bytes) := by
  obtain rfl : shape = stream.responseShape := h.shape_eq
  obtain ⟨hopen, hnone, read, hread, hend, hobserved⟩ := h.unsettled hunsettled
  dsimp only at hopen hnone hread hend hobserved
  cases hterminal :
      (stream.sseState.observeBytes libs now stream.responseShape bytes).1.terminalState with
  | none =>
    have hchunk := hobserved.chunk (terminalState_eq_none.mp hterminal)
    have hleft := @observe_open { stream with inner := rest } _ hterminal
    rw [observeChunk, hleft]
    refine ⟨rfl, fun _ => ⟨hopen, hnone, read ++ bytes, ?_, hend, ?_⟩, ?_, ?_⟩
    · simp [hread, upstreamBytes, see]
    · simpa [see] using hchunk
    · exact fun hsettled => absurd (hunsettled.symm.trans hsettled) (by simp)
    · exact fun hsettled => absurd (hunsettled.symm.trans hsettled) (by simp)
  | some terminal =>
    have happend := hobserved.append now bytes
    have hfront : read ++ bytes <+: upstreamBytes inner :=
      ⟨upstreamBytes rest, by rw [hread, upstreamBytes, List.append_assoc]⟩
    have hstate := congrArg (fun result => result.1.terminalState) happend
    have houtput : (ResponsesSseState.observeBytes libs now stream.responseShape {}
        (read ++ bytes)).2.flatten = _ := congrArg Prod.snd happend
    have houtcome := StreamOutcome.event now hfront (hstate.trans hterminal)
    have hleft := @observe_terminal { stream with inner := rest } _ _ hterminal hunsettled
    rw [houtput] at houtcome
    rw [observeChunk, hleft]
    refine of_outcome houtcome rfl rfl rfl ?_ ?_
    · simp [see, hnone]
    · simp [see]

theorem after_observeError {error : TransportError}
    (h : Relaying libs shape inner cancelled delivered
      { stream with inner := .error error :: rest })
    (hunsettled : stream.settled = false) (now : Time) :
    Relaying libs shape inner cancelled delivered
      (observeError libs now { stream with inner := rest } error).1 := by
  obtain rfl : shape = stream.responseShape := h.shape_eq
  obtain ⟨_, hnone, read, hread, hend, hobserved⟩ := h.unsettled hunsettled
  dsimp only at hnone hread hend hobserved
  obtain rfl : upstreamBytes inner = read := by rw [hread, upstreamBytes, List.append_nil]
  have houtcome := StreamOutcome.error now hend hobserved
  obtain ⟨chunk, hchunk⟩ := Option.isSome_iff_exists.mp
    (syntheticTransportErrorEvent_isSome libs now stream.responseShape
      stream.sseState.takeTerminalPassthroughBytes.1 error (libs.classifyRequestError now error))
  have hbytes : closingBytes stream.sseState (fun left => left.syntheticTransportErrorEvent libs now
      stream.responseShape error (libs.classifyRequestError now error)) =
      stream.sseState.takeTerminalPassthroughBytes.2.getD [] ++ chunk := by
    simp [closingBytes, hchunk]
  have hqueue : stream.sseState.takeTerminalPassthroughBytes.2.toList.flatten =
      stream.sseState.takeTerminalPassthroughBytes.2.getD [] := by
    cases stream.sseState.takeTerminalPassthroughBytes.2 <;> simp
  have hsettle : settle { stream with
        inner := rest
        sseState := stream.sseState.takeTerminalPassthroughBytes.1
        pendingOutput := stream.pendingOutput ++
          stream.sseState.takeTerminalPassthroughBytes.2.toList } = fun settlement =>
      { stream with
        inner := rest
        sseState := stream.sseState.takeTerminalPassthroughBytes.1
        pendingOutput := stream.pendingOutput ++
          stream.sseState.takeTerminalPassthroughBytes.2.toList
        settled := true
        settlements := stream.settlements ++ [settlement] } := by
    funext settlement
    simp [settle, hunsettled]
  rw [hbytes] at houtcome
  simp only [observeError, flushPassthrough, hchunk, hsettle]
  refine of_outcome houtcome rfl rfl rfl ?_ ?_
  · simp [see, hnone]
  · simp [see, hqueue]

theorem after_observeEnd
    (h : Relaying libs shape inner cancelled delivered { stream with inner := .finished :: rest })
    (hunsettled : stream.settled = false) (now : Time) :
    Relaying libs shape inner cancelled delivered
      (observeEnd libs now { stream with inner := rest }) := by
  obtain rfl : shape = stream.responseShape := h.shape_eq
  obtain ⟨_, hnone, read, hread, hend, hobserved⟩ := h.unsettled hunsettled
  dsimp only at hnone hread hend hobserved
  obtain rfl : upstreamBytes inner = read := by rw [hread, upstreamBytes, List.append_nil]
  cases hterminal : (stream.sseState.observeEof libs now stream.responseShape).1.terminalState with
  | some terminal =>
    have houtcome := StreamOutcome.lastEvent now hend hobserved hterminal
    have hleft := @observe_terminal { stream with inner := rest } _ _ hterminal hunsettled
    have hclosed : (stream.sseState.observeEof libs now stream.responseShape).1.hasTerminalEvent =
        true := by rw [ResponsesSseState.hasTerminalEvent, hterminal]; rfl
    simp only [observeEnd, hleft, see]
    rw [if_pos hclosed]
    refine of_outcome houtcome rfl rfl rfl ?_ ?_
    · simp [hnone]
    · simp
  | none =>
    have hopen := terminalState_eq_none.mp hterminal
    have houtcome := StreamOutcome.unfinished now hend hobserved hopen
    have hleft := @observe_open { stream with inner := rest } _ hterminal
    have hqueue (buffered : Option (List Byte)) :
        buffered.toList.flatten = buffered.getD [] := by cases buffered <;> simp
    simp only [observeEnd, hleft, see]
    rw [if_neg (by simp [hopen])]
    refine of_outcome houtcome ?_ ?_ rfl ?_ ?_
    · simp [settle, hunsettled, flushPassthrough]
    · simp [settle, hunsettled, flushPassthrough]
    · simp [settle, hunsettled, flushPassthrough, hnone]
    · simp [settle, hunsettled, flushPassthrough, closingBytes, hqueue]

theorem after_pollInner (now : Time) (rest : List InnerPoll)
    (h : Relaying libs shape inner cancelled delivered { stream with inner := rest })
    (hunsettled : stream.settled = false) :
    Relaying libs shape inner cancelled (delivered ++ (pollInner libs now stream rest).2.bytes)
      (pollInner libs now stream rest).1 := by
  induction rest generalizing stream with
  | nil => simpa [pollInner, Polled.bytes] using h
  | cons next rest ih =>
    cases next with
    | pending =>
      have hrest : upstreamBytes (.pending :: rest) = upstreamBytes rest := rfl
      simpa [pollInner, Polled.bytes] using h.skip hrest rfl
    | chunk bytes =>
      have hchunk := h.after_observeChunk hunsettled now
      refine hchunk.popOr fun _ => ?_
      split
      next => simpa [Polled.bytes] using hchunk
      next hopen =>
        have hinner := @observeChunk_inner libs now { stream with inner := rest } bytes
        have hstill := @observeChunk_settled libs { stream with inner := rest } now bytes
          (by simpa using hopen)
        exact ih (hchunk.withInner hinner) (hstill.trans hunsettled)
    | error error =>
      have hopen : stream.sseState.hasTerminalEvent = false := by
        obtain ⟨_, _, _, _, _, hobserved⟩ := h.unsettled hunsettled
        exact hobserved.noTerminal
      have herror := h.after_observeError hunsettled now
      obtain ⟨chunk, hchunk⟩ := Option.isSome_iff_exists.mp
        (syntheticTransportErrorEvent_isSome libs now stream.responseShape
          stream.sseState.takeTerminalPassthroughBytes.1 error
            (libs.classifyRequestError now error))
      rcases hleft : observeError libs now { stream with inner := rest } error with ⟨left, rendered⟩
      have hrendered : rendered = true ∧ left.pendingOutput ≠ [] := by
        simp only [observeError, flushPassthrough, hchunk, Prod.mk.injEq] at hleft
        rw [← hleft.1, ← hleft.2]
        simp
      rw [hleft] at herror
      rw [pollInner, if_neg (by simp [hopen]), hleft]
      dsimp only
      rw [if_pos hrendered.1]
      exact herror.popOr fun hempty => absurd hempty hrendered.2
    | finished =>
      have hend := h.after_observeEnd hunsettled now
      refine hend.popOr fun _ => ?_
      simpa [Polled.bytes] using hend

theorem after_pollNext (now : Time) (h : Relaying libs shape inner cancelled delivered stream) :
    Relaying libs shape inner cancelled (delivered ++ (pollNext libs now cancelled stream).2.bytes)
      (pollNext libs now cancelled stream).1 := by
  refine h.popOr fun hpending => ?_
  split
  next => simpa [Polled.bytes] using h
  next hopen =>
    have hopen' : stream.closeAfterPendingOutput = false := by simpa using hopen
    split
    next hcancelled =>
      obtain ⟨_, hshape, _, hqueue, hclose, hsettled⟩ := @settle_frame stream .release
      change Relaying libs shape inner cancelled (delivered ++ []) _
      rw [List.append_nil]
      refine ⟨h.shape_eq.trans hshape.symm, fun hunsettled => ?_,
        fun _ _ => ⟨hcancelled, hqueue.trans hpending, ?_⟩, fun _ hclosed => ?_⟩
      · exact absurd (hunsettled.symm.trans hsettled) (by simp)
      · cases hbefore : stream.settled with
        | true =>
          obtain ⟨_, _, hone, hshown⟩ := h.settled hbefore hopen'
          exact ⟨by simpa [settle, see, hbefore] using hone, hshown⟩
        | false =>
          obtain ⟨_, hnone, read, hread, _, hobserved⟩ := h.unsettled hbefore
          rw [hpending, List.flatten_nil, List.append_nil] at hobserved
          exact ⟨by simp [settle, see, hbefore, hnone], read, _, ⟨_, hread.symm⟩, hobserved⟩
      · exact absurd (hopen'.symm.trans (hclose.symm.trans hclosed)) (by simp)
    next hrunning =>
      cases hsettled : stream.settled with
      | true => exact absurd (h.settled hsettled hopen').1 hrunning
      | false => exact h.after_pollInner now _ hsettled

/-- Only a response that was settled is closed behind what is pending. -/
theorem settled_of_closed (h : Relaying libs shape inner cancelled delivered stream)
    (hclosed : stream.closeAfterPendingOutput = true) : stream.settled = true := by
  by_contra hunsettled
  have hopen := (h.unsettled (by simpa using hunsettled)).1
  exact absurd (hopen.symm.trans hclosed) (by simp)

theorem cancel (h : Relaying libs shape inner cancelled delivered stream) :
    Relaying libs shape inner true delivered stream where
  shape_eq := h.shape_eq
  unsettled := h.unsettled
  settled hsettled hopen := ⟨rfl, (h.settled hsettled hopen).2⟩
  ended := h.ended

end Relaying

end ManagedResponseStream

namespace StreamLife

open ManagedResponseStream

theorem relaying_run (libs : Libraries) (shape : ResponseShape) (inner : List InnerPoll)
    (events : List StreamEvent) :
    Relaying libs shape inner ((start shape inner).run libs events).cancelled
      ((start shape inner).run libs events).delivered
      ((start shape inner).run libs events).stream := by
  induction events using List.reverseRecOn with
  | nil => exact Relaying.start shape inner
  | append_singleton events event ih =>
    rw [run, List.foldl_append]
    cases event with
    | cancel => exact ih.cancel
    | poll now => exact ih.after_pollNext now

end StreamLife

end Codaze.Responses
