import Codaze.Responses.ManagedStream

/-!
# Every response stream settles once

What a stream has seen falls into an undecided front, the sighting that decides it, and
the rest. A stream that has decided nothing has settled nothing and has given what the
observer let through; the first sighting that decides makes the one settlement, and from
then on the stream only hands out what it has queued.
-/
namespace Codaze.Responses
open Foundation Accounts

namespace Sighting

def isChunk : Sighting → Bool
  | chunk .. => true
  | _ => false

variable (libs : Libraries) (shape : ResponseShape)

/-- What the observer makes of a sighting. -/
def observe (state : ResponsesSseState) : Sighting → ResponsesSseState × List Byte
  | chunk now bytes => ResponsesSseState.joined (state.observeBytes libs now shape bytes)
  | _ => (state, [])

/-- The terminal event that a sighting completes, the end of the stream included. -/
def terminal (state : ResponsesSseState) : Sighting → Option ResponsesTerminalState
  | chunk now bytes => (state.observeBytes libs now shape bytes).1.terminalState
  | finished now => (state.observeEof libs now shape).1.terminalState
  | _ => none

/-- The settlement that a sighting asks for. -/
def verdict (state : ResponsesSseState) (sighting : Sighting) :
    Option Failover.AccountSettlement :=
  ((sighting.terminal libs shape state).map ResponsesTerminalState.action).or
    (match sighting with
    | chunk .. => none
    | error now cause =>
      let failure := libs.classifyRequestError now cause
      some (.failure failure (libs.extractRetryAfter now cause)
        (libs.extractFailureReason cause failure))
    | finished _ => some (.failure .temporaryFailure none closedBeforeCompleted)
    | shutdown | dropped => some .release)

/-- The observer after some sightings, and what it let through. -/
def observed (seen : List Sighting) : ResponsesSseState × List Byte :=
  seen.foldl (fun emitted sighting => emitThen emitted (sighting.observe libs shape)) ({}, [])

/-- Nothing but chunks, and no terminal event among them. -/
structure Undecided (seen : List Sighting) : Prop where
  chunks : ∀ sighting ∈ seen, sighting.isChunk
  noTerminal : (observed libs shape seen).1.hasTerminalEvent = false

/-- The first sighting that decides has a property. -/
def DecidedBy (seen : List Sighting) (p : ResponsesSseState → Sighting → Prop) : Prop :=
  ∃ front sighting back, seen = front ++ sighting :: back ∧ Undecided libs shape front ∧
    p (observed libs shape front).1 sighting

variable {libs shape}

theorem observed_append (front : List Sighting) (sighting : Sighting) :
    observed libs shape (front ++ [sighting]) =
      emitThen (observed libs shape front) (sighting.observe libs shape) := by
  simp [observed]

theorem undecided_nil : Undecided libs shape [] := ⟨by simp, rfl⟩

/-- A terminal event is never forgotten. -/
theorem hasTerminalEvent_mono {state : ResponsesSseState} (h : state.hasTerminalEvent)
    (sighting : Sighting) : (sighting.observe libs shape state).1.hasTerminalEvent := by
  cases sighting with
  | chunk now bytes =>
    rw [observe, ResponsesSseState.observeBytes_closed libs now shape h]
    exact h
  | error | finished | shutdown | dropped => exact h

theorem Undecided.of_append {front back : List Sighting}
    (h : Undecided libs shape (front ++ back)) : Undecided libs shape front := by
  induction back using List.reverseRecOn with
  | nil => rwa [List.append_nil] at h
  | append_singleton back last ih =>
    refine ih ⟨fun sighting hmem => h.chunks sighting ?_, ?_⟩
    · rw [← List.append_assoc]
      exact List.mem_append_left _ hmem
    · have hno := h.noTerminal
      rw [← List.append_assoc, observed_append] at hno
      by_contra hterminal
      have hlast := @hasTerminalEvent_mono libs shape _ (by simpa using hterminal) last
      exact absurd hlast (by simpa [emitThen] using hno)

/-- A sighting that decides is in no undecided front. -/
theorem not_undecided_of_verdict {front : List Sighting} {sighting : Sighting}
    (h : (sighting.verdict libs shape (observed libs shape front).1).isSome) :
    ¬Undecided libs shape (front ++ [sighting]) := by
  intro hundecided
  have hchunk := hundecided.chunks sighting (by simp)
  have hno := hundecided.noTerminal
  rw [observed_append] at hno
  cases sighting with
  | chunk now bytes =>
    simp only [emitThen, observe, ResponsesSseState.joined,
      ResponsesSseState.hasTerminalEvent] at hno
    simp [verdict, terminal] at h hno
    simp [hno] at h
  | error | finished | shutdown | dropped => cases hchunk

/-- There is one sighting that decides. -/
theorem decision_unique {front front' back back' : List Sighting} {sighting sighting' : Sighting}
    (hseen : front ++ sighting :: back = front' ++ sighting' :: back')
    (hfront : Undecided libs shape front) (hfront' : Undecided libs shape front')
    (h : (sighting.verdict libs shape (observed libs shape front).1).isSome)
    (h' : (sighting'.verdict libs shape (observed libs shape front').1).isSome) :
    front = front' ∧ sighting = sighting' := by
  rcases List.append_eq_append_iff.mp hseen with ⟨middle, rfl, hback⟩ | ⟨middle, rfl, hback⟩
  · cases middle with
    | nil => exact ⟨(List.append_nil front).symm, by simpa using (List.cons.inj hback).1⟩
    | cons next middle =>
      obtain rfl : sighting = next := (List.cons.inj hback).1
      rw [← List.singleton_append, ← List.append_assoc] at hfront'
      exact absurd hfront'.of_append (not_undecided_of_verdict h)
  · cases middle with
    | nil => exact ⟨List.append_nil front', by simpa using ((List.cons.inj hback).1).symm⟩
    | cons next middle =>
      obtain rfl : sighting' = next := (List.cons.inj hback).1
      rw [← List.singleton_append, ← List.append_assoc] at hfront
      exact absurd hfront.of_append (not_undecided_of_verdict h')

section verdicts

variable {state : ResponsesSseState} {sighting : Sighting}

theorem verdict_isSome_of_terminal {terminal : ResponsesTerminalState}
    (h : sighting.terminal libs shape state = some terminal) :
    (sighting.verdict libs shape state).isSome := by
  simp [verdict, h]

variable {settlement : Failover.AccountSettlement}
  (h : sighting.verdict libs shape state = some settlement)

include h

theorem verdict_success :
    settlement = .success ↔ sighting.terminal libs shape state = some .completed := by
  cases hterminal : sighting.terminal libs shape state with
  | some terminal =>
    obtain rfl : terminal.action = settlement := by simpa [verdict, hterminal] using h
    cases terminal <;> simp [ResponsesTerminalState.action]
  | none =>
    cases sighting <;> simp [verdict, hterminal] at h <;> simp [← h]

theorem verdict_release : settlement = .release ↔ sighting = .shutdown ∨ sighting = .dropped := by
  cases hterminal : sighting.terminal libs shape state with
  | some terminal =>
    obtain rfl : terminal.action = settlement := by simpa [verdict, hterminal] using h
    cases sighting <;> simp [Sighting.terminal] at hterminal <;>
      cases terminal <;> simp [ResponsesTerminalState.action]
  | none =>
    cases sighting <;> simp [verdict, hterminal] at h <;> simp [← h]

theorem verdict_failure (failure : FailureClass) :
    (∃ retryAfter details, settlement = .failure failure retryAfter details) ↔
      (∃ retryAfter details,
        sighting.terminal libs shape state = some (.failed failure retryAfter details)) ∨
      (∃ now error, sighting = .error now error ∧
        libs.classifyRequestError now error = failure) ∨
      (∃ now, sighting = .finished now ∧ sighting.terminal libs shape state = none ∧
        failure = .temporaryFailure) := by
  cases hterminal : sighting.terminal libs shape state with
  | some terminal =>
    obtain rfl : terminal.action = settlement := by simpa [verdict, hterminal] using h
    cases sighting <;> simp [Sighting.terminal] at hterminal <;>
      cases terminal <;> simp [ResponsesTerminalState.action]
  | none =>
    cases sighting <;> simp [verdict, hterminal] at h <;> simp [← h, eq_comm]

end verdicts

theorem atRest_observed (seen : List Sighting) : (observed libs shape seen).1.AtRest := by
  induction seen using List.reverseRecOn with
  | nil => exact ResponsesSseState.atRest_default
  | append_singleton seen last ih =>
    rw [observed_append]
    cases last with
    | chunk now bytes => exact ResponsesSseState.AtRest.after_observeBytes libs now shape ih bytes
    | error | finished | shutdown | dropped => exact ih

/-- What is behind a terminal event in its chunk makes no difference. -/
theorem observed_behind {front : List Sighting} {now : Time} {bytes : List Byte}
    (h : (observed libs shape (front ++ [chunk now bytes])).1.hasTerminalEvent)
    (behind : List Byte) :
    observed libs shape (front ++ [chunk now (bytes ++ behind)]) =
      observed libs shape (front ++ [chunk now bytes]) := by
  rw [observed_append] at h
  let left := (chunk now bytes).observe libs shape (observed libs shape front).1
  have hclosed : ResponsesSseState.observeBytes libs now shape left.1 behind = (left.1, []) :=
    ResponsesSseState.observeBytes_closed libs now shape h behind
  have hsame : (chunk now (bytes ++ behind)).observe libs shape (observed libs shape front).1 =
      left :=
    calc (chunk now (bytes ++ behind)).observe libs shape (observed libs shape front).1
        = emitThen left fun next =>
            ResponsesSseState.joined (ResponsesSseState.observeBytes libs now shape next behind) :=
          ResponsesSseState.observeBytes_append libs now shape (atRest_observed front) bytes behind
      _ = emitThen left fun next => (next, []) := emitThen_congr (by rw [hclosed]; rfl)
      _ = left := by simp [emitThen]
  rw [observed_append, observed_append, emitThen, emitThen, hsame]

/-- A chunk that brings a terminal event decides. -/
theorem verdict_isSome_of_chunk {front : List Sighting} {now : Time} {bytes : List Byte}
    (h : (observed libs shape (front ++ [chunk now bytes])).1.hasTerminalEvent) :
    ((chunk now bytes).verdict libs shape (observed libs shape front).1).isSome := by
  rw [observed_append] at h
  obtain ⟨terminal, hterminal⟩ := Option.isSome_iff_exists.mp h
  exact verdict_isSome_of_terminal hterminal

end Sighting

namespace ManagedResponseStream

/-- What holds of a stream between two polls that have given `delivered`. -/
structure LifeInv (libs : Libraries) (shape : ResponseShape) (cancelled : Bool)
    (delivered : List Byte) (stream : ManagedResponseStream) : Prop where
  shape_eq : shape = stream.responseShape
  unsettled : stream.settled = false →
    stream.settlements = [] ∧ stream.closeAfterPendingOutput = false ∧
    Sighting.Undecided libs shape stream.seen ∧
    stream.sseState = (Sighting.observed libs shape stream.seen).1 ∧
    delivered ++ stream.pendingOutput.flatten = (Sighting.observed libs shape stream.seen).2
  settled : stream.settled = true →
    (stream.closeAfterPendingOutput = true ∨ cancelled = true ∧ stream.pendingOutput = []) ∧
    ∃ front sighting back settlement, stream.seen = front ++ sighting :: back ∧
      Sighting.Undecided libs shape front ∧
      sighting.verdict libs shape (Sighting.observed libs shape front).1 = some settlement ∧
      stream.settlements = [settlement] ∧
      (sighting.isChunk → delivered ++ stream.pendingOutput.flatten =
        (Sighting.observed libs shape (front ++ [sighting])).2)

variable {libs : Libraries} {shape : ResponseShape} {cancelled : Bool} {delivered : List Byte}
  {stream : ManagedResponseStream}

theorem LifeInv.start (shape : ResponseShape) (inner : List InnerPoll) :
    LifeInv libs shape cancelled [] (.start shape inner) where
  shape_eq := rfl
  unsettled _ := ⟨rfl, rfl, Sighting.undecided_nil, rfl, rfl⟩
  settled h := by cases h

theorem LifeInv.withInner (h : LifeInv libs shape cancelled delivered stream)
    (inner : List InnerPoll) : LifeInv libs shape cancelled delivered { stream with inner } :=
  ⟨h.shape_eq, h.unsettled, h.settled⟩

/-- Handing out a queued chunk, or going on without one. -/
theorem LifeInv.popOr (h : LifeInv libs shape cancelled delivered stream)
    {rest : ManagedResponseStream × Polled}
    (hrest : stream.pendingOutput = [] →
      LifeInv libs shape cancelled (delivered ++ rest.2.bytes) rest.1) :
    LifeInv libs shape cancelled (delivered ++ (stream.popOr rest).2.bytes)
      (stream.popOr rest).1 := by
  cases hpending : stream.pendingOutput with
  | nil => simpa [ManagedResponseStream.popOr, hpending] using hrest hpending
  | cons chunk chunks =>
    simp only [ManagedResponseStream.popOr, hpending, Polled.bytes]
    refine ⟨h.shape_eq, ?_, ?_⟩
    · intro hsettled
      have ⟨hnone, hclose, hundecided, hstate, hbytes⟩ := h.unsettled hsettled
      refine ⟨hnone, hclose, hundecided, hstate, ?_⟩
      simpa [hpending] using hbytes
    · intro hsettled
      have ⟨hclose, front, sighting, back, settlement, hseen, hfront, hverdict, hone, hbytes⟩ :=
        h.settled hsettled
      have hclose' : stream.closeAfterPendingOutput = true := by simpa [hpending] using hclose
      refine ⟨.inl hclose', front, sighting, back, settlement, hseen, hfront, hverdict, hone, ?_⟩
      simpa [hpending] using hbytes

/-- A sighting after the decision. -/
theorem LifeInv.see_settled (h : LifeInv libs shape cancelled delivered stream)
    (hsettled : stream.settled = true) (sighting : Sighting) :
    LifeInv libs shape cancelled delivered (stream.see sighting) where
  shape_eq := h.shape_eq
  unsettled hunsettled := absurd hsettled (by simpa [see] using hunsettled)
  settled _ := by
    have ⟨hclose, front, first, back, settlement, hseen, rest⟩ := h.settled hsettled
    exact ⟨hclose, front, first, back ++ [sighting], settlement, by simp [see, hseen], rest⟩

/-- The sighting that decides an undecided stream. -/
theorem LifeInv.decide (h : LifeInv libs shape cancelled delivered stream)
    (hunsettled : stream.settled = false) {left : ManagedResponseStream} {sighting : Sighting}
    {settlement : Failover.AccountSettlement}
    (hverdict : sighting.verdict libs stream.responseShape stream.sseState = some settlement)
    (hsettled : left.settled = true) (hshape : left.responseShape = stream.responseShape)
    (hsettlements : left.settlements = stream.settlements ++ [settlement])
    (hseen : left.seen = stream.seen ++ [sighting])
    (hclose : left.closeAfterPendingOutput = true ∨ cancelled = true ∧ left.pendingOutput = [])
    (hbytes : sighting.isChunk → left.pendingOutput.flatten = stream.pendingOutput.flatten ++
      (sighting.observe libs stream.responseShape stream.sseState).2) :
    LifeInv libs shape cancelled delivered left where
  shape_eq := h.shape_eq.trans hshape.symm
  unsettled hno := by simp [hsettled] at hno
  settled _ := by
    obtain rfl := h.shape_eq
    have ⟨hnone, _, hundecided, hstate, hdelivered⟩ := h.unsettled hunsettled
    refine ⟨hclose, stream.seen, sighting, [], settlement, hseen, hundecided, ?_, ?_, ?_⟩
    · rwa [← hstate]
    · rw [hsettlements, hnone, List.nil_append]
    · intro hchunk
      rw [hbytes hchunk, ← List.append_assoc, hdelivered, Sighting.observed_append, hstate]
      rfl

theorem LifeInv.after_observeChunk (h : LifeInv libs shape cancelled delivered stream)
    (hunsettled : stream.settled = false) (now : Time) (bytes : List Byte) :
    LifeInv libs shape cancelled delivered (observeChunk libs now stream bytes) := by
  obtain rfl := h.shape_eq
  have ⟨hnone, hclose, hundecided, hstate, hdelivered⟩ := h.unsettled hunsettled
  cases hterminal :
    (stream.sseState.observeBytes libs now stream.responseShape bytes).1.terminalState with
  | none =>
    have haction :
        (stream.sseState.observeBytes libs now stream.responseShape bytes).1.terminalAction =
        none := by rw [ResponsesSseState.terminalAction, hterminal]; rfl
    have hleft : observeChunk libs now stream bytes = { stream with
        sseState := (stream.sseState.observeBytes libs now stream.responseShape bytes).1
        pendingOutput := stream.pendingOutput ++
          (stream.sseState.observeBytes libs now stream.responseShape bytes).2
        seen := stream.seen ++ [.chunk now bytes] } := by
      simp [observeChunk, observe, haction, see]
    have hobserved :
        Sighting.observed libs stream.responseShape (stream.seen ++ [.chunk now bytes]) =
        ((stream.sseState.observeBytes libs now stream.responseShape bytes).1,
          delivered ++ (stream.pendingOutput ++
            (stream.sseState.observeBytes libs now stream.responseShape bytes).2).flatten) := by
      rw [Sighting.observed_append, emitThen, ← hstate, ← hdelivered]
      simp [Sighting.observe, ResponsesSseState.joined]
    rw [hleft]
    refine ⟨rfl, fun _ => ⟨hnone, hclose, ⟨?_, ?_⟩, ?_, ?_⟩, fun hsettled => ?_⟩
    · simpa [or_imp, forall_and, Sighting.isChunk] using hundecided.chunks
    · simp [hobserved, ResponsesSseState.hasTerminalEvent, hterminal]
    · simp [hobserved]
    · simp [hobserved]
    · exact absurd hsettled (by simp [hunsettled])
  | some terminal =>
    have haction :
        (stream.sseState.observeBytes libs now stream.responseShape bytes).1.terminalAction =
        some terminal.action := by rw [ResponsesSseState.terminalAction, hterminal]; rfl
    have hverdict : (Sighting.chunk now bytes).verdict libs stream.responseShape stream.sseState =
        some terminal.action := by simp [Sighting.verdict, Sighting.terminal, hterminal]
    refine h.decide hunsettled hverdict ?_ ?_ ?_ ?_ ?_ ?_ <;>
      simp [observeChunk, observe, haction, settle, hunsettled, see,
        Sighting.observe, ResponsesSseState.joined]

/-- The rendering of a document cannot fail, so a stream that fails is given its terminal
event. -/
theorem syntheticErrorEventWithPayload_isSome (libs : Libraries) (now : Time)
    (shape : ResponseShape)
    (state : ResponsesSseState) (payload : SyntheticResponseFailedPayload) :
    (state.syntheticErrorEventWithPayload libs now shape payload).isSome := by
  cases shape with
  | codex => exact (Option.isSome_map ..).trans (libs.encode_isSome _)
  | openAi => exact (Option.isSome_map ..).trans (libs.encode_isSome _)

theorem syntheticTransportErrorEvent_isSome (libs : Libraries) (now : Time) (shape : ResponseShape)
    (state : ResponsesSseState) (error : TransportError) (failure : FailureClass) :
    (state.syntheticTransportErrorEvent libs now shape error failure).isSome :=
  syntheticErrorEventWithPayload_isSome libs now shape state _

theorem LifeInv.after_observeError (h : LifeInv libs shape cancelled delivered stream)
    (hunsettled : stream.settled = false) (now : Time) (error : TransportError) :
    (observeError libs now stream error).2 = true ∧
      (observeError libs now stream error).1.pendingOutput ≠ [] ∧
      LifeInv libs shape cancelled delivered (observeError libs now stream error).1 := by
  obtain ⟨chunk, hchunk⟩ := Option.isSome_iff_exists.mp
    (syntheticTransportErrorEvent_isSome libs now stream.flushPassthrough.responseShape
      stream.flushPassthrough.sseState error (libs.classifyRequestError now error))
  have hflush : stream.flushPassthrough.settled = false := hunsettled
  have hverdict : (Sighting.error now error).verdict libs stream.responseShape stream.sseState =
      some (.failure (libs.classifyRequestError now error) (libs.extractRetryAfter now error)
        (libs.extractFailureReason error (libs.classifyRequestError now error))) := rfl
  simp only [observeError, hchunk]
  refine ⟨trivial, by simp,
    h.decide hunsettled hverdict ?_ ?_ ?_ ?_ (.inl rfl) (by simp [Sighting.isChunk])⟩ <;>
    simp [settle, hflush, see] <;> rfl

theorem LifeInv.after_observeEnd (h : LifeInv libs shape cancelled delivered stream)
    (hunsettled : stream.settled = false) (now : Time) :
    LifeInv libs shape cancelled delivered (observeEnd libs now stream) := by
  cases hterminal : (stream.sseState.observeEof libs now stream.responseShape).1.terminalState with
  | some terminal =>
    have hverdict : (Sighting.finished now).verdict libs stream.responseShape stream.sseState =
        some terminal.action := by simp [Sighting.verdict, Sighting.terminal, hterminal]
    refine h.decide hunsettled hverdict ?_ ?_ ?_ ?_ ?_ (by simp [Sighting.isChunk]) <;>
      simp [observeEnd, observe, ResponsesSseState.terminalAction, hterminal,
        ResponsesSseState.hasTerminalEvent, settle, hunsettled, see]
  | none =>
    have hverdict : (Sighting.finished now).verdict libs stream.responseShape stream.sseState =
        some (.failure .temporaryFailure none closedBeforeCompleted) := by
      simp [Sighting.verdict, Sighting.terminal, hterminal]
    refine h.decide hunsettled hverdict ?_ ?_ ?_ ?_ ?_ (by simp [Sighting.isChunk]) <;>
      simp [observeEnd, observe, ResponsesSseState.terminalAction, hterminal,
        ResponsesSseState.hasTerminalEvent, settle, hunsettled, see, flushPassthrough]

/-- A chunk without a terminal event settles nothing. -/
theorem observeChunk_settled {now : Time} {bytes : List Byte}
    (h : (observeChunk libs now stream bytes).sseState.hasTerminalEvent = false) :
    (observeChunk libs now stream bytes).settled = stream.settled := by
  have hnone : (stream.sseState.observeBytes libs now stream.responseShape bytes).1.terminalAction =
      none := by
    cases hterminal :
        (stream.sseState.observeBytes libs now stream.responseShape bytes).1.terminalState with
    | none => rw [ResponsesSseState.terminalAction, hterminal]; rfl
    | some terminal =>
      simp [observeChunk, observe, see, ResponsesSseState.terminalAction, hterminal, settle] at h
      split at h <;> simp [ResponsesSseState.hasTerminalEvent, hterminal] at h
  simp [observeChunk, observe, hnone, see]

theorem LifeInv.after_pollInner (now : Time) (inner : List InnerPoll)
    (h : LifeInv libs shape cancelled delivered stream) (hunsettled : stream.settled = false) :
    LifeInv libs shape cancelled (delivered ++ (pollInner libs now stream inner).2.bytes)
      (pollInner libs now stream inner).1 := by
  induction inner generalizing stream with
  | nil => simpa [pollInner, Polled.bytes] using h.withInner []
  | cons next inner ih =>
    cases next with
    | pending => simpa [pollInner, Polled.bytes] using h.withInner inner
    | chunk bytes =>
      have hchunk := (h.withInner inner).after_observeChunk hunsettled now bytes
      refine hchunk.popOr fun _ => ?_
      split
      next => simpa [Polled.bytes] using hchunk
      next hopen => exact ih hchunk ((observeChunk_settled (by simpa using hopen)).trans hunsettled)
    | error error =>
      have hopen : stream.sseState.hasTerminalEvent = false := by
        have ⟨_, _, hundecided, hstate, _⟩ := h.unsettled hunsettled
        rw [hstate, hundecided.noTerminal]
      have ⟨hrendered, hqueued, herror⟩ :=
        (h.withInner inner).after_observeError hunsettled now error
      rcases hleft : observeError libs now { stream with inner } error with ⟨left, rendered⟩
      rw [hleft] at hrendered hqueued herror
      obtain rfl : rendered = true := hrendered
      rw [pollInner, if_neg (by simp [hopen]), hleft]
      exact herror.popOr fun hempty => absurd hempty hqueued
    | finished =>
      have hend := (h.withInner inner).after_observeEnd hunsettled now
      refine hend.popOr fun _ => ?_
      simpa [Polled.bytes] using hend

theorem LifeInv.after_pollNext (now : Time) (h : LifeInv libs shape cancelled delivered stream) :
    LifeInv libs shape cancelled (delivered ++ (pollNext libs now cancelled stream).2.bytes)
      (pollNext libs now cancelled stream).1 := by
  refine h.popOr fun hpending => ?_
  cases hsettled : stream.settled with
  | true =>
    have ⟨hclose, _⟩ := h.settled hsettled
    split
    next => simpa [Polled.bytes] using h
    next hopen =>
      have hcancelled : cancelled = true := by
        rcases hclose with hclose | ⟨hcancelled, _⟩
        · exact absurd hclose hopen
        · exact hcancelled
      have hsettle : stream.settle .release = stream := if_pos hsettled
      rw [if_pos hcancelled, hsettle]
      simpa [Polled.bytes] using h.see_settled hsettled .shutdown
  | false =>
    have ⟨_, hopen, _⟩ := h.unsettled hsettled
    rw [if_neg (by simp [hopen])]
    split
    next hcancelled =>
      have hverdict : Sighting.shutdown.verdict libs stream.responseShape stream.sseState =
          some .release := rfl
      have hleft :
          LifeInv libs shape cancelled delivered ((stream.settle .release).see .shutdown) := by
        refine h.decide hsettled hverdict ?_ ?_ ?_ ?_
          (.inr ⟨hcancelled, ?_⟩) (by simp [Sighting.isChunk]) <;>
          simp [settle, hsettled, see, hpending]
      simpa [Polled.bytes] using hleft
    next => exact h.after_pollInner now _ hsettled

theorem LifeInv.cancel (h : LifeInv libs shape cancelled delivered stream) :
    LifeInv libs shape true delivered stream where
  shape_eq := h.shape_eq
  unsettled := h.unsettled
  settled hsettled := by
    have ⟨hclose, rest⟩ := h.settled hsettled
    exact ⟨hclose.imp_right fun hcancelled => ⟨rfl, hcancelled.2⟩, rest⟩

/-- What holds of a stream whose life is over. -/
structure Ended (libs : Libraries) (shape : ResponseShape) (delivered : List Byte)
    (stream : ManagedResponseStream)
    (front : List Sighting) (sighting : Sighting) (settlement : Failover.AccountSettlement) :
    Prop where
  seen : ∃ back, stream.seen = front ++ sighting :: back
  undecided : Sighting.Undecided libs shape front
  verdict : sighting.verdict libs shape
    (Sighting.observed libs shape front).1 = some settlement
  settlements : stream.settlements = [settlement]
  delivered : sighting.isChunk →
    delivered <+: (Sighting.observed libs shape (front ++ [sighting])).2

/-- One sighting decides, so what it has is what the stream is decided by. -/
theorem Ended.decidedBy_iff {front : List Sighting} {sighting : Sighting}
    {settlement : Failover.AccountSettlement}
    (h : Ended libs shape delivered stream front sighting settlement)
    {p : ResponsesSseState → Sighting → Prop}
    (hp : ∀ state next, p state next → (next.verdict libs shape state).isSome) :
    Sighting.DecidedBy libs shape stream.seen p ↔
      p (Sighting.observed libs shape front).1 sighting := by
  have ⟨back, hseen⟩ := h.seen
  constructor
  · intro ⟨front', sighting', back', hseen', hfront', hdecides⟩
    have ⟨hfronts, hsightings⟩ := Sighting.decision_unique (hseen.symm.trans hseen') h.undecided
      hfront' (Option.isSome_of_eq_some h.verdict) (hp _ _ hdecides)
    rwa [hfronts, hsightings]
  · exact fun hdecides => ⟨front, sighting, back, hseen, h.undecided, hdecides⟩

variable {front : List Sighting} {sighting : Sighting} {settlement : Failover.AccountSettlement}

theorem Ended.success (h : Ended libs shape delivered stream front sighting settlement) :
    settlement = .success ↔ Sighting.DecidedBy libs shape stream.seen fun state next =>
      next.terminal libs shape state = some .completed := by
  rw [h.decidedBy_iff fun _ _ hterminal => Sighting.verdict_isSome_of_terminal hterminal]
  exact Sighting.verdict_success h.verdict

theorem Ended.release (h : Ended libs shape delivered stream front sighting settlement) :
    settlement = .release ↔ Sighting.DecidedBy libs shape stream.seen fun _ next =>
      next = .shutdown ∨ next = .dropped := by
  rw [h.decidedBy_iff]
  · exact Sighting.verdict_release h.verdict
  · rintro state next (rfl | rfl) <;> rfl

theorem Ended.failure (h : Ended libs shape delivered stream front sighting settlement)
    (failure : FailureClass) :
    (∃ retryAfter details, settlement = .failure failure retryAfter details) ↔
      Sighting.DecidedBy libs shape stream.seen fun state next =>
        (∃ retryAfter details, next.terminal libs shape state =
          some (.failed failure retryAfter details)) ∨
        (∃ now error, next = .error now error ∧
          libs.classifyRequestError now error = failure) ∨
        (∃ now, next = .finished now ∧ next.terminal libs shape state = none ∧
          failure = .temporaryFailure) := by
  rw [h.decidedBy_iff]
  · exact Sighting.verdict_failure h.verdict failure
  · rintro state next (⟨_, _, hterminal⟩ | ⟨now, error, rfl, -⟩ | ⟨now, rfl, hnone, -⟩)
    · exact Sighting.verdict_isSome_of_terminal hterminal
    · rfl
    · simp [Sighting.verdict, hnone]

/-- The drop settles what nothing has settled before. -/
theorem LifeInv.drop (h : LifeInv libs shape cancelled delivered stream) :
    ∃ front sighting settlement,
      Ended libs shape delivered stream.drop front sighting settlement := by
  cases hsettled : stream.settled with
  | true =>
    have ⟨_, front, sighting, back, settlement, hseen, hfront, hverdict, hone, hbytes⟩ :=
      h.settled hsettled
    have hdrop : stream.drop = stream.see .dropped := by
      rw [ManagedResponseStream.drop, if_pos hsettled]
    rw [hdrop]
    refine ⟨front, sighting, settlement, ⟨back ++ [.dropped], by simp [see, hseen]⟩, hfront,
      hverdict, hone, fun hchunk => ?_⟩
    exact ⟨stream.pendingOutput.flatten, hbytes hchunk⟩
  | false =>
    have ⟨hnone, _, hundecided, hstate, _⟩ := h.unsettled hsettled
    have hopen : stream.sseState.terminalAction = none := by
      have hno := hundecided.noTerminal
      rw [← hstate, ResponsesSseState.hasTerminalEvent, Option.isSome_eq_false_iff,
        Option.isNone_iff_eq_none] at hno
      rw [ResponsesSseState.terminalAction, hno]
      rfl
    have hdrop : stream.drop = (stream.settle .release).see .dropped := by
      rw [ManagedResponseStream.drop, if_neg (by simp [hsettled]), hopen]
      rfl
    rw [hdrop]
    refine ⟨stream.seen, .dropped, .release, ⟨[], ?_⟩, ?_, ?_, ?_, by simp [Sighting.isChunk]⟩
    · simp [settle, hsettled, see]
    · simpa [settle, hsettled, see] using hundecided
    · rfl
    · simp [settle, hsettled, see, hnone]

end ManagedResponseStream

namespace StreamLife

open ManagedResponseStream

theorem lifeInv_run (libs : Libraries) (shape : ResponseShape) (inner : List InnerPoll)
    (events : List StreamEvent) :
    LifeInv libs shape ((start shape inner).run libs events).cancelled
      ((start shape inner).run libs events).delivered
      ((start shape inner).run libs events).stream := by
  induction events using List.reverseRecOn with
  | nil => exact LifeInv.start shape inner
  | append_singleton events event ih =>
    rw [run, List.foldl_append]
    cases event with
    | cancel => exact ih.cancel
    | poll now => exact ih.after_pollNext now

/-- Every stream is settled once over its life. It succeeds if and only if a
`response.completed` event came first, the end of the stream included; it is released if
and only if the shutdown or the drop did; otherwise it fails with the class of the first
terminal event or error. Nothing behind the first terminal event reaches the client. -/
theorem settled_once (libs : Libraries) (shape : ResponseShape) (inner : List InnerPoll)
    (events : List StreamEvent) :
    let life := ((start shape inner).run libs events).drop
    let decidedBy := Sighting.DecidedBy libs shape life.stream.seen
    ∃ settlement, life.stream.settlements = [settlement] ∧
      (settlement = .success ↔
        decidedBy fun state sighting => sighting.terminal libs shape state = some .completed) ∧
      (settlement = .release ↔
        decidedBy fun _ sighting => sighting = .shutdown ∨ sighting = .dropped) ∧
      (∀ failure, (∃ retryAfter details, settlement = .failure failure retryAfter details) ↔
        decidedBy fun state sighting =>
          (∃ retryAfter details, sighting.terminal libs shape state =
            some (.failed failure retryAfter details)) ∨
          (∃ now error, sighting = .error now error ∧
            libs.classifyRequestError now error = failure) ∨
          (∃ now, sighting = .finished now ∧ sighting.terminal libs shape state = none ∧
            failure = .temporaryFailure)) ∧
      ∀ front now bytes behind back,
        life.stream.seen = front ++ .chunk now (bytes ++ behind) :: back →
        Sighting.Undecided libs shape front →
        (Sighting.observed libs shape (front ++ [.chunk now bytes])).1.hasTerminalEvent →
        life.delivered <+: (Sighting.observed libs shape (front ++ [.chunk now bytes])).2 := by
  intro life decidedBy
  have ⟨front, sighting, settlement, hended⟩ := (lifeInv_run libs shape inner events).drop
  refine ⟨settlement, hended.settlements, hended.success, hended.release, hended.failure, ?_⟩
  intro front' now bytes behind back hseen hfront' hterminal
  have ⟨back', hseen'⟩ := hended.seen
  have hsame := Sighting.observed_behind hterminal behind
  have hdecides := Sighting.verdict_isSome_of_chunk (hsame ▸ hterminal)
  have ⟨hfronts, hsightings⟩ := Sighting.decision_unique (hseen'.symm.trans hseen)
    hended.undecided hfront' (Option.isSome_of_eq_some hended.verdict) hdecides
  have hdelivered := hended.delivered (by rw [hsightings]; rfl)
  rwa [hfronts, hsightings, hsame] at hdelivered

end StreamLife

end Codaze.Responses
