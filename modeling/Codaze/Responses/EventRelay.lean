import Codaze.Foundation.EventStream
import Codaze.Responses.Lossless

/-!
# The observer on whole events

A response whose bytes are events one after another is read event by event: the events up
to the first one that ends the response pass as they are, that one is kept or replaced, and
no other is read. Only what is made of the last event depends on the clock.
-/
namespace Codaze.Responses
open Foundation Accounts

def sseMarks : LineMarks Byte where
  feed := lineFeed
  back := carriageReturn
  ne := by decide

abbrev SseEvent := WireEvent sseMarks

/-! ## Where an event ends -/

theorem findSseEventEnd_skip {b : Byte} (hfeed : b ≠ lineFeed) (hback : b ≠ carriageReturn)
    (bytes : List Byte) : findSseEventEnd (b :: bytes) = (findSseEventEnd bytes).map (· + 1) := by
  cases bytes with
  | nil => rfl
  | cons second rest =>
    rw [findSseEventEnd, if_neg fun h => hfeed h.1, if_neg fun h => hback h.1]

theorem findSseEventEnd_within {line : List Byte} (hfeed : lineFeed ∉ line)
    (hback : carriageReturn ∉ line) (bytes : List Byte) :
    findSseEventEnd (line ++ bytes) = (findSseEventEnd bytes).map (· + line.length) := by
  induction line with
  | nil => simp
  | cons b line ih =>
    have hb : b ≠ lineFeed ∧ b ≠ carriageReturn := ⟨by grind, by grind⟩
    rw [List.cons_append, findSseEventEnd_skip hb.1 hb.2, ih (by grind) (by grind)]
    cases findSseEventEnd bytes with
    | none => rfl
    | some n => simp [Nat.add_assoc]

/-- A line end in front of another line ends no event. -/
theorem findSseEventEnd_lineEnd (lineEnd : LineEnd) {b : Byte} (hfeed : b ≠ lineFeed)
    (hback : b ≠ carriageReturn) (bytes : List Byte) :
    findSseEventEnd (lineEnd.marks sseMarks ++ b :: bytes) =
      (findSseEventEnd (b :: bytes)).map (· + (lineEnd.marks sseMarks).length) := by
  have hfed : findSseEventEnd (lineFeed :: b :: bytes) =
      (findSseEventEnd (b :: bytes)).map (· + 1) := by
    rw [findSseEventEnd, if_neg fun h => hfeed h.2, if_neg fun h => sseMarks.ne h.1]
  cases lineEnd with
  | feed => exact hfed
  | backFeed =>
    have hnot : ¬[carriageReturn, lineFeed].isPrefixOf (b :: bytes) := by
      simp [hback.symm]
    change findSseEventEnd (carriageReturn :: lineFeed :: b :: bytes) = _
    rw [findSseEventEnd, if_neg fun h => sseMarks.ne h.1.symm, if_neg fun h => hnot h.2.2, hfed]
    cases findSseEventEnd (b :: bytes) with
    | none => rfl
    | some n => rfl

theorem findSseEventEnd_encodeLines (lineEnd : LineEnd) {line : List Byte}
    {lines : List (List Byte)} (hline : sseMarks.Clean line)
    (hclean : ∀ line ∈ lines, sseMarks.Clean line) :
    findSseEventEnd (WireEvent.encodeLines sseMarks lineEnd (line :: lines)) =
      some (WireEvent.encodeLines sseMarks lineEnd (line :: lines)).length := by
  induction lines generalizing line with
  | nil =>
    have hblank : findSseEventEnd (lineEnd.marks sseMarks ++ lineEnd.marks sseMarks) =
        some (lineEnd.marks sseMarks ++ lineEnd.marks sseMarks).length := by
      cases lineEnd <;> rfl
    rw [WireEvent.encodeLines, WireEvent.encodeLines, List.append_assoc,
      findSseEventEnd_within hline.no_feed hline.no_back, hblank]
    simp
    omega
  | cons next lines ih =>
    have hnext := hclean next List.mem_cons_self
    have hend := ih hnext fun other h => hclean other (List.mem_cons_of_mem _ h)
    obtain ⟨b, rest, hcons⟩ : ∃ b rest,
        WireEvent.encodeLines sseMarks lineEnd (next :: lines) = b :: rest ∧ b ∈ next := by
      obtain ⟨b, text, rfl⟩ := List.exists_cons_of_ne_nil hnext.ne_nil
      exact ⟨b, _, rfl, List.mem_cons_self⟩
    have hfeed : b ≠ lineFeed := ne_of_mem_of_not_mem hcons.2 hnext.no_feed
    have hback : b ≠ carriageReturn := ne_of_mem_of_not_mem hcons.2 hnext.no_back
    rw [hcons.1] at hend
    rw [WireEvent.encodeLines, List.append_assoc,
      findSseEventEnd_within hline.no_feed hline.no_back, hcons.1,
      findSseEventEnd_lineEnd lineEnd hfeed hback, hend]
    simp
    omega

/-- The observer finds the end of an event where it is. -/
theorem findSseEventEnd_encode (event : SseEvent) :
    findSseEventEnd event.encode = some event.encode.length := by
  obtain ⟨line, lines, hlines⟩ := List.exists_cons_of_ne_nil event.nonempty
  have hclean := event.clean
  rw [hlines] at hclean
  rw [WireEvent.encode, hlines]
  exact findSseEventEnd_encodeLines event.lineEnd (hclean line List.mem_cons_self)
    fun other h => hclean other (List.mem_cons_of_mem _ h)

/-- Bytes that end in no event, and are not followed by any that belong to them. -/
theorem findSseEventEnd_of_isPrefix {held bytes : List Byte} (hheld : held <+: bytes)
    (hbytes : ∀ n, findSseEventEnd bytes = some n → held.length < n) :
    findSseEventEnd held = none := by
  cases hend : findSseEventEnd held with
  | none => rfl
  | some n =>
    obtain ⟨more, rfl⟩ := hheld
    have hlong := hbytes n (findSseEventEnd_append hend more)
    have hshort := (findSseEventEnd_le hend).2
    omega

/-- A front of a response falls into whole events and bytes that end none. -/
theorem exists_cut (events : List SseEvent) {tail front : List Byte}
    (htail : findSseEventEnd tail = none)
    (hfront : front <+: events.flatMap WireEvent.encode ++ tail) :
    ∃ read unread held, events = read ++ unread ∧
      front = read.flatMap WireEvent.encode ++ held ∧ findSseEventEnd held = none := by
  induction events generalizing front with
  | nil =>
    refine ⟨[], [], front, rfl, rfl, findSseEventEnd_of_isPrefix hfront fun n hn => ?_⟩
    simp [htail] at hn
  | cons event events ih =>
    rw [List.flatMap_cons, List.append_assoc] at hfront
    have hend := findSseEventEnd_encode event
    by_cases hlength : event.encode.length ≤ front.length
    · obtain ⟨rest, rfl⟩ := List.prefix_of_prefix_length_le
        (List.prefix_append event.encode _) hfront hlength
      rw [List.prefix_append_right_inj] at hfront
      obtain ⟨read, unread, held, rfl, rfl, hheld⟩ := ih hfront
      exact ⟨event :: read, unread, held, rfl, by simp, hheld⟩
    · refine ⟨[], event :: events, front, rfl, rfl, ?_⟩
      have hin : front <+: event.encode :=
        List.prefix_of_prefix_length_le hfront (List.prefix_append event.encode _) (by omega)
      refine findSseEventEnd_of_isPrefix hin fun n hn => ?_
      rw [hend] at hn
      cases hn
      omega

/-! ## What an event does -/

/-- The kinds that end a response. -/
def terminalKinds : List String :=
  ["response.completed", "response.failed", "error", "response.incomplete"]

/-- The kind of an event whose data is a document. -/
def Libraries.eventKind? (libs : Libraries) (eventBytes : List Byte) : Option String :=
  ((eventPayload? eventBytes).bind libs.fromStr).map fun json =>
    ((eventName? eventBytes).or (getStr? json "type")).getD ""

def Libraries.endsResponse (libs : Libraries) (eventBytes : List Byte) : Bool :=
  (libs.eventKind? eventBytes).any terminalKinds.contains

theorem terminalOfEvent_isSome (libs : Libraries) (now : Time) (kind : String) (json : Json) :
    (libs.terminalOfEvent now kind json).isSome ↔ kind ∈ terminalKinds := by
  unfold Libraries.terminalOfEvent terminalKinds
  dsimp only
  split_ifs <;> simp_all

namespace ResponsesSseState

variable {libs : Libraries} {now now' : Time} {shape : ResponseShape} {state : ResponsesSseState}
  {eventBytes : List Byte}

theorem consumeEvent_hasTerminalEvent (hopen : state.hasTerminalEvent = false)
    (eventBytes : List Byte) :
    (state.consumeEvent libs now shape eventBytes).1.hasTerminalEvent =
      libs.endsResponse eventBytes := by
  unfold consumeEvent Libraries.endsResponse Libraries.eventKind?
  cases (eventPayload? eventBytes).bind libs.fromStr with
  | none => simpa using hopen
  | some json =>
    have hsome := terminalOfEvent_isSome libs now
      (((eventName? eventBytes).or (getStr? json "type")).getD "") json
    have hno : (state.checkpoint json).hasTerminalEvent = false := hopen
    dsimp only [Option.map_some, Option.any_some] at hsome ⊢
    generalize ((eventName? eventBytes).or (getStr? json "type")).getD "" = kind at hsome ⊢
    split
    next hterminal =>
      have hkind : kind ∉ terminalKinds := by simpa [hterminal] using hsome
      simpa [hno] using hkind
    next terminal replaced hterminal =>
      have hkind : kind ∈ terminalKinds := by simpa [hterminal] using hsome
      simpa [hasTerminalEvent] using hkind

/-- An event that does not end the response is read the same way at any time. -/
theorem consumeEvent_anytime
    (h : (state.consumeEvent libs now shape eventBytes).1.hasTerminalEvent = false) :
    state.consumeEvent libs now' shape eventBytes =
      state.consumeEvent libs now shape eventBytes := by
  unfold consumeEvent at h ⊢
  cases hjson : (eventPayload? eventBytes).bind libs.fromStr with
  | none => rfl
  | some json =>
    rw [hjson] at h
    dsimp only at h ⊢
    generalize ((eventName? eventBytes).or (getStr? json "type")).getD "" = kind at h ⊢
    cases hterminal : libs.terminalOfEvent now kind json with
    | none =>
      have hkind : kind ∉ terminalKinds := by
        rw [← terminalOfEvent_isSome libs now kind json, hterminal]
        simp
      have hnone : libs.terminalOfEvent now' kind json = none := by
        rwa [← terminalOfEvent_isSome libs now' kind json, Bool.not_eq_true,
          Option.isSome_eq_false_iff, Option.isNone_iff_eq_none] at hkind
      rw [hnone]
    | some terminal =>
      rw [hterminal] at h
      simp [hasTerminalEvent] at h

theorem consumeEventsFrom_anytime (rounds : ℕ)
    (h : (consumeEventsFrom libs now shape rounds state).1.hasTerminalEvent = false) :
    consumeEventsFrom libs now' shape rounds state =
      consumeEventsFrom libs now shape rounds state := by
  induction rounds generalizing state with
  | zero => rfl
  | succ rounds ih =>
    cases hend : findSseEventEnd state.buffer with
    | none =>
      rw [consumeEventsFrom_none libs now shape _ _ hend,
        consumeEventsFrom_none libs now' shape _ _ hend]
    | some eventEnd =>
      rw [consumeEventsFrom_succ libs now shape _ _ _ hend] at h ⊢
      rw [consumeEventsFrom_succ libs now' shape _ _ _ hend]
      split at h
      next hclosed => exact absurd (hclosed.symm.trans h) (by simp)
      next hstill =>
        have hfirst : consumeFirst libs now' shape state eventEnd =
            consumeFirst libs now shape state eventEnd :=
          consumeEvent_anytime (Bool.eq_false_of_not_eq_true hstill)
        rw [hfirst, if_neg hstill, if_neg hstill]
        exact emitThen_congr (ih h)

theorem bufferEvents_anytime {bytes : List Byte}
    (h : (bufferEvents libs now shape state bytes).1.hasTerminalEvent = false) :
    bufferEvents libs now' shape state bytes = bufferEvents libs now shape state bytes :=
  consumeEventsFrom_anytime _ h

theorem passThrough_anytime {bytes : List Byte}
    (h : (passThrough libs now shape state bytes).1.hasTerminalEvent = false) :
    passThrough libs now' shape state bytes = passThrough libs now shape state bytes := by
  rcases hscan : scanPassthrough state.lineStart bytes with ⟨passed, found, rest⟩
  simp only [passThrough, hscan] at h ⊢
  cases found with
  | full =>
    dsimp only at h ⊢
    rw [bufferEvents_anytime h]
  | incomplete | none => rfl

/-- Bytes that do not end the response are read the same way at any time. -/
theorem observeBytes_anytime {bytes : List Byte}
    (h : (observeBytes libs now shape state bytes).1.hasTerminalEvent = false) :
    observeBytes libs now' shape state bytes = observeBytes libs now shape state bytes := by
  cases hopen : state.hasTerminalEvent with
  | true => rw [observeBytes_closed libs now shape hopen, observeBytes_closed libs now' shape hopen]
  | false =>
    simp only [observeBytes, hopen] at h ⊢
    generalize (if state.sseMode = false ∧ state.buffer ≠ [] then
      state.resolvePendingLineStart bytes else (state, [], bytes)) = resolved at h ⊢
    obtain ⟨left, chunks, rest⟩ := resolved
    cases hmode : left.sseMode with
    | true =>
      simp only [hmode] at h ⊢
      simp only [Bool.false_eq_true, if_false, if_true] at h ⊢
      rw [bufferEvents_anytime h]
    | false =>
      simp only [hmode] at h ⊢
      simp only [Bool.false_eq_true, if_false] at h ⊢
      rw [passThrough_anytime h]

/-! ## Event by event -/

/-- The events of a response one after another, up to the one that ends it. -/
def consumeEach (libs : Libraries) (now : Time) (shape : ResponseShape) :
    ResponsesSseState → List SseEvent → Emitted
  | state, [] => (state, [])
  | state, event :: events =>
    let consumed := state.consumeEvent libs now shape event.encode
    if consumed.1.hasTerminalEvent then (consumed.1, [consumed.2])
    else emitThen (consumed.1, [consumed.2]) fun left => consumeEach libs now shape left events

/-- The bytes of some events, and bytes that end none, are read event by event. -/
theorem consumeBufferedEvents_encode (hopen : state.hasTerminalEvent = false)
    (events : List SseEvent) {held : List Byte} (hheld : findSseEventEnd held = none) :
    consumeBufferedEvents libs now shape
        { state with buffer := events.flatMap WireEvent.encode ++ held } =
      ({ (consumeEach libs now shape state events).1 with
          buffer := if (consumeEach libs now shape state events).1.hasTerminalEvent then []
            else held },
        (consumeEach libs now shape state events).2) := by
  induction events generalizing state with
  | nil =>
    rw [consumeBufferedEvents_none libs now shape (by simpa using hheld)]
    simp [consumeEach, hopen]
  | cons event events ih =>
    have hbuffer : (event :: events).flatMap WireEvent.encode ++ held =
        event.encode ++ (events.flatMap WireEvent.encode ++ held) := by simp
    have hend := findSseEventEnd_append (findSseEventEnd_encode event)
      (events.flatMap WireEvent.encode ++ held)
    have hfirst : consumeFirst libs now shape
          { state with buffer := event.encode ++ (events.flatMap WireEvent.encode ++ held) }
          event.encode.length =
        ({ (state.consumeEvent libs now shape event.encode).1 with
            buffer := events.flatMap WireEvent.encode ++ held },
          (state.consumeEvent libs now shape event.encode).2) := by
      simp only [consumeFirst, List.drop_left, List.take_left]
      exact consumeEvent_withBuffer libs now shape state _ _
    rw [hbuffer, consumeBufferedEvents_some libs now shape hend, hfirst, consumeEach]
    cases hclosed : (state.consumeEvent libs now shape event.encode).1.hasTerminalEvent with
    | true => simp [hclosed]
    | false =>
      have hrest := ih hclosed
      rw [hasTerminalEvent_withBuffer, hclosed, if_neg Bool.false_ne_true,
        if_neg Bool.false_ne_true,
        emitThen, hrest]
      rfl

theorem consumeEach_mode (state : ResponsesSseState) (events : List SseEvent) :
    (consumeEach libs now shape state events).1.sseMode = state.sseMode := by
  induction events generalizing state with
  | nil => rfl
  | cons event events ih =>
    have hmode := (consumeEvent_mode libs now shape state event.encode).1
    rw [consumeEach]
    split
    · exact hmode
    · exact (ih _).trans hmode

/-- Events that do not end the response pass as they are. -/
theorem consumeEach_passes (hopen : state.hasTerminalEvent = false) {events : List SseEvent}
    (hevents : ∀ event ∈ events, libs.endsResponse event.encode = false) :
    (consumeEach libs now shape state events).1.hasTerminalEvent = false ∧
      (consumeEach libs now shape state events).2 = events.map WireEvent.encode := by
  induction events generalizing state with
  | nil => exact ⟨hopen, rfl⟩
  | cons event events ih =>
    have hstill : (state.consumeEvent libs now shape event.encode).1.hasTerminalEvent = false :=
      (consumeEvent_hasTerminalEvent hopen _).trans (hevents event List.mem_cons_self)
    have hrest := ih hstill fun other h => hevents other (List.mem_cons_of_mem _ h)
    rw [consumeEach, hstill, if_neg Bool.false_ne_true, consumeEvent_passes hstill]
    simp only [emitThen, hrest.2]
    exact ⟨hrest.1, rfl⟩

/-- The first event that ends the response is the last one that is read. -/
theorem consumeEach_ends (hopen : state.hasTerminalEvent = false) {front : List SseEvent}
    (hfront : ∀ event ∈ front, libs.endsResponse event.encode = false) {event : SseEvent}
    (hevent : libs.endsResponse event.encode = true) (back : List SseEvent) :
    consumeEach libs now shape state (front ++ event :: back) =
      emitThen (consumeEach libs now shape state front) fun left =>
        ((left.consumeEvent libs now shape event.encode).1,
          [(left.consumeEvent libs now shape event.encode).2]) := by
  induction front generalizing state with
  | nil =>
    have hclosed := (@consumeEvent_hasTerminalEvent libs now shape _ hopen _).trans hevent
    simp [consumeEach, hclosed]
  | cons first front ih =>
    have hstill : (state.consumeEvent libs now shape first.encode).1.hasTerminalEvent = false :=
      (consumeEvent_hasTerminalEvent hopen _).trans (hfront first List.mem_cons_self)
    have hrest := ih hstill fun other h => hfront other (List.mem_cons_of_mem _ h)
    rw [List.cons_append, consumeEach, consumeEach, hstill, if_neg Bool.false_ne_true,
      if_neg Bool.false_ne_true, emitThen_assoc]
    exact emitThen_congr hrest

/-- A response that starts like a field is held back from its first byte on. -/
theorem observeBytes_start {bytes : List Byte} (hstart : classifySseLineStart bytes ≠ .none) :
    observeBytes libs now shape {} bytes =
      if classifySseLineStart bytes = .full then
        bufferEvents libs now shape { sseMode := true } bytes
      else ({ buffer := bytes }, []) := by
  rw [observeBytes_passing libs now shape rfl rfl rfl]
  cases bytes with
  | nil => rfl
  | cons b bytes =>
    have hscan := scanPassthrough_found rfl hstart
    cases hclass : classifySseLineStart (b :: bytes) with
    | full =>
      rw [hclass] at hscan
      simp only [passThrough, hscan]
      rfl
    | incomplete =>
      rw [hclass] at hscan
      simp only [passThrough, hscan]
      rfl
    | none => exact absurd hclass hstart

/-- The observer on a response of whole events and bytes that end none. -/
theorem observeBytes_encode {events : List SseEvent} {held : List Byte}
    (hstart : classifySseLineStart (events.flatMap WireEvent.encode ++ held) ≠ .none)
    (hheld : findSseEventEnd held = none) :
    ∃ mode, (mode = false → classifySseLineStart held = .incomplete ∧ events = []) ∧
      observeBytes libs now shape {} (events.flatMap WireEvent.encode ++ held) =
        ({ (consumeEach libs now shape { sseMode := mode } events).1 with
            buffer := if (consumeEach libs now shape { sseMode := mode } events).1.hasTerminalEvent
              then [] else held },
          (consumeEach libs now shape { sseMode := mode } events).2) := by
  rw [observeBytes_start hstart]
  cases hclass : classifySseLineStart (events.flatMap WireEvent.encode ++ held) with
  | none => exact absurd hclass hstart
  | full =>
    refine ⟨true, by simp, ?_⟩
    rw [if_pos rfl]
    exact consumeBufferedEvents_encode rfl events hheld
  | incomplete =>
    have hno := not_mem_of_incomplete hclass
    obtain rfl : events = [] := by
      cases events with
      | nil => rfl
      | cons event events =>
        have hend := mem_of_findSseEventEnd (findSseEventEnd_encode event)
        exact absurd (List.mem_append_left _ (List.mem_flatMap.mpr
          ⟨event, List.mem_cons_self, hend⟩)) hno
    exact ⟨false, fun _ => ⟨hclass, rfl⟩, by simp [consumeEach, hasTerminalEvent]⟩

end ResponsesSseState

end Codaze.Responses
