import Codaze.Responses.Chunking

/-!
# The observer loses no byte

Every call pushes a prefix of what was held back and what came in, and holds back the rest.
The event that ends the response is the last thing pushed, as it came or rewritten.
-/
namespace Codaze.Responses
open Foundation Accounts

/-- Bytes without a line feed do not end an event before the line feed behind them does. -/
theorem findSseEventEnd_line {line : List Byte} (hline : lineFeed ∉ line) {next : Byte}
    (hnext : next ≠ carriageReturn) (rest : List Byte) :
    findSseEventEnd (line ++ lineFeed :: next :: rest) =
      (findSseEventEnd (lineFeed :: next :: rest)).map (· + line.length) := by
  induction line with
  | nil => simp
  | cons b line ih =>
    have hb : b ≠ lineFeed := fun h => hline (by simp [h])
    have htail : lineFeed ∉ line := fun h => hline (List.mem_cons_of_mem b h)
    obtain ⟨second, rest', hcons⟩ : ∃ second rest',
        line ++ lineFeed :: next :: rest = second :: rest' := by
      cases line with
      | nil => exact ⟨_, _, rfl⟩
      | cons c line => exact ⟨_, _, rfl⟩
    have hcrlf : ¬(b = carriageReturn ∧ second = lineFeed ∧
        [carriageReturn, lineFeed].isPrefixOf rest') := by
      rintro ⟨-, hsecond, hprefix⟩
      cases line with
      | nil =>
        obtain ⟨-, rfl⟩ := List.cons.inj hcons
        have hfirst : carriageReturn = next := (by simpa using hprefix : _ ∧ _).1
        exact hnext hfirst.symm
      | cons c line =>
        obtain ⟨rfl, -⟩ := List.cons.inj hcons
        exact htail (by simp [hsecond])
    have hend := ih htail
    rw [hcons] at hend
    rw [List.cons_append, hcons, findSseEventEnd, if_neg (by simp [hb]), if_neg hcrlf, hend]
    cases findSseEventEnd (lineFeed :: next :: rest) with
    | none => rfl
    | some n => simp [Nat.add_assoc]

theorem not_mem_utf8Bytes {s : String} (h : '\n' ∉ s.toList) : lineFeed ∉ utf8Bytes s := by
  intro hmem
  obtain ⟨c, hc, hbyte⟩ := List.mem_flatMap.mp hmem
  have hlarge (n : ℕ) (hn : 128 ≤ n) (hn' : n < 256) : lineFeed ≠ UInt8.ofNat n := by
    intro heq
    have hvalue := congrArg UInt8.toNat heq
    rw [UInt8.toNat_ofNat'] at hvalue
    have hlf : lineFeed.toNat = 10 := rfl
    omega
  unfold String.utf8EncodeChar at hbyte
  simp only at hbyte
  split_ifs at hbyte with h1 h2 h3
  · have hvalue := congrArg UInt8.toNat (List.mem_singleton.mp hbyte)
    rw [UInt8.toNat_ofNat'] at hvalue
    have hlf : lineFeed.toNat = 10 := rfl
    have hc' : c.val.toNat = 10 := by omega
    have hchar : c = '\n' := Char.ext (UInt32.toNat_inj.mp hc')
    exact h (hchar ▸ hc)
  · simp only [List.mem_cons, List.not_mem_nil, or_false] at hbyte
    rcases hbyte with heq | heq <;> exact hlarge _ (by omega) (by omega) heq
  · simp only [List.mem_cons, List.not_mem_nil, or_false] at hbyte
    rcases hbyte with heq | heq | heq <;> exact hlarge _ (by omega) (by omega) heq
  · simp only [List.mem_cons, List.not_mem_nil, or_false] at hbyte
    rcases hbyte with heq | heq | heq | heq <;> exact hlarge _ (by omega) (by omega) heq

theorem utf8Bytes_append (s t : String) : utf8Bytes (s ++ t) = utf8Bytes s ++ utf8Bytes t := by
  simp [utf8Bytes]

/-- A rendered event whose name and data take one line each is one event. -/
theorem findSseEventEnd_sseEventBytes {name text : String} (hname : '\n' ∉ name.toList)
    (htext : '\n' ∉ text.toList) :
    findSseEventEnd (sseEventBytes name text) = some (sseEventBytes name text).length := by
  have hsplit : sseEventBytes name text =
      utf8Bytes ("event: " ++ name) ++ lineFeed :: (100 : Byte) ::
        (utf8Bytes ("ata: " ++ text) ++ lineFeed :: lineFeed :: []) := by
    have hdata : utf8Bytes "\ndata: " = lineFeed :: (100 : Byte) :: utf8Bytes "ata: " := by
      decide +kernel
    have hend : utf8Bytes "\n\n" = [lineFeed, lineFeed] := by decide +kernel
    simp only [sseEventBytes, utf8Bytes_append, hdata, hend]
    simp
  have hfirst : lineFeed ∉ utf8Bytes ("event: " ++ name) :=
    not_mem_utf8Bytes (by simpa using hname)
  have hsecond : lineFeed ∉ (100 : Byte) :: utf8Bytes ("ata: " ++ text) := by
    have hrest : lineFeed ∉ utf8Bytes ("ata: " ++ text) := not_mem_utf8Bytes (by simpa using htext)
    have hd : lineFeed ≠ (100 : Byte) := by decide
    exact List.not_mem_cons_of_ne_of_not_mem hd hrest
  have hlast : findSseEventEnd [lineFeed, lineFeed] = some 2 := rfl
  have hblank := @findSseEventEnd_line _ hsecond lineFeed (by decide) []
  rw [hlast] at hblank
  have hcrlf : ¬lineFeed = carriageReturn := by decide
  rw [hsplit, findSseEventEnd_line hfirst (by decide), findSseEventEnd,
    if_neg (by decide), if_neg fun h => hcrlf h.1, ← List.cons_append, hblank]
  simp
  omega

/-- An event the gateway renders in the place of another one: its name takes one line, its data
is an encoded document or a fixed line. -/
def Rewritten (libs : Libraries) (chunk : List Byte) : Prop :=
  ∃ name text, chunk = sseEventBytes name text ∧ '\n' ∉ name.toList ∧
    ((∃ json, libs.encode json = some text) ∨ '\n' ∉ text.toList)

/-- If documents are encoded on one line, a rewritten event is one event. -/
theorem Rewritten.single {libs : Libraries} {chunk : List Byte} (h : Rewritten libs chunk)
    (hencode : ∀ json text, libs.encode json = some text → '\n' ∉ text.toList) :
    findSseEventEnd chunk = some chunk.length := by
  obtain ⟨name, text, rfl, hname, ⟨json, hjson⟩ | htext⟩ := h
  · exact findSseEventEnd_sseEventBytes hname (hencode json text hjson)
  · exact findSseEventEnd_sseEventBytes hname htext

theorem findSseEventEnd_take {bytes : List Byte} {eventEnd : ℕ}
    (h : findSseEventEnd bytes = some eventEnd) :
    findSseEventEnd (bytes.take eventEnd) = some (bytes.take eventEnd).length := by
  have hle := (findSseEventEnd_le h).2
  rw [List.length_take, Nat.min_eq_left hle]
  induction bytes using findSseEventEnd.induct generalizing eventEnd with
  | case1 first second rest hlf =>
    rw [findSseEventEnd, if_pos hlf] at h
    obtain rfl := Option.some.inj h
    simp [findSseEventEnd, hlf]
  | case2 first second rest hlf hcrlf =>
    rw [findSseEventEnd, if_neg hlf, if_pos hcrlf] at h
    obtain rfl := Option.some.inj h
    obtain ⟨hfirst, hsecond, hprefix⟩ := hcrlf
    obtain ⟨tail, rfl⟩ := List.isPrefixOf_iff_prefix.mp hprefix
    subst hfirst hsecond
    rfl
  | case3 first second rest hlf hcrlf ih =>
    rw [findSseEventEnd, if_neg hlf, if_neg hcrlf] at h
    obtain ⟨n, hn, rfl⟩ := Option.map_eq_some_iff.mp h
    have hpos := (findSseEventEnd_le hn).1
    obtain ⟨m, rfl⟩ : ∃ m, n = m + 1 := ⟨n - 1, by omega⟩
    have hshort := ih hn (findSseEventEnd_le hn).2
    rw [List.take_succ_cons] at hshort
    rw [List.take_succ_cons, List.take_succ_cons, findSseEventEnd, if_neg hlf, if_neg ?_, hshort]
    · rfl
    · rintro ⟨hfirst, hsecond, hprefix⟩
      refine hcrlf ⟨hfirst, hsecond, List.isPrefixOf_iff_prefix.mpr ?_⟩
      exact (List.isPrefixOf_iff_prefix.mp hprefix).trans (List.take_prefix m rest)
  | case4 bytes hshort =>
    rw [findSseEventEnd] at h
    · cases h
    · exact hshort

theorem mem_of_findSseEventEnd {bytes : List Byte} {eventEnd : ℕ}
    (h : findSseEventEnd bytes = some eventEnd) : lineFeed ∈ bytes := by
  by_contra hno
  have hnone : findSseEventEnd bytes = none := by
    clear h
    induction bytes using findSseEventEnd.induct with
    | case1 first second rest hlf => exact absurd (hlf.1 ▸ List.mem_cons_self) hno
    | case2 first second rest hlf hcrlf => exact absurd (by simp [hcrlf.2.1]) hno
    | case3 first second rest hlf hcrlf ih =>
      rw [findSseEventEnd, if_neg hlf, if_neg hcrlf,
        ih fun hmem => hno (List.mem_cons_of_mem _ hmem)]
      rfl
    | case4 bytes hshort =>
      rw [findSseEventEnd]
      exact hshort
  rw [hnone] at h
  cases h

namespace ResponsesSseState

variable {libs : Libraries} {now : Time} {shape : ResponseShape}

/-- The calls on one stream, each at its own time. -/
def observeCalls (libs : Libraries) (shape : ResponseShape) :
    ResponsesSseState → List (Time × List Byte) → Emitted
  | state, [] => (state, [])
  | state, (now, bytes) :: calls =>
    emitThen (observeBytes libs now shape state bytes) fun left =>
      observeCalls libs shape left calls

theorem observeCalls_append (state : ResponsesSseState) (calls more : List (Time × List Byte)) :
    observeCalls libs shape state (calls ++ more) =
      emitThen (observeCalls libs shape state calls) fun left =>
        observeCalls libs shape left more := by
  induction calls generalizing state with
  | nil => rw [List.nil_append, observeCalls, emitThen_nil]
  | cons call calls ih =>
    rw [List.cons_append, observeCalls, observeCalls, emitThen_assoc]
    exact emitThen_congr (ih _)

theorem observeCalls_closed {state : ResponsesSseState} (hclosed : state.hasTerminalEvent = true)
    (calls : List (Time × List Byte)) : observeCalls libs shape state calls = (state, []) := by
  induction calls with
  | nil => rfl
  | cons call calls ih =>
    rw [observeCalls, observeBytes_closed libs call.1 shape hclosed, emitThen_nil, ih]

/-- Read one by one, the chunks are pushed as they are and leave this state. -/
def Repeats (libs : Libraries) (shape : ResponseShape) (start : ResponsesSseState)
    (chunks : List (List Byte)) (left : ResponsesSseState) : Prop :=
  ∃ calls : List (Time × List Byte), calls.map Prod.snd = chunks ∧
    observeCalls libs shape start calls = (left, chunks)

namespace Repeats

variable {start middle left : ResponsesSseState} {chunks more : List (List Byte)}

theorem nothing (start : ResponsesSseState) : Repeats libs shape start [] start := ⟨[], rfl, rfl⟩

theorem chunk {bytes : List Byte}
    (h : observeBytes libs now shape start bytes = (left, [bytes])) :
    Repeats libs shape start [bytes] left := by
  refine ⟨[(now, bytes)], rfl, ?_⟩
  rw [observeCalls, h]
  rfl

theorem trans (h : Repeats libs shape start chunks middle)
    (hmore : Repeats libs shape middle more left) :
    Repeats libs shape start (chunks ++ more) left := by
  obtain ⟨calls, hcalls, hread⟩ := h
  obtain ⟨calls', hcalls', hread'⟩ := hmore
  refine ⟨calls ++ calls', by rw [List.map_append, hcalls, hcalls'], ?_⟩
  rw [observeCalls_append, hread, emitThen, hread']

end Repeats

/-- The observer reads these bytes as events: it is in SSE mode, or they start like a field. -/
def ReadsEvents (state : ResponsesSseState) (bytes : List Byte) : Prop :=
  state.sseMode = true ∨
    state.sseMode = false ∧ state.lineStart = true ∧ classifySseLineStart bytes = .full

/-- An observer that has seen no terminal event, and what it holds back since a state in which
nothing was held back. -/
inductive Holding : ResponsesSseState → ResponsesSseState → Prop
  | outside {start : ResponsesSseState} (buffer : List Byte)
      (hopen : start.hasTerminalEvent = false) (hfree : start.buffer = [])
      (hmode : start.sseMode = false)
      (hpending : buffer ≠ [] →
        start.lineStart = true ∧ classifySseLineStart buffer = .incomplete) :
      Holding start { start with buffer }
  | inside {start : ResponsesSseState} (buffer : List Byte)
      (hopen : start.hasTerminalEvent = false) (hfree : start.buffer = [])
      (hevents : start.ReadsEvents buffer) :
      Holding start { start with sseMode := true, buffer }

/-- The last event of a response, what is pushed for it and the state that is left. -/
structure LastEvent (libs : Libraries) (shape : ResponseShape) (start : ResponsesSseState)
    (before : List (List Byte)) (event last : List Byte) (left : ResponsesSseState) : Prop where
  ends : findSseEventEnd event = some event.length
  /-- The observer that has read just the chunks before it has seen no terminal event. -/
  closes : ∃ (now : Time) (state : ResponsesSseState), Repeats libs shape start before state ∧
    state.hasTerminalEvent = false ∧
    observeBytes libs now shape state event = (left, [last]) ∧
    ({ state with sseMode := true } : ResponsesSseState).consumeEvent libs now shape event =
      (left, last)
  kept_or_rewritten : last = event ∨ Rewritten libs last
  single : (∀ json text, libs.encode json = some text → '\n' ∉ text.toList) →
    findSseEventEnd last = some last.length

/-- What was read and what was pushed when the response has ended: the chunks are the input
up to the end of the event that ended it. -/
def EndedBy (libs : Libraries) (shape : ResponseShape) (start : ResponsesSseState)
    (input : List Byte) (emitted : Emitted) : Prop :=
  ∃ before event rest last, input = before.flatten ++ event ++ rest ∧
    emitted.2 = before ++ [last] ∧ LastEvent libs shape start before event last emitted.1

/-- What became of the bytes read since a state in which nothing was held back. -/
structure Conserved (libs : Libraries) (shape : ResponseShape) (start : ResponsesSseState)
    (input : List Byte) (emitted : Emitted) : Prop where
  passing : emitted.1.hasTerminalEvent = false → emitted.2.flatten ++ emitted.1.buffer = input
  holding : emitted.1.hasTerminalEvent = false →
    ∃ state, Repeats libs shape start emitted.2 state ∧ Holding state emitted.1
  ended : emitted.1.hasTerminalEvent = true →
    emitted.1.buffer = [] ∧ EndedBy libs shape start input emitted

theorem Holding.isOpen {start held : ResponsesSseState} (h : Holding start held) :
    held.hasTerminalEvent = false := by
  cases h with
  | outside buffer hopen => exact hopen
  | inside buffer hopen => exact hopen

namespace Conserved

variable {start middle : ResponsesSseState} {input : List Byte} {emitted : Emitted}

theorem held {state : ResponsesSseState} (h : Holding start state) :
    Conserved libs shape start state.buffer (state, []) where
  passing _ := rfl
  holding _ := ⟨start, .nothing start, h⟩
  ended hclosed := absurd (h.isOpen.symm.trans hclosed) (by simp)

/-- Chunks that were pushed before. -/
theorem after (h : Conserved libs shape middle input emitted) {chunks : List (List Byte)}
    (hchunks : Repeats libs shape start chunks middle) :
    Conserved libs shape start (chunks.flatten ++ input) (emitted.1, chunks ++ emitted.2) where
  passing hopen := by
    rw [List.flatten_append, List.append_assoc, h.passing hopen]
  holding hopen := by
    obtain ⟨state, hrepeats, hheld⟩ := h.holding hopen
    exact ⟨state, hchunks.trans hrepeats, hheld⟩
  ended hclosed := by
    obtain ⟨hbuffer, before, event, rest, last, rfl, hpushed, hlast⟩ := h.ended hclosed
    obtain ⟨now, state, hrepeats, hcloses⟩ := hlast.closes
    refine ⟨hbuffer, chunks ++ before, event, rest, last, ?_, ?_, ?_⟩
    · simp
    · rw [hpushed, List.append_assoc]
    · exact { hlast with closes := ⟨now, state, hchunks.trans hrepeats, hcloses⟩ }

/-- Bytes that are not looked at, the response having ended. -/
theorem ignore (h : Conserved libs shape start input emitted)
    (hclosed : emitted.1.hasTerminalEvent = true) (more : List Byte) :
    Conserved libs shape start (input ++ more) emitted where
  passing hopen := absurd (hopen.symm.trans hclosed) (by simp)
  holding hopen := absurd (hopen.symm.trans hclosed) (by simp)
  ended _ := by
    obtain ⟨hbuffer, before, event, rest, last, rfl, hchunks, hlast⟩ := h.ended hclosed
    exact ⟨hbuffer, before, event, rest ++ more, last, by simp, hchunks, hlast⟩

end Conserved

/-- An event that does not end the response passes as it is. -/
theorem consumeEvent_passes {state : ResponsesSseState} {event : List Byte}
    (h : (state.consumeEvent libs now shape event).1.hasTerminalEvent = false) :
    (state.consumeEvent libs now shape event).2 = event := by
  unfold consumeEvent at h ⊢
  cases hjson : (eventPayload? event).bind libs.fromStr with
  | none => rfl
  | some json =>
    rw [hjson] at h
    dsimp only at h ⊢
    split
    next => rfl
    next terminal replaced hterminal =>
      rw [hterminal] at h
      cases h

theorem rewritten_event (state : ResponsesSseState) {kind : String} (json : Json)
    (hkind : '\n' ∉ kind.toList) :
    Rewritten libs (state.rewriteGatewayUnavailableEvent libs now shape kind json) := by
  have hfixed (text : String) (htext : '\n' ∉ text.toList) (name : String)
      (hname : '\n' ∉ name.toList) : Rewritten libs (sseEventBytes name text) :=
    ⟨name, text, rfl, hname, .inr htext⟩
  have hencoded (json : Json) (name fallback : String) (hname : '\n' ∉ name.toList)
      (hfallback : '\n' ∉ fallback.toList) :
      Rewritten libs (((libs.encode json).map (sseEventBytes name)).getD
        (sseEventBytes name fallback)) := by
    cases htext : libs.encode json with
    | none => exact hfixed fallback hfallback name hname
    | some text => exact ⟨name, text, rfl, hname, .inl ⟨json, htext⟩⟩
  unfold rewriteGatewayUnavailableEvent
  dsimp only
  cases shape with
  | codex =>
    dsimp only
    split
    · have hencode := hencoded (json.replacePath ["response", "error"] gatewayUnavailableObject)
        kind "\x7b\"type\":\"error\"\x7d" hkind (by decide)
      generalize json.replacePath ["response", "error"] gatewayUnavailableObject = rewritten at *
      cases htext : libs.encode rewritten with
      | none => simpa [htext] using hencode
      | some text => simpa [htext] using hencode
    · exact hencoded _ "response.failed" _ (by decide) (by decide)
  | openAi => exact hencoded _ "error" _ (by decide) (by decide)

/-- The kinds that end a response take one line. -/
theorem terminalOfEvent_kind {kind : String} {json : Json}
    {terminal : ResponsesTerminalState × Bool}
    (h : libs.terminalOfEvent now kind json = some terminal) : '\n' ∉ kind.toList := by
  unfold Libraries.terminalOfEvent at h
  dsimp only at h
  split_ifs at h with h1 h2 h3 h4
  · exact h1 ▸ by decide
  · exact h2 ▸ by decide
  · exact h3 ▸ by decide
  · exact h4 ▸ by decide

/-- The first event of the bytes starts as they do. -/
theorem ReadsEvents.take {state : ResponsesSseState} {buffer : List Byte} {eventEnd : ℕ}
    (h : state.ReadsEvents buffer) (hend : findSseEventEnd buffer = some eventEnd) :
    state.ReadsEvents (buffer.take eventEnd) := by
  refine h.imp_right fun ⟨hmode, hstart, hfull⟩ => ⟨hmode, hstart, ?_⟩
  have hsplit := List.take_append_drop eventEnd buffer
  cases hclass : classifySseLineStart (buffer.take eventEnd) with
  | full => rfl
  | incomplete =>
    exact absurd (mem_of_findSseEventEnd (findSseEventEnd_take hend)) (not_mem_of_incomplete hclass)
  | none =>
    have hnone := classifySseLineStart_none_append hclass (buffer.drop eventEnd)
    rw [hsplit, hfull] at hnone
    cases hnone

/-- One event, read with nothing held back in front of it. -/
theorem bufferEvents_event {state : ResponsesSseState} {event : List Byte}
    (hfree : state.buffer = []) (hends : findSseEventEnd event = some event.length) :
    bufferEvents libs now shape state event =
      ((consumeEvent libs now shape state event).1,
        [(consumeEvent libs now shape state event).2]) := by
  have hbuffer : (consumeEvent libs now shape state event).1.buffer = [] :=
    (consumeEvent_buffer libs now shape state event).trans hfree
  have hstate : ({ state with buffer := [] } : ResponsesSseState) = state := by rw [← hfree]
  have hfirst : consumeFirst libs now shape { state with buffer := event } event.length =
      consumeEvent libs now shape state event := by
    rw [consumeFirst, List.drop_length, List.take_length, hstate]
  have hevent : ({ state with buffer := state.buffer ++ event } : ResponsesSseState) =
      { state with buffer := event } := by rw [hfree, List.nil_append]
  rw [bufferEvents, hevent, consumeBufferedEvents_some libs now shape hends, hfirst]
  split
  · have hleft : ({ (consumeEvent libs now shape state event).1 with buffer := [] } :
        ResponsesSseState) = (consumeEvent libs now shape state event).1 := by rw [← hbuffer]
    rw [hleft]
  · have hnone : findSseEventEnd (consumeEvent libs now shape state event).1.buffer = none := by
      rw [hbuffer]
      rfl
    rw [emitThen, consumeBufferedEvents_none libs now shape hnone, List.append_nil]

theorem observeBytes_event {state : ResponsesSseState} {event : List Byte}
    (hopen : state.hasTerminalEvent = false) (hfree : state.buffer = [])
    (hevents : state.ReadsEvents event) (hends : findSseEventEnd event = some event.length) :
    observeBytes libs now shape state event =
      ((consumeEvent libs now shape { state with sseMode := true } event).1,
        [(consumeEvent libs now shape { state with sseMode := true } event).2]) := by
  have hread := @bufferEvents_event libs now shape { state with sseMode := true } event hfree hends
  rcases hevents with hmode | ⟨hmode, hstart, hfull⟩
  · have hstate : ({ state with sseMode := true } : ResponsesSseState) = state := by rw [← hmode]
    rw [observeBytes_sseMode libs now shape hopen hmode, ← hread, hstate]
  · obtain ⟨b, bytes, rfl⟩ : ∃ b bytes, event = b :: bytes :=
      List.exists_cons_of_ne_nil fun h => by simp [h, findSseEventEnd] at hends
    have hscan := scanPassthrough_found hfull (by simp)
    rw [← hstart] at hscan
    rw [observeBytes_passing libs now shape hopen hmode hfree, ← hread]
    simp only [passThrough, hscan]
    rfl

/-- The event that ends the response. -/
theorem lastEvent {state : ResponsesSseState} {event : List Byte}
    (hopen : state.hasTerminalEvent = false) (hfree : state.buffer = [])
    (hevents : state.ReadsEvents event) (hends : findSseEventEnd event = some event.length) :
    LastEvent libs shape state [] event
      (consumeEvent libs now shape { state with sseMode := true } event).2
      (consumeEvent libs now shape { state with sseMode := true } event).1 := by
  have hlast : (consumeEvent libs now shape { state with sseMode := true } event).2 = event ∨
      Rewritten libs (consumeEvent libs now shape { state with sseMode := true } event).2 := by
    unfold consumeEvent
    cases hjson : (eventPayload? event).bind libs.fromStr with
    | none => exact .inl rfl
    | some json =>
      dsimp only
      split
      next => exact .inl rfl
      next terminal replaced hterminal =>
        cases replaced with
        | false => exact .inl rfl
        | true => exact .inr (rewritten_event _ json (terminalOfEvent_kind hterminal))
  have hread := @observeBytes_event libs now shape state event hopen hfree hevents hends
  refine ⟨hends, ⟨now, state, .nothing state, hopen, hread, rfl⟩, hlast, fun hencode => ?_⟩
  rcases hlast with heq | hrewritten
  · rw [heq]
    exact hends
  · exact hrewritten.single hencode

/-- The first event of what is held back is read as it is read by itself. -/
theorem consumeFirst_spec {start : ResponsesSseState} {buffer : List Byte} {eventEnd : ℕ}
    (hopen : start.hasTerminalEvent = false) (hfree : start.buffer = [])
    (hevents : start.ReadsEvents buffer) (hend : findSseEventEnd buffer = some eventEnd) :
    ∃ left chunk,
      consumeFirst libs now shape { start with sseMode := true, buffer } eventEnd =
        ({ left with buffer := buffer.drop eventEnd }, chunk) ∧
      left.buffer = [] ∧ left.sseMode = true ∧
      LastEvent libs shape start [] (buffer.take eventEnd) chunk left ∧
      (left.hasTerminalEvent = false →
        chunk = buffer.take eventEnd ∧ Repeats libs shape start [chunk] left) := by
  have hends := findSseEventEnd_take hend
  have hevent := hevents.take hend
  have hread := @observeBytes_event libs now shape start _ hopen hfree hevent hends
  refine ⟨_, _, consumeEvent_withBuffer libs now shape { start with sseMode := true } _ _,
    (consumeEvent_buffer libs now shape _ _).trans hfree, (consumeEvent_mode libs now shape _ _).1,
    lastEvent hopen hfree hevent hends, fun hstill => ?_⟩
  have hchunk := consumeEvent_passes hstill
  rw [hchunk] at hread ⊢
  exact ⟨rfl, .chunk hread⟩

theorem conserved_consumeEventsFrom (rounds : ℕ) {start : ResponsesSseState}
    {buffer : List Byte} (hopen : start.hasTerminalEvent = false) (hfree : start.buffer = [])
    (hevents : start.ReadsEvents buffer) :
    Conserved libs shape start buffer
      (consumeEventsFrom libs now shape rounds { start with sseMode := true, buffer }) := by
  induction rounds generalizing start buffer with
  | zero => exact Conserved.held (.inside buffer hopen hfree hevents)
  | succ rounds ih =>
    cases hend : findSseEventEnd buffer with
    | none =>
      rw [consumeEventsFrom_none libs now shape _ _ hend]
      exact Conserved.held (.inside buffer hopen hfree hevents)
    | some eventEnd =>
      have hsplit := List.take_append_drop eventEnd buffer
      obtain ⟨left, chunk, hfirst, hbuffer, hmode, hlast, hpasses⟩ :=
        @consumeFirst_spec libs now shape start buffer eventEnd hopen hfree hevents hend
      rw [consumeEventsFrom_succ libs now shape _ _ _ hend, hfirst]
      split
      next hclosed =>
        have hleft : ({ left with buffer := [] } : ResponsesSseState) = left := by rw [← hbuffer]
        refine ⟨fun hstill => absurd (hstill.symm.trans hclosed) (by simp),
          fun hstill => absurd (hstill.symm.trans hclosed) (by simp), fun _ => ⟨rfl, ?_⟩⟩
        exact ⟨[], buffer.take eventEnd, buffer.drop eventEnd, chunk, hsplit.symm, rfl,
          hleft.symm ▸ hlast⟩
      next hstill =>
        have hstill' : left.hasTerminalEvent = false := by simpa using hstill
        obtain ⟨rfl, hrepeats⟩ := hpasses hstill'
        have hstate : ({ left with sseMode := true, buffer := buffer.drop eventEnd } :
            ResponsesSseState) = { left with buffer := buffer.drop eventEnd } := by rw [← hmode]
        have hrest := (@ih left (buffer.drop eventEnd) hstill' hbuffer (.inl hmode)).after hrepeats
        rwa [hstate, List.flatten_singleton, hsplit] at hrest

theorem conserved_bufferEvents {start : ResponsesSseState} {buffer : List Byte}
    (hopen : start.hasTerminalEvent = false) (hfree : start.buffer = [])
    (hevents : start.ReadsEvents buffer) (bytes : List Byte) :
    Conserved libs shape start (buffer ++ bytes)
      (bufferEvents libs now shape { start with sseMode := true, buffer } bytes) :=
  conserved_consumeEventsFrom _ hopen hfree <| hevents.imp_right fun ⟨hmode, hstart, hfull⟩ =>
    ⟨hmode, hstart, classifySseLineStart_full_append hfull bytes⟩

/-- Bytes in a line do not end it. -/
theorem mem_of_lineStartAfterBytes {b : Byte} {bytes : List Byte}
    (h : lineStartAfterBytes (b == lineFeed) bytes = true) : lineFeed ∈ b :: bytes := by
  induction bytes generalizing b with
  | nil =>
    have hb : b = lineFeed := by simpa [lineStartAfterBytes] using h
    rw [hb]
    exact List.mem_cons_self
  | cons c bytes ih => exact List.mem_cons_of_mem b (ih h)

/-- A line start that turns out to be no field is passed over with the byte that shows it. -/
theorem scanPassthrough_resolved {pending : List Byte} {b : Byte} (hne : pending ≠ [])
    (hline : lineFeed ∉ pending) (hclass : classifySseLineStart (pending ++ [b]) = .none) :
    scanPassthrough true (pending ++ [b]) = (pending ++ [b], .none, []) := by
  obtain ⟨first, line, rfl⟩ := List.exists_cons_of_ne_nil hne
  have hfirst : (first == lineFeed) = false := by
    have : first ≠ lineFeed := fun h => hline (by simp [h])
    simpa using this
  have htail : lineFeed ∉ line := fun h => hline (List.mem_cons_of_mem first h)
  rw [List.cons_append] at hclass ⊢
  rw [scanPassthrough_pass fun _ => hclass, hfirst, scanPassthrough_line htail,
    scanPassthrough_pass (by simp)]
  rfl

/-- What a scan passes over is passed over again. -/
theorem scanPassthrough_passed {lineStart : Bool} {bytes passed rest : List Byte}
    {found : SseLineStartMatch} (h : scanPassthrough lineStart bytes = (passed, found, rest)) :
    scanPassthrough lineStart passed = (passed, .none, []) := by
  induction bytes generalizing lineStart passed with
  | nil =>
    obtain ⟨rfl, -, -⟩ : [] = passed ∧ SseLineStartMatch.none = found ∧ [] = rest := by
      simpa [scanPassthrough] using h
    rfl
  | cons b bytes ih =>
    by_cases hpass : lineStart = true → classifySseLineStart (b :: bytes) = .none
    · rcases htail : scanPassthrough (b == lineFeed) bytes with ⟨passed', found', rest'⟩
      rw [scanPassthrough_pass hpass, htail] at h
      obtain ⟨rfl, rfl, rfl⟩ : b :: passed' = passed ∧ found' = found ∧ rest' = rest := by
        simpa using h
      obtain ⟨hbytes, hnone, hfound⟩ := scanPassthrough_spec htail
      rw [scanPassthrough_pass ?_, ih htail]
      intro hstart
      cases hclass : classifySseLineStart (b :: passed') with
      | none => rfl
      | full =>
        have hall := classifySseLineStart_full_append hclass rest'
        rw [List.cons_append, ← hbytes, hpass hstart] at hall
        cases hall
      | incomplete =>
        -- a passage that stops ends with a line
        have hline := not_mem_of_incomplete hclass
        by_cases hend : found' = .none
        · rw [hnone hend, List.append_nil] at hbytes
          rw [← hbytes, hpass hstart] at hclass
          cases hclass
        · have hlast := (hfound hend).2.1
          exact absurd (mem_of_lineStartAfterBytes hlast) hline
    · obtain ⟨hstart, hfound⟩ : lineStart = true ∧ classifySseLineStart (b :: bytes) ≠ .none := by
        simpa using hpass
      subst hstart
      rw [scanPassthrough_found rfl hfound] at h
      obtain ⟨rfl, -, -⟩ : [] = passed ∧ classifySseLineStart (b :: bytes) = found ∧
          b :: bytes = rest := by simpa using h
      rfl

/-- A passage of text, read with nothing held back. -/
theorem observeBytes_passage {state : ResponsesSseState} {passed : List Byte}
    (hopen : state.hasTerminalEvent = false) (hfree : state.buffer = [])
    (hmode : state.sseMode = false) (hne : passed ≠ [])
    (hscan : scanPassthrough state.lineStart passed = (passed, .none, [])) :
    observeBytes libs now shape state passed =
      ({ state with lineStart := lineStartAfterBytes state.lineStart passed }, [passed]) := by
  rw [observeBytes_passing libs now shape hopen hmode hfree]
  simp only [passThrough, hscan, if_neg hne]

theorem conserved_passThrough {state : ResponsesSseState}
    (hopen : state.hasTerminalEvent = false) (hfree : state.buffer = [])
    (hmode : state.sseMode = false) (bytes : List Byte) :
    Conserved libs shape state bytes (passThrough libs now shape state bytes) := by
  rcases hscan : scanPassthrough state.lineStart bytes with ⟨passed, found, rest⟩
  obtain ⟨hbytes, hnone, hfound⟩ := scanPassthrough_spec hscan
  have hrepeats : Repeats libs shape state (if passed = [] then [] else [passed])
      { state with lineStart := lineStartAfterBytes state.lineStart passed } := by
    split
    next hempty =>
      subst hempty
      exact .nothing state
    next hne =>
      exact .chunk (@observeBytes_passage libs now shape state passed hopen hfree hmode hne
        (scanPassthrough_passed hscan))
  have hchunks : (if passed = [] then [] else [passed]).flatten = passed := by
    split
    · simp [*]
    · simp
  simp only [passThrough, hscan]
  rw [hbytes]
  nth_rewrite 1 [← hchunks]
  generalize (if passed = [] then [] else [passed]) = chunks at hrepeats hchunks ⊢
  generalize lineStartAfterBytes state.lineStart passed = lineStart at hrepeats hfound ⊢
  cases found with
  | full =>
    obtain ⟨_, hstart, hclass⟩ := hfound (by simp)
    have hevents := @conserved_consumeEventsFrom libs now shape (state.buffer ++ rest).length
      { state with lineStart } rest hopen hfree (.inr ⟨hmode, hstart, hclass⟩)
    have hbuffer : ({ state with lineStart, sseMode := true, buffer := state.buffer ++ rest } :
        ResponsesSseState) = { state with lineStart, sseMode := true, buffer := rest } := by
      rw [hfree, List.nil_append]
    simp only [bufferEvents, consumeBufferedEvents, hbuffer]
    exact hevents.after hrepeats
  | incomplete =>
    obtain ⟨_, hstart, hclass⟩ := hfound (by simp)
    have hleft := @Conserved.held libs shape { state with lineStart } _
      (.outside rest hopen hfree hmode fun _ => ⟨hstart, hclass⟩)
    have hall := hleft.after hrepeats
    rw [List.append_nil] at hall
    rw [hfree, List.nil_append]
    exact hall
  | none =>
    have hleft := @Conserved.held libs shape { state with lineStart } _
      (.outside [] hopen hfree hmode fun h => absurd rfl h)
    have hstate : ({ state with lineStart, buffer := [] } : ResponsesSseState) =
        { state with lineStart } := by rw [← hfree]
    rw [hstate] at hleft
    simpa [hnone rfl, hfree] using hleft.after hrepeats

/-- A call conserves what was held back and what comes in. -/
theorem conserved_observeBytes {start state : ResponsesSseState} (hholding : Holding start state)
    (bytes : List Byte) :
    Conserved libs shape start (state.buffer ++ bytes)
      (observeBytes libs now shape state bytes) := by
  cases hholding with
  | inside buffer hopen hfree hevents =>
    have hread := @observeBytes_sseMode libs now shape { start with sseMode := true, buffer } hopen
      rfl bytes
    rw [hread]
    exact conserved_bufferEvents hopen hfree hevents bytes
  | outside buffer hopen hfree hmode hpending =>
    by_cases hbuffer : buffer = []
    · subst hbuffer
      have hstate : ({ start with buffer := [] } : ResponsesSseState) = start := by rw [← hfree]
      rw [hstate, hfree, observeBytes_passing libs now shape hopen hmode hfree]
      exact conserved_passThrough hopen hfree hmode bytes
    obtain ⟨hstart, hclass⟩ := hpending hbuffer
    induction bytes generalizing buffer with
    | nil =>
      rw [observeBytes_held libs now shape { start with buffer } hopen hmode hbuffer,
        resolvePendingLineStart,
        emitThen_nil, if_neg (by simp [hmode]), List.append_nil]
      exact Conserved.held (.outside buffer hopen hfree hmode hpending)
    | cons b bytes ih =>
      have hsplit : buffer ++ b :: bytes = buffer ++ [b] ++ bytes := by simp
      rw [observeBytes_pending libs now shape { start with buffer } hopen hmode hbuffer, hsplit]
      cases hnext : classifySseLineStart (buffer ++ [b]) with
      | full =>
        exact conserved_bufferEvents hopen hfree (.inr ⟨hmode, hstart, hnext⟩) bytes
      | incomplete =>
        exact ih (buffer ++ [b]) (fun _ => ⟨hstart, hnext⟩) (by simp) hnext
      | none =>
        have hscan := scanPassthrough_resolved hbuffer (not_mem_of_incomplete hclass) hnext
        rw [← hstart] at hscan
        have hread := @observeBytes_passage libs now shape start _ hopen hfree hmode (by simp) hscan
        have hstate : ({ start with
            buffer := [], lineStart := lineStartAfterBytes start.lineStart (buffer ++ [b]) } :
            ResponsesSseState) =
            { start with lineStart := lineStartAfterBytes start.lineStart (buffer ++ [b]) } := by
          rw [← hfree]
        have hrest := @conserved_passThrough libs now shape
          { start with lineStart := lineStartAfterBytes start.lineStart (buffer ++ [b]) }
          hopen hfree hmode bytes
        have hall := hrest.after (.chunk hread)
        rw [List.flatten_singleton] at hall
        rw [emitThen, hstate]
        exact hall

theorem conserved_observeCalls {start state : ResponsesSseState} (hholding : Holding start state)
    (calls : List (Time × List Byte)) :
    Conserved libs shape start (state.buffer ++ (calls.map Prod.snd).flatten)
      (observeCalls libs shape state calls) := by
  induction calls generalizing start state with
  | nil => simpa [observeCalls] using Conserved.held hholding
  | cons call calls ih =>
    have hcall := @conserved_observeBytes libs call.1 shape start state hholding call.2
    rw [observeCalls, List.map_cons, List.flatten_cons, ← List.append_assoc]
    cases hleft : (observeBytes libs call.1 shape state call.2).1.hasTerminalEvent with
    | false =>
      obtain ⟨middle, hrepeats, hheld⟩ := hcall.holding hleft
      have hrest := (ih hheld).after hrepeats
      rwa [← List.append_assoc, hcall.passing hleft] at hrest
    | true =>
      have hall := hcall.ignore hleft (calls.map Prod.snd).flatten
      rw [emitThen, observeCalls_closed hleft, List.append_nil]
      exact hall

/-- The bytes of a stream are pushed or held back in the order in which they came, until the
event that ends the response; nothing follows it. -/
theorem observeCalls_lossless (libs : Libraries) (shape : ResponseShape)
    (calls : List (Time × List Byte)) :
    Conserved libs shape {} (calls.map Prod.snd).flatten (observeCalls libs shape {} calls) := by
  have hstart : Holding {} {} := .outside [] rfl rfl rfl fun h => absurd rfl h
  have h := @conserved_observeCalls libs shape {} {} hstart calls
  rwa [List.nil_append] at h

end ResponsesSseState

end Codaze.Responses
