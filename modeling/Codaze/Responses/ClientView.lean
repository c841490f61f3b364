import Codaze.Responses.Relay

/-!
# What a client reads of a stream

A client reads the delivered bytes as events. If the inner stream carries whole events,
the client reads the events of upstream up to the first one that ends the response, or all
of them and one event of the gateway: it reads one terminal event, and reads it last.
-/
namespace Codaze.Responses
open Foundation Accounts

/-! ## The events of the gateway -/

/-- An ASCII character shows in the bytes of a string only where it shows in the string. -/
theorem not_mem_utf8Bytes_of_ascii {c : Char} (hascii : c.toNat < 128) {s : String}
    (h : c ∉ s.toList) : UInt8.ofNat c.toNat ∉ utf8Bytes s := by
  intro hmem
  obtain ⟨d, hd, hbyte⟩ := List.mem_flatMap.mp hmem
  have hvalue (n : ℕ) (hn : n < 256) (heq : UInt8.ofNat c.toNat = UInt8.ofNat n) :
      c.toNat = n := by
    have := congrArg UInt8.toNat heq
    rw [UInt8.toNat_ofNat', UInt8.toNat_ofNat'] at this
    omega
  have hlarge (n : ℕ) (hn : 128 ≤ n) (hn' : n < 256) (heq : UInt8.ofNat c.toNat = UInt8.ofNat n) :
      False := by
    have := hvalue n hn' heq
    omega
  unfold String.utf8EncodeChar at hbyte
  simp only at hbyte
  split_ifs at hbyte with h1 h2 h3
  · have hsame := hvalue _ (by omega) (List.mem_singleton.mp hbyte)
    have hchar : c = d := Char.ext (UInt32.toNat_inj.mp hsame)
    exact h (hchar ▸ hd)
  · simp only [List.mem_cons, List.not_mem_nil, or_false] at hbyte
    rcases hbyte with heq | heq <;> exact hlarge _ (by omega) (by omega) heq
  · simp only [List.mem_cons, List.not_mem_nil, or_false] at hbyte
    rcases hbyte with heq | heq | heq <;> exact hlarge _ (by omega) (by omega) heq
  · simp only [List.mem_cons, List.not_mem_nil, or_false] at hbyte
    rcases hbyte with heq | heq | heq | heq <;> exact hlarge _ (by omega) (by omega) heq

/-- A text on one line. -/
def OneLine (text : String) : Prop := '\n' ∉ text.toList ∧ '\r' ∉ text.toList

instance (text : String) : Decidable (OneLine text) := inferInstanceAs (Decidable (_ ∧ _))

/-- `to_string` escapes the line ends inside of strings. -/
def Libraries.PrintsOneLine (libs : Libraries) : Prop :=
  ∀ json text, libs.encode json = some text → OneLine text

theorem clean_utf8Bytes {label text : String} (hlabel : OneLine label) (hne : utf8Bytes label ≠ [])
    (htext : OneLine text) : sseMarks.Clean (utf8Bytes (label ++ text)) where
  ne_nil h := hne (List.append_eq_nil_iff.mp ((utf8Bytes_append label text).symm.trans h)).1
  no_feed := not_mem_utf8Bytes_of_ascii (c := '\n') (by decide) (by
    simpa using not_or.mpr ⟨hlabel.1, htext.1⟩)
  no_back := not_mem_utf8Bytes_of_ascii (c := '\r') (by decide) (by
    simpa using not_or.mpr ⟨hlabel.2, htext.2⟩)

/-- The lines of an event with a name and data on one line. -/
def namedLines (name text : String) : List (List Byte) :=
  [utf8Bytes ("event: " ++ name), utf8Bytes ("data: " ++ text)]

/-- A rendered event as an event on the wire. -/
def namedEvent (name text : String) (hname : OneLine name) (htext : OneLine text) : SseEvent where
  lines := namedLines name text
  lineEnd := .feed
  nonempty := by simp [namedLines]
  clean := by
    have hfirst := @clean_utf8Bytes "event: " name (by decide) (by decide) hname
    have hsecond := @clean_utf8Bytes "data: " text (by decide) (by decide) htext
    simpa [namedLines] using And.intro hfirst hsecond

theorem encode_namedEvent {name text : String} (hname : OneLine name) (htext : OneLine text) :
    (namedEvent name text hname htext).encode = sseEventBytes name text := by
  have hdata : utf8Bytes "\ndata: " = lineFeed :: utf8Bytes "data: " := by decide +kernel
  have hend : utf8Bytes "\n\n" = [lineFeed, lineFeed] := by decide +kernel
  simp [WireEvent.encode, WireEvent.encodeLines, namedEvent, namedLines, LineEnd.marks, sseMarks,
    sseEventBytes, utf8Bytes_append, hdata, hend]

/-- The names of the events that the gateway ends a response with. -/
def gatewayEventNames : List String := ["response.failed", "error"]

/-- The lines of an event that the gateway has made. -/
def GatewayEvent (libs : Libraries) (lines : List (List Byte)) : Prop :=
  ∃ name json text, name ∈ gatewayEventNames ∧ libs.encode json = some text ∧
    lines = namedLines name text

/-- The bytes of an event that the gateway has made. -/
def Rendered (libs : Libraries) (bytes : List Byte) : Prop :=
  ∃ name json text, name ∈ gatewayEventNames ∧ libs.encode json = some text ∧
    bytes = sseEventBytes name text

theorem Rendered.event {libs : Libraries} (hlibs : libs.PrintsOneLine) {bytes : List Byte}
    (h : Rendered libs bytes) :
    ∃ event : SseEvent, event.encode = bytes ∧ GatewayEvent libs event.lines := by
  obtain ⟨name, json, text, hname, htext, rfl⟩ := h
  have honeLine : ∀ name ∈ gatewayEventNames, OneLine name := by decide
  exact ⟨namedEvent name text (honeLine name hname) (hlibs json text htext),
    encode_namedEvent _ _, name, json, text, hname, htext, rfl⟩

section rendered

variable {libs : Libraries} {now : Time} {shape : ResponseShape} {state : ResponsesSseState}

theorem Rendered.of_map {name : String} (hname : name ∈ gatewayEventNames) (json : Json)
    (fallback : List Byte) :
    Rendered libs (((libs.encode json).map (sseEventBytes name)).getD fallback) := by
  obtain ⟨text, htext⟩ := Option.isSome_iff_exists.mp (libs.encode_isSome json)
  rw [htext]
  exact ⟨name, json, text, hname, htext, rfl⟩

theorem rendered_synthetic (payload : SyntheticResponseFailedPayload) :
    Rendered libs
      ((state.syntheticErrorEventWithPayload libs now shape payload).getD []) := by
  cases shape with
  | codex => exact .of_map (by decide) _ []
  | openAi => exact .of_map (by decide) _ []

theorem rendered_rewrite {kind : String} (json : Json)
    (hkind : kind ∈ terminalKinds) :
    Rendered libs (state.rewriteGatewayUnavailableEvent libs now shape kind json) := by
  unfold ResponsesSseState.rewriteGatewayUnavailableEvent
  dsimp only
  cases shape with
  | codex =>
    dsimp only
    split
    next hfailed =>
      subst hfailed
      obtain ⟨text, htext⟩ := Option.isSome_iff_exists.mp
        (libs.encode_isSome (json.replacePath ["response", "error"] gatewayUnavailableObject))
      rw [htext]
      exact ⟨_, _, text, by decide, htext, rfl⟩
    next => exact .of_map (by decide) _ _
  | openAi => exact .of_map (by decide) _ _

end rendered

/-! ## The last event -/

/-- What becomes of an event that ends the response. -/
structure Ends (libs : Libraries) (eventBytes last : List Byte)
    (terminal : ResponsesTerminalState) : Prop where
  completed : terminal.action = .success ↔ libs.eventKind? eventBytes = some "response.completed"
  kept_or_rendered : last = eventBytes ∨ Rendered libs last
  kept : terminal.action = .success → last = eventBytes

theorem action_ofClassified (classified : ClassifiedEventFailure) :
    (ResponsesTerminalState.ofClassified classified).action ≠ .success := by
  simp [ResponsesTerminalState.ofClassified, ResponsesTerminalState.action]

/-- Only `response.completed` makes a success, and it is kept. -/
theorem terminalOfEvent_success {libs : Libraries} {now : Time} {kind : String} {json : Json}
    {terminal : ResponsesTerminalState} {replaced : Bool}
    (h : libs.terminalOfEvent now kind json = some (terminal, replaced)) :
    (terminal.action = .success ↔ kind = "response.completed") ∧
      (terminal.action = .success → replaced = false) := by
  unfold Libraries.terminalOfEvent at h
  dsimp only at h
  split_ifs at h with hcompleted hfailed herror hincomplete
  · cases h
    simp [ResponsesTerminalState.action, hcompleted]
  · cases h
    simp [action_ofClassified, hcompleted]
  · cases h
    simp [action_ofClassified, hcompleted]
  · cases h
    simp [ResponsesTerminalState.action, hcompleted]

theorem ends_consumeEvent {libs : Libraries} {now : Time} {shape : ResponseShape}
    {state : ResponsesSseState} {eventBytes : List Byte}
    (hopen : state.hasTerminalEvent = false) {terminal : ResponsesTerminalState}
    (hterminal : (state.consumeEvent libs now shape eventBytes).1.terminalState = some terminal) :
    Ends libs eventBytes (state.consumeEvent libs now shape eventBytes).2 terminal := by
  have hnone := ManagedResponseStream.terminalState_eq_none.mpr hopen
  unfold ResponsesSseState.consumeEvent at hterminal ⊢
  cases hjson : (eventPayload? eventBytes).bind libs.fromStr with
  | none =>
    rw [hjson] at hterminal
    exact absurd (hnone.symm.trans hterminal) (by simp)
  | some json =>
    rw [hjson] at hterminal
    dsimp only at hterminal ⊢
    have hkind : libs.eventKind? eventBytes =
        some (((eventName? eventBytes).or (getStr? json "type")).getD "") := by
      rw [Libraries.eventKind?, hjson]
      rfl
    generalize ((eventName? eventBytes).or (getStr? json "type")).getD "" = kind at *
    split at hterminal
    next => exact absurd (hnone.symm.trans hterminal) (by simp)
    next found replaced hfound =>
      obtain rfl : found = terminal := Option.some.inj hterminal
      have ⟨hsuccess, hkept⟩ := terminalOfEvent_success hfound
      refine ⟨by rw [hsuccess, hkind, Option.some.injEq], ?_, fun h => by simp [hkept h]⟩
      cases replaced with
      | false => exact .inl rfl
      | true =>
        have hmem := (terminalOfEvent_isSome libs now kind json).mp (by simp [hfound])
        exact .inr (rendered_rewrite json hmem)

/-- Events up to one that ends the response, if there is one. -/
theorem exists_first_end (libs : Libraries) (events : List SseEvent) :
    (∀ event ∈ events, libs.endsResponse event.encode = false) ∨
      ∃ front event back, events = front ++ event :: back ∧
        (∀ event ∈ front, libs.endsResponse event.encode = false) ∧
        libs.endsResponse event.encode = true := by
  cases hfind : events.find? fun event => libs.endsResponse event.encode with
  | none =>
    left
    simpa using hfind
  | some event =>
    obtain ⟨hevent, front, back, rfl, hfront⟩ := List.find?_eq_some_iff_append.mp hfind
    exact .inr ⟨front, event, back, rfl, by simpa using hfront, hevent⟩

/-- The events of upstream that a client reads, and the settlement of the account. -/
inductive ClientView (libs : Libraries) (upstream : List SseEvent) :
    List (List (List Byte)) → Failover.AccountSettlement → Prop where
  /-- An event of upstream has ended the response, and is kept or replaced. -/
  | ended {front back : List SseEvent} {event : SseEvent} {last : List (List Byte)}
      {settlement : Failover.AccountSettlement} (hupstream : upstream = front ++ event :: back)
      (hfront : ∀ event ∈ front, libs.endsResponse event.encode = false)
      (hevent : libs.endsResponse event.encode = true)
      (hlast : last = event.lines ∨ GatewayEvent libs last)
      (hcompleted : settlement = .success ↔
        libs.eventKind? event.encode = some "response.completed")
      (hkept : settlement = .success → last = event.lines) :
      ClientView libs upstream (front.map WireEvent.lines ++ [last]) settlement
  /-- Upstream has ended no response, so the gateway does. -/
  | cut {last : List (List Byte)} {failure : FailureClass} {retryAfter : Option StdDuration}
      {details : String} (hopen : ∀ event ∈ upstream, libs.endsResponse event.encode = false)
      (hlast : GatewayEvent libs last) :
      ClientView libs upstream (upstream.map WireEvent.lines ++ [last])
        (.failure failure retryAfter details)

/-- What a client reads of a response that the shutdown cuts short. -/
structure ShutDown (libs : Libraries) (upstream : List SseEvent)
    (shown : List (List (List Byte))) (settlement : Failover.AccountSettlement) : Prop where
  released : settlement = .release
  front : ∃ front back, upstream = front ++ back ∧
    (∀ event ∈ front, libs.endsResponse event.encode = false) ∧ shown = front.map WireEvent.lines

section

variable {libs : Libraries} {shape : ResponseShape} {upstream : List SseEvent}
  {tail : List Byte} {state : ResponsesSseState} {out : List Byte}

/-- What was read and let through before the response has ended. -/
structure Unended (libs : Libraries) (upstream : List SseEvent) (tail : List Byte)
    (state : ResponsesSseState) (out : List Byte) : Prop where
  noTerminal : ∀ event ∈ upstream, libs.endsResponse event.encode = false
  out_eq : out = upstream.flatMap WireEvent.encode
  held : state.buffer = tail
  fieldHeld : state.sseMode = true ∨ classifySseLineStart tail = .incomplete

/-- The last event that is read, after the events in front of it. -/
theorem consumeEach_last {now : Time} {front back : List SseEvent} {event : SseEvent}
    (hopen : state.hasTerminalEvent = false)
    (hfront : ∀ event ∈ front, libs.endsResponse event.encode = false)
    (hevent : libs.endsResponse event.encode = true) :
    ∃ last terminal,
      (ResponsesSseState.consumeEach libs now shape state
        (front ++ event :: back)).1.terminalState =
        some terminal ∧
      (ResponsesSseState.consumeEach libs now shape state (front ++ event :: back)).2.flatten =
        front.flatMap WireEvent.encode ++ last ∧
      Ends libs event.encode last terminal := by
  have ⟨hstill, hout⟩ :=
    @ResponsesSseState.consumeEach_passes libs now shape state hopen front hfront
  have hclosed :=
    @ResponsesSseState.consumeEvent_hasTerminalEvent libs now shape _ hstill event.encode
  rw [hevent] at hclosed
  obtain ⟨terminal, hterminal⟩ := Option.isSome_iff_exists.mp hclosed
  refine ⟨_, terminal, ?_, ?_, ends_consumeEvent hstill hterminal⟩
  · rw [ResponsesSseState.consumeEach_ends hopen hfront hevent]
    exact hterminal
  · rw [ResponsesSseState.consumeEach_ends hopen hfront hevent, emitThen, hout, List.flatten_append,
      List.flatten_singleton, List.flatMap_def]

/-- Reading whole events without coming to the end of the response. -/
theorem Observed.passed
    (h : Observed libs shape (upstream.flatMap WireEvent.encode ++ tail) state out)
    (hstart : classifySseLineStart (upstream.flatMap WireEvent.encode ++ tail) ≠ .none)
    (htail : findSseEventEnd tail = none) : Unended libs upstream tail state out := by
  obtain ⟨mode, hmode, hread⟩ := @ResponsesSseState.observeBytes_encode libs 0 shape upstream tail
    hstart htail
  have hreads := h.reads 0
  have hopen := h.noTerminal
  have hfirst : ({ sseMode := mode } : ResponsesSseState).hasTerminalEvent = false := rfl
  rw [hread] at hreads
  obtain ⟨rfl, rfl⟩ := Prod.mk.inj hreads
  rcases exists_first_end libs upstream with hnone | ⟨front, event, back, rfl, hfront, hevent⟩
  · have ⟨hstill, hout⟩ :=
      @ResponsesSseState.consumeEach_passes libs 0 shape _ hfirst upstream hnone
    refine ⟨hnone, by rw [hout, List.flatMap_def], by simp [hstill], ?_⟩
    cases mode with
    | false => exact .inr (hmode rfl).1
    | true => exact .inl (ResponsesSseState.consumeEach_mode { sseMode := true } upstream)
  · obtain ⟨last, terminal, hterminal, -, -⟩ :=
      @consumeEach_last libs shape _ 0 front back event hfirst hfront hevent
    rw [ResponsesSseState.hasTerminalEvent] at hopen
    dsimp only at hopen
    rw [hterminal] at hopen
    cases hopen

theorem decodeEvents_last {events : List SseEvent} {last : List Byte} (event : SseEvent)
    (hlast : event.encode = last) :
    decodeEvents sseMarks (events.flatMap WireEvent.encode ++ last) =
      events.map WireEvent.lines ++ [event.lines] := by
  have h := decodeEvents_encode (events ++ [event])
  rwa [List.flatMap_append, List.flatMap_singleton, hlast, List.map_append, List.map_singleton] at h

/-- The tail is held back as part of an event, and dropped. -/
theorem Unended.closingBytes_eq (h : Unended libs upstream tail state out)
    (synthetic : ResponsesSseState → Option (List Byte)) :
    closingBytes state synthetic = (synthetic { state with buffer := [] }).getD [] := by
  have hheld : state.sseMode = true ∨ classifySseLineStart state.buffer = .incomplete := by
    rw [h.held]
    exact h.fieldHeld
  have htaken : state.takeTerminalPassthroughBytes = ({ state with buffer := [] }, none) := by
    unfold ResponsesSseState.takeTerminalPassthroughBytes
    split_ifs with hempty
    · cases state
      obtain rfl := hempty
      rfl
    · rfl
  rw [closingBytes, htaken]
  rfl

/-- The end of a response that upstream has not ended. -/
theorem ClientView.of_passed (hlibs : libs.PrintsOneLine) (h : Unended libs upstream tail state out)
    {synthetic : ResponsesSseState → Option (List Byte)}
    (hsynthetic : ∀ state, Rendered libs ((synthetic state).getD []))
    (failure : FailureClass) (retryAfter : Option StdDuration) (details : String) :
    ClientView libs upstream (decodeEvents sseMarks (out ++ closingBytes state synthetic))
      (.failure failure retryAfter details) := by
  have ⟨event, hencode, hgateway⟩ := (hsynthetic { state with buffer := [] }).event hlibs
  rw [h.closingBytes_eq, ← hencode, h.out_eq, decodeEvents_last event rfl]
  exact .cut h.noTerminal hgateway

theorem StreamOutcome.clientView {inner : List InnerPoll} {settlement : Failover.AccountSettlement}
    (hlibs : libs.PrintsOneLine)
    (hbytes : upstreamBytes inner = upstream.flatMap WireEvent.encode ++ tail)
    (hstart : classifySseLineStart (upstream.flatMap WireEvent.encode ++ tail) ≠ .none)
    (htail : findSseEventEnd tail = none)
    (hend : upstreamEnd inner = some .finished → tail.getLast? ≠ some lineFeed)
    (h : StreamOutcome libs shape inner out settlement) :
    ClientView libs upstream (decodeEvents sseMarks out) settlement := by
  -- at the end of the stream no line is complete that is held back
  have heof {now : Time} {state : ResponsesSseState} {out : List Byte}
      (hfinished : upstreamEnd inner = some .finished)
      (hpassed : Unended libs upstream tail state out) :
      state.observeEof libs now shape = (state, []) := by
    rw [ResponsesSseState.observeEof, if_pos]
    exact .inr (.inr (hpassed.held ▸ hend hfinished))
  cases h with
  | @event now bytes terminal hfront hterminal =>
    rw [hbytes] at hfront
    obtain ⟨read, unread, held, rfl, rfl, hheld⟩ := exists_cut upstream htail hfront
    have hstart' : classifySseLineStart (read.flatMap WireEvent.encode ++ held) ≠ .none := by
      obtain ⟨more, hmore⟩ := hfront
      exact fun h => hstart (hmore ▸ classifySseLineStart_none_append h more)
    obtain ⟨mode, -, hread⟩ := @ResponsesSseState.observeBytes_encode libs now shape read held
      hstart' hheld
    have hfirst : ({ sseMode := mode } : ResponsesSseState).hasTerminalEvent = false := rfl
    rw [hread] at hterminal ⊢
    dsimp only at hterminal ⊢
    rcases exists_first_end libs read with hnone | ⟨front, event, back, rfl, hopen, hevent⟩
    · have hstill := (@ResponsesSseState.consumeEach_passes libs now shape _ hfirst read hnone).1
      rw [ResponsesSseState.hasTerminalEvent, hterminal] at hstill
      cases hstill
    · obtain ⟨last, terminal', hterminal', hout, hends⟩ :=
        @consumeEach_last libs shape _ now front back event hfirst hopen hevent
      obtain rfl : terminal' = terminal := Option.some.inj (hterminal'.symm.trans hterminal)
      rw [hout]
      have hsplit : front ++ event :: back ++ unread = front ++ event :: (back ++ unread) := by simp
      by_cases hkept : last = event.encode
      · rw [decodeEvents_last event hkept.symm]
        exact .ended hsplit hopen hevent (.inl rfl) hends.completed fun _ => rfl
      · have hrendered := hends.kept_or_rendered.resolve_left hkept
        obtain ⟨shown, hshown, hgateway⟩ := hrendered.event hlibs
        rw [decodeEvents_last shown hshown]
        exact .ended hsplit hopen hevent (.inr hgateway) hends.completed
          fun hsuccess => absurd (hends.kept hsuccess) hkept
  | lastEvent now hfinished hread hterminal =>
    have hopen := hread.noTerminal
    rw [hbytes] at hread
    rw [heof hfinished (hread.passed hstart htail)] at hterminal
    rw [ResponsesSseState.hasTerminalEvent, hterminal] at hopen
    cases hopen
  | error now herror hread =>
    rw [hbytes] at hread
    have hpassed := hread.passed hstart htail
    exact .of_passed hlibs hpassed (fun _ => rendered_synthetic _) _ _ _
  | unfinished now hfinished hread hopen =>
    rw [hbytes] at hread
    have hpassed := hread.passed hstart htail
    rw [heof hfinished hpassed, List.flatten_nil, List.append_nil]
    exact .of_passed hlibs hpassed (fun _ => rendered_synthetic _) _ _ _

/-- The shutdown leaves the whole events that were read by then. -/
theorem ShutDown.of_observed {read : List Byte}
    (hbytes : read <+: upstream.flatMap WireEvent.encode ++ tail)
    (hstart : classifySseLineStart (upstream.flatMap WireEvent.encode ++ tail) ≠ .none)
    (htail : findSseEventEnd tail = none) (h : Observed libs shape read state out) :
    ShutDown libs upstream (decodeEvents sseMarks out) .release := by
  obtain ⟨front, back, held, rfl, rfl, hheld⟩ := exists_cut upstream htail hbytes
  have hstart' : classifySseLineStart (front.flatMap WireEvent.encode ++ held) ≠ .none := by
    obtain ⟨more, hmore⟩ := hbytes
    exact fun h => hstart (hmore ▸ classifySseLineStart_none_append h more)
  have hpassed := h.passed hstart' hheld
  refine ⟨rfl, front, back, rfl, hpassed.noTerminal, ?_⟩
  rw [hpassed.out_eq, decodeEvents_encode]

end

namespace StreamLife

/-- Libraries that write no line end, where a document of the model has one. -/
def oneLineLibraries (texts : List (String × Json)) : Libraries :=
  { Libraries.ofTexts texts with
    encode := fun json => some (String.ofList
      (json.compact.filter fun c => decide (c ≠ '\n') && decide (c ≠ '\r')))
    encode_isSome := fun _ => rfl }

theorem oneLineLibraries_printsOneLine (texts : List (String × Json)) :
    (oneLineLibraries texts).PrintsOneLine := by
  intro json text htext
  obtain rfl := Option.some.inj htext
  simp [OneLine]

def createdText : String := "\x7b\"type\":\"response.created\"\x7d"

def createdLibraries : Libraries :=
  oneLineLibraries [(createdText, .object [("type", .string "response.created")])]

def createdEvent : SseEvent where
  lines := [utf8Bytes ("data: " ++ createdText)]
  lineEnd := .backFeed
  nonempty := List.cons_ne_nil _ _
  clean line hline := by
    rw [List.mem_singleton.mp hline]
    exact clean_utf8Bytes (by decide) (by decide) (by decide)

/-- An event and part of a second one in two chunks, then the connection times out. -/
def cutInner : List InnerPoll :=
  [.chunk (createdEvent.encode.take 9), .pending,
    .chunk (createdEvent.encode.drop 9 ++ utf8Bytes "data: \x7b"), .error .timeout]

end StreamLife

end Codaze.Responses
