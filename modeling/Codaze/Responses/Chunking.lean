import Codaze.Foundation.Incremental
import Codaze.Responses.SseState

/-!
# The observer does not see where its input is cut

In SSE mode an event ends at the same byte whenever its bytes arrive, since no end of an
event that a longer buffer shows begins before one the shorter buffer had. Outside SSE
mode a held back line start is decided by the same bytes that would have decided it at
once.
-/
namespace Codaze.Responses
open Foundation Accounts

theorem findSseEventEnd_le {bytes : List Byte} {eventEnd : ℕ}
    (h : findSseEventEnd bytes = some eventEnd) : 0 < eventEnd ∧ eventEnd ≤ bytes.length := by
  induction bytes using findSseEventEnd.induct generalizing eventEnd with
  | case1 first second rest hlf =>
    rw [findSseEventEnd, if_pos hlf] at h
    obtain rfl := Option.some.inj h
    simp
  | case2 first second rest hlf hcrlf =>
    rw [findSseEventEnd, if_neg hlf, if_pos hcrlf] at h
    obtain rfl := Option.some.inj h
    have hlength := (List.isPrefixOf_iff_prefix.mp hcrlf.2.2).length_le
    simp only [List.length_cons, List.length_nil] at hlength ⊢
    omega
  | case3 first second rest hlf hcrlf ih =>
    rw [findSseEventEnd, if_neg hlf, if_neg hcrlf] at h
    obtain ⟨n, hn, rfl⟩ := Option.map_eq_some_iff.mp h
    have := ih hn
    simp only [List.length_cons] at this ⊢
    omega
  | case4 bytes hshort =>
    rw [findSseEventEnd] at h
    · cases h
    · exact hshort

/-- More bytes do not move the end of the first event. -/
theorem findSseEventEnd_append {bytes : List Byte} {eventEnd : ℕ}
    (h : findSseEventEnd bytes = some eventEnd) (more : List Byte) :
    findSseEventEnd (bytes ++ more) = some eventEnd := by
  induction bytes using findSseEventEnd.induct generalizing eventEnd with
  | case1 first second rest hlf =>
    rw [findSseEventEnd, if_pos hlf] at h
    rwa [List.cons_append, List.cons_append, findSseEventEnd, if_pos hlf]
  | case2 first second rest hlf hcrlf =>
    rw [findSseEventEnd, if_neg hlf, if_pos hcrlf] at h
    have hmore : first = carriageReturn ∧ second = lineFeed ∧
        [carriageReturn, lineFeed].isPrefixOf (rest ++ more) := by
      refine ⟨hcrlf.1, hcrlf.2.1, List.isPrefixOf_iff_prefix.mpr ?_⟩
      exact (List.isPrefixOf_iff_prefix.mp hcrlf.2.2).trans (List.prefix_append rest more)
    rwa [List.cons_append, List.cons_append, findSseEventEnd, if_neg hlf, if_pos hmore]
  | case3 first second rest hlf hcrlf ih =>
    rw [findSseEventEnd, if_neg hlf, if_neg hcrlf] at h
    obtain ⟨n, hn, rfl⟩ := Option.map_eq_some_iff.mp h
    have hmore : ¬(first = carriageReturn ∧ second = lineFeed ∧
        [carriageReturn, lineFeed].isPrefixOf (rest ++ more)) := by
      intro ⟨hfirst, hsecond, hfound⟩
      -- an end that begins here and is cut off leaves no room for another one
      match rest with
      | [] => simp [findSseEventEnd] at hn
      | [third] =>
        have hthird : carriageReturn = third := (by simpa using hfound : _ ∧ _).1
        simp [findSseEventEnd, hsecond, ← hthird, lineFeed, carriageReturn] at hn
      | third :: fourth :: rest =>
        exact hcrlf ⟨hfirst, hsecond, by simpa using hfound⟩
    rw [List.cons_append, List.cons_append, findSseEventEnd, if_neg hlf, if_neg hmore]
    simpa using ih hn
  | case4 bytes hshort =>
    rw [findSseEventEnd] at h
    · cases h
    · exact hshort

theorem classifySseLineStart_full {bytes : List Byte} :
    classifySseLineStart bytes = .full ↔ ∃ field ∈ sseLinePrefixes, field <+: bytes := by
  unfold classifySseLineStart
  split_ifs <;> simp_all

theorem classifySseLineStart_none {bytes : List Byte} :
    classifySseLineStart bytes = .none ↔
      ∀ field ∈ sseLinePrefixes, ¬field <+: bytes ∧ ¬bytes <+: field := by
  unfold classifySseLineStart
  simp only [List.any_eq_true, List.isPrefixOf_iff_prefix]
  split_ifs with hfull hshort
  · have ⟨field, hmem, hfield⟩ := hfull
    exact iff_of_false (by simp) fun h => (h field hmem).1 hfield
  · have ⟨field, hmem, hfield⟩ := hshort
    exact iff_of_false (by simp) fun h => (h field hmem).2 hfield
  · simp_all

/-- A line that starts like a field goes on starting like it. -/
theorem classifySseLineStart_full_append {bytes : List Byte}
    (h : classifySseLineStart bytes = .full) (more : List Byte) :
    classifySseLineStart (bytes ++ more) = .full := by
  obtain ⟨field, hmem, hfield⟩ := classifySseLineStart_full.mp h
  exact classifySseLineStart_full.mpr ⟨field, hmem, hfield.trans (List.prefix_append bytes more)⟩

theorem classifySseLineStart_none_append {bytes : List Byte}
    (h : classifySseLineStart bytes = .none) (more : List Byte) :
    classifySseLineStart (bytes ++ more) = .none := by
  rw [classifySseLineStart_none] at h ⊢
  intro field hmem
  have ⟨hlong, hshort⟩ := h field hmem
  refine ⟨fun hfield => ?_, fun hbytes => hshort ((List.prefix_append bytes more).trans hbytes)⟩
  rcases List.prefix_or_prefix_of_prefix hfield (List.prefix_append bytes more) with hle | hle
  · exact hlong hle
  · exact hshort hle

/-- Part of the name of a field is no whole line. -/
theorem not_mem_of_incomplete {bytes : List Byte}
    (h : classifySseLineStart bytes = .incomplete) : lineFeed ∉ bytes := by
  have ⟨field, hmem, hbytes⟩ : ∃ field ∈ sseLinePrefixes, bytes <+: field := by
    unfold classifySseLineStart at h
    split_ifs at h with hfull hshort
    simpa using hshort
  have hfields : ∀ field ∈ sseLinePrefixes, lineFeed ∉ field := by decide +kernel
  exact fun hline => hfields field hmem (hbytes.subset hline)

namespace ResponsesSseState

/-- A byte that is passed over. -/
theorem scanPassthrough_pass {lineStart : Bool} {b : Byte} {bytes : List Byte}
    (h : lineStart = true → classifySseLineStart (b :: bytes) = .none) :
    scanPassthrough lineStart (b :: bytes) =
      (b :: (scanPassthrough (b == lineFeed) bytes).1,
        (scanPassthrough (b == lineFeed) bytes).2) := by
  have hnone : (if lineStart then classifySseLineStart (b :: bytes) else .none) = .none := by
    split
    · exact h ‹_›
    · rfl
  rw [scanPassthrough, hnone]

theorem scanPassthrough_found {b : Byte} {bytes : List Byte} {found : SseLineStartMatch}
    (h : classifySseLineStart (b :: bytes) = found) (hfound : found ≠ .none) :
    scanPassthrough true (b :: bytes) = ([], found, b :: bytes) := by
  rw [scanPassthrough, if_pos rfl, h]
  cases found <;> first | rfl | exact absurd rfl hfound

/-- Bytes inside a line are passed over up to its end. -/
theorem scanPassthrough_line {line : List Byte} (hline : lineFeed ∉ line) (bytes : List Byte) :
    scanPassthrough false (line ++ bytes) =
      (line ++ (scanPassthrough false bytes).1, (scanPassthrough false bytes).2) := by
  induction line with
  | nil => rfl
  | cons b line ih =>
    have hb : (b == lineFeed) = false := by
      have : b ≠ lineFeed := fun h => hline (by simp [h])
      simpa using this
    rw [List.cons_append, scanPassthrough_pass (by simp), hb,
      ih fun h => hline (List.mem_cons_of_mem _ h)]
    rfl

/-- The result of a call with its chunks joined. -/
def joined (emitted : Emitted) : ResponsesSseState × List Byte := (emitted.1, emitted.2.flatten)

section

variable (libs : Libraries) (now : Time) (shape : ResponseShape)

@[simp] theorem hasTerminalEvent_withBuffer (state : ResponsesSseState) (buffer : List Byte) :
    ({ state with buffer } : ResponsesSseState).hasTerminalEvent = state.hasTerminalEvent := rfl

/-- Reading an event leaves the buffer alone and does not look at it. -/
theorem consumeEvent_withBuffer (state : ResponsesSseState) (buffer eventBytes : List Byte) :
    consumeEvent libs now shape { state with buffer } eventBytes =
      ({ (consumeEvent libs now shape state eventBytes).1 with buffer },
        (consumeEvent libs now shape state eventBytes).2) := by
  unfold consumeEvent
  cases (eventPayload? eventBytes).bind libs.fromStr with
  | none => rfl
  | some json =>
    simp only [checkpoint]
    split <;> rfl

theorem consumeEvent_buffer (state : ResponsesSseState) (eventBytes : List Byte) :
    (consumeEvent libs now shape state eventBytes).1.buffer = state.buffer := by
  have h := consumeEvent_withBuffer libs now shape state state.buffer eventBytes
  exact congrArg (fun r => r.1.buffer) h

theorem consumeEvent_mode (state : ResponsesSseState) (eventBytes : List Byte) :
    (consumeEvent libs now shape state eventBytes).1.sseMode = state.sseMode ∧
      (consumeEvent libs now shape state eventBytes).1.lineStart = state.lineStart := by
  unfold consumeEvent
  cases (eventPayload? eventBytes).bind libs.fromStr with
  | none => exact ⟨rfl, rfl⟩
  | some json =>
    simp only [checkpoint]
    split <;> exact ⟨rfl, rfl⟩

/-- The first event of the buffer, and the state with the rest of the buffer. -/
def consumeFirst (state : ResponsesSseState) (eventEnd : ℕ) : ResponsesSseState × List Byte :=
  consumeEvent libs now shape { state with buffer := state.buffer.drop eventEnd }
    (state.buffer.take eventEnd)

theorem consumeFirst_buffer (state : ResponsesSseState) (eventEnd : ℕ) :
    (consumeFirst libs now shape state eventEnd).1.buffer = state.buffer.drop eventEnd :=
  consumeEvent_buffer libs now shape _ _

theorem consumeEventsFrom_succ (rounds : ℕ) (state : ResponsesSseState) (eventEnd : ℕ)
    (hend : findSseEventEnd state.buffer = some eventEnd) :
    consumeEventsFrom libs now shape (rounds + 1) state =
      if (consumeFirst libs now shape state eventEnd).1.hasTerminalEvent then
        ({ (consumeFirst libs now shape state eventEnd).1 with buffer := [] },
          [(consumeFirst libs now shape state eventEnd).2])
      else emitThen ((consumeFirst libs now shape state eventEnd).1,
          [(consumeFirst libs now shape state eventEnd).2])
        (consumeEventsFrom libs now shape rounds) := by
  rw [consumeEventsFrom, hend]
  rfl

theorem consumeEventsFrom_none (rounds : ℕ) (state : ResponsesSseState)
    (hend : findSseEventEnd state.buffer = none) :
    consumeEventsFrom libs now shape rounds state = (state, []) := by
  cases rounds with
  | zero => rfl
  | succ rounds => rw [consumeEventsFrom, hend]

/-- More rounds than bytes are not needed. -/
theorem consumeEventsFrom_eq {rounds rounds' : ℕ} {state : ResponsesSseState}
    (hrounds : state.buffer.length ≤ rounds) (hrounds' : state.buffer.length ≤ rounds') :
    consumeEventsFrom libs now shape rounds state =
      consumeEventsFrom libs now shape rounds' state := by
  induction rounds generalizing state rounds' with
  | zero =>
    have hbuffer : state.buffer = [] := List.eq_nil_of_length_eq_zero (by omega)
    have hnone : findSseEventEnd state.buffer = none := by rw [hbuffer]; rfl
    rw [consumeEventsFrom_none libs now shape _ _ hnone,
      consumeEventsFrom_none libs now shape _ _ hnone]
  | succ rounds ih =>
    cases hend : findSseEventEnd state.buffer with
    | none =>
      rw [consumeEventsFrom_none libs now shape _ _ hend,
        consumeEventsFrom_none libs now shape _ _ hend]
    | some eventEnd =>
      have ⟨hpos, hle⟩ := findSseEventEnd_le hend
      obtain ⟨rounds', rfl⟩ : ∃ n, rounds' = n + 1 := ⟨rounds' - 1, by omega⟩
      have hlength : (consumeFirst libs now shape state eventEnd).1.buffer.length =
          state.buffer.length - eventEnd := by rw [consumeFirst_buffer, List.length_drop]
      have hrest :
          consumeEventsFrom libs now shape rounds (consumeFirst libs now shape state eventEnd).1 =
          consumeEventsFrom libs now shape rounds' (consumeFirst libs now shape state eventEnd).1 :=
        ih (by omega) (by omega)
      rw [consumeEventsFrom_succ libs now shape _ _ _ hend,
        consumeEventsFrom_succ libs now shape _ _ _ hend]
      simp only [emitThen, hrest]

theorem consumeBufferedEvents_none {state : ResponsesSseState}
    (hend : findSseEventEnd state.buffer = none) :
    consumeBufferedEvents libs now shape state = (state, []) :=
  consumeEventsFrom_none libs now shape _ _ hend

theorem consumeBufferedEvents_some {state : ResponsesSseState} {eventEnd : ℕ}
    (hend : findSseEventEnd state.buffer = some eventEnd) :
    consumeBufferedEvents libs now shape state =
      if (consumeFirst libs now shape state eventEnd).1.hasTerminalEvent then
        ({ (consumeFirst libs now shape state eventEnd).1 with buffer := [] },
          [(consumeFirst libs now shape state eventEnd).2])
      else emitThen ((consumeFirst libs now shape state eventEnd).1,
          [(consumeFirst libs now shape state eventEnd).2])
        (consumeBufferedEvents libs now shape) := by
  have ⟨hpos, hle⟩ := findSseEventEnd_le hend
  obtain ⟨rounds, hrounds⟩ : ∃ n, state.buffer.length = n + 1 :=
    ⟨state.buffer.length - 1, by omega⟩
  have hlength : (consumeFirst libs now shape state eventEnd).1.buffer.length =
      state.buffer.length - eventEnd := by rw [consumeFirst_buffer, List.length_drop]
  have hrest :
      consumeEventsFrom libs now shape rounds (consumeFirst libs now shape state eventEnd).1 =
      consumeBufferedEvents libs now shape (consumeFirst libs now shape state eventEnd).1 :=
    consumeEventsFrom_eq libs now shape (by omega) le_rfl
  rw [consumeBufferedEvents, hrounds, consumeEventsFrom_succ libs now shape _ _ _ hend]
  simp only [emitThen, hrest]

/-- The first event of a longer buffer. -/
theorem consumeFirst_append (state : ResponsesSseState) (more : List Byte) {eventEnd : ℕ}
    (hend : findSseEventEnd state.buffer = some eventEnd) :
    consumeFirst libs now shape { state with buffer := state.buffer ++ more } eventEnd =
      ({ (consumeFirst libs now shape state eventEnd).1 with
          buffer := (consumeFirst libs now shape state eventEnd).1.buffer ++ more },
        (consumeFirst libs now shape state eventEnd).2) := by
  have ⟨_, hle⟩ := findSseEventEnd_le hend
  have htake : (state.buffer ++ more).take eventEnd = state.buffer.take eventEnd :=
    List.take_append_of_le_length hle
  have hdrop : (state.buffer ++ more).drop eventEnd = state.buffer.drop eventEnd ++ more :=
    List.drop_append_of_le_length hle
  rw [consumeFirst_buffer, consumeFirst, consumeFirst, htake, hdrop,
    consumeEvent_withBuffer libs now shape state (state.buffer.drop eventEnd ++ more),
    consumeEvent_withBuffer libs now shape state (state.buffer.drop eventEnd)]

/-- The events of a buffer come before the bytes that are added to it. -/
theorem consumeBufferedEvents_append (state : ResponsesSseState) (more : List Byte)
    (hopen : state.hasTerminalEvent = false) :
    consumeBufferedEvents libs now shape { state with buffer := state.buffer ++ more } =
      emitThen (consumeBufferedEvents libs now shape state) fun left =>
        if left.hasTerminalEvent then (left, []) else bufferEvents libs now shape left more := by
  induction hlength : state.buffer.length using Nat.strong_induction_on generalizing state with
  | _ n ih =>
    cases hend : findSseEventEnd state.buffer with
    | none =>
      rw [consumeBufferedEvents_none libs now shape hend, emitThen_nil, hopen]
      rfl
    | some eventEnd =>
      have ⟨hpos, hle⟩ := findSseEventEnd_le hend
      have hbuffer := consumeFirst_buffer libs now shape state eventEnd
      have hshorter : (consumeFirst libs now shape state eventEnd).1.buffer.length < n := by
        rw [hbuffer, List.length_drop]
        omega
      rw [consumeBufferedEvents_some libs now shape (findSseEventEnd_append hend more),
        consumeBufferedEvents_some libs now shape hend,
        consumeFirst_append libs now shape state more hend]
      by_cases hterminal : (consumeFirst libs now shape state eventEnd).1.hasTerminalEvent
      · simp [emitThen, hterminal]
      · have hrest := ih _ hshorter _ (by simpa using hterminal) rfl
        rw [hasTerminalEvent_withBuffer, if_neg hterminal, if_neg hterminal, emitThen_assoc]
        exact congrArg (emitThen (state, [(consumeFirst libs now shape state eventEnd).2]))
          (funext fun _ => hrest)

/-- What holds between two calls: nothing is held back that could have been decided. -/
structure AtRest (state : ResponsesSseState) : Prop where
  pending : state.hasTerminalEvent = false → state.sseMode = false → state.buffer ≠ [] →
    state.lineStart = true ∧ classifySseLineStart state.buffer = .incomplete
  events : state.hasTerminalEvent = false → state.sseMode = true →
    findSseEventEnd state.buffer = none

theorem observeBytes_closed {state : ResponsesSseState} (hclosed : state.hasTerminalEvent)
    (bytes : List Byte) : observeBytes libs now shape state bytes = (state, []) := by
  rw [observeBytes, if_pos hclosed]

theorem observeBytes_sseMode {state : ResponsesSseState} (hopen : state.hasTerminalEvent = false)
    (hmode : state.sseMode = true) (bytes : List Byte) :
    observeBytes libs now shape state bytes = bufferEvents libs now shape state bytes := by
  simp [observeBytes, hopen, hmode]

theorem observeBytes_passing {state : ResponsesSseState} (hopen : state.hasTerminalEvent = false)
    (hmode : state.sseMode = false) (hbuffer : state.buffer = []) (bytes : List Byte) :
    observeBytes libs now shape state bytes = passThrough libs now shape state bytes := by
  simp [observeBytes, hopen, hmode, hbuffer]

theorem observeBytes_held (state : ResponsesSseState) (hopen : state.hasTerminalEvent = false)
    (hmode : state.sseMode = false) (hbuffer : state.buffer ≠ []) (bytes : List Byte) :
    observeBytes libs now shape state bytes =
      emitThen ((state.resolvePendingLineStart bytes).1, (state.resolvePendingLineStart bytes).2.1)
        fun left =>
          if left.sseMode then
            bufferEvents libs now shape left (state.resolvePendingLineStart bytes).2.2
          else passThrough libs now shape left (state.resolvePendingLineStart bytes).2.2 := by
  rw [observeBytes, if_neg (by simp [hopen]), if_pos ⟨hmode, hbuffer⟩]
  rfl

/-- One byte behind a line start that is held back. -/
theorem observeBytes_pending (state : ResponsesSseState) (hopen : state.hasTerminalEvent = false)
    (hmode : state.sseMode = false) (hbuffer : state.buffer ≠ []) (b : Byte)
    (bytes : List Byte) :
    observeBytes libs now shape state (b :: bytes) =
      match classifySseLineStart (state.buffer ++ [b]) with
      | .full => bufferEvents libs now shape
          { state with buffer := state.buffer ++ [b], sseMode := true } bytes
      | .incomplete => observeBytes libs now shape
          { state with buffer := state.buffer ++ [b] } bytes
      | .none => emitThen
          ({ state with
            buffer := [], lineStart := lineStartAfterBytes state.lineStart (state.buffer ++ [b]) },
            [state.buffer ++ [b]])
          fun left => passThrough libs now shape left bytes := by
  rw [observeBytes_held libs now shape state hopen hmode hbuffer, resolvePendingLineStart]
  cases hclass : classifySseLineStart (state.buffer ++ [b]) with
  | full => simp [emitThen]
  | incomplete =>
    have hheld := observeBytes_held libs now shape
      { state with buffer := state.buffer ++ [b] } hopen hmode (by simp) bytes
    rw [hheld]
  | none => simp [hmode, emitThen]

theorem joined_emitThen (emitted : Emitted) (next : ResponsesSseState → Emitted) :
    joined (emitThen emitted next) = emitThen (joined emitted) fun left => joined (next left) := by
  simp [joined, emitThen]

/-- What happens at the line start that ends a passage of text. -/
def passTo (found : SseLineStartMatch) (rest : List Byte) (state : ResponsesSseState) :
    ResponsesSseState × List Byte :=
  match found with
  | .full => joined (bufferEvents libs now shape { state with sseMode := true } rest)
  | .incomplete => ({ state with buffer := state.buffer ++ rest }, [])
  | .none => (state, [])

theorem joined_passThrough (state : ResponsesSseState) {bytes passed rest : List Byte}
    {found : SseLineStartMatch}
    (hscan : scanPassthrough state.lineStart bytes = (passed, found, rest)) :
    joined (passThrough libs now shape state bytes) =
      emitThen ({ state with lineStart := lineStartAfterBytes state.lineStart passed }, passed)
        (passTo libs now shape found rest) := by
  have hchunks : (if passed = [] then [] else [passed]).flatten = passed := by
    split
    · simp [*]
    · simp
  simp only [passThrough, hscan]
  cases found with
  | full => simp [joined, emitThen, passTo, hchunks]
  | incomplete => simp [joined, emitThen, passTo, hchunks]
  | none => simp [joined, emitThen, passTo, hchunks]

/-- A byte that passes. -/
theorem passThrough_pass (state : ResponsesSseState) {b : Byte} {bytes : List Byte}
    (h : state.lineStart = true → classifySseLineStart (b :: bytes) = .none) :
    joined (passThrough libs now shape state (b :: bytes)) =
      emitThen ({ state with lineStart := b == lineFeed }, [b]) fun left =>
        joined (passThrough libs now shape left bytes) := by
  rcases hscan : scanPassthrough (b == lineFeed) bytes with ⟨passed, found, rest⟩
  have hall : scanPassthrough state.lineStart (b :: bytes) = (b :: passed, found, rest) := by
    rw [scanPassthrough_pass h, hscan]
  rw [joined_passThrough libs now shape state hall]
  simp only [emitThen,
    joined_passThrough libs now shape { state with lineStart := b == lineFeed } hscan]
  rfl

/-- A line start that ends a passage at once. -/
theorem passThrough_found {state : ResponsesSseState} {b : Byte} {bytes : List Byte}
    {found : SseLineStartMatch} (hstart : state.lineStart = true)
    (hclass : classifySseLineStart (b :: bytes) = found) (hfound : found ≠ .none) :
    joined (passThrough libs now shape state (b :: bytes)) =
      passTo libs now shape found (b :: bytes) state := by
  have hscan : scanPassthrough state.lineStart (b :: bytes) = ([], found, b :: bytes) := by
    rw [hstart, scanPassthrough_found hclass hfound]
  rw [joined_passThrough libs now shape state hscan, emitThen_nil]
  rfl

/-- A line start that is held back is decided as it would have been at once. -/
theorem observeBytes_resolves {state : ResponsesSseState} (hopen : state.hasTerminalEvent = false)
    (hmode : state.sseMode = false) (hstart : state.lineStart = true) {pending : List Byte}
    (hne : pending ≠ []) (hpending : classifySseLineStart pending = .incomplete)
    (bytes : List Byte) :
    joined (observeBytes libs now shape { state with buffer := pending } bytes) =
      joined (passThrough libs now shape { state with buffer := [] } (pending ++ bytes)) := by
  obtain ⟨first, line, rfl⟩ := List.exists_cons_of_ne_nil hne
  induction bytes generalizing line with
  | nil =>
    have hscan : scanPassthrough state.lineStart (first :: line) =
        ([], .incomplete, first :: line) := by
      rw [hstart, scanPassthrough_found hpending (by simp)]
    rw [List.append_nil, joined_passThrough libs now shape { state with buffer := [] } hscan,
      observeBytes_held libs now shape { state with buffer := first :: line } hopen hmode hne]
    simp [resolvePendingLineStart, passThrough, scanPassthrough, hmode, emitThen, joined, passTo]
  | cons b bytes ih =>
    have hall : first :: line ++ b :: bytes = first :: line ++ [b] ++ bytes := by simp
    rw [observeBytes_pending libs now shape { state with buffer := first :: line } hopen hmode hne]
    cases hclass : classifySseLineStart (first :: line ++ [b]) with
    | full =>
      have hlong := classifySseLineStart_full_append hclass bytes
      rw [← hall] at hlong
      have hscan : scanPassthrough state.lineStart (first :: line ++ b :: bytes) =
          ([], .full, first :: line ++ b :: bytes) := by
        rw [hstart]
        exact scanPassthrough_found hlong (by simp)
      rw [joined_passThrough libs now shape { state with buffer := [] } hscan, hall]
      simp [bufferEvents, passTo, emitThen, lineStartAfterBytes]
    | incomplete =>
      have := ih (line ++ [b]) (by simp) hclass
      rw [hall]
      exact this
    | none =>
      have hlong := classifySseLineStart_none_append hclass bytes
      rw [← hall, List.cons_append] at hlong
      have hfree := not_mem_of_incomplete hpending
      have hfirst : (first == lineFeed) = false := by
        have : first ≠ lineFeed := fun h => hfree (by simp [h])
        simpa using this
      rcases hscan : scanPassthrough (b == lineFeed) bytes with ⟨passed, found, rest⟩
      have hscan' : scanPassthrough state.lineStart (first :: line ++ b :: bytes) =
          (first :: (line ++ b :: passed), found, rest) := by
        rw [List.cons_append, scanPassthrough_pass fun _ => hlong, hfirst,
          scanPassthrough_line (fun h => hfree (List.mem_cons_of_mem _ h)),
          scanPassthrough_pass (by simp), hscan]
      have hafter : lineStartAfterBytes state.lineStart (first :: line ++ [b]) =
          (b == lineFeed) := by
        simp [lineStartAfterBytes]
      have hafter' : lineStartAfterBytes state.lineStart (first :: (line ++ b :: passed)) =
          lineStartAfterBytes (b == lineFeed) passed := by simp [lineStartAfterBytes]
      have hrest := joined_passThrough libs now shape
        { state with buffer := [], lineStart := b == lineFeed } hscan
      rw [joined_passThrough libs now shape { state with buffer := [] } hscan', hafter',
        joined_emitThen]
      simp only [joined, emitThen, hafter] at hrest ⊢
      simpa using hrest

/-- A call outside SSE mode, whether or not a line start is held back. -/
theorem observeBytes_outside {state : ResponsesSseState} (hrest : AtRest state)
    (hopen : state.hasTerminalEvent = false) (hmode : state.sseMode = false)
    (bytes : List Byte) :
    joined (observeBytes libs now shape state bytes) =
      joined (passThrough libs now shape { state with buffer := [] } (state.buffer ++ bytes)) := by
  by_cases hbuffer : state.buffer = []
  · have hstate : ({ state with buffer := [] } : ResponsesSseState) = state := by rw [← hbuffer]
    rw [observeBytes_passing libs now shape hopen hmode hbuffer, hstate, hbuffer, List.nil_append]
  · have ⟨hstart, hpending⟩ := hrest.pending hopen hmode hbuffer
    exact observeBytes_resolves libs now shape hopen hmode hstart hbuffer hpending bytes

theorem bufferEvents_append (state : ResponsesSseState) (bytes more : List Byte)
    (hopen : state.hasTerminalEvent = false) :
    bufferEvents libs now shape state (bytes ++ more) =
      emitThen (bufferEvents libs now shape state bytes) fun left =>
        if left.hasTerminalEvent then (left, []) else bufferEvents libs now shape left more := by
  have h := consumeBufferedEvents_append libs now shape
    { state with buffer := state.buffer ++ bytes } more hopen
  rwa [List.append_assoc] at h

theorem consumeEventsFrom_mode (rounds : ℕ) (state : ResponsesSseState) :
    (consumeEventsFrom libs now shape rounds state).1.sseMode = state.sseMode := by
  induction rounds generalizing state with
  | zero => rfl
  | succ rounds ih =>
    cases hend : findSseEventEnd state.buffer with
    | none => rw [consumeEventsFrom_none libs now shape _ _ hend]
    | some eventEnd =>
      have hfirst : (consumeFirst libs now shape state eventEnd).1.sseMode = state.sseMode :=
        (consumeEvent_mode libs now shape _ _).1
      rw [consumeEventsFrom_succ libs now shape _ _ _ hend]
      split
      · exact hfirst
      · exact (ih _).trans hfirst

/-- A call in SSE mode, cut in two. -/
theorem bufferEvents_joined (state : ResponsesSseState) (hmode : state.sseMode = true)
    (hopen : state.hasTerminalEvent = false) (bytes more : List Byte) :
    joined (bufferEvents libs now shape state (bytes ++ more)) =
      emitThen (joined (bufferEvents libs now shape state bytes)) fun left =>
        joined (observeBytes libs now shape left more) := by
  have hleft : (bufferEvents libs now shape state bytes).1.sseMode = true :=
    (consumeEventsFrom_mode libs now shape _ _).trans hmode
  rw [bufferEvents_append libs now shape state bytes more hopen, joined_emitThen]
  refine emitThen_congr ?_
  rw [show (joined (bufferEvents libs now shape state bytes)).1 =
    (bufferEvents libs now shape state bytes).1 from rfl]
  split
  next hclosed =>
    rw [observeBytes_closed libs now shape hclosed]
  next hclosed =>
    rw [observeBytes_sseMode libs now shape (by simpa using hclosed) hleft]

/-- In SSE mode the bytes that are left end no event. -/
theorem consumeBufferedEvents_rest (state : ResponsesSseState) :
    (consumeBufferedEvents libs now shape state).1.hasTerminalEvent = false →
      findSseEventEnd (consumeBufferedEvents libs now shape state).1.buffer = none := by
  induction hlength : state.buffer.length using Nat.strong_induction_on generalizing state with
  | _ n ih =>
    cases hend : findSseEventEnd state.buffer with
    | none =>
      rw [consumeBufferedEvents_none libs now shape hend]
      exact fun _ => hend
    | some eventEnd =>
      have ⟨hpos, hle⟩ := findSseEventEnd_le hend
      have hshorter : (consumeFirst libs now shape state eventEnd).1.buffer.length < n := by
        rw [consumeFirst_buffer, List.length_drop]
        omega
      rw [consumeBufferedEvents_some libs now shape hend]
      split
      next hterminal =>
        intro hopen
        rw [hasTerminalEvent_withBuffer, hterminal] at hopen
        cases hopen
      next => exact ih _ hshorter _ rfl

/-- A passage of text, cut in two. -/
theorem passThrough_append (state : ResponsesSseState) (hopen : state.hasTerminalEvent = false)
    (hmode : state.sseMode = false) (hbuffer : state.buffer = []) (bytes more : List Byte) :
    joined (passThrough libs now shape state (bytes ++ more)) =
      emitThen (joined (passThrough libs now shape state bytes)) fun left =>
        joined (observeBytes libs now shape left more) := by
  induction bytes generalizing state with
  | nil =>
    have hstart : joined (passThrough libs now shape state []) = (state, []) := rfl
    rw [hstart, emitThen_nil, observeBytes_passing libs now shape hopen hmode hbuffer,
      List.nil_append]
  | cons b bytes ih =>
    by_cases hpass : state.lineStart = true → classifySseLineStart (b :: bytes) = .none
    · have hpass' : state.lineStart = true → classifySseLineStart (b :: (bytes ++ more)) = .none :=
        fun hstart => classifySseLineStart_none_append (hpass hstart) more
      rw [List.cons_append, passThrough_pass libs now shape state hpass',
        passThrough_pass libs now shape state hpass, emitThen_assoc]
      exact emitThen_congr (ih _ hopen hmode hbuffer)
    · have ⟨hstart, hfound⟩ : state.lineStart = true ∧
          classifySseLineStart (b :: bytes) ≠ .none := by
        simpa using hpass
      cases hclass : classifySseLineStart (b :: bytes) with
      | none => exact absurd hclass hfound
      | full =>
        have hlong : classifySseLineStart (b :: (bytes ++ more)) = .full :=
          classifySseLineStart_full_append hclass more
        rw [List.cons_append, passThrough_found libs now shape hstart hlong (by simp),
          passThrough_found libs now shape hstart hclass (by simp)]
        exact bufferEvents_joined libs now shape { state with sseMode := true } rfl hopen
          (b :: bytes) more
      | incomplete =>
        have hresolves := observeBytes_resolves libs now shape hopen hmode hstart
          (List.cons_ne_nil b bytes) hclass more
        have hstate : ({ state with buffer := [] } : ResponsesSseState) = state := by rw [← hbuffer]
        rw [passThrough_found libs now shape hstart hclass (by simp), passTo, emitThen_nil, hbuffer,
          List.nil_append, hresolves, hstate]

/-- Where a scan stops, the line starts like a field. -/
theorem scanPassthrough_spec {lineStart : Bool} {bytes passed rest : List Byte}
    {found : SseLineStartMatch} (h : scanPassthrough lineStart bytes = (passed, found, rest)) :
    bytes = passed ++ rest ∧ (found = .none → rest = []) ∧
      (found ≠ .none → rest ≠ [] ∧ lineStartAfterBytes lineStart passed = true ∧
        classifySseLineStart rest = found) := by
  induction bytes generalizing lineStart passed with
  | nil =>
    obtain ⟨rfl, rfl, rfl⟩ : [] = passed ∧ SseLineStartMatch.none = found ∧ [] = rest := by
      simpa [scanPassthrough] using h
    simp
  | cons b bytes ih =>
    by_cases hpass : lineStart = true → classifySseLineStart (b :: bytes) = .none
    · rcases htail : scanPassthrough (b == lineFeed) bytes with ⟨passed', found', rest'⟩
      rw [scanPassthrough_pass hpass, htail] at h
      obtain ⟨rfl, rfl, rfl⟩ : b :: passed' = passed ∧ found' = found ∧ rest' = rest := by
        simpa using h
      have ⟨hbytes, hnone, hsome⟩ := ih htail
      exact ⟨by rw [hbytes, List.cons_append], hnone, hsome⟩
    · have ⟨hstart, hfound⟩ : lineStart = true ∧ classifySseLineStart (b :: bytes) ≠ .none := by
        simpa using hpass
      subst hstart
      rw [scanPassthrough_found rfl hfound] at h
      obtain ⟨rfl, rfl, rfl⟩ : [] = passed ∧ classifySseLineStart (b :: bytes) = found ∧
          b :: bytes = rest := by simpa using h
      exact ⟨rfl, fun hnone => absurd hnone hfound, fun _ => ⟨List.cons_ne_nil b bytes, rfl, rfl⟩⟩

theorem AtRest.of_events {state : ResponsesSseState} (hmode : state.sseMode = true)
    (h : state.hasTerminalEvent = false → findSseEventEnd state.buffer = none) : AtRest state where
  pending _ hmode' _ := absurd hmode (by simp [hmode'])
  events hopen _ := h hopen

theorem AtRest.after_bufferEvents (state : ResponsesSseState) (hmode : state.sseMode = true)
    (bytes : List Byte) : AtRest (bufferEvents libs now shape state bytes).1 :=
  .of_events ((consumeEventsFrom_mode libs now shape _ _).trans hmode)
    (consumeBufferedEvents_rest libs now shape _)

theorem AtRest.after_passThrough (state : ResponsesSseState) (hmode : state.sseMode = false)
    (hbuffer : state.buffer = []) (bytes : List Byte) :
    AtRest (passThrough libs now shape state bytes).1 := by
  rcases hscan : scanPassthrough state.lineStart bytes with ⟨passed, found, rest⟩
  have ⟨_, _, hfound⟩ := scanPassthrough_spec hscan
  have hleft := congrArg Prod.fst (joined_passThrough libs now shape state hscan)
  change (passThrough libs now shape state bytes).1 = _ at hleft
  rw [hleft]
  cases found with
  | full => exact AtRest.after_bufferEvents libs now shape _ rfl rest
  | incomplete =>
    have ⟨_, hstart, hclass⟩ := hfound (by simp)
    refine ⟨fun _ _ _ => ⟨hstart, ?_⟩,
      fun _ hmode' => absurd hmode' (by simp [emitThen, passTo, hmode])⟩
    simpa [emitThen, passTo, hbuffer] using hclass
  | none =>
    refine ⟨fun _ _ hne => absurd hbuffer hne, fun _ hmode' => absurd hmode' ?_⟩
    simp [emitThen, passTo, hmode]

/-- A call leaves the observer at rest. -/
theorem AtRest.after_observeBytes {state : ResponsesSseState} (hrest : AtRest state)
    (bytes : List Byte) :
    AtRest (observeBytes libs now shape state bytes).1 := by
  cases hopen : state.hasTerminalEvent with
  | true => rwa [observeBytes_closed libs now shape hopen]
  | false =>
    cases hmode : state.sseMode with
    | true =>
      rw [observeBytes_sseMode libs now shape hopen hmode]
      exact AtRest.after_bufferEvents libs now shape state hmode bytes
    | false =>
      have h := congrArg Prod.fst (observeBytes_outside libs now shape hrest hopen hmode bytes)
      change (observeBytes libs now shape state bytes).1 = _ at h
      rw [h]
      exact AtRest.after_passThrough libs now shape { state with buffer := [] } hmode rfl _

/-- A call is the calls on its parts. -/
theorem observeBytes_append {state : ResponsesSseState} (hrest : AtRest state)
    (bytes more : List Byte) :
    joined (observeBytes libs now shape state (bytes ++ more)) =
      emitThen (joined (observeBytes libs now shape state bytes)) fun left =>
        joined (observeBytes libs now shape left more) := by
  cases hopen : state.hasTerminalEvent with
  | true =>
    have hclosed (bytes) := observeBytes_closed libs now shape hopen bytes
    simp [hclosed, joined, emitThen]
  | false =>
    cases hmode : state.sseMode with
    | true =>
      rw [observeBytes_sseMode libs now shape hopen hmode,
        observeBytes_sseMode libs now shape hopen hmode]
      exact bufferEvents_joined libs now shape state hmode hopen bytes more
    | false =>
      rw [observeBytes_outside libs now shape hrest hopen hmode,
        observeBytes_outside libs now shape hrest hopen hmode, ← List.append_assoc]
      exact passThrough_append libs now shape { state with buffer := [] } hopen hmode rfl
        (state.buffer ++ bytes) more

theorem observeBytes_nil {state : ResponsesSseState} (hrest : AtRest state) :
    joined (observeBytes libs now shape state []) = (state, []) := by
  cases hopen : state.hasTerminalEvent with
  | true => rw [observeBytes_closed libs now shape hopen]; rfl
  | false =>
    cases hmode : state.sseMode with
    | true =>
      have hend : findSseEventEnd (state.buffer ++ []) = none := by
        rw [List.append_nil]
        exact hrest.events hopen hmode
      rw [observeBytes_sseMode libs now shape hopen hmode, bufferEvents,
        consumeBufferedEvents_none libs now shape hend, List.append_nil]
      rfl
    | false =>
      by_cases hbuffer : state.buffer = []
      · rw [observeBytes_passing libs now shape hopen hmode hbuffer]
        rfl
      · rw [observeBytes_held libs now shape state hopen hmode hbuffer, resolvePendingLineStart,
          emitThen_nil, if_neg (by simp [hmode])]
        rfl

theorem incremental :
    Incremental (fun state bytes => joined (observeBytes libs now shape state bytes)) AtRest where
  nil _ hrest := observeBytes_nil libs now shape hrest
  append _ bytes more hrest := observeBytes_append libs now shape hrest bytes more
  keeps _ bytes hrest := AtRest.after_observeBytes libs now shape hrest bytes

end

theorem atRest_default : AtRest {} where
  pending _ _ h := absurd rfl h
  events _ _ := rfl

/-- The chunks fed to the observer one after another, from the start. -/
def observeChunks (libs : Libraries) (now : Time) (shape : ResponseShape)
    (chunks : List (List Byte)) : ResponsesSseState × List Byte :=
  feed (fun state bytes => joined (observeBytes libs now shape state bytes)) {} chunks

/-- Two cuttings of one byte string leave the observer in the same state and give the
same output. -/
theorem chunking_invariant (libs : Libraries) (now : Time) (shape : ResponseShape)
    {chunks chunks' : List (List Byte)} (hbytes : chunks.flatten = chunks'.flatten) :
    observeChunks libs now shape chunks = observeChunks libs now shape chunks' :=
  (incremental libs now shape).feed_congr atRest_default hbytes

/-- An event that completes the response, cut before its blank line and inside its field name. -/
theorem chunking_invariant_completed :
    let libs := Libraries.ofTexts [("\x7b\"type\":\"response.completed\"\x7d",
      .object [("type", .string "response.completed")])]
    let data := utf8Bytes "ta: \x7b\"type\":\"response.completed\"\x7d\n"
    observeChunks libs 0 .codex [utf8Bytes "da", data, [lineFeed]] =
      observeChunks libs 0 .codex [utf8Bytes "da" ++ data ++ [lineFeed]] := by
  intro libs data
  exact chunking_invariant libs 0 .codex (by simp)

end ResponsesSseState

end Codaze.Responses
