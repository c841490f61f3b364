import Mathlib.Data.List.Basic
import Mathlib.Tactic.Cases

/-!
# Event streams

A stream of events is read line by line. A line ends with a feed, with a return, or with a
return and a feed; a blank line ends the event that the lines before it make up. Lines that
no blank line has ended are no event yet.
-/
namespace Codaze.Foundation

variable {α : Type*}

/-- The two characters that end lines. -/
structure LineMarks (α : Type*) where
  feed : α
  back : α
  ne : feed ≠ back

inductive LineEnd where
  | feed | backFeed
  deriving DecidableEq, Repr

def LineEnd.marks (m : LineMarks α) : LineEnd → List α
  | feed => [m.feed]
  | backFeed => [m.back, m.feed]

/-- A line that is neither blank nor cut. -/
structure LineMarks.Clean (m : LineMarks α) (line : List α) : Prop where
  ne_nil : line ≠ []
  no_feed : m.feed ∉ line
  no_back : m.back ∉ line

/-- An event on the wire: some lines, all with the same line end. -/
structure WireEvent (m : LineMarks α) where
  lines : List (List α)
  lineEnd : LineEnd
  nonempty : lines ≠ []
  clean : ∀ line ∈ lines, m.Clean line

namespace WireEvent

variable {m : LineMarks α}

/-- The lines of an event, then a blank one. -/
def encodeLines (m : LineMarks α) (lineEnd : LineEnd) : List (List α) → List α
  | [] => lineEnd.marks m
  | line :: lines => line ++ lineEnd.marks m ++ encodeLines m lineEnd lines

def encode (event : WireEvent m) : List α := encodeLines m event.lineEnd event.lines

end WireEvent

/-- A reader of lines and what it has read. -/
structure EventReader (α : Type*) where
  events : List (List (List α)) := []
  /-- The lines of the event that is not ended yet. -/
  lines : List (List α) := []
  /-- The line that is not ended yet. -/
  line : List α := []
  afterBack : Bool := false

namespace EventReader

variable [DecidableEq α] (m : LineMarks α)

def endLine (reader : EventReader α) : EventReader α :=
  if reader.line ≠ [] then { reader with lines := reader.lines ++ [reader.line], line := [] }
  else if reader.lines ≠ [] then
    { reader with events := reader.events ++ [reader.lines], lines := [] }
  else reader

def step (reader : EventReader α) (a : α) : EventReader α :=
  if a = m.feed then
    if reader.afterBack then { reader with afterBack := false } else reader.endLine
  else if a = m.back then { reader.endLine with afterBack := true }
  else { reader with line := reader.line ++ [a], afterBack := false }

def read (reader : EventReader α) (text : List α) : EventReader α := text.foldl (step m) reader

theorem read_append (reader : EventReader α) (front back : List α) :
    reader.read m (front ++ back) = (reader.read m front).read m back :=
  List.foldl_append

variable {m}

/-- The characters of a line are taken as they come. -/
theorem read_within {text : List α} (hfeed : m.feed ∉ text) (hback : m.back ∉ text)
    (events : List (List (List α))) (lines : List (List α)) (line : List α) :
    read m ⟨events, lines, line, false⟩ text = ⟨events, lines, line ++ text, false⟩ := by
  induction text generalizing line with
  | nil => simp [read]
  | cons a text ih =>
    have ha : a ≠ m.feed ∧ a ≠ m.back := ⟨by grind, by grind⟩
    have hstep : step m ⟨events, lines, line, false⟩ a = ⟨events, lines, line ++ [a], false⟩ := by
      simp [step, ha]
    have hrest := ih (by grind) (by grind) (line ++ [a])
    rw [List.append_assoc] at hrest
    rw [read, List.foldl_cons, hstep]
    exact hrest

/-- Either line end ends the line. -/
theorem read_lineEnd (reader : EventReader α) (hback : reader.afterBack = false)
    (lineEnd : LineEnd) : reader.read m (lineEnd.marks m) = reader.endLine := by
  have hkeeps : reader.endLine.afterBack = false := by
    unfold endLine
    split_ifs <;> exact hback
  cases lineEnd with
  | feed => simp [read, LineEnd.marks, step, hback]
  | backFeed =>
    have hstep : step m reader m.back = { reader.endLine with afterBack := true } := by
      simp [step, m.ne.symm]
    have hfeed : step m { reader.endLine with afterBack := true } m.feed = reader.endLine := by
      simp [step, ← hkeeps]
    rw [read, LineEnd.marks, List.foldl_cons, List.foldl_cons, List.foldl_nil, hstep, hfeed]

theorem read_line {line : List α} (hline : m.Clean line) (lineEnd : LineEnd)
    (events : List (List (List α))) (lines : List (List α)) :
    read m ⟨events, lines, [], false⟩ (line ++ lineEnd.marks m) =
      ⟨events, lines ++ [line], [], false⟩ := by
  have hne := hline.ne_nil
  rw [read_append, read_within hline.no_feed hline.no_back, read_lineEnd _ rfl]
  simp [endLine, hne]

theorem read_encodeLines (lineEnd : LineEnd) (events : List (List (List α)))
    (before lines : List (List α)) (hclean : ∀ line ∈ lines, m.Clean line)
    (hsome : before ++ lines ≠ []) :
    read m ⟨events, before, [], false⟩ (WireEvent.encodeLines m lineEnd lines) =
      ⟨events ++ [before ++ lines], [], [], false⟩ := by
  induction lines generalizing before with
  | nil =>
    have hbefore : before ≠ [] := by simpa using hsome
    rw [WireEvent.encodeLines, read_lineEnd _ rfl]
    simp [endLine, hbefore]
  | cons line lines ih =>
    have hrest := ih (before ++ [line]) (fun other h => hclean other (List.mem_cons_of_mem _ h))
      (by simp)
    rw [WireEvent.encodeLines, read_append, read_line (hclean line List.mem_cons_self), hrest,
      List.append_assoc, List.singleton_append]

/-- A reader between two events reads an event whole. -/
theorem read_encode (events : List (List (List α))) (event : WireEvent m) :
    read m ⟨events, [], [], false⟩ event.encode = ⟨events ++ [event.lines], [], [], false⟩ :=
  read_encodeLines event.lineEnd events [] event.lines event.clean event.nonempty

end EventReader

/-- The events of a text. -/
def decodeEvents [DecidableEq α] (m : LineMarks α) (text : List α) : List (List (List α)) :=
  (EventReader.read m {} text).events

/-- Events that are written one after another are read one after another. -/
theorem decodeEvents_encode [DecidableEq α] {m : LineMarks α} (events : List (WireEvent m)) :
    decodeEvents m (events.flatMap WireEvent.encode) = events.map WireEvent.lines := by
  have hread (before : List (List (List α))) :
      EventReader.read m ⟨before, [], [], false⟩ (events.flatMap WireEvent.encode) =
        ⟨before ++ events.map WireEvent.lines, [], [], false⟩ := by
    induction events generalizing before with
    | nil => simp [EventReader.read]
    | cons event events ih =>
      rw [List.flatMap_cons, EventReader.read_append, EventReader.read_encode, ih]
      simp
  rw [decodeEvents, hread]
  rfl

end Codaze.Foundation
