import Codaze.App.Models
import Codaze.Foundation.Indexed
import Codaze.Foundation.Runs
import Codaze.Responses.ResponseHeaders

/-!
# Answers from the models cache

What a request may be answered is a rule on the history: a list that is shown as fresh was
the last one that was stored, within twelve hours; an older one may not be stored by the
client, and is being fetched again, unless the task that did so has panicked; an OpenAI
client waits for a list only if none is stored. The rule holds of every history, since the
flag counts the tasks that refresh the cache or have panicked.
-/
namespace Codaze.App
open Foundation Responses

namespace ModelsRecord

def isRefreshStart : ModelsRecord → Bool
  | refreshStarted => true
  | _ => false

def isRefreshEnd : ModelsRecord → Bool
  | refreshEnded => true
  | _ => false

def isRefreshPanic : ModelsRecord → Bool
  | refreshPanicked => true
  | _ => false

/-- What was stored, and when. -/
def replaced? : ModelsRecord → Option (ℕ × ModelsEntry)
  | replaced now entry => some (now, entry)
  | _ => none

def lastReplaced? (history : List ModelsRecord) : Option (ℕ × ModelsEntry) :=
  (history.filterMap replaced?).getLast?

def refreshesStarted (history : List ModelsRecord) : ℕ := history.countP isRefreshStart
def refreshesEnded (history : List ModelsRecord) : ℕ := history.countP isRefreshEnd
def refreshesPanicked (history : List ModelsRecord) : ℕ := history.countP isRefreshPanic

/-- One refresh has started that has neither ended nor panicked. -/
def Refreshing (history : List ModelsRecord) : Prop :=
  refreshesStarted history = refreshesEnded history + refreshesPanicked history + 1

/-- Every refresh that has started has ended. -/
def Idle (history : List ModelsRecord) : Prop :=
  refreshesStarted history = refreshesEnded history ∧ refreshesPanicked history = 0

/-- What may be answered after some past. -/
def AnswerAllowed (past : List ModelsRecord) (now : ℕ) : ResponseShape → ModelsAnswer → Prop
  | shape, .fresh entry => shape = .openAi ∧
      ∃ stored ≤ now, lastReplaced? past = some (stored, entry) ∧ now ≤ stored + modelsCacheTtl
  | shape, .stale shown => shape = .openAi ∧ (Refreshing past ∨ refreshPanicked ∈ past) ∧
      (modelsOpenaiSuccessResponse shown).headers.getAll "cache-control" = [noStore] ∧
      ∃ stored entry, replaced stored entry ∈ past ∧ shown = staleModelsCachedEntry entry ∧
        stored + modelsCacheTtl < now
  | _, .fetched entry => ∃ stored ≤ now, replaced stored entry ∈ past
  | _, .failed _ => True

/-- What may happen after some past. -/
def Allowed (past : List ModelsRecord) : ModelsRecord → Prop
  | decoded _ => True
  | replaced _ entry => decoded entry ∈ past
  | fetchStarted shape => shape = .openAi → lastReplaced? past = none
  | refreshStarted => Idle past
  | refreshEnded | refreshPanicked => Refreshing past
  | answered now shape answer => AnswerAllowed past now shape answer

end ModelsRecord

namespace ModelsServer

open ModelsRecord

/-- The task in the background is running. -/
def isRefreshing : ModelsCaller × ModelsPc → Bool
  | (.refresh, .finished) | (.refresh, .dropped) => false
  | (.refresh, _) => true
  | _ => false

/-- What a process knows of the history. -/
def Knows (history : List ModelsRecord) (now : ℕ) : ModelsCaller × ModelsPc → Prop
  | (_, .revalidating entry) =>
      ∃ stored, replaced stored entry ∈ history ∧ stored + modelsCacheTtl < now
  | (_, .replacing entry) => decoded entry ∈ history
  | (_, .returned (.ok entry)) => ∃ stored ≤ now, replaced stored entry ∈ history
  | _ => True

/-- The cache holds what was stored last. -/
def Holds (now : ℕ) (cache : ModelsCache) : Option (ℕ × ModelsEntry) → Prop
  | none => cache.currentEntry = none ∧ cache.fetchedAt = none
  | some (stored, entry) =>
      cache.currentEntry = some entry ∧ cache.fetchedAt = some stored ∧ stored ≤ now

structure CacheInv (server : ModelsServer) : Prop where
  lawful : Lawful Allowed server.history
  holds : Holds server.now server.cache (lastReplaced? server.history)
  flag : refreshesStarted server.history =
    refreshesEnded server.history + if server.refreshInFlight then 1 else 0
  tasks : server.processes.countP isRefreshing + refreshesPanicked server.history =
    if server.refreshInFlight then 1 else 0
  knows : ∀ process ∈ server.processes, Knows server.history server.now process

/-! ## Histories -/

/-- Entries that neither store a list nor start or end a refresh. -/
def Quiet (entries : List ModelsRecord) : Prop :=
  ∀ entry ∈ entries, replaced? entry = none ∧ isRefreshStart entry = false ∧
    isRefreshEnd entry = false ∧ isRefreshPanic entry = false

section quiet

variable {history entries : List ModelsRecord}

theorem lastReplaced?_quiet (h : Quiet entries) :
    lastReplaced? (history ++ entries) = lastReplaced? history := by
  have hnone : entries.filterMap replaced? = [] := by
    rw [List.filterMap_eq_nil_iff]
    exact fun entry hentry => (h entry hentry).1
  rw [lastReplaced?, List.filterMap_append, hnone, List.append_nil]
  rfl

theorem refreshes_quiet (h : Quiet entries) :
    refreshesStarted (history ++ entries) = refreshesStarted history ∧
      refreshesEnded (history ++ entries) = refreshesEnded history ∧
      refreshesPanicked (history ++ entries) = refreshesPanicked history := by
  have hstart : entries.countP isRefreshStart = 0 := by
    rw [List.countP_eq_zero]
    exact fun entry hentry => by simp [(h entry hentry).2.1]
  have hend : entries.countP isRefreshEnd = 0 := by
    rw [List.countP_eq_zero]
    exact fun entry hentry => by simp [(h entry hentry).2.2.1]
  have hpanic : entries.countP isRefreshPanic = 0 := by
    rw [List.countP_eq_zero]
    exact fun entry hentry => by simp [(h entry hentry).2.2.2]
  simp [refreshesStarted, refreshesEnded, refreshesPanicked, List.countP_append, hstart, hend,
    hpanic]

theorem lastReplaced?_append (history : List ModelsRecord) (now : ℕ) (entry : ModelsEntry) :
    lastReplaced? (history ++ [replaced now entry]) = some (now, entry) := by
  simp [lastReplaced?, replaced?]

theorem mem_of_lastReplaced? {stored : ℕ} {entry : ModelsEntry}
    (h : lastReplaced? history = some (stored, entry)) : replaced stored entry ∈ history := by
  have hmem := List.mem_of_getLast? h
  obtain ⟨record, hrecord, hreplaced⟩ := List.mem_filterMap.mp hmem
  cases record with
  | replaced now entry' =>
    obtain ⟨rfl, rfl⟩ := Prod.mk.inj (Option.some.inj hreplaced)
    exact hrecord
  | _ => cases hreplaced

/-- A process goes on knowing what it knew. -/
theorem Knows.mono {now now' : ℕ} {process : ModelsCaller × ModelsPc}
    (h : Knows history now process) (hnow : now ≤ now') (entries : List ModelsRecord) :
    Knows (history ++ entries) now' process := by
  obtain ⟨caller, pc⟩ := process
  cases pc with
  | revalidating entry =>
    obtain ⟨stored, hstored, hold⟩ := h
    exact ⟨stored, List.mem_append_left _ hstored, hold.trans_le hnow⟩
  | replacing entry => exact List.mem_append_left _ h
  | returned result =>
    cases result with
    | ok entry =>
      obtain ⟨stored, hle, hstored⟩ := h
      exact ⟨stored, hle.trans hnow, List.mem_append_left _ hstored⟩
    | error error => trivial
  | starting | fetching | finished | dropped => trivial

end quiet

/-! ## One step -/

variable {server : ModelsServer} {pid : ℕ} {caller : ModelsCaller} {pc next : ModelsPc}
  {entry : ModelsEntry}

theorem cacheInv_start : CacheInv {} where
  lawful := trivial
  holds := ⟨rfl, rfl⟩
  flag := rfl
  tasks := rfl
  knows _ h := by cases h

theorem CacheInv.tick (h : CacheInv server) (elapsed : ℕ) :
    CacheInv { server with now := server.now + elapsed } where
  lawful := h.lawful
  holds := by
    have hholds := h.holds
    cases hlast : lastReplaced? server.history with
    | none =>
      rw [hlast] at hholds
      exact hholds
    | some stored =>
      rw [hlast] at hholds
      exact ⟨hholds.1, hholds.2.1, Nat.le_add_right_of_le hholds.2.2⟩
  flag := h.flag
  tasks := h.tasks
  knows process hprocess := by
    have hknows := (h.knows process hprocess).mono (Nat.le_add_right server.now elapsed) []
    rwa [List.append_nil] at hknows

/-- A process that moves on without storing a list or starting or ending a refresh. -/
theorem CacheInv.move (h : CacheInv server) (hprocess : server.processes[pid]? = some (caller, pc))
    {entries : List ModelsRecord} (hquiet : Quiet entries)
    (hlawful : LawfulFrom Allowed server.history entries)
    (hopen : isRefreshing (caller, next) = isRefreshing (caller, pc))
    (hknows : Knows (server.history ++ entries) server.now (caller, next)) :
    CacheInv { server with
      history := server.history ++ entries
      processes := server.processes.set pid (caller, next) } where
  lawful := h.lawful.append hlawful
  holds := by
    have hholds := h.holds
    rwa [← lastReplaced?_quiet hquiet] at hholds
  flag := by
    obtain ⟨hstarted, hended, -⟩ := @refreshes_quiet server.history entries hquiet
    have hflag := h.flag
    dsimp only
    rw [hstarted, hended, hflag]
  tasks := by
    have hcount := countP_set_add isRefreshing hprocess (caller, next)
    obtain ⟨-, -, hpanicked⟩ := @refreshes_quiet server.history entries hquiet
    have htasks := h.tasks
    rw [hopen] at hcount
    dsimp only
    rw [hpanicked, Nat.add_right_cancel hcount, htasks]
  knows process hmem := by
    rcases List.mem_or_eq_of_mem_set hmem with hold | rfl
    · exact (h.knows process hold).mono le_rfl entries
    · exact hknows

/-- A list that is stored. -/
theorem CacheInv.store (h : CacheInv server)
    (hprocess : server.processes[pid]? = some (caller, .replacing entry)) :
    CacheInv { server with
      cache := server.cache.replace server.now entry
      history := server.history ++ [replaced server.now entry]
      processes := server.processes.set pid (caller, .returned (.ok entry)) } where
  lawful := h.lawful.snoc (h.knows _ (List.mem_of_getElem? hprocess))
  holds := by
    rw [lastReplaced?_append]
    exact ⟨rfl, rfl, le_rfl⟩
  flag := by
    have hflag := h.flag
    simp only [refreshesStarted, refreshesEnded, List.countP_append] at hflag ⊢
    simpa [isRefreshStart, isRefreshEnd] using hflag
  tasks := by
    have hcount := countP_set_add isRefreshing hprocess (caller, .returned (.ok entry))
    have hopen : isRefreshing (caller, .returned (.ok entry)) =
        isRefreshing (caller, .replacing entry) := by cases caller <;> rfl
    have hpanicked : refreshesPanicked (server.history ++ [replaced server.now entry]) =
        refreshesPanicked server.history := by
      simp [refreshesPanicked, List.countP_append, isRefreshPanic]
    have htasks := h.tasks
    rw [hopen] at hcount
    dsimp only
    rw [hpanicked, Nat.add_right_cancel hcount, htasks]
  knows process hmem := by
    rcases List.mem_or_eq_of_mem_set hmem with hold | rfl
    · exact (h.knows process hold).mono le_rfl _
    · exact ⟨server.now, le_rfl, by simp⟩

/-- The records of the tasks leave the cache alone. -/
theorem Holds.concat {now : ℕ} {cache : ModelsCache} {history : List ModelsRecord}
    (h : Holds now cache (lastReplaced? history)) {last : ModelsRecord}
    (hlast : replaced? last = none) : Holds now cache (lastReplaced? (history ++ [last])) := by
  have hsame : lastReplaced? (history ++ [last]) = lastReplaced? history := by
    simp [lastReplaced?, hlast]
  rwa [hsame]

/-- The task that is spawned when none refreshes the cache. -/
theorem CacheInv.startRefresh (h : CacheInv server) (hidle : server.refreshInFlight = false) :
    CacheInv { server with
      refreshInFlight := true
      history := server.history ++ [refreshStarted]
      processes := server.processes ++ [(.refresh, .fetching)] } := by
  have hflag := h.flag
  have htasks := h.tasks
  simp only [hidle, Bool.false_eq_true, if_false, Nat.add_eq_zero_iff] at hflag htasks
  refine ⟨h.lawful.snoc ⟨hflag, htasks.2⟩, h.holds.concat rfl, ?_, ?_, fun process hmem => ?_⟩
  · simp only [refreshesStarted, refreshesEnded, List.countP_append] at hflag ⊢
    simpa [isRefreshStart, isRefreshEnd] using hflag
  · simp only [refreshesPanicked, List.countP_append] at htasks ⊢
    simp [htasks, isRefreshing, isRefreshPanic]
  · rcases List.mem_append.mp hmem with hold | hnew
    · exact (h.knows process hold).mono le_rfl _
    · rw [List.mem_singleton.mp hnew]
      trivial

/-- While the task is running, the flag is set and no task has panicked. -/
theorem CacheInv.running (h : CacheInv server)
    (hprocess : server.processes[pid]? = some (.refresh, pc))
    (hrunning : isRefreshing (.refresh, pc) = true) :
    server.refreshInFlight = true ∧ server.processes.countP isRefreshing = 1 ∧
      refreshesPanicked server.history = 0 ∧ Refreshing server.history := by
  have hsome : 0 < server.processes.countP isRefreshing :=
    List.countP_pos_iff.mpr ⟨_, List.mem_of_getElem? hprocess, hrunning⟩
  have hflag := h.flag
  have htasks := h.tasks
  have hbusy : server.refreshInFlight = true := by
    by_contra hidle
    rw [if_neg hidle] at htasks
    omega
  rw [if_pos hbusy] at hflag htasks
  have hone : server.processes.countP isRefreshing = 1 := by omega
  have hnone : refreshesPanicked server.history = 0 := by omega
  exact ⟨hbusy, hone, hnone, by rw [Refreshing, hnone]; exact hflag⟩

/-- The task that has returned clears the flag. -/
theorem CacheInv.endRefresh (h : CacheInv server) {result : Except FailoverFailure ModelsEntry}
    (hprocess : server.processes[pid]? = some (.refresh, .returned result)) :
    CacheInv { server with
      refreshInFlight := false
      history := server.history ++ [refreshEnded]
      processes := server.processes.set pid (.refresh, .finished) } := by
  obtain ⟨hbusy, hone, hnone, hrefreshing⟩ := h.running hprocess rfl
  have hflag := h.flag
  refine ⟨h.lawful.snoc hrefreshing, h.holds.concat rfl, ?_, ?_, fun process hmem => ?_⟩
  · simp only [hbusy, refreshesStarted, refreshesEnded, List.countP_append] at hflag ⊢
    simpa [isRefreshStart, isRefreshEnd] using hflag
  · have hcount := countP_set_add isRefreshing hprocess (.refresh, .finished)
    simp only [hone, isRefreshing, if_true, Bool.false_eq_true, if_false] at hcount
    simp only [refreshesPanicked, List.countP_append] at hnone ⊢
    simp only [hnone, isRefreshPanic, List.countP_singleton, Bool.false_eq_true, if_false]
    omega
  · rcases List.mem_or_eq_of_mem_set hmem with hold | rfl
    · exact (h.knows process hold).mono le_rfl _
    · trivial

/-- The task that panics never clears the flag. -/
theorem CacheInv.panicRefresh (h : CacheInv server)
    (hprocess : server.processes[pid]? = some (.refresh, .fetching)) :
    CacheInv { server with
      history := server.history ++ [refreshPanicked]
      processes := server.processes.set pid (.refresh, .dropped) } := by
  obtain ⟨hbusy, hone, hnone, hrefreshing⟩ := h.running hprocess rfl
  have hflag := h.flag
  refine ⟨h.lawful.snoc hrefreshing, h.holds.concat rfl, ?_, ?_, fun process hmem => ?_⟩
  · simp only [refreshesStarted, refreshesEnded, List.countP_append] at hflag ⊢
    simpa [isRefreshStart, isRefreshEnd] using hflag
  · have hcount := countP_set_add isRefreshing hprocess (.refresh, .dropped)
    simp only [hone, isRefreshing, if_true, Bool.false_eq_true, if_false] at hcount
    simp only [refreshesPanicked, List.countP_append] at hnone ⊢
    simp only [hnone, hbusy, isRefreshPanic, List.countP_singleton, if_true]
    omega
  · rcases List.mem_or_eq_of_mem_set hmem with hold | rfl
    · exact (h.knows process hold).mono le_rfl _
    · trivial

theorem freshEntry_eq_some {cache : ModelsCache} {now : ℕ}
    (h : cache.freshEntry now = some entry) :
    ∃ stored, cache.fetchedAt = some stored ∧ now - stored ≤ modelsCacheTtl ∧
      cache.currentEntry = some entry := by
  obtain ⟨stored, hstored, h⟩ := Option.bind_eq_some_iff.mp h
  split at h
  next hfresh => exact ⟨stored, hstored, hfresh, h⟩
  next => cases h

theorem freshEntry_eq_none {cache : ModelsCache} {now stored : ℕ}
    (h : cache.freshEntry now = none) (hentry : cache.currentEntry = some entry)
    (hstored : cache.fetchedAt = some stored) : stored + modelsCacheTtl < now := by
  rw [ModelsCache.freshEntry, hstored, Option.bind_some, hentry] at h
  split at h
  next => cases h
  next hold => omega

/-- Only a list that was stored is in the cache. -/
theorem CacheInv.of_currentEntry (h : CacheInv server)
    (hentry : server.cache.currentEntry = some entry) :
    ∃ stored ≤ server.now, lastReplaced? server.history = some (stored, entry) ∧
      server.cache.fetchedAt = some stored := by
  have hholds := h.holds
  cases hlast : lastReplaced? server.history with
  | none =>
    rw [hlast] at hholds
    exact absurd (hholds.1.symm.trans hentry) (by simp)
  | some found =>
    rw [hlast] at hholds
    obtain rfl : found.2 = entry := Option.some.inj (hholds.1.symm.trans hentry)
    exact ⟨found.1, hholds.2.2, rfl, hholds.2.1⟩

theorem quiet_answered (now : ℕ) (shape : ResponseShape) (given : ModelsAnswer) :
    Quiet [answered now shape given] := by
  simp [Quiet, replaced?, isRefreshStart, isRefreshEnd, isRefreshPanic]

theorem quiet_fetchStarted (shape : ResponseShape) : Quiet [fetchStarted shape] := by
  simp [Quiet, replaced?, isRefreshStart, isRefreshEnd, isRefreshPanic]

/-- A process that moves on without a trace. -/
theorem CacheInv.move_silent (h : CacheInv server)
    (hprocess : server.processes[pid]? = some (caller, pc))
    (hopen : isRefreshing (caller, next) = isRefreshing (caller, pc))
    (hknows : Knows server.history server.now (caller, next)) :
    CacheInv { server with processes := server.processes.set pid (caller, next) } := by
  have hquiet : Quiet [] := by simp [Quiet]
  rw [← List.append_nil server.history] at hknows
  have hmoved := h.move hprocess hquiet trivial hopen hknows
  rwa [List.append_nil] at hmoved

/-- A request that is answered. -/
theorem CacheInv.answer (h : CacheInv server) {shape shape' : ResponseShape}
    (hprocess : server.processes[pid]? = some (.request shape', pc)) {given : ModelsAnswer}
    (hallowed : AnswerAllowed server.history server.now shape given) :
    CacheInv { server with
      history := server.history ++ [answered server.now shape given]
      processes := server.processes.set pid (.request shape', .finished) } :=
  h.move hprocess (quiet_answered _ _ _) ⟨hallowed, trivial⟩ rfl trivial

theorem CacheInv.resumeStarting (h : CacheInv server) (shape : ResponseShape)
    (hprocess : server.processes[pid]? = some (.request shape, .starting)) :
    CacheInv { (server.resumeStarting shape).1 with
      processes := (server.resumeStarting shape).1.processes.set pid
        (.request shape, (server.resumeStarting shape).2) } := by
  cases shape with
  | codex =>
    refine h.move hprocess (quiet_fetchStarted _) ⟨fun hshape => ?_, trivial⟩ rfl trivial
    cases hshape
  | openAi =>
    unfold ModelsServer.resumeStarting
    cases hfresh : server.cache.freshEntry server.now with
    | some entry =>
      obtain ⟨stored, hstored, hage, hentry⟩ := freshEntry_eq_some hfresh
      obtain ⟨stored', hle, hlast, hstored'⟩ := h.of_currentEntry hentry
      obtain rfl : stored = stored' := Option.some.inj (hstored.symm.trans hstored')
      exact h.answer hprocess ⟨rfl, stored, hle, hlast, by omega⟩
    | none =>
      cases hentry : server.cache.currentEntry with
      | some entry =>
        obtain ⟨stored, hle, hlast, hstored⟩ := h.of_currentEntry hentry
        have hold := freshEntry_eq_none hfresh hentry hstored
        exact h.move_silent hprocess rfl ⟨stored, mem_of_lastReplaced? hlast, hold⟩
      | none =>
        have hempty : lastReplaced? server.history = none := by
          have hholds := h.holds
          cases hlast : lastReplaced? server.history with
          | none => rfl
          | some found =>
            rw [hlast] at hholds
            exact absurd (hentry.symm.trans hholds.1) (by simp)
        exact h.move hprocess (quiet_fetchStarted _) ⟨fun _ => hempty, trivial⟩ rfl trivial

/-- A stale list is shown with a header that keeps the client from storing it. -/
theorem cacheControl_stale (entry : ModelsEntry) :
    (modelsOpenaiSuccessResponse (staleModelsCachedEntry entry)).headers.getAll "cache-control" =
      [noStore] := by
  have hother : "content-type" ≠ "cache-control" := by decide
  have hshape (headers : HeaderMap) :
      (shapeOpenaiHttpHeaders headers).getAll "cache-control" = headers.getAll "cache-control" := by
    have hnone : (headers.filter fun header => header.1 = "content-type").filter
        (fun header => header.1 = "cache-control") = [] := by
      rw [List.filter_filter, List.filter_eq_nil_iff]
      intro header _
      simp only [Bool.and_eq_true, decide_eq_true_eq, not_and]
      exact fun hcache htype => hother (htype.symm.trans hcache)
    simp only [HeaderMap.getAll, shapeOpenaiHttpHeaders, List.filter_append, hnone, List.nil_append,
      List.filter_filter, Bool.and_self]
  have htype (headers : HeaderMap) :
      (setContentType headers jsonContentType).getAll "cache-control" =
        headers.getAll "cache-control" := by
    unfold setContentType Upstream.insertHeader
    split
    · exact HeaderMap.getAll_insert_of_ne hother
    · rfl
  rw [modelsOpenaiSuccessResponse, htype, hshape, staleModelsCachedEntry,
    HeaderMap.getAll_insert_self]

/-- The stale list that a request is answered with; by then the cache is being refreshed. -/
theorem CacheInv.resumeRevalidating (h : CacheInv server) {shape : ResponseShape}
    (hprocess : server.processes[pid]? = some (.request shape, .revalidating entry)) :
    CacheInv { (server.resumeRevalidating entry).1 with
      processes := (server.resumeRevalidating entry).1.processes.set pid
        (.request shape, (server.resumeRevalidating entry).2) } := by
  obtain ⟨stored, hstored, hold⟩ := h.knows _ (List.mem_of_getElem? hprocess)
  unfold ModelsServer.resumeRevalidating
  dsimp only
  split
  next hbusy =>
    have hflag := h.flag
    have htasks := h.tasks
    rw [if_pos hbusy] at hflag htasks
    have hrefreshing : Refreshing server.history ∨ refreshPanicked ∈ server.history := by
      rcases Nat.eq_zero_or_pos (refreshesPanicked server.history) with hnone | hpanicked
      · exact .inl (by rw [Refreshing, hnone]; exact hflag)
      · obtain ⟨last, hmem, hlast⟩ := List.countP_pos_iff.mp hpanicked
        cases last with
        | refreshPanicked => exact .inr hmem
        | _ => cases hlast
    exact h.answer hprocess
      ⟨rfl, hrefreshing, cacheControl_stale entry, stored, entry, hstored, rfl, hold⟩
  next hidle =>
    have hstarted := h.startRefresh (by simpa using hidle)
    have hnew : (server.processes ++ [(ModelsCaller.refresh, ModelsPc.fetching)])[
        server.processes.length]? = some (.refresh, .fetching) := by simp
    obtain ⟨-, -, -, hrefreshing⟩ := hstarted.running hnew rfl
    exact hstarted.answer (getElem?_append_of_some hprocess _)
      ⟨rfl, .inl hrefreshing, cacheControl_stale entry, stored, entry,
        List.mem_append_left _ hstored, rfl, hold⟩

theorem CacheInv.resume {ρ : Type} {codec : ModelsCodec ρ} {input : ModelsInput}
    {left : ModelsServer} (h : CacheInv server)
    (hprocess : server.processes[pid]? = some (caller, pc))
    (hresume : server.resume codec caller pc input = some (left, next)) :
    CacheInv { left with processes := left.processes.set pid (caller, next) } := by
  have hknows := h.knows _ (List.mem_of_getElem? hprocess)
  cases pc with
  | starting =>
    cases caller with
    | refresh => cases input <;> cases hresume
    | request shape =>
      cases input with
      | scheduled =>
        have hstep : server.resumeStarting shape = (left, next) := Option.some.inj hresume
        obtain rfl : (server.resumeStarting shape).1 = left := congrArg Prod.fst hstep
        obtain rfl : (server.resumeStarting shape).2 = next := congrArg Prod.snd hstep
        exact h.resumeStarting shape hprocess
      | response | gaveUp => cases hresume
  | revalidating entry =>
    cases input with
    | scheduled =>
      cases caller with
      | request shape =>
        have hstep : server.resumeRevalidating entry = (left, next) := Option.some.inj hresume
        obtain rfl : (server.resumeRevalidating entry).1 = left := congrArg Prod.fst hstep
        obtain rfl : (server.resumeRevalidating entry).2 = next := congrArg Prod.snd hstep
        exact h.resumeRevalidating hprocess
      | refresh => cases hresume
    | response | gaveUp => cases caller <;> cases hresume
  | fetching =>
    cases input with
    | scheduled => cases caller <;> cases hresume
    | response headers body =>
      have hstep : server.resumeFetching codec headers body = (left, next) := by
        cases caller <;> exact Option.some.inj hresume
      unfold ModelsServer.resumeFetching at hstep
      split at hstep
      next snapshot hsnapshot =>
        cases hstep
        refine h.move hprocess
          (by simp [Quiet, replaced?, isRefreshStart, isRefreshEnd, isRefreshPanic])
          ⟨trivial, trivial⟩ (by cases caller <;> rfl) ?_
        exact List.mem_append_right _ (List.mem_singleton_self _)
      next =>
        cases hstep
        exact h.move_silent hprocess rfl trivial
    | gaveUp error =>
      have hstep : (server, ModelsPc.returned (.error error)) = (left, next) := by
        cases caller <;> exact Option.some.inj hresume
      cases hstep
      exact h.move_silent hprocess (by cases caller <;> rfl) trivial
  | replacing entry =>
    cases input with
    | scheduled =>
      have hstep : server.resumeReplacing entry = (left, next) := by
        cases caller <;> exact Option.some.inj hresume
      cases hstep
      exact h.store hprocess
    | response | gaveUp => cases caller <;> cases hresume
  | returned result =>
    cases input with
    | scheduled =>
      cases caller with
      | refresh =>
        cases hresume
        exact h.endRefresh hprocess
      | request shape =>
        cases result with
        | ok entry =>
          cases hresume
          exact h.answer hprocess hknows
        | error error =>
          cases hresume
          exact h.answer hprocess trivial
    | response | gaveUp => cases caller <;> cases hresume
  | finished | dropped => cases caller <;> cases input <;> cases hresume

theorem CacheInv.step {ρ : Type} {codec : ModelsCodec ρ} {event : ModelsEvent}
    {left : ModelsServer} (h : CacheInv server) (hstep : server.step codec event = some left) :
    CacheInv left := by
  cases event with
  | tick elapsed =>
    cases hstep
    exact h.tick elapsed
  | request shape =>
    cases hstep
    refine ⟨h.lawful, h.holds, h.flag, ?_, fun process hmem => ?_⟩
    · rw [List.countP_append, ← h.tasks]
      simp [isRefreshing]
    · rcases List.mem_append.mp hmem with hold | hnew
      · exact h.knows process hold
      · rw [List.mem_singleton.mp hnew]
        trivial
  | resume pid input =>
    obtain ⟨⟨caller, pc⟩, hprocess, hstep⟩ := Option.bind_eq_some_iff.mp hstep
    obtain ⟨⟨left', next⟩, hresume, hstep⟩ := Option.bind_eq_some_iff.mp hstep
    cases hstep
    exact h.resume hprocess hresume
  | drop pid =>
    obtain ⟨⟨caller, pc⟩, hprocess, hstep⟩ := Option.bind_eq_some_iff.mp hstep
    split at hstep
    next hdroppable =>
      cases hstep
      refine h.move_silent hprocess ?_ trivial
      cases caller with
      | request shape => rfl
      | refresh => cases pc <;> cases hdroppable
    next => cases hstep
  | panic pid =>
    simp only [ModelsServer.step] at hstep
    split at hstep
    next caller hprocess =>
      cases hstep
      cases caller with
      | refresh => exact h.panicRefresh hprocess
      | request shape =>
        have hsame : server.record (panicRecords (.request shape)) = server := by
          simp [record, panicRecords]
        rw [hsame]
        exact h.move_silent hprocess rfl trivial
    next => cases hstep

/-- Whatever the requests, the replies, the panics and the order of the steps: a list older than
twelve hours is shown only as `no-store`, and only while it is fetched again or once the task
that did so has panicked, which is the last one; an OpenAI client waits for a list only if none
is stored, and the flag counts the one task that refreshes the cache or has panicked. -/
theorem models_answers_allowed {ρ : Type} (codec : ModelsCodec ρ) {server : ModelsServer}
    (hrun : Run (ModelsServer.step codec) anyEvent {} server) :
    Lawful Allowed server.history ∧
      server.processes.countP isRefreshing + refreshesPanicked server.history =
        if server.refreshInFlight then 1 else 0 := by
  have h : CacheInv server :=
    hrun.invariant (fun _ _ _ hinv _ hstep => hinv.step hstep) cacheInv_start
  exact ⟨h.lawful, h.tasks⟩

/-- Reads the list without models, and no other body. -/
def emptyListCodec : ModelsCodec Unit where
  bodyAsJson body :=
    if body = utf8Bytes "\x7b\"models\":[]\x7d" then .ok (.object [("models", .array [])])
    else .error "decode upstream json body"
  fromValue
    | .object [("models", .array [])] => .ok ()
    | _ => .error "decode models response as Codex models list"
  toValue _ := .ok (.object [("models", .array [])])
  models _ := []

/-- A list is fetched, and shown thirteen hours later, when fetching it again fails; it is shown
once more behind the next task, which panics. -/
def staleScript : List ModelsEvent :=
  [.request .openAi, .resume 0 .scheduled, .resume 0 (.response [] (utf8Bytes "<html>")),
    .resume 0 (.response [] (utf8Bytes "\x7b\"models\":[]\x7d")), .resume 0 .scheduled,
    .resume 0 .scheduled, .tick (fromSecs (13 * 60 * 60)), .request .openAi,
    .resume 1 .scheduled, .resume 1 .scheduled, .resume 2 (.gaveUp (.internal ⟨500, by decide⟩ "")),
    .resume 2 .scheduled, .request .openAi, .resume 3 .scheduled, .resume 3 .scheduled, .panic 4,
    .request .openAi, .resume 5 .scheduled, .resume 5 .scheduled]

theorem models_answers_allowed_stale :
    let server := stateAfter (ModelsServer.step emptyListCodec) {} staleScript
    Lawful Allowed server.history ∧
      server.processes.countP isRefreshing + refreshesPanicked server.history =
        if server.refreshInFlight then 1 else 0 :=
  models_answers_allowed emptyListCodec (Run.of_isSome (by decide +kernel))

end ModelsServer

end Codaze.App
