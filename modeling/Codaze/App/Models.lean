import Codaze.Foundation.Histories
import Codaze.Responses.GatewayErrors

/-!
# The models cache

A client of Codex is answered with a list of models that is fetched for it, any other
client from the cache: as it is while the list is fresh, and marked `no-store` once it is
stale, while one task in the background fetches it again. The requests and the task are
cut at their locks and run in any order; a history keeps what they did.
-/
namespace Codaze.App
open Foundation Responses

def modelsCacheTtl : StdDuration := fromSecs (12 * 60 * 60)

/-- What the gateway reads of a `codex_protocol` model. -/
structure ModelInfo where
  slug : String
  supportsParallelToolCalls : Bool
  deriving DecidableEq, Repr

/-- How a body is read as a `codex_protocol::ModelsResponse` and written; the errors are texts. -/
structure ModelsCodec (ρ : Type) where
  bodyAsJson : List Byte → Except String Json
  fromValue : Json → Except String ρ
  toValue : ρ → Except String Json
  models : ρ → List ModelInfo

structure ModelsSnapshot extends Upstream.ModelsSnapshot where
  codexJson : Json
  openaiJson : Json

namespace ModelsSnapshot

def openaiModel (model : ModelInfo) : Json :=
  .object [("id", .string model.slug), ("object", .string "model"), ("created", .ofI64 0),
    ("owned_by", .string "openai")]

def fromResponse {ρ : Type} (codec : ModelsCodec ρ) (response : ρ) :
    Except String ModelsSnapshot := do
  let codexJson ← codec.toValue response
  let models := codec.models response
  return {
    codexJson
    openaiJson := .object [("object", .string "list"), ("data", .array (models.map openaiModel))]
    parallelToolCallsBySlug := models.foldl
      (fun flags model => flags.insert model.slug model.supportsParallelToolCalls) ∅ }

def fromValue {ρ : Type} (codec : ModelsCodec ρ) (value : Json) : Except String ModelsSnapshot := do
  let response ← codec.fromValue value
  fromResponse codec response

end ModelsSnapshot

/-- A snapshot with the headers of the response it came with. -/
abbrev ModelsEntry := ModelsSnapshot × HeaderMap

structure ModelsCache where
  snapshot : Option ModelsSnapshot := none
  responseHeaders : HeaderMap := []
  /-- `Instant`, in nanoseconds. -/
  fetchedAt : Option ℕ := none

namespace ModelsCache

def currentEntry (cache : ModelsCache) : Option ModelsEntry :=
  cache.snapshot.map fun snapshot => (snapshot, cache.responseHeaders)

def freshEntry (cache : ModelsCache) (now : ℕ) : Option ModelsEntry :=
  cache.fetchedAt.bind fun fetchedAt =>
    if now - fetchedAt ≤ modelsCacheTtl then cache.currentEntry else none

def replace (_ : ModelsCache) (now : ℕ) (entry : ModelsEntry) : ModelsCache where
  snapshot := some entry.1
  responseHeaders := entry.2
  fetchedAt := some now

end ModelsCache

def noStore : HeaderValue := ⟨utf8Bytes "no-store", by decide⟩

def staleModelsCachedEntry (entry : ModelsEntry) : ModelsEntry :=
  (entry.1, (entry.2.remove "cache-control").insert "cache-control" noStore)

theorem statusOk_valid : 100 ≤ 200 ∧ 200 ≤ 999 := by decide

def statusOk : StatusCode := ⟨200, statusOk_valid⟩

def modelsOpenaiSuccessResponse (entry : ModelsEntry) : Response where
  status := statusOk
  headers := setContentType (shapeOpenaiHttpHeaders entry.2) jsonContentType
  body := .json entry.1.openaiJson

def modelsCodexSuccessResponse (entry : ModelsEntry) : Response where
  status := statusOk
  headers := setContentType [] jsonContentType
  body := .json entry.1.codexJson

/-- Who runs `fetch_models_snapshot`: a request, or the task of `maybe_spawn_models_refresh`. -/
inductive ModelsCaller where
  | request (shape : ResponseShape)
  | refresh
  deriving DecidableEq, Repr

/-- Where a request or the task waits. -/
inductive ModelsPc where
  /-- For the read lock of the cache. -/
  | starting
  /-- About to see whether the cache is being refreshed, with the entry it has read. -/
  | revalidating (entry : ModelsEntry)
  /-- In the failover loop of `fetch_models_snapshot`. -/
  | fetching
  /-- For the write lock of the cache, the account being settled. -/
  | replacing (entry : ModelsEntry)
  /-- `fetch_models_snapshot` has returned. -/
  | returned (result : Except FailoverFailure ModelsEntry)
  | finished
  /-- The future was dropped, or it panicked. -/
  | dropped

inductive ModelsAnswer where
  | fresh (entry : ModelsEntry)
  | stale (entry : ModelsEntry)
  | fetched (entry : ModelsEntry)
  | failed (error : FailoverFailure)

/-- What has happened, with the time where it matters. -/
inductive ModelsRecord where
  /-- A body was decoded. -/
  | decoded (entry : ModelsEntry)
  | replaced (now : ℕ) (entry : ModelsEntry)
  /-- A request sets out to fetch a list for itself. -/
  | fetchStarted (shape : ResponseShape)
  | refreshStarted
  | refreshEnded
  /-- The task is gone, and will never clear the flag. -/
  | refreshPanicked
  | answered (now : ℕ) (shape : ResponseShape) (answer : ModelsAnswer)

structure ModelsServer where
  now : ℕ := 0
  cache : ModelsCache := {}
  refreshInFlight : Bool := false
  processes : List (ModelsCaller × ModelsPc) := []
  history : List ModelsRecord := []

/-- What reaches a process at its await point. -/
inductive ModelsInput where
  | scheduled
  /-- The upstream response of an account. -/
  | response (headers : HeaderMap) (body : List Byte)
  /-- The loop gives up. -/
  | gaveUp (error : FailoverFailure)

inductive ModelsEvent where
  | tick (elapsed : ℕ)
  /-- `get_models`. -/
  | request (shape : ResponseShape)
  | resume (pid : ℕ) (input : ModelsInput)
  /-- The client of a request is gone. -/
  | drop (pid : ℕ)
  /-- Settling an account has panicked. -/
  | panic (pid : ℕ)

/-- A resumed process: the server without it, and where it goes on. -/
abbrev ModelsStep := ModelsServer × ModelsPc

namespace ModelsServer

def record (server : ModelsServer) (entries : List ModelsRecord) : ModelsServer :=
  { server with history := server.history ++ entries }

def answer (server : ModelsServer) (shape : ResponseShape) (given : ModelsAnswer) : ModelsStep :=
  (server.record [.answered server.now shape given], .finished)

/-- The start of `get_models`; the cache is read under its lock. -/
def resumeStarting (server : ModelsServer) : ResponseShape → ModelsStep
  | .codex => (server.record [.fetchStarted .codex], .fetching)
  | .openAi =>
    match server.cache.freshEntry server.now, server.cache.currentEntry with
    | some entry, _ => server.answer .openAi (.fresh entry)
    | none, some entry => (server, .revalidating entry)
    | none, none => (server.record [.fetchStarted .openAi], .fetching)

/-- `maybe_spawn_models_refresh`; the answer is the stale entry in any case. -/
def resumeRevalidating (server : ModelsServer) (entry : ModelsEntry) : ModelsStep :=
  let stale := ModelsAnswer.stale (staleModelsCachedEntry entry)
  if server.refreshInFlight then server.answer .openAi stale
  else
    let server := { server with
      refreshInFlight := true
      processes := server.processes ++ [(ModelsCaller.refresh, ModelsPc.fetching)] }
    (server.record [.refreshStarted]).answer .openAi stale

/-- A response in the loop; one that does not decode costs its account a failure, and the
loop goes on. -/
def resumeFetching {ρ : Type} (codec : ModelsCodec ρ) (server : ModelsServer)
    (headers : HeaderMap) (body : List Byte) : ModelsStep :=
  match (codec.bodyAsJson body).bind (ModelsSnapshot.fromValue codec) with
  | .ok snapshot => (server.record [.decoded (snapshot, headers)], .replacing (snapshot, headers))
  | .error _ => (server, .fetching)

def resumeReplacing (server : ModelsServer) (entry : ModelsEntry) : ModelsStep :=
  ({ server with cache := server.cache.replace server.now entry }.record
    [.replaced server.now entry], .returned (.ok entry))

def resumeReturned (server : ModelsServer) : ModelsCaller → Except FailoverFailure ModelsEntry →
    ModelsStep
  | .request shape, .ok entry => server.answer shape (.fetched entry)
  | .request shape, .error error => server.answer shape (.failed error)
  | .refresh, _ => ({ server with refreshInFlight := false }.record [.refreshEnded], .finished)

def resume {ρ : Type} (codec : ModelsCodec ρ) (server : ModelsServer) :
    ModelsCaller → ModelsPc → ModelsInput → Option ModelsStep
  | .request shape, .starting, .scheduled => some (server.resumeStarting shape)
  | .request _, .revalidating entry, .scheduled => some (server.resumeRevalidating entry)
  | _, .fetching, .response headers body => some (server.resumeFetching codec headers body)
  | _, .fetching, .gaveUp error => some (server, .returned (.error error))
  | _, .replacing entry, .scheduled => some (server.resumeReplacing entry)
  | caller, .returned result, .scheduled => some (server.resumeReturned caller result)
  | _, _, _ => none

/-- What a panic leaves in the history. -/
def panicRecords : ModelsCaller → List ModelsRecord
  | .request _ => []
  | .refresh => [.refreshPanicked]

/-- A task that is spawned outlives its client. -/
def isDroppable : ModelsCaller × ModelsPc → Bool
  | (.request _, .starting) | (.request _, .fetching) | (.request _, .replacing _) => true
  | _ => false

def step {ρ : Type} (codec : ModelsCodec ρ) (server : ModelsServer) :
    ModelsEvent → Option ModelsServer
  | .tick elapsed => some { server with now := server.now + elapsed }
  | .request shape =>
    some { server with processes := server.processes ++ [(.request shape, .starting)] }
  | .resume pid input => do
    let (caller, pc) ← server.processes[pid]?
    let (left, next) ← server.resume codec caller pc input
    return { left with processes := left.processes.set pid (caller, next) }
  | .drop pid => do
    let process ← server.processes[pid]?
    if isDroppable process then
      return { server with processes := server.processes.set pid (process.1, .dropped) }
    else none
  | .panic pid => match server.processes[pid]? with
    | some (caller, .fetching) => some { server.record (panicRecords caller) with
        processes := server.processes.set pid (caller, .dropped) }
    | _ => none

end ModelsServer

end Codaze.App
