import Codaze.Accounts.Record
import Codaze.Responses.Rendering
import Codaze.Upstream.Normalization

/-!
# Requests to the upstream

The headers and the body `UpstreamClient` sends for an account, on each of the paths that
carry a response request: `POST /v1/responses`, `/v1/responses/compact` and the
`response.create` message of a websocket.
-/
namespace Codaze.Upstream
open Foundation Accounts Responses

def installationIdHeader : String := "x-codex-installation-id"
def turnMetadataHeader : String := "x-codex-turn-metadata"

/-- What the gateway adds to a request of its own. -/
structure Fingerprint where
  /-- `Uuid::new_v5` of a ChatGPT account id, as text. -/
  stableInstallationId : String → String
  /-- `default_headers()` with the user agent of `build_codex_user_agent`. -/
  codexHeaders : HeaderMap
  /-- They are the originator, the user agent and the residency. -/
  codexHeaders_installationId : codexHeaders.getAll installationIdHeader = []
  sources : SessionSources

def installationIdForAccount (fingerprint : Fingerprint) (account : UpstreamAccount) :
    FingerprintMode → Option String
  | .passthrough => none
  | .normalize => account.chatgptAccountId.map fingerprint.stableInstallationId

/-- The `client_metadata` object, a new one where it is missing or null; `none` where it is
anything else. -/
def clientMetadata? (object : Fields) : Option Fields :=
  match object.get? "client_metadata" with
  | none | some .null => some []
  | some (.object metadata) => some metadata
  | some _ => none

def applyClientMetadataInstallationId (installationId : String) : Json → Json
  | .object object =>
    match clientMetadata? object with
    | some metadata => .object (Fields.insert object "client_metadata"
        (.object (metadata.insert installationIdHeader (.string installationId))))
    | none => .object object
  | root => root

def defaultTurnMetadataValue : String := "\x7b\"thread_source\":\"user\"\x7d"

def mergeTurnMetadataThreadSource (libs : Libraries) (raw : String) : Option String :=
  match libs.fromStr raw with
  | some (.object object) =>
    libs.encode (.object (Fields.orInsert object "thread_source" (.string "user")))
  | _ => none

/-- The turn metadata `apply_client_metadata_user_thread_source` leaves behind. -/
def withUserThreadSource (libs : Libraries) (metadata : Fields) : Fields :=
  match metadata.get? turnMetadataHeader with
  | none | some .null => metadata.insert turnMetadataHeader (.string defaultTurnMetadataValue)
  | some (.string raw) =>
    match mergeTurnMetadataThreadSource libs raw with
    | some merged => metadata.insert turnMetadataHeader (.string merged)
    | none => metadata
  | some _ => metadata

def applyClientMetadataUserThreadSource (libs : Libraries) : Json → Json
  | .object object =>
    match clientMetadata? object with
    | some metadata => .object (Fields.insert object "client_metadata"
        (.object (withUserThreadSource libs metadata)))
    | none => .object object
  | root => root

def applyResponsesInstallationId (installationId : Option String) (mode : FingerprintMode)
    (body : Json) : Json :=
  match mode, installationId with
  | .normalize, some installationId => applyClientMetadataInstallationId installationId body
  | _, _ => body

def applyCompactInstallationIdHeader (installationId : Option String) (mode : FingerprintMode)
    (headers : HeaderMap) : HeaderMap :=
  match mode, installationId with
  | .normalize, some installationId => insertHeader headers installationIdHeader installationId
  | _, _ => headers

def copyIfPresent (source dest : HeaderMap) (name : String) : HeaderMap :=
  List.append dest ((source.getAll name).map fun value => (name, value))

def extendFingerprintHeaders (source : HeaderMap) (mode : FingerprintMode) (dest : HeaderMap) :
    HeaderMap :=
  match mode with
  | .passthrough => ["user-agent", "originator", "x-openai-internal-codex-residency"].foldl
      (copyIfPresent source) dest
  | .normalize => dest

def extendResponsesContextHeaders (source dest : HeaderMap) : HeaderMap :=
  ["session_id", "x-client-request-id", "x-codex-beta-features", "x-codex-turn-state",
    turnMetadataHeader, "x-responsesapi-include-timing-metrics", "traceparent",
    "tracestate"].foldl (copyIfPresent source) dest

def parseSessionSourceHeader (sources : SessionSources) (source : HeaderMap) :
    Option SessionSource :=
  ((source.get "x-codex-session-source").bind HeaderValue.toStr).bind fun raw =>
    if trim raw = "" then none else sources.fromStr (trim raw)

def subagentHeaderValue : SessionSource → Option String
  | .review => some "review"
  | .compact => some "compact"
  | .memoryConsolidation => some "memory_consolidation"
  | .threadSpawn _ => some "collab_spawn"
  | .otherSubAgent label => some label
  | .other => none

def parentThreadIdHeaderValue : SessionSource → Option String
  | .threadSpawn parentThreadId => some parentThreadId
  | _ => none

/-- `maybe_insert_parent_thread_id_from_session_source` and
`maybe_insert_subagent_from_session_source`, by the header and what it reads of the source. -/
def maybeInsertFromSessionSource (sources : SessionSources) (source : HeaderMap)
    (mode : FingerprintMode) (name : String) (value : SessionSource → Option String)
    (dest : HeaderMap) : HeaderMap :=
  if mode = .passthrough ∨ dest.containsKey name then dest
  else match (parseSessionSourceHeader sources source).bind value with
    | some value => insertHeader dest name value
    | none => dest

def extendResponsesIdentityHeaders (sources : SessionSources) (source : HeaderMap)
    (mode : FingerprintMode) (dest : HeaderMap) : HeaderMap :=
  let dest := ["x-codex-window-id", "x-codex-parent-thread-id", "x-openai-subagent"].foldl
    (copyIfPresent source) dest
  let dest := maybeInsertFromSessionSource sources source mode "x-codex-parent-thread-id"
    parentThreadIdHeaderValue dest
  maybeInsertFromSessionSource sources source mode "x-openai-subagent" subagentHeaderValue dest

def maybeNormalizeTurnMetadataHeader (libs : Libraries) (mode : FingerprintMode)
    (headers : HeaderMap) : HeaderMap :=
  match mode with
  | .passthrough => headers
  | .normalize =>
    let normalized := match (headers.get turnMetadataHeader).bind HeaderValue.toStr with
      | some raw => mergeTurnMetadataThreadSource libs raw
      | none => some defaultTurnMetadataValue
    match normalized with
    | some normalized => insertHeader headers turnMetadataHeader normalized
    | none => headers

def maybeCopySessionIdToClientRequestId (source : HeaderMap) (mode : FingerprintMode)
    (dest : HeaderMap) : HeaderMap :=
  if mode = .passthrough ∨ dest.containsKey "x-client-request-id" then dest
  else match (source.get "session_id").bind HeaderValue.toStr with
    | some value => insertHeader dest "x-client-request-id" value
    | none => dest

/-- The headers all response requests over HTTP share. -/
def responsesHeaders (libs : Libraries) (sources : SessionSources) (incoming : HeaderMap)
    (mode : FingerprintMode) : HeaderMap :=
  maybeNormalizeTurnMetadataHeader libs mode
    (extendResponsesIdentityHeaders sources incoming mode
      (extendResponsesContextHeaders incoming (extendFingerprintHeaders incoming mode [])))

def buildResponsesExtraHeaders (libs : Libraries) (sources : SessionSources)
    (incoming : HeaderMap) (mode : FingerprintMode) : HeaderMap :=
  maybeCopySessionIdToClientRequestId incoming mode (responsesHeaders libs sources incoming mode)

/-- `build_unary_extra_headers` for `responses/compact`. -/
def buildCompactExtraHeaders (libs : Libraries) (sources : SessionSources)
    (incoming : HeaderMap) (mode : FingerprintMode) (installationId : Option String) :
    HeaderMap :=
  let headers := responsesHeaders libs sources incoming mode
  let headers := match mode with
    | .passthrough => copyIfPresent incoming headers installationIdHeader
    | .normalize => headers
  maybeCopySessionIdToClientRequestId incoming mode
    (applyCompactInstallationIdHeader installationId mode headers)

def responsesWebsocketsV2BetaHeaderValue : String := "responses_websockets=2026-02-06"

def buildResponsesWebsocketHeaders (libs : Libraries) (fingerprint : Fingerprint)
    (incoming : HeaderMap) (mode : FingerprintMode) : HeaderMap :=
  let headers := match mode with
    | .passthrough => []
    | .normalize => fingerprint.codexHeaders
  let headers := ["session_id", "x-client-request-id", "x-codex-beta-features",
    "x-codex-turn-state", turnMetadataHeader].foldl (copyIfPresent incoming) headers
  let headers := maybeNormalizeTurnMetadataHeader libs mode
    (extendResponsesIdentityHeaders fingerprint.sources incoming mode headers)
  let headers := ["x-responsesapi-include-timing-metrics", "traceparent", "tracestate"].foldl
    (copyIfPresent incoming) headers
  let headers := extendFingerprintHeaders incoming mode headers
  let headers := maybeCopySessionIdToClientRequestId incoming mode headers
  insertHeader headers "openai-beta" responsesWebsocketsV2BetaHeaderValue

def addAuthHeaders (account : UpstreamAccount) (headers : HeaderMap) : HeaderMap :=
  let headers := insertHeader headers "authorization" ("Bearer " ++ account.accessToken)
  match account.chatgptAccountId with
  | some accountId => insertHeader headers "chatgpt-account-id" accountId
  | none => headers

/-- What `normalize_response_create_payload` makes of a `response.create`; `none` where nothing
changes and the text of the client is forwarded. -/
def normalizeResponseCreate (libs : Libraries) (mode : FingerprintMode) (codexOriginator : Bool)
    (snapshot : Option ModelsSnapshot) (installationId : Option String) (original : Json) :
    Option Json :=
  let json := normalizeResponsesRequestBody mode codexOriginator snapshot original
  let json := match mode with
    | .passthrough => json
    | .normalize => applyResponsesInstallationId installationId .normalize
        (applyClientMetadataUserThreadSource libs json)
  if json.beq original then none else some json

def normalizeResponseCreatePayload (libs : Libraries) (mode : FingerprintMode)
    (codexOriginator : Bool) (snapshot : Option ModelsSnapshot) (installationId : Option String)
    (text : String) : Option String :=
  (libs.fromStr text).bind fun original =>
    if getStr? original "type" = some "response.create" then
      (normalizeResponseCreate libs mode codexOriginator snapshot installationId original).bind
        libs.encode
    else none

/-- `response_shape_for_headers`. -/
def responseShapeForHeaders (headers : HeaderMap) : ResponseShape :=
  match (headers.get "originator").bind HeaderValue.toStr with
  | some originator => if "codex".toList <+: originator.toList then .codex else .openAi
  | none => .openAi

/-- The paths on which a response request reaches the upstream. -/
inductive Surface where
  | responses
  | compact
  | websocketCreate
  deriving DecidableEq, Repr

structure ClientRequest where
  headers : HeaderMap
  /-- The text of the body, or of the `response.create` message. -/
  text : String

structure UpstreamRequest where
  headers : HeaderMap
  /-- The document whose text is sent. -/
  body : Json

section send

variable (libs : Libraries) (fingerprint : Fingerprint) (mode : FingerprintMode)
  (snapshot : Option ModelsSnapshot)

/-- `prepare_responses_request`; `none` where the request is refused. -/
def prepareResponsesRequest (request : ClientRequest) : Option (HeaderMap × Json) :=
  (libs.fromStr request.text).bind fun body =>
    (applyBodyGatewayOverrides fingerprint.sources request.headers
      (normalizeResponsesRequestBody mode
        (responseShapeForHeaders request.headers == .codex) snapshot body)).toOption

def prepareCompactRequest (request : ClientRequest) : Option (HeaderMap × Json) :=
  (libs.fromStr request.text).bind fun body =>
    (applyBodyGatewayOverrides fingerprint.sources request.headers
      (normalizeCompactRequestBody mode
        (responseShapeForHeaders request.headers == .codex) snapshot body)).toOption

def shouldStreamResponsesRequest (body : Json) : Bool :=
  match body.get? "stream" with
  | some (.bool false) => false
  | _ => true

/-- `configure_responses_stream_request`, without the compression it asks for. -/
def configureResponsesStreamRequest (headers : HeaderMap) : HeaderMap :=
  insertHeader headers "accept" "text/event-stream"

def postResponsesJson (account : UpstreamAccount) (headers : HeaderMap) (body : Json) :
    UpstreamRequest where
  headers := addAuthHeaders account
    (buildResponsesExtraHeaders libs fingerprint.sources headers mode)
  body := applyResponsesInstallationId (installationIdForAccount fingerprint account mode) mode
    body

/-- `stream_json` on `responses`. -/
def streamJson (account : UpstreamAccount) (headers : HeaderMap) (body : Json) :
    UpstreamRequest where
  headers := configureResponsesStreamRequest (addAuthHeaders account
    (buildResponsesExtraHeaders libs fingerprint.sources headers mode))
  body := applyResponsesInstallationId (installationIdForAccount fingerprint account mode) mode
    body

/-- `post_responses`, up to the request that is sent. -/
def postResponses (account : UpstreamAccount) (headers : HeaderMap) (body : Json) :
    UpstreamRequest :=
  if shouldStreamResponsesRequest body then streamJson libs fingerprint mode account headers body
  else postResponsesJson libs fingerprint mode account headers body

/-- `post_json` on `responses/compact`. -/
def postCompact (account : UpstreamAccount) (headers : HeaderMap) (body : Json) :
    UpstreamRequest where
  headers := addAuthHeaders account (buildCompactExtraHeaders libs fingerprint.sources headers mode
    (installationIdForAccount fingerprint account mode))
  body := body

/-- A `response.create` on the connection of an account, first or replayed. -/
def sendResponseCreate (account : UpstreamAccount) (headers : HeaderMap) (original : Json) :
    UpstreamRequest where
  headers := addAuthHeaders account
    (buildResponsesWebsocketHeaders libs fingerprint headers mode)
  body := (normalizeResponseCreate libs mode (responseShapeForHeaders headers == .codex) snapshot
    (installationIdForAccount fingerprint account mode) original).getD original

/-- What a client's request becomes for the account it is sent with, or replayed to. -/
def send (account : UpstreamAccount) (request : ClientRequest) : Surface → Option UpstreamRequest
  | .responses => (prepareResponsesRequest libs fingerprint mode snapshot request).map
      fun prepared => postResponses libs fingerprint mode account prepared.1 prepared.2
  | .compact => (prepareCompactRequest libs fingerprint mode snapshot request).map
      fun prepared => postCompact libs fingerprint mode account prepared.1 prepared.2
  | .websocketCreate => (libs.fromStr request.text).bind fun original =>
      if getStr? original "type" = some "response.create" then
        some (sendResponseCreate libs fingerprint mode snapshot account request.headers original)
      else none

end send

end Codaze.Upstream
