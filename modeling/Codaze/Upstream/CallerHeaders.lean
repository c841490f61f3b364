import Codaze.Foundation.HeaderFlow
import Codaze.Upstream.Requests

/-!
# What a caller's headers can reach

Each request to the upstream carries the headers of an allow-list and the credentials of the
account. Two callers whose requests agree on the headers of the list are not told apart
upstream where their bodies are normalized alike, and whatever else a caller sends, credentials
included, goes no further.
-/
namespace Codaze.Upstream
open Foundation Accounts Responses HeaderMap

/-- `build_models_extra_headers`. -/
def buildModelsExtraHeaders (incoming : HeaderMap) (mode : FingerprintMode) : HeaderMap :=
  extendFingerprintHeaders incoming mode []

/-- `build_unary_extra_headers` for `memories/trace_summarize`. -/
def buildTraceSummarizeExtraHeaders (sources : SessionSources) (incoming : HeaderMap)
    (mode : FingerprintMode) : HeaderMap :=
  maybeInsertFromSessionSource sources incoming mode "x-openai-subagent" subagentHeaderValue
    (copyIfPresent incoming (extendFingerprintHeaders incoming mode []) "x-openai-subagent")

def buildUnaryExtraHeaders (libs : Libraries) (sources : SessionSources) (path : String)
    (incoming : HeaderMap) (mode : FingerprintMode) (installationId : Option String) : HeaderMap :=
  if path = "responses/compact" then
    buildCompactExtraHeaders libs sources incoming mode installationId
  else if path = "memories/trace_summarize" then
    buildTraceSummarizeExtraHeaders sources incoming mode
  else []

/-- The endpoints of the gateway that send a request upstream. -/
inductive Endpoint where
  | models
  | traceSummarize
  | response (surface : Surface)
  deriving DecidableEq, Repr

/-- A request to the upstream, `GET models` without a body. -/
structure UpstreamCall where
  headers : HeaderMap
  body : Option Json

section call

variable (libs : Libraries) (fingerprint : Fingerprint) (mode : FingerprintMode)
  (snapshot : Option ModelsSnapshot) (account : UpstreamAccount)

/-- `UpstreamClient::get_models`. -/
def getModels (headers : HeaderMap) : UpstreamCall where
  headers := addAuthHeaders account (buildModelsExtraHeaders headers mode)
  body := none

/-- `post_memories_trace_summarize`, up to the request that is sent. -/
def postTraceSummarize (request : ClientRequest) : Option UpstreamCall :=
  (libs.fromStr request.text).bind fun body =>
    (applyBodyGatewayOverrides fingerprint.sources request.headers body).toOption.map
      fun prepared => {
        headers := addAuthHeaders account (buildUnaryExtraHeaders libs fingerprint.sources
          "memories/trace_summarize" prepared.1 mode
          (installationIdForAccount fingerprint account mode))
        body := some prepared.2 }

/-- What is sent upstream for a request to an endpoint; `none` where it is refused. -/
def callUpstream (request : ClientRequest) : Endpoint → Option UpstreamCall
  | .models => some (getModels mode account request.headers)
  | .traceSummarize => postTraceSummarize libs fingerprint mode account request
  | .response surface => (send libs fingerprint mode snapshot account request surface).map
      fun sent => ⟨sent.headers, some sent.body⟩

/-- What the body of a request is normalized to; of a `response.create`, what is sent. -/
def normalizedBody (request : ClientRequest) : Endpoint → Option Json
  | .models => none
  | .traceSummarize => libs.fromStr request.text
  | .response .responses => (libs.fromStr request.text).map (normalizeResponsesRequestBody mode
      (responseShapeForHeaders request.headers == .codex) snapshot)
  | .response .compact => (libs.fromStr request.text).map (normalizeCompactRequestBody mode
      (responseShapeForHeaders request.headers == .codex) snapshot)
  | .response .websocketCreate => (libs.fromStr request.text).bind fun original =>
      if getStr? original "type" = some "response.create" then
        some (sendResponseCreate libs fingerprint mode snapshot account request.headers
          original).body
      else none

end call

/-! ## The lists -/

def fingerprintHeaders : List String :=
  ["user-agent", "originator", "x-openai-internal-codex-residency"]

def contextHeaders : List String :=
  ["session_id", "x-client-request-id", "x-codex-beta-features", "x-codex-turn-state",
    turnMetadataHeader, "x-responsesapi-include-timing-metrics", "traceparent", "tracestate"]

def identityHeaders : List String :=
  ["x-codex-window-id", "x-codex-parent-thread-id", "x-openai-subagent"]

/-- The caller's headers that a pass of a mode adds to those of both modes. -/
def byMode (passthrough normalize : List String) : FingerprintMode → List String
  | .passthrough => passthrough
  | .normalize => normalize

/-- The caller's headers that can be seen in a request to the upstream. -/
def readHeaders (mode : FingerprintMode) : Endpoint → List String
  | .models => byMode fingerprintHeaders [] mode
  | .traceSummarize =>
    "x-openai-subagent" :: byMode fingerprintHeaders ["x-codex-session-source"] mode
  | .response .compact => contextHeaders ++ identityHeaders ++
      byMode (installationIdHeader :: fingerprintHeaders) ["x-codex-session-source"] mode
  | .response _ => contextHeaders ++ identityHeaders ++
      byMode fingerprintHeaders ["x-codex-session-source"] mode

/-- The headers a request to the upstream may have, without the credentials. -/
def writtenHeaders (mode : FingerprintMode) : Endpoint → List String
  | .models => byMode fingerprintHeaders [] mode
  | .traceSummarize => "x-openai-subagent" :: byMode fingerprintHeaders [] mode
  | .response .responses =>
      "accept" :: contextHeaders ++ identityHeaders ++ byMode fingerprintHeaders [] mode
  | .response .compact => contextHeaders ++ identityHeaders ++
      installationIdHeader :: byMode fingerprintHeaders [] mode
  | .response .websocketCreate =>
      "openai-beta" :: contextHeaders ++ identityHeaders ++ fingerprintHeaders

/-- The credentials of an account, by the header. -/
def credentials (account : UpstreamAccount) (name : String) : List HeaderValue :=
  if name = "authorization" then
    (HeaderValue.fromStr ("Bearer " ++ account.accessToken)).toList
  else if name = "chatgpt-account-id" then
    (account.chatgptAccountId.bind HeaderValue.fromStr).toList
  else []

/-! ## The passes -/

variable (libs : Libraries) (sources : SessionSources) (mode : FingerprintMode)

theorem flow_copies (names : List String) :
    Flow names names fun source headers => names.foldl (copyIfPresent source) headers :=
  .foldl Flow.copy names

theorem flow_fingerprint : Flow (byMode fingerprintHeaders [] mode)
    (byMode fingerprintHeaders [] mode) fun source headers =>
      extendFingerprintHeaders source mode headers := by
  cases mode with
  | passthrough => exact flow_copies fingerprintHeaders
  | normalize => exact .idle

/-- A header made of a text that the source and what was filled in before give. -/
theorem flow_insertHeader {reads : List String} {value : HeaderMap → HeaderMap → Option String}
    (name : String) (hvalue : ∀ {source source'}, AgreeOn reads source source' →
      ∀ headers, value source headers = value source' headers) :
    Flow reads [name] fun source headers =>
      match value source headers with
      | some value => insertHeader headers name value
      | none => headers := by
  have hreplace := @Flow.replace reads
    (fun source headers => (value source headers).bind HeaderValue.fromStr) name
    fun hagree headers => by rw [hvalue hagree headers]
  refine ⟨fun hagree headers => by rw [hvalue hagree headers], fun source headers => ?_⟩
  have hwrites := hreplace.writes_only source headers
  cases hsome : value source headers with
  | none => exact fun _ _ => rfl
  | some text =>
    dsimp only
    rw [hsome, Option.bind_some] at hwrites
    unfold insertHeader
    cases hvalid : HeaderValue.fromStr text with
    | none => exact fun _ _ => rfl
    | some replacement =>
      rw [hvalid] at hwrites
      exact hwrites

theorem flow_sessionSource (name : String) (value : SessionSource → Option String) :
    Flow (byMode [] ["x-codex-session-source"] mode) [name] fun source headers =>
      maybeInsertFromSessionSource sources source mode name value headers := by
  cases mode with
  | passthrough => exact Flow.idle.mono (List.nil_subset _) (List.nil_subset _)
  | normalize =>
    have hinsert := @flow_insertHeader ["x-codex-session-source"]
      (fun source _ => (parseSessionSourceHeader sources source).bind value) name
      fun hagree _ => by
        simp only [parseSessionSourceHeader, hagree.get List.mem_cons_self]
    exact hinsert.guarded fun headers => FingerprintMode.normalize = .passthrough ∨
      headers.containsKey name = true

theorem flow_identity : Flow (identityHeaders ++ byMode [] ["x-codex-session-source"] mode)
    identityHeaders fun source headers =>
      extendResponsesIdentityHeaders sources source mode headers := by
  have hall := ((flow_copies identityHeaders).andThen (flow_sessionSource sources mode
    "x-codex-parent-thread-id" parentThreadIdHeaderValue)).andThen
      (flow_sessionSource sources mode "x-openai-subagent" subagentHeaderValue)
  refine hall.mono ?_ (by decide)
  cases mode <;> decide

theorem flow_turnMetadata : Flow [] [turnMetadataHeader] fun _ headers =>
    maybeNormalizeTurnMetadataHeader libs mode headers := by
  cases mode with
  | passthrough => exact Flow.idle.mono (List.nil_subset _) (List.nil_subset _)
  | normalize =>
    exact @flow_insertHeader [] (fun _ headers =>
      match (headers.get turnMetadataHeader).bind HeaderValue.toStr with
      | some raw => mergeTurnMetadataThreadSource libs raw
      | none => some defaultTurnMetadataValue) turnMetadataHeader fun _ _ => rfl

theorem flow_sessionId : Flow ["session_id"] ["x-client-request-id"] fun source headers =>
    maybeCopySessionIdToClientRequestId source mode headers := by
  cases mode with
  | passthrough => exact Flow.idle.mono (List.nil_subset _) (List.nil_subset _)
  | normalize =>
    have hinsert := @flow_insertHeader ["session_id"]
      (fun source _ => (source.get "session_id").bind HeaderValue.toStr) "x-client-request-id"
      fun hagree _ => by rw [hagree.get List.mem_cons_self]
    exact hinsert.guarded fun headers => FingerprintMode.normalize = .passthrough ∨
      headers.containsKey "x-client-request-id" = true

theorem flow_responses : Flow
    (contextHeaders ++ identityHeaders ++
      byMode fingerprintHeaders ["x-codex-session-source"] mode)
    (contextHeaders ++ identityHeaders ++ byMode fingerprintHeaders [] mode)
    fun source headers => maybeNormalizeTurnMetadataHeader libs mode
      (extendResponsesIdentityHeaders sources source mode
        (extendResponsesContextHeaders source (extendFingerprintHeaders source mode headers))) := by
  have hall := (((flow_fingerprint mode).andThen (flow_copies contextHeaders)).andThen
    (flow_identity sources mode)).andThen (flow_turnMetadata libs mode)
  refine hall.mono ?_ ?_
  · cases mode <;> decide
  · cases mode <;> decide

/-! ## The builders -/

variable (fingerprint : Fingerprint) (account : UpstreamAccount)

/-- The headers of a request to an endpoint, without the credentials. -/
def extraHeaders (incoming : HeaderMap) : Endpoint → HeaderMap
  | .models => buildModelsExtraHeaders incoming mode
  | .traceSummarize => buildUnaryExtraHeaders libs fingerprint.sources "memories/trace_summarize"
      incoming mode (installationIdForAccount fingerprint account mode)
  | .response .responses => buildResponsesExtraHeaders libs fingerprint.sources incoming mode
  | .response .compact => buildCompactExtraHeaders libs fingerprint.sources incoming mode
      (installationIdForAccount fingerprint account mode)
  | .response .websocketCreate => buildResponsesWebsocketHeaders libs fingerprint incoming mode

theorem flow_traceSummarize : Flow (readHeaders mode .traceSummarize)
    (writtenHeaders mode .traceSummarize) fun source headers =>
      maybeInsertFromSessionSource sources source mode "x-openai-subagent" subagentHeaderValue
        (copyIfPresent source (extendFingerprintHeaders source mode headers)
          "x-openai-subagent") := by
  have hall := ((flow_fingerprint mode).andThen (Flow.copy "x-openai-subagent")).andThen
    (flow_sessionSource sources mode "x-openai-subagent" subagentHeaderValue)
  refine hall.mono ?_ ?_
  · cases mode <;> decide
  · cases mode <;> decide

theorem flow_postResponses : Flow (readHeaders mode (.response .responses))
    (writtenHeaders mode (.response .responses)) fun source headers =>
      maybeCopySessionIdToClientRequestId source mode (maybeNormalizeTurnMetadataHeader libs mode
        (extendResponsesIdentityHeaders sources source mode
          (extendResponsesContextHeaders source
            (extendFingerprintHeaders source mode headers)))) := by
  refine ((flow_responses libs sources mode).andThen (flow_sessionId mode)).mono ?_ ?_
  · cases mode <;> decide
  · cases mode <;> decide

/-- The installation id of the account, or in passthrough mode the caller's. -/
theorem flow_installationId (installationId : Option String) :
    Flow (byMode [installationIdHeader] [] mode) [installationIdHeader] fun source headers =>
      applyCompactInstallationIdHeader installationId mode (match mode with
        | .passthrough => copyIfPresent source headers installationIdHeader
        | .normalize => headers) := by
  cases mode with
  | passthrough => exact .copy installationIdHeader
  | normalize =>
    have hinsert := @flow_insertHeader [] (fun _ _ => installationId) installationIdHeader
      fun _ _ => rfl
    cases installationId <;> exact hinsert

theorem flow_postCompact (installationId : Option String) :
    Flow (readHeaders mode (.response .compact)) (writtenHeaders mode (.response .compact))
      fun source headers =>
        let headers := maybeNormalizeTurnMetadataHeader libs mode
          (extendResponsesIdentityHeaders sources source mode
            (extendResponsesContextHeaders source (extendFingerprintHeaders source mode headers)))
        let headers := match mode with
          | .passthrough => copyIfPresent source headers installationIdHeader
          | .normalize => headers
        maybeCopySessionIdToClientRequestId source mode
          (applyCompactInstallationIdHeader installationId mode headers) := by
  have hall := ((flow_responses libs sources mode).andThen
    (flow_installationId mode installationId)).andThen (flow_sessionId mode)
  refine hall.mono ?_ ?_
  · cases mode <;> decide
  · cases mode <;> decide

theorem flow_websocket : Flow (readHeaders mode (.response .websocketCreate))
    (writtenHeaders mode (.response .websocketCreate)) fun source headers =>
      let headers := ["session_id", "x-client-request-id", "x-codex-beta-features",
        "x-codex-turn-state", turnMetadataHeader].foldl (copyIfPresent source) headers
      let headers := maybeNormalizeTurnMetadataHeader libs mode
        (extendResponsesIdentityHeaders sources source mode headers)
      let headers := ["x-responsesapi-include-timing-metrics", "traceparent", "tracestate"].foldl
        (copyIfPresent source) headers
      let headers := extendFingerprintHeaders source mode headers
      let headers := maybeCopySessionIdToClientRequestId source mode headers
      insertHeader headers "openai-beta" responsesWebsocketsV2BetaHeaderValue := by
  have hbeta := @flow_insertHeader []
    (fun _ _ => some responsesWebsocketsV2BetaHeaderValue) "openai-beta" fun _ _ => rfl
  have hcopies := flow_copies ["session_id", "x-client-request-id", "x-codex-beta-features",
    "x-codex-turn-state", turnMetadataHeader]
  have htracing := flow_copies ["x-responsesapi-include-timing-metrics", "traceparent",
    "tracestate"]
  have hall := (((((hcopies.andThen (flow_identity sources mode)).andThen
    (flow_turnMetadata libs mode)).andThen htracing).andThen (flow_fingerprint mode)).andThen
      (flow_sessionId mode)).andThen hbeta
  refine hall.mono ?_ ?_
  · cases mode <;> decide
  · cases mode <;> decide

variable {fingerprint}

theorem extraHeaders_agree {incoming incoming' : HeaderMap} {endpoint : Endpoint}
    (h : AgreeOn (readHeaders mode endpoint) incoming incoming') :
    extraHeaders libs mode fingerprint account incoming endpoint =
      extraHeaders libs mode fingerprint account incoming' endpoint := by
  cases endpoint with
  | models => exact (flow_fingerprint mode).reads_only h []
  | traceSummarize => exact (flow_traceSummarize fingerprint.sources mode).reads_only h []
  | response surface =>
    cases surface with
    | responses => exact (flow_postResponses libs fingerprint.sources mode).reads_only h []
    | compact => exact (flow_postCompact libs fingerprint.sources mode _).reads_only h []
    | websocketCreate =>
      exact (flow_websocket libs fingerprint.sources mode).reads_only h _

/-- The gateway's own headers are the originator, the user agent and the residency. -/
def Fingerprint.Plain (fingerprint : Fingerprint) : Prop :=
  ∀ name ∉ fingerprintHeaders, fingerprint.codexHeaders.getAll name = []

theorem extraHeaders_written (hplain : fingerprint.Plain) (incoming : HeaderMap)
    {endpoint : Endpoint} {name : String} (hname : name ∉ writtenHeaders mode endpoint) :
    (extraHeaders libs mode fingerprint account incoming endpoint).getAll name = [] := by
  cases endpoint with
  | models => exact (flow_fingerprint mode).getAll_eq_nil incoming hname
  | traceSummarize =>
    exact (flow_traceSummarize fingerprint.sources mode).getAll_eq_nil incoming hname
  | response surface =>
    cases surface with
    | responses =>
      exact (flow_postResponses libs fingerprint.sources mode).getAll_eq_nil incoming hname
    | compact =>
      exact (flow_postCompact libs fingerprint.sources mode _).getAll_eq_nil incoming hname
    | websocketCreate =>
      refine ((flow_websocket libs fingerprint.sources mode).writes_only incoming _ name
        hname).trans ?_
      cases mode with
      | passthrough => rfl
      | normalize => exact hplain name fun hmem => hname (by simp [writtenHeaders, hmem])

/-! ## The credentials -/

theorem getAll_insertHeader_self (headers : HeaderMap) {name value : String}
    (hnone : headers.getAll name = []) :
    (insertHeader headers name value).getAll name = (HeaderValue.fromStr value).toList := by
  unfold insertHeader
  cases HeaderValue.fromStr value with
  | none => exact hnone
  | some value => exact getAll_insert_self

theorem getAll_insertHeader_of_ne (headers : HeaderMap) {name name' value : String}
    (hname : name' ≠ name) : (insertHeader headers name value).getAll name' =
      headers.getAll name' := by
  unfold insertHeader
  split
  · exact getAll_insert_of_ne hname.symm
  · rfl

/-- The credentials are added to headers that hold none. -/
theorem getAll_withCredentials {headers : HeaderMap} {names : List String}
    (hheaders : ∀ name ∉ names, headers.getAll name = [])
    (hauth : "authorization" ∉ names) (haccount : "chatgpt-account-id" ∉ names) {name : String}
    (hname : name ∉ names) :
    (addAuthHeaders account headers).getAll name = credentials account name := by
  have hdistinct : "chatgpt-account-id" ≠ "authorization" := by decide
  unfold addAuthHeaders credentials
  dsimp only
  split_ifs with hisAuth hisAccount
  · subst hisAuth
    cases account.chatgptAccountId with
    | none => exact getAll_insertHeader_self _ (hheaders _ hauth)
    | some accountId =>
      rw [getAll_insertHeader_of_ne _ hdistinct.symm]
      exact getAll_insertHeader_self _ (hheaders _ hauth)
  · subst hisAccount
    have hnone : (insertHeader headers "authorization"
        ("Bearer " ++ account.accessToken)).getAll "chatgpt-account-id" = [] := by
      rw [getAll_insertHeader_of_ne _ hdistinct]
      exact hheaders _ haccount
    cases account.chatgptAccountId with
    | none => exact hnone
    | some accountId => exact getAll_insertHeader_self _ hnone
  · cases account.chatgptAccountId with
    | none =>
      rw [getAll_insertHeader_of_ne _ hisAuth]
      exact hheaders name hname
    | some accountId =>
      rw [getAll_insertHeader_of_ne _ hisAccount, getAll_insertHeader_of_ne _ hisAuth]
      exact hheaders name hname

theorem credentials_not_written (endpoint : Endpoint) :
    "authorization" ∉ writtenHeaders mode endpoint ∧
      "chatgpt-account-id" ∉ writtenHeaders mode endpoint := by
  rcases endpoint with _ | _ | _ | _ | _ <;> cases mode <;> decide

/-! ## The requests -/

/-- An override of the session source is the same edit of whatever headers a request has. -/
theorem exists_override (sources : SessionSources) (body : Json) :
    (∃ error, ∀ headers, applyBodyGatewayOverrides sources headers body = .error error) ∨
    ∃ (edit : HeaderMap → HeaderMap) (body' : Json),
      (∀ headers, applyBodyGatewayOverrides sources headers body = .ok (edit headers, body')) ∧
      ∀ names headers headers', AgreeOn names headers headers' →
        AgreeOn names (edit headers) (edit headers') := by
  have hkeep : ∀ names headers headers', AgreeOn names headers headers' →
      AgreeOn names headers headers' := fun _ _ _ h => h
  cases body with
  | object object =>
    simp only [applyBodyGatewayOverrides]
    split
    · exact .inr ⟨id, _, fun _ => rfl, hkeep⟩
    · exact .inr ⟨id, _, fun _ => rfl, hkeep⟩
    · split
      · exact .inr ⟨id, _, fun _ => rfl, hkeep⟩
      next sessionSource hsource =>
        by_cases hnull : sessionSource = .null
        · subst hnull
          exact .inr ⟨fun headers => headers.remove "x-codex-session-source", _, fun _ => rfl,
            fun _ _ _ h => h.remove _⟩
        · have hoverride (headers : HeaderMap) :
              applySessionSourceOverride sources headers sessionSource =
                (sources.reencode sessionSource).map
                  (insertHeader headers "x-codex-session-source") := by
            cases sessionSource with
            | null => exact absurd rfl hnull
            | _ => rfl
          simp only [hoverride]
          cases sources.reencode sessionSource with
          | error error => exact .inl ⟨error, fun _ => rfl⟩
          | ok text =>
            refine .inr ⟨fun headers => insertHeader headers "x-codex-session-source" text, _,
              fun _ => rfl, fun names headers headers' h => ?_⟩
            unfold insertHeader
            split
            · exact h.insert _ _
            · exact h
    · exact .inl ⟨_, fun _ => rfl⟩
  | _ => exact .inr ⟨id, _, fun _ => rfl, hkeep⟩

/-- What is made of a request after an override reads no more of its headers than before. -/
theorem prepared_agree {α : Type} (sources : SessionSources) (body : Json) {names : List String}
    {headers headers' : HeaderMap} {make : HeaderMap × Json → α}
    (h : AgreeOn names headers headers')
    (hmake : ∀ incoming incoming' body, AgreeOn names incoming incoming' →
      make (incoming, body) = make (incoming', body)) :
    (applyBodyGatewayOverrides sources headers body).toOption.map make =
      (applyBodyGatewayOverrides sources headers' body).toOption.map make := by
  rcases exists_override sources body with ⟨error, herror⟩ | ⟨edit, body', hedit, hagrees⟩
  · rw [herror, herror]
  · rw [hedit, hedit]
    exact congrArg some (hmake _ _ body' (hagrees names headers headers' h))

/-- What is sent has the headers of its endpoint, made of the caller's after an override, and
those of a streaming request. -/
theorem exists_extraHeaders {snapshot : Option ModelsSnapshot} {request : ClientRequest}
    {endpoint : Endpoint} {sent : UpstreamCall}
    (h : callUpstream libs fingerprint mode snapshot account request endpoint = some sent) :
    ∃ incoming, ∀ name ∉ writtenHeaders mode endpoint, sent.headers.getAll name =
      (addAuthHeaders account
        (extraHeaders libs mode fingerprint account incoming endpoint)).getAll name := by
  cases endpoint with
  | models =>
    obtain rfl := Option.some.inj h
    exact ⟨request.headers, fun _ _ => rfl⟩
  | traceSummarize =>
    obtain ⟨body, -, hprepared⟩ := Option.bind_eq_some_iff.mp h
    obtain ⟨prepared, -, rfl⟩ := Option.map_eq_some_iff.mp hprepared
    exact ⟨prepared.1, fun _ _ => rfl⟩
  | response surface =>
    obtain ⟨sent, hsend, rfl⟩ := Option.map_eq_some_iff.mp h
    cases surface with
    | responses =>
      obtain ⟨prepared, -, rfl⟩ := Option.map_eq_some_iff.mp hsend
      refine ⟨prepared.1, fun name hname => ?_⟩
      have haccept : name ≠ "accept" := fun h => hname (h ▸ List.mem_cons_self)
      unfold postResponses
      split
      · change (configureResponsesStreamRequest _).getAll name = _
        exact getAll_insertHeader_of_ne _ haccept
      · rfl
    | compact =>
      obtain ⟨prepared, -, rfl⟩ := Option.map_eq_some_iff.mp hsend
      exact ⟨prepared.1, fun _ _ => rfl⟩
    | websocketCreate =>
      obtain ⟨original, -, hcreate⟩ := Option.bind_eq_some_iff.mp hsend
      split at hcreate
      · obtain rfl := Option.some.inj hcreate
        exact ⟨request.headers, fun _ _ => rfl⟩
      · cases hcreate

theorem postResponses_agree {incoming incoming' : HeaderMap}
    (h : AgreeOn (readHeaders mode (.response .responses)) incoming incoming') (body : Json) :
    postResponses libs fingerprint mode account incoming body =
      postResponses libs fingerprint mode account incoming' body := by
  have hextra : buildResponsesExtraHeaders libs fingerprint.sources incoming mode =
      buildResponsesExtraHeaders libs fingerprint.sources incoming' mode :=
    extraHeaders_agree libs mode account h
  unfold postResponses streamJson postResponsesJson
  rw [hextra]

theorem callUpstream_agree (snapshot : Option ModelsSnapshot) {request request' : ClientRequest}
    {endpoint : Endpoint}
    (hbody : normalizedBody libs fingerprint mode snapshot account request endpoint =
      normalizedBody libs fingerprint mode snapshot account request' endpoint)
    (h : AgreeOn (readHeaders mode endpoint) request.headers request'.headers) :
    callUpstream libs fingerprint mode snapshot account request endpoint =
      callUpstream libs fingerprint mode snapshot account request' endpoint := by
  have hextra {incoming incoming' : HeaderMap}
      (hagree : AgreeOn (readHeaders mode endpoint) incoming incoming') :=
    congrArg (addAuthHeaders account)
      (@extraHeaders_agree libs mode fingerprint account incoming incoming' endpoint hagree)
  cases endpoint with
  | models => exact congrArg some (UpstreamCall.mk.injEq .. |>.mpr ⟨hextra h, rfl⟩)
  | traceSummarize =>
    have htext : libs.fromStr request.text = libs.fromStr request'.text := hbody
    simp only [callUpstream, postTraceSummarize, htext]
    cases libs.fromStr request'.text with
    | none => rfl
    | some body =>
      exact prepared_agree fingerprint.sources body h fun _ _ body hagree =>
        UpstreamCall.mk.injEq .. |>.mpr ⟨hextra hagree, rfl⟩
  | response surface =>
    have hsend : send libs fingerprint mode snapshot account request surface =
        send libs fingerprint mode snapshot account request' surface := by
      cases surface with
      | responses =>
        have hprepare (request : ClientRequest) :
            prepareResponsesRequest libs fingerprint mode snapshot request =
              (normalizedBody libs fingerprint mode snapshot account request
                (.response .responses)).bind fun body => (applyBodyGatewayOverrides
                  fingerprint.sources request.headers body).toOption := by
          rw [normalizedBody, Option.bind_map]
          rfl
        rw [send, send, hprepare, hprepare, hbody]
        cases normalizedBody libs fingerprint mode snapshot account request'
          (.response .responses) with
        | none => rfl
        | some body =>
          exact prepared_agree fingerprint.sources body h fun _ _ body hagree =>
            postResponses_agree libs mode account hagree body
      | compact =>
        have hprepare (request : ClientRequest) :
            prepareCompactRequest libs fingerprint mode snapshot request =
              (normalizedBody libs fingerprint mode snapshot account request
                (.response .compact)).bind fun body => (applyBodyGatewayOverrides
                  fingerprint.sources request.headers body).toOption := by
          rw [normalizedBody, Option.bind_map]
          rfl
        rw [send, send, hprepare, hprepare, hbody]
        cases normalizedBody libs fingerprint mode snapshot account request'
          (.response .compact) with
        | none => rfl
        | some body =>
          exact prepared_agree fingerprint.sources body h fun _ _ body hagree =>
            UpstreamRequest.mk.injEq .. |>.mpr ⟨hextra hagree, rfl⟩
      | websocketCreate =>
        have hsent (request : ClientRequest) :
            send libs fingerprint mode snapshot account request .websocketCreate =
              (normalizedBody libs fingerprint mode snapshot account request
                (.response .websocketCreate)).map fun body => ⟨addAuthHeaders account
                  (buildResponsesWebsocketHeaders libs fingerprint request.headers mode),
                  body⟩ := by
          rw [send, normalizedBody, Option.map_bind]
          congr 1
          funext original
          simp only [Function.comp_apply]
          split <;> rfl
        have hheaders : addAuthHeaders account
            (buildResponsesWebsocketHeaders libs fingerprint request.headers mode) =
          addAuthHeaders account
            (buildResponsesWebsocketHeaders libs fingerprint request'.headers mode) := hextra h
        rw [hsent, hsent, hbody, hheaders]
    simp only [callUpstream, hsend]

/-- On every endpoint and in both modes: two requests that agree on the headers of the list, and
whose bodies are normalized alike, lead to the same request upstream, and what is sent has no
header but those of the list and the credentials, which are the account's and nobody else's. -/
theorem caller_headers_confined (libs : Libraries) {fingerprint : Fingerprint}
    (hplain : fingerprint.Plain) (mode : FingerprintMode) (snapshot : Option ModelsSnapshot)
    (account : UpstreamAccount) (endpoint : Endpoint) :
    (∀ request request' : ClientRequest,
      normalizedBody libs fingerprint mode snapshot account request endpoint =
        normalizedBody libs fingerprint mode snapshot account request' endpoint →
      AgreeOn (readHeaders mode endpoint) request.headers request'.headers →
      callUpstream libs fingerprint mode snapshot account request endpoint =
        callUpstream libs fingerprint mode snapshot account request' endpoint) ∧
    ∀ request sent, callUpstream libs fingerprint mode snapshot account request endpoint =
        some sent →
      ∀ name ∉ writtenHeaders mode endpoint,
        sent.headers.getAll name = credentials account name := by
  refine ⟨fun request request' hbody hagree =>
    callUpstream_agree libs mode account snapshot hbody hagree,
    fun request sent hsent name hname => ?_⟩
  obtain ⟨incoming, hheaders⟩ := exists_extraHeaders libs mode account hsent
  obtain ⟨hauth, haccount⟩ := credentials_not_written mode endpoint
  rw [hheaders name hname]
  exact getAll_withCredentials account
    (fun name hname => extraHeaders_written libs mode account hplain incoming hname)
    hauth haccount hname

/-- A gateway that calls itself Codex. -/
def codexFingerprint : Fingerprint where
  stableInstallationId accountId := "installation-of-" ++ accountId
  codexHeaders := insertHeader [] "originator" "codex_cli_rs"
  codexHeaders_installationId := rfl
  sources := ⟨fun _ => none, fun _ => .error "not a session source"⟩

def chatgptAccount : UpstreamAccount where
  accessToken := "at_a"
  chatgptAccountId := some "chatgpt_a"

def filledBody : Fields :=
  [("instructions", .string ""), ("store", .bool false), ("parallel_tool_calls", .bool true)]

def filledText : String := String.ofList (Json.object filledBody).compact

/-- Codex, which fills in its body, with a key and a cookie of its own. -/
def codexCaller : ClientRequest where
  headers := [("authorization", ⟨utf8Bytes "Bearer sk-caller", by decide⟩),
    ("cookie", ⟨utf8Bytes "session=caller", by decide⟩),
    ("originator", ⟨utf8Bytes "codex_cli_rs", by decide⟩),
    ("session_id", ⟨utf8Bytes "s1", by decide⟩)]
  text := filledText

/-- Another client of the same session. -/
def plainCaller : ClientRequest where
  headers := [("session_id", ⟨utf8Bytes "s1", by decide⟩)]
  text := "\x7b\x7d"

/-- The two callers are not told apart upstream, and `a` is who pays. -/
theorem caller_headers_confined_key :
    let libs : Libraries := .ofTexts [(filledText, .object filledBody), ("\x7b\x7d", .object [])]
    let call (request : ClientRequest) := callUpstream libs codexFingerprint .normalize none
      chatgptAccount request (.response .responses)
    call codexCaller = call plainCaller ∧ ∀ sent, call codexCaller = some sent →
      sent.headers.getAll "authorization" = (HeaderValue.fromStr "Bearer at_a").toList ∧
        sent.headers.getAll "cookie" = [] := by
  intro libs call
  have hplain : codexFingerprint.Plain := by
    intro name hname
    have horiginator : "originator" ≠ name := fun h => hname (h ▸ by decide)
    exact (getAll_insertHeader_of_ne [] horiginator.symm :
      (insertHeader [] "originator" "codex_cli_rs").getAll name = getAll [] name)
  obtain ⟨hagree, hsent⟩ := caller_headers_confined libs hplain .normalize none chatgptAccount
    (.response .responses)
  have hfilled : libs.fromStr filledText = some (.object filledBody) := by
    simp only [libs, Libraries.ofTexts, List.lookup_cons, beq_self_eq_true]
  have hempty : libs.fromStr "\x7b\x7d" = some (.object []) := by
    have hother : ("\x7b\x7d" == filledText) = false := by decide +kernel
    simp only [libs, Libraries.ofTexts, List.lookup_cons, hother, beq_self_eq_true]
  have hshape : (responseShapeForHeaders codexCaller.headers == .codex) = true := by decide +kernel
  have hshape' : (responseShapeForHeaders plainCaller.headers == .codex) = false := by
    decide +kernel
  have hlisted : AgreeOn (readHeaders .normalize (.response .responses)) codexCaller.headers
      plainCaller.headers := by
    unfold AgreeOn
    decide +kernel
  refine ⟨hagree _ _ ?_ hlisted, fun sent h =>
    ⟨hsent codexCaller sent h "authorization" (by decide),
      hsent codexCaller sent h "cookie" (by decide)⟩⟩
  simp only [normalizedBody, codexCaller, plainCaller, hfilled, hempty, Option.map_some]
  simp only [codexCaller] at hshape
  simp only [plainCaller] at hshape'
  rw [hshape, hshape']
  rfl

end Codaze.Upstream
