import Codaze.Upstream.InstallationId
import Codaze.Upstream.NormalizationEquality

/-!
# Isolation of the installation id

Two requests of a client that differ only in the installation id it supplies, and what is
sent upstream for them. The id is overwritten in a header and in `client_metadata`, each on
some of the paths only.
-/
namespace Codaze.Upstream
open Foundation Accounts Responses

/-! ## The headers -/

section headers

variable {headers : HeaderMap} {name : String}

theorem insertHeader_remove (value : String) (hname : name ≠ installationIdHeader) :
    insertHeader (headers.remove installationIdHeader) name value =
      (insertHeader headers name value).remove installationIdHeader := by
  unfold insertHeader
  split
  · exact HeaderMap.insert_remove_of_ne hname
  · rfl

theorem getAll_insertHeader (value : String) (hname : name ≠ installationIdHeader) :
    (insertHeader headers name value).getAll installationIdHeader =
      headers.getAll installationIdHeader := by
  unfold insertHeader
  split
  · exact HeaderMap.getAll_insert_of_ne hname
  · rfl

theorem foldl_copyIfPresent_remove (source dest : HeaderMap) (names : List String)
    (hnames : installationIdHeader ∉ names) :
    names.foldl (copyIfPresent (source.remove installationIdHeader)) dest =
      names.foldl (copyIfPresent source) dest := by
  induction names generalizing dest with
  | nil => rfl
  | cons name names ih =>
    have hname : name ≠ installationIdHeader := fun h => hnames (h ▸ List.mem_cons_self)
    have hcopied : copyIfPresent (source.remove installationIdHeader) dest name =
        copyIfPresent source dest name := by
      simp only [copyIfPresent, HeaderMap.getAll_remove_of_ne hname]
    simp only [List.foldl_cons, hcopied]
    exact ih _ fun h => hnames (List.mem_cons_of_mem _ h)

theorem getAll_foldl_copyIfPresent (source dest : HeaderMap) (names : List String)
    (hnames : installationIdHeader ∉ names) :
    HeaderMap.getAll (names.foldl (copyIfPresent source) dest) installationIdHeader =
      dest.getAll installationIdHeader := by
  induction names generalizing dest with
  | nil => rfl
  | cons name names ih =>
    have hname : name ≠ installationIdHeader := fun h => hnames (h ▸ List.mem_cons_self)
    have hcopied : (copyIfPresent source dest name).getAll installationIdHeader =
        dest.getAll installationIdHeader := by
      have hnone : HeaderMap.getAll ((source.getAll name).map fun value => (name, value))
          installationIdHeader = [] := by
        simp [HeaderMap.getAll, List.filter_map, Function.comp_def, hname]
      rw [copyIfPresent, HeaderMap.getAll_append, hnone]
      exact List.append_nil _
    rw [List.foldl_cons, ih _ fun h => hnames (List.mem_cons_of_mem _ h), hcopied]

variable (libs : Libraries) (sources : SessionSources)

theorem parseSessionSourceHeader_remove (source : HeaderMap) :
    parseSessionSourceHeader sources (source.remove installationIdHeader) =
      parseSessionSourceHeader sources source := by
  have hname : "x-codex-session-source" ≠ installationIdHeader := by decide
  simp only [parseSessionSourceHeader, HeaderMap.get_remove_of_ne hname]

theorem maybeInsertFromSessionSource_remove (source dest : HeaderMap) (mode : FingerprintMode)
    (name : String) (value : SessionSource → Option String) :
    maybeInsertFromSessionSource sources (source.remove installationIdHeader) mode name value
        dest =
      maybeInsertFromSessionSource sources source mode name value dest := by
  unfold maybeInsertFromSessionSource
  rw [parseSessionSourceHeader_remove]

theorem identity_remove (source dest : HeaderMap) (mode : FingerprintMode) :
    extendResponsesIdentityHeaders sources (source.remove installationIdHeader) mode dest =
      extendResponsesIdentityHeaders sources source mode dest := by
  have hcopied := foldl_copyIfPresent_remove source dest
    ["x-codex-window-id", "x-codex-parent-thread-id", "x-openai-subagent"] (by decide)
  simp only [extendResponsesIdentityHeaders, hcopied, maybeInsertFromSessionSource_remove]

theorem sessionId_remove (source dest : HeaderMap) (mode : FingerprintMode) :
    maybeCopySessionIdToClientRequestId (source.remove installationIdHeader) mode dest =
      maybeCopySessionIdToClientRequestId source mode dest := by
  have hname : "session_id" ≠ installationIdHeader := by decide
  simp only [maybeCopySessionIdToClientRequestId, HeaderMap.get_remove_of_ne hname]

theorem responsesHeaders_remove (incoming : HeaderMap) :
    responsesHeaders libs sources (incoming.remove installationIdHeader) .normalize =
      responsesHeaders libs sources incoming .normalize := by
  have hcontext := foldl_copyIfPresent_remove incoming [] ["session_id", "x-client-request-id",
    "x-codex-beta-features", "x-codex-turn-state", turnMetadataHeader,
    "x-responsesapi-include-timing-metrics", "traceparent", "tracestate"] (by decide)
  simp only [responsesHeaders, extendFingerprintHeaders, extendResponsesContextHeaders, hcontext,
    identity_remove]

theorem getAll_maybeInsertFromSessionSource (source dest : HeaderMap) (mode : FingerprintMode)
    (value : SessionSource → Option String) (hname : name ≠ installationIdHeader) :
    (maybeInsertFromSessionSource sources source mode name value dest).getAll
        installationIdHeader = dest.getAll installationIdHeader := by
  unfold maybeInsertFromSessionSource
  split
  · rfl
  · split
    · exact getAll_insertHeader _ hname
    · rfl

theorem getAll_identity (source dest : HeaderMap) (mode : FingerprintMode) :
    (extendResponsesIdentityHeaders sources source mode dest).getAll installationIdHeader =
      dest.getAll installationIdHeader := by
  rw [extendResponsesIdentityHeaders, getAll_maybeInsertFromSessionSource _ _ _ _ _ (by decide),
    getAll_maybeInsertFromSessionSource _ _ _ _ _ (by decide),
    getAll_foldl_copyIfPresent _ _ _ (by decide)]

theorem getAll_turnMetadata (headers : HeaderMap) (mode : FingerprintMode) :
    (maybeNormalizeTurnMetadataHeader libs mode headers).getAll installationIdHeader =
      headers.getAll installationIdHeader := by
  cases mode with
  | passthrough => rfl
  | normalize =>
    simp only [maybeNormalizeTurnMetadataHeader]
    split
    · exact getAll_insertHeader _ (by decide)
    · rfl

theorem getAll_sessionId (source dest : HeaderMap) (mode : FingerprintMode) :
    (maybeCopySessionIdToClientRequestId source mode dest).getAll installationIdHeader =
      dest.getAll installationIdHeader := by
  unfold maybeCopySessionIdToClientRequestId
  split
  · rfl
  · split
    · exact getAll_insertHeader _ (by decide)
    · rfl

theorem getAll_responsesHeaders (incoming : HeaderMap) :
    (responsesHeaders libs sources incoming .normalize).getAll installationIdHeader = [] := by
  rw [responsesHeaders, getAll_turnMetadata, getAll_identity, extendResponsesContextHeaders,
    getAll_foldl_copyIfPresent _ _ _ (by decide)]
  rfl

theorem getAll_addAuthHeaders (account : UpstreamAccount) (headers : HeaderMap) :
    (addAuthHeaders account headers).getAll installationIdHeader =
      headers.getAll installationIdHeader := by
  unfold addAuthHeaders
  split
  · rw [getAll_insertHeader _ (by decide), getAll_insertHeader _ (by decide)]
  · rw [getAll_insertHeader _ (by decide)]

theorem websocketHeaders_remove (fingerprint : Fingerprint) (incoming : HeaderMap) :
    buildResponsesWebsocketHeaders libs fingerprint (incoming.remove installationIdHeader)
        .normalize =
      buildResponsesWebsocketHeaders libs fingerprint incoming .normalize := by
  have hcopied (dest : HeaderMap) := foldl_copyIfPresent_remove incoming dest
    ["session_id", "x-client-request-id", "x-codex-beta-features", "x-codex-turn-state",
      turnMetadataHeader] (by decide)
  have htraced (dest : HeaderMap) := foldl_copyIfPresent_remove incoming dest
    ["x-responsesapi-include-timing-metrics", "traceparent", "tracestate"] (by decide)
  simp only [buildResponsesWebsocketHeaders, hcopied, htraced, identity_remove, sessionId_remove,
    extendFingerprintHeaders]

theorem getAll_websocketHeaders (fingerprint : Fingerprint) (incoming : HeaderMap) :
    (buildResponsesWebsocketHeaders libs fingerprint incoming .normalize).getAll
      installationIdHeader = [] := by
  simp only [buildResponsesWebsocketHeaders, extendFingerprintHeaders]
  rw [getAll_insertHeader _ (by decide), getAll_sessionId,
    getAll_foldl_copyIfPresent _ _ _ (by decide), getAll_turnMetadata, getAll_identity,
    getAll_foldl_copyIfPresent _ _ _ (by decide)]
  exact fingerprint.codexHeaders_installationId

end headers

/-! ## Two requests and what is sent for them -/

/-- The requests are the same once the installation id is taken out of both. -/
structure ClientRequest.DifferInInstallationId (libs : Libraries)
    (request request' : ClientRequest) : Prop where
  headers : request.headers.remove installationIdHeader =
    request'.headers.remove installationIdHeader
  body : (libs.fromStr request.text).map withoutInstallationId =
    (libs.fromStr request'.text).map withoutInstallationId

/-- The id in the body of a client's request. -/
def ClientRequest.suppliedId? (libs : Libraries) (request : ClientRequest) : Option Json :=
  (libs.fromStr request.text).bind installationId?

structure UpstreamRequest.Same (sent sent' : UpstreamRequest) : Prop where
  headers : sent.headers = sent'.headers
  body : SameBody sent.body sent'.body

/-- An id in a body is the account's own. -/
def OwnId (own : Option String) (value : Option Json) : Prop :=
  ∀ json, value = some json → ∃ installationId, own = some installationId ∧
    json = .string installationId

/-- The ids a request carries, in its headers and in its body, are the account's own. -/
structure UpstreamRequest.CarriesOnly (own : Option String) (sent : UpstreamRequest) : Prop where
  headers : ∀ value ∈ sent.headers.getAll installationIdHeader,
    ∃ installationId, own = some installationId ∧ HeaderValue.fromStr installationId = some value
  body : OwnId own (installationId? sent.body)

/-- What is sent is the same for both requests and names no installation but the account's. -/
structure Isolated (own : Option String) (sent sent' : UpstreamRequest) : Prop where
  same : sent.Same sent'
  left : sent.CarriesOnly own
  right : sent'.CarriesOnly own

/-- Whether the body's id is replaced by the one derived from the account. -/
def Surface.overwritesBody (account : UpstreamAccount) : Surface → Bool
  | .responses | .websocketCreate => account.chatgptAccountId.isSome
  | .compact => false

section pair

variable {own : Option String} {headers : HeaderMap} {body body' : Json}

theorem isolated_overwritten {installationId : String} (hown : own = some installationId)
    (hheaders : ∀ value ∈ headers.getAll installationIdHeader,
      ∃ installationId, own = some installationId ∧ HeaderValue.fromStr installationId = some value)
    (hsame : withoutInstallationId body = withoutInstallationId body') :
    Isolated own ⟨headers, applyClientMetadataInstallationId installationId body⟩
      ⟨headers, applyClientMetadataInstallationId installationId body'⟩ := by
  have hid (body : Json) :
      OwnId own (installationId? (applyClientMetadataInstallationId installationId body)) := by
    intro json hjson
    rw [installationId?_overwritten] at hjson
    obtain ⟨-, -, rfl⟩ := Option.map_eq_some_iff.mp hjson
    exact ⟨installationId, hown, rfl⟩
  exact ⟨⟨rfl, sameBody_overwritten installationId hsame⟩, ⟨hheaders, hid body⟩,
    ⟨hheaders, hid body'⟩⟩

theorem isolated_kept
    (hheaders : ∀ value ∈ headers.getAll installationIdHeader,
      ∃ installationId, own = some installationId ∧ HeaderValue.fromStr installationId = some value)
    (hsame : withoutInstallationId body = withoutInstallationId body') :
    Isolated own ⟨headers, body⟩ ⟨headers, body'⟩ ↔
      installationId? body = installationId? body' ∧ OwnId own (installationId? body) := by
  constructor
  · rintro ⟨⟨-, hbody⟩, hleft, -⟩
    exact ⟨hbody.2, hleft.body⟩
  · rintro ⟨hid, howned⟩
    refine ⟨⟨rfl, ⟨hsame, hid⟩⟩, ⟨hheaders, howned⟩, ⟨hheaders, ?_⟩⟩
    have howned' : OwnId own (installationId? body') := hid ▸ howned
    exact howned'

end pair

/-! ## From the client to the account -/

section prepared

variable (libs : Libraries) (fingerprint : Fingerprint) (snapshot : Option ModelsSnapshot)

/-- A prepared request without the client's id. -/
def withoutIds (prepared : HeaderMap × Json) : HeaderMap × Json :=
  (prepared.1.remove installationIdHeader, withoutInstallationId prepared.2)

/-- The overrides see nothing of the id. -/
theorem overrides_withoutIds (sources : SessionSources) (headers : HeaderMap) (body : Json) :
    (applyBodyGatewayOverrides sources headers body).toOption.map withoutIds =
      (applyBodyGatewayOverrides sources (headers.remove installationIdHeader)
        (withoutInstallationId body)).toOption := by
  cases hbody : body.asObject? with
  | none =>
    rw [withoutInstallationId_of_other hbody]
    cases body with
    | object => cases hbody
    | _ => rfl
  | some object =>
    obtain rfl := Json.eq_object_of_asObject? hbody
    have hget : Fields.get? (object.map (Fields.onKey "client_metadata" withoutMetadataId))
        "_gateway" = Fields.get? object "_gateway" :=
      Fields.get?_map_onKey_of_ne _ (by decide)
    have hremove : Fields.remove (object.map (Fields.onKey "client_metadata" withoutMetadataId))
        "_gateway" = (Fields.remove object "_gateway").map
          (Fields.onKey "client_metadata" withoutMetadataId) := Fields.remove_map_onKey _
    have hsession (sessionSource : Json) :
        (applySessionSourceOverride sources headers sessionSource).map
            (fun headers => headers.remove installationIdHeader) =
          applySessionSourceOverride sources (headers.remove installationIdHeader)
            sessionSource := by
      have hinsert (value : String) :
          insertHeader (headers.remove installationIdHeader) "x-codex-session-source" value =
            (insertHeader headers "x-codex-session-source" value).remove installationIdHeader :=
        insertHeader_remove value (by decide)
      cases sessionSource with
      | null => exact congrArg Except.ok (HeaderMap.remove_remove_comm ..)
      | _ =>
        simp only [applySessionSourceOverride]
        cases sources.reencode _ with
        | error => rfl
        | ok value => exact congrArg Except.ok (hinsert value).symm
    simp only [applyBodyGatewayOverrides, withoutInstallationId, hget, hremove]
    split
    · rfl
    · rfl
    · split
      · rfl
      · next sessionSource hsource =>
        rw [← hsession sessionSource]
        cases applySessionSourceOverride sources headers sessionSource <;> rfl
    · rfl

/-- They leave the id where it is. -/
theorem installationId?_overrides {sources : SessionSources} {headers : HeaderMap} {body : Json}
    {prepared : HeaderMap × Json}
    (h : (applyBodyGatewayOverrides sources headers body).toOption = some prepared) :
    installationId? prepared.2 = installationId? body := by
  have hremoved (object : Fields) :
      installationId? (.object (object.remove "_gateway")) = installationId? (.object object) := by
    have hget : (Json.object (object.remove "_gateway")).get? "client_metadata" =
      (Json.object object).get? "client_metadata" := Fields.get?_remove_of_ne (by decide)
    simp only [installationId?, Json.getPath?, hget]
  cases hbody : body.asObject? with
  | none =>
    cases body with
    | object => cases hbody
    | _ =>
      obtain rfl := Option.some.inj h
      rfl
  | some object =>
    obtain rfl := Json.eq_object_of_asObject? hbody
    simp only [applyBodyGatewayOverrides] at h
    split at h
    · obtain rfl := Option.some.inj h
      exact hremoved object
    · obtain rfl := Option.some.inj h
      exact hremoved object
    · split at h
      · obtain rfl := Option.some.inj h
        exact hremoved object
      · next sessionSource hsource =>
        cases hsession : applySessionSourceOverride sources headers sessionSource with
        | error => simp [hsession, Except.map, Except.toOption] at h
        | ok headers' =>
          rw [hsession] at h
          obtain rfl := Option.some.inj h
          exact hremoved object
    · cases h

/-- The shape of the response is chosen by another header. -/
theorem responseShape_remove (headers : HeaderMap) :
    responseShapeForHeaders (headers.remove installationIdHeader) =
      responseShapeForHeaders headers := by
  have hname : "originator" ≠ installationIdHeader := by decide
  simp only [responseShapeForHeaders, HeaderMap.get_remove_of_ne hname]

/-- A request that was read, normalized by a step blind to the id and overridden. -/
def prepare (step : Bool → Json → Json) (request : ClientRequest) : Option (HeaderMap × Json) :=
  (libs.fromStr request.text).bind fun body =>
    (applyBodyGatewayOverrides fingerprint.sources request.headers
      (step (responseShapeForHeaders request.headers == .codex) body)).toOption

variable {libs fingerprint} {step : Bool → Json → Json} {request request' : ClientRequest}

theorem prepare_related (hstep : ∀ codexOriginator, Blind (step codexOriginator))
    (hdiffer : request.DifferInInstallationId libs request') :
    (prepare libs fingerprint step request).map withoutIds =
      (prepare libs fingerprint step request').map withoutIds := by
  have hprepare (request : ClientRequest) : (prepare libs fingerprint step request).map withoutIds =
      ((libs.fromStr request.text).map withoutInstallationId).bind fun body =>
        (applyBodyGatewayOverrides fingerprint.sources
          (request.headers.remove installationIdHeader)
          (step (responseShapeForHeaders (request.headers.remove installationIdHeader) ==
            .codex) body)).toOption := by
    rw [prepare, Option.map_bind, Option.bind_map]
    congr 1
    funext body
    simp only [Function.comp_apply]
    rw [overrides_withoutIds, (hstep _).commutes, responseShape_remove]
  rw [hprepare, hprepare, hdiffer.headers, hdiffer.body]

theorem prepare_keeps (hstep : ∀ codexOriginator, Blind (step codexOriginator))
    {prepared : HeaderMap × Json} (h : prepare libs fingerprint step request = some prepared) :
    installationId? prepared.2 = request.suppliedId? libs := by
  obtain ⟨body, hbody, hprepared⟩ := Option.bind_eq_some_iff.mp h
  rw [installationId?_overrides hprepared, (hstep _).keeps, ClientRequest.suppliedId?, hbody]
  rfl

end prepared

/-- What a surface makes of a prepared body. -/
def Surface.finish (own : Option String) : Surface → Json → Json
  | .responses | .websocketCreate => applyResponsesInstallationId own .normalize
  | .compact => fun body => body

/-- What is sent for a request, up to the id: headers that name no installation but the
account's, and a body that still has the id the client supplied. -/
structure SentAs (libs : Libraries) (own : Option String) (surface : Surface)
    (request : ClientRequest) (headers : HeaderMap) (body : Json) (sent : UpstreamRequest) :
    Prop where
  eq : sent = ⟨headers, surface.finish own body⟩
  carries : ∀ value ∈ headers.getAll installationIdHeader,
    ∃ installationId, own = some installationId ∧ HeaderValue.fromStr installationId = some value
  supplied : installationId? body = request.suppliedId? libs

section sent

variable {libs : Libraries} {fingerprint : Fingerprint} {snapshot : Option ModelsSnapshot}
  {account : UpstreamAccount} {surface : Surface} {own : Option String}
  {request request' : ClientRequest} {sent sent' : UpstreamRequest}

theorem buildResponsesExtraHeaders_remove (sources : SessionSources) (incoming : HeaderMap) :
    buildResponsesExtraHeaders libs sources (incoming.remove installationIdHeader) .normalize =
      buildResponsesExtraHeaders libs sources incoming .normalize := by
  simp only [buildResponsesExtraHeaders, sessionId_remove, responsesHeaders_remove]

theorem buildCompactExtraHeaders_remove (sources : SessionSources) (incoming : HeaderMap) :
    buildCompactExtraHeaders libs sources (incoming.remove installationIdHeader) .normalize own =
      buildCompactExtraHeaders libs sources incoming .normalize own := by
  simp only [buildCompactExtraHeaders, sessionId_remove, responsesHeaders_remove]

/-- A request streams or not whatever id it carries. -/
theorem shouldStream_withoutInstallationId (body : Json) :
    shouldStreamResponsesRequest (withoutInstallationId body) =
      shouldStreamResponsesRequest body := by
  cases hbody : body.asObject? with
  | none => rw [withoutInstallationId_of_other hbody]
  | some object =>
    obtain rfl := Json.eq_object_of_asObject? hbody
    have hget : Fields.get? (object.map (Fields.onKey "client_metadata" withoutMetadataId))
        "stream" = Fields.get? object "stream" := Fields.get?_map_onKey_of_ne _ (by decide)
    have hstream : (withoutInstallationId (.object object)).get? "stream" =
        (Json.object object).get? "stream" := hget
    simp only [shouldStreamResponsesRequest, hstream]

/-- The headers of a `POST responses` of an account. -/
def responsesRequestHeaders (libs : Libraries) (fingerprint : Fingerprint)
    (account : UpstreamAccount) (streams : Bool) (incoming : HeaderMap) : HeaderMap :=
  let headers := addAuthHeaders account
    (buildResponsesExtraHeaders libs fingerprint.sources incoming .normalize)
  if streams then configureResponsesStreamRequest headers else headers

theorem sentAs_responses {prepared : HeaderMap × Json}
    (h : prepareResponsesRequest libs fingerprint .normalize snapshot request = some prepared) :
    SentAs libs (installationIdForAccount fingerprint account .normalize) .responses request
      (responsesRequestHeaders libs fingerprint account (shouldStreamResponsesRequest prepared.2)
        prepared.1)
      prepared.2 (postResponses libs fingerprint .normalize account prepared.1 prepared.2) := by
  have hnone (streams : Bool) : (responsesRequestHeaders libs fingerprint account streams
      prepared.1).getAll installationIdHeader = [] := by
    have hplain : (addAuthHeaders account (buildResponsesExtraHeaders libs fingerprint.sources
        prepared.1 .normalize)).getAll installationIdHeader = [] := by
      rw [getAll_addAuthHeaders, buildResponsesExtraHeaders, getAll_sessionId,
        getAll_responsesHeaders]
    have haccept : "accept" ≠ installationIdHeader := by decide
    cases streams with
    | true => exact (getAll_insertHeader "text/event-stream" haccept).trans hplain
    | false => exact hplain
  refine ⟨?_, fun value hvalue => ?_, ?_⟩
  · unfold postResponses responsesRequestHeaders
    split <;> rfl
  · rw [hnone] at hvalue
    cases hvalue
  · exact prepare_keeps (fun codexOriginator => .responsesBody codexOriginator snapshot) h

/-- The only installation `responses/compact` is given in a header. -/
theorem own_of_compactHeader {headers : HeaderMap} {value : HeaderValue}
    (hnone : headers.getAll installationIdHeader = [])
    (hvalue : value ∈ (applyCompactInstallationIdHeader own .normalize headers).getAll
      installationIdHeader) :
    ∃ installationId, own = some installationId ∧
      HeaderValue.fromStr installationId = some value := by
  cases own with
  | none =>
    simp only [applyCompactInstallationIdHeader, hnone] at hvalue
    cases hvalue
  | some installationId =>
    simp only [applyCompactInstallationIdHeader, insertHeader] at hvalue
    split at hvalue
    next own hvalid =>
      rw [HeaderMap.getAll_insert_self] at hvalue
      exact ⟨installationId, rfl, by rw [List.mem_singleton.mp hvalue, hvalid]⟩
    next =>
      rw [hnone] at hvalue
      cases hvalue

theorem sentAs_compact {prepared : HeaderMap × Json}
    (h : prepareCompactRequest libs fingerprint .normalize snapshot request = some prepared) :
    SentAs libs (installationIdForAccount fingerprint account .normalize) .compact request
      (addAuthHeaders account (buildCompactExtraHeaders libs fingerprint.sources prepared.1
        .normalize (installationIdForAccount fingerprint account .normalize)))
      prepared.2 (postCompact libs fingerprint .normalize account prepared.1 prepared.2) := by
  refine ⟨rfl, fun value hvalue => ?_, ?_⟩
  · simp only [getAll_addAuthHeaders, buildCompactExtraHeaders, getAll_sessionId] at hvalue
    exact own_of_compactHeader (getAll_responsesHeaders libs fingerprint.sources prepared.1) hvalue
  · exact prepare_keeps (fun codexOriginator => .compactBody codexOriginator snapshot) h

theorem sentAs_websocketCreate {original : Json} (h : libs.fromStr request.text = some original) :
    SentAs libs (installationIdForAccount fingerprint account .normalize) .websocketCreate request
      (addAuthHeaders account (buildResponsesWebsocketHeaders libs fingerprint request.headers
        .normalize))
      (applyClientMetadataUserThreadSource libs (normalizeResponsesRequestBody .normalize
        (responseShapeForHeaders request.headers == .codex) snapshot original))
      (sendResponseCreate libs fingerprint .normalize snapshot account request.headers
        original) := by
  have hblind := (Blind.responsesBody (responseShapeForHeaders request.headers == .codex)
    snapshot).comp (.userThreadSource libs)
  refine ⟨?_, fun value hvalue => ?_, ?_⟩
  · simp only [sendResponseCreate, sendResponseCreate_body, Surface.finish]
  · rw [getAll_addAuthHeaders, getAll_websocketHeaders] at hvalue
    cases hvalue
  · rw [hblind.keeps, ClientRequest.suppliedId?, h]
    rfl

/-- What is sent for two requests that differ in the id alone. -/
theorem send_related (hdiffer : request.DifferInInstallationId libs request')
    (hsent : send libs fingerprint .normalize snapshot account request surface = some sent)
    (hsent' : send libs fingerprint .normalize snapshot account request' surface = some sent') :
    ∃ headers body body', withoutInstallationId body = withoutInstallationId body' ∧
      SentAs libs (installationIdForAccount fingerprint account .normalize) surface request headers
        body sent ∧
      SentAs libs (installationIdForAccount fingerprint account .normalize) surface request'
        headers body' sent' := by
  cases surface with
  | responses =>
    obtain ⟨prepared, hprepared, rfl⟩ := Option.map_eq_some_iff.mp hsent
    obtain ⟨prepared', hprepared', rfl⟩ := Option.map_eq_some_iff.mp hsent'
    have hrelated : (prepareResponsesRequest libs fingerprint .normalize snapshot request).map
        withoutIds = (prepareResponsesRequest libs fingerprint .normalize snapshot request').map
          withoutIds :=
      prepare_related (fun codexOriginator => .responsesBody codexOriginator snapshot) hdiffer
    rw [hprepared, hprepared'] at hrelated
    have hpair := Option.some.inj hrelated
    have hheaders : prepared.1.remove installationIdHeader =
      prepared'.1.remove installationIdHeader := congrArg Prod.fst hpair
    have hbuilt : buildResponsesExtraHeaders libs fingerprint.sources prepared.1 .normalize =
        buildResponsesExtraHeaders libs fingerprint.sources prepared'.1 .normalize := by
      rw [← buildResponsesExtraHeaders_remove, hheaders, buildResponsesExtraHeaders_remove]
    have hstreams : shouldStreamResponsesRequest prepared.2 =
        shouldStreamResponsesRequest prepared'.2 := by
      have hbodies : withoutInstallationId prepared.2 = withoutInstallationId prepared'.2 :=
        congrArg Prod.snd hpair
      rw [← shouldStream_withoutInstallationId, hbodies, shouldStream_withoutInstallationId]
    refine ⟨_, _, _, congrArg Prod.snd hpair, sentAs_responses hprepared, ?_⟩
    rw [responsesRequestHeaders, hbuilt, hstreams]
    exact sentAs_responses hprepared'
  | compact =>
    obtain ⟨prepared, hprepared, rfl⟩ := Option.map_eq_some_iff.mp hsent
    obtain ⟨prepared', hprepared', rfl⟩ := Option.map_eq_some_iff.mp hsent'
    have hrelated : (prepareCompactRequest libs fingerprint .normalize snapshot request).map
        withoutIds = (prepareCompactRequest libs fingerprint .normalize snapshot request').map
          withoutIds :=
      prepare_related (fun codexOriginator => .compactBody codexOriginator snapshot) hdiffer
    rw [hprepared, hprepared'] at hrelated
    have hpair := Option.some.inj hrelated
    have hheaders : prepared.1.remove installationIdHeader =
      prepared'.1.remove installationIdHeader := congrArg Prod.fst hpair
    have hbuilt (own : Option String) :
        buildCompactExtraHeaders libs fingerprint.sources prepared.1 .normalize own =
          buildCompactExtraHeaders libs fingerprint.sources prepared'.1 .normalize own := by
      rw [← buildCompactExtraHeaders_remove, hheaders, buildCompactExtraHeaders_remove]
    refine ⟨_, _, _, congrArg Prod.snd hpair, sentAs_compact hprepared, ?_⟩
    rw [hbuilt]
    exact sentAs_compact hprepared'
  | websocketCreate =>
    obtain ⟨original, horiginal, hcreate⟩ := Option.bind_eq_some_iff.mp hsent
    obtain ⟨original', horiginal', hcreate'⟩ := Option.bind_eq_some_iff.mp hsent'
    simp only [Option.ite_none_right_eq_some, Option.some.injEq] at hcreate hcreate'
    obtain ⟨-, rfl⟩ := hcreate
    obtain ⟨-, rfl⟩ := hcreate'
    have hbody := hdiffer.body
    rw [horiginal, horiginal'] at hbody
    have hshape : responseShapeForHeaders request.headers =
        responseShapeForHeaders request'.headers := by
      rw [← responseShape_remove, hdiffer.headers, responseShape_remove]
    have hbuilt : buildResponsesWebsocketHeaders libs fingerprint request.headers .normalize =
        buildResponsesWebsocketHeaders libs fingerprint request'.headers .normalize := by
      rw [← websocketHeaders_remove, hdiffer.headers, websocketHeaders_remove]
    have hblind := (Blind.responsesBody (responseShapeForHeaders request.headers == .codex)
      snapshot).comp (.userThreadSource libs)
    have hright := @sentAs_websocketCreate libs fingerprint snapshot account request' original'
      horiginal'
    rw [← hbuilt, ← hshape] at hright
    refine ⟨_, _, _, ?_, sentAs_websocketCreate horiginal, hright⟩
    rw [hblind.commutes, hblind.commutes, Option.some.inj hbody]

end sent

/-- Both requests are sent or both are refused. -/
theorem isSome_send {libs : Libraries} {fingerprint : Fingerprint}
    {snapshot : Option ModelsSnapshot} {account : UpstreamAccount}
    {request request' : ClientRequest}
    (surface : Surface) (hdiffer : request.DifferInInstallationId libs request') :
    (send libs fingerprint .normalize snapshot account request surface).isSome =
      (send libs fingerprint .normalize snapshot account request' surface).isSome := by
  have hprepared {step : Bool → Json → Json} (hstep : ∀ codex, Blind (step codex)) :
      (prepare libs fingerprint step request).isSome =
        (prepare libs fingerprint step request').isSome := by
    have hrelated : (prepare libs fingerprint step request).map withoutIds =
        (prepare libs fingerprint step request').map withoutIds := prepare_related hstep hdiffer
    have hsome := congrArg Option.isSome hrelated
    rwa [Option.isSome_map, Option.isSome_map] at hsome
  cases surface with
  | responses =>
    simp only [send, Option.isSome_map]
    exact hprepared fun codex => .responsesBody codex snapshot
  | compact =>
    simp only [send, Option.isSome_map]
    exact hprepared fun codex => .compactBody codex snapshot
  | websocketCreate =>
    -- the type of the message is not in its metadata
    have htype (body : Json) : getStr? (withoutInstallationId body) "type" =
        getStr? body "type" := by
      cases hbody : body.asObject? with
      | none => rw [withoutInstallationId_of_other hbody]
      | some object =>
        obtain rfl := Json.eq_object_of_asObject? hbody
        have hget : (withoutInstallationId (.object object)).get? "type" =
          (Json.object object).get? "type" := Fields.get?_map_onKey_of_ne _ (by decide)
        simp only [getStr?, hget]
    have hcreates (request : ClientRequest) :
        (send libs fingerprint .normalize snapshot account request .websocketCreate).isSome =
          (((libs.fromStr request.text).map withoutInstallationId).any fun body =>
            getStr? body "type" == some "response.create") := by
      simp only [send]
      cases libs.fromStr request.text with
      | none => rfl
      | some body =>
        simp only [Option.bind_some, Option.map_some, Option.any_some, htype]
        split
        next h => simp [h]
        next h => simp [h]
    rw [hcreates, hcreates, hdiffer.body]

/-- In `normalize` mode, for two client requests that differ only in the installation id they
supply: either both are refused or both are sent, and then what is sent is the same and names
no installation but the account's if and only if the body's id is overwritten on this path for
this account, or both bodies supply the same id and it is none or the account's own. -/
theorem installation_id_isolated {libs : Libraries} (fingerprint : Fingerprint)
    (snapshot : Option ModelsSnapshot) (account : UpstreamAccount) (surface : Surface)
    {request request' : ClientRequest} (hdiffer : request.DifferInInstallationId libs request') :
    (send libs fingerprint .normalize snapshot account request surface).isSome =
        (send libs fingerprint .normalize snapshot account request' surface).isSome ∧
      ∀ sent sent',
        send libs fingerprint .normalize snapshot account request surface = some sent →
        send libs fingerprint .normalize snapshot account request' surface = some sent' →
        (Isolated (installationIdForAccount fingerprint account .normalize) sent sent' ↔
          surface.overwritesBody account = true ∨
            request.suppliedId? libs = request'.suppliedId? libs ∧
              OwnId (installationIdForAccount fingerprint account .normalize)
                (request.suppliedId? libs)) := by
  refine ⟨isSome_send surface hdiffer, fun sent sent' hsent hsent' => ?_⟩
  obtain ⟨headers, body, body', hsame, ⟨rfl, hheaders, hid⟩, rfl, -, hid'⟩ :=
    send_related hdiffer hsent hsent'
  rw [← hid, ← hid']
  by_cases hoverwrites : surface.overwritesBody account = true
  · have hid : ∃ installationId, installationIdForAccount fingerprint account .normalize =
        some installationId ∧ ∀ body, surface.finish (some installationId) body =
          applyClientMetadataInstallationId installationId body := by
      cases hown : account.chatgptAccountId with
      | none => cases surface <;> simp [Surface.overwritesBody, hown] at hoverwrites
      | some accountId =>
        refine ⟨fingerprint.stableInstallationId accountId,
          by simp only [installationIdForAccount, hown, Option.map_some], fun body => ?_⟩
        cases surface with
        | compact => cases hoverwrites
        | _ => rfl
    obtain ⟨installationId, hown, hfinish⟩ := hid
    simp only [hoverwrites, true_or, iff_true]
    rw [hown] at hheaders ⊢
    rw [hfinish, hfinish]
    exact isolated_overwritten rfl hheaders hsame
  · have hfinish (body : Json) : surface.finish
        (installationIdForAccount fingerprint account .normalize) body = body := by
      cases surface with
      | compact => rfl
      | _ =>
        have hnone : account.chatgptAccountId = none := by
          simpa [Surface.overwritesBody] using hoverwrites
        simp only [Surface.finish, installationIdForAccount, hnone, Option.map_none,
          applyResponsesInstallationId]
    rw [hfinish, hfinish]
    simpa [hoverwrites] using isolated_kept hheaders hsame

section installations

/-- A request of the client with one of two installation ids. -/
def supplying (installationId : String) : ClientRequest where
  headers := []
  text := "\x7b\"client_metadata\":\x7b\"x-codex-installation-id\":\"" ++ installationId ++
    "\"\x7d\x7d"

def supplied (installationId : String) : Json :=
  .object [("client_metadata", .object [(installationIdHeader, .string installationId)])]

def twoInstallations : Libraries :=
  .ofTexts [((supplying "first").text, supplied "first"),
    ((supplying "second").text, supplied "second")]

def exampleFingerprint : Fingerprint where
  stableInstallationId _ := "f6798cd7-ecb0-5266-b352-c601fd5c31ea"
  codexHeaders := []
  codexHeaders_installationId := rfl
  sources := { fromStr := fun _ => none, reencode := fun _ => .error "unknown variant" }

theorem supplying_differ :
    (supplying "first").DifferInInstallationId twoInstallations (supplying "second") where
  headers := rfl
  body := rfl

/-- The client's id goes upstream from an account without a ChatGPT account id, and in the body
of `responses/compact` from any account. -/
theorem installation_id_leaks :
    (supplying "first").DifferInInstallationId twoInstallations (supplying "second") ∧
      (∃ sent sent', send twoInstallations exampleFingerprint .normalize none ⟨"at_1", none⟩
          (supplying "first") .responses = some sent ∧
        send twoInstallations exampleFingerprint .normalize none ⟨"at_1", none⟩
          (supplying "second") .responses = some sent' ∧ ¬ Isolated none sent sent') ∧
      ∃ sent sent', send twoInstallations exampleFingerprint .normalize none
          ⟨"at_1", some "acct_123"⟩ (supplying "first") .compact = some sent ∧
        send twoInstallations exampleFingerprint .normalize none
          ⟨"at_1", some "acct_123"⟩ (supplying "second") .compact = some sent' ∧
        ¬ Isolated (some "f6798cd7-ecb0-5266-b352-c601fd5c31ea") sent sent' := by
  refine ⟨supplying_differ, ⟨_, _, rfl, rfl, fun h => ?_⟩, ⟨_, _, rfl, rfl, fun h => ?_⟩⟩
  · have hid : some (Json.string "first") = some (.string "second") := h.same.body.2
    simp at hid
  · have hid : some (Json.string "first") = some (.string "second") := h.same.body.2
    simp at hid

/-- On the path that overwrites the body the two requests cannot be told apart. -/
theorem installation_id_isolated_overwritten :
    ∃ sent sent', send twoInstallations exampleFingerprint .normalize none
        ⟨"at_1", some "acct_123"⟩ (supplying "first") .responses = some sent ∧
      send twoInstallations exampleFingerprint .normalize none
        ⟨"at_1", some "acct_123"⟩ (supplying "second") .responses = some sent' ∧
      Isolated (some "f6798cd7-ecb0-5266-b352-c601fd5c31ea") sent sent' :=
  ⟨_, _, rfl, rfl, ((installation_id_isolated exampleFingerprint none ⟨"at_1", some "acct_123"⟩
    .responses supplying_differ).2 _ _ rfl rfl).mpr (.inl rfl)⟩

end installations

end Codaze.Upstream
