import Codaze.Upstream.NormalizationEquality

/-!
# Normalizing twice

Every rule leaves its own result alone, although the result may have another JSON type than
the value had: what is an object after the first time was a string before, and a text inside
the client metadata is one that was printed.
-/
namespace Codaze.Upstream
open Foundation Responses

/-! ## Single rules -/

section

variable (old : Option Json)

theorem stable_removed : removed.StableAt old := .inr rfl

theorem stable_priorityOnly : priorityOnly.StableAt old := by
  cases old with
  | none => exact .inr rfl
  | some value =>
    cases value with
    | string tier =>
      by_cases htier : tier = "priority"
      · refine .inl ?_
        simp [Rule.value, priorityOnly, htier, Edit.result]
      · refine .inr ?_
        simp [Rule.value, priorityOnly, htier, Edit.result]
    | _ => exact .inr rfl

theorem stable_rewritten {f : Json → Json} (hf : ∀ value, f (f value) = f value) :
    (rewritten f).StableAt old := by
  cases old with
  | none => exact .inl rfl
  | some value => exact .inr (congrArg Edit.put (hf value))

theorem stable_defaulting (value : Json) : (defaulting value).StableAt old := by
  cases old with
  | none => exact .inl rfl
  | some _ => exact .inl rfl

theorem stable_instructionsRule : instructionsRule.StableAt old := by
  cases old with
  | none => exact .inl rfl
  | some value => cases value <;> exact .inl rfl

theorem stable_inputRule : inputRule.StableAt old := by
  cases old with
  | none => exact .inl rfl
  | some value => cases value <;> exact .inl rfl

end

/-! ## Aliases of the web search -/

theorem normalizeBuiltinToolType_eq_none_of_some {toolType normalized : String}
    (h : normalizeBuiltinToolType toolType = some normalized) :
    normalized = "web_search" := by
  unfold normalizeBuiltinToolType at h
  split at h
  · exact (Option.some.inj h).symm
  · cases h

theorem normalizeBuiltinToolAliasType_idem (value : Json) :
    normalizeBuiltinToolAliasType (normalizeBuiltinToolAliasType value) =
      normalizeBuiltinToolAliasType value := by
  cases value with
  | string toolType =>
    simp only [normalizeBuiltinToolAliasType]
    cases hnormalized : normalizeBuiltinToolType toolType with
    | none => simp [hnormalized]
    | some normalized =>
      obtain rfl := normalizeBuiltinToolType_eq_none_of_some hnormalized
      rfl
  | _ => rfl

theorem normalizeBuiltinToolAlias_idem (tool : Json) :
    normalizeBuiltinToolAlias (normalizeBuiltinToolAlias tool) =
      normalizeBuiltinToolAlias tool := by
  cases tool with
  | object tool =>
    simp only [normalizeBuiltinToolAlias, modify_eq]
    rw [Fields.applyRule_applyRule (stable_rewritten _ normalizeBuiltinToolAliasType_idem)]
  | _ => rfl

theorem normalizeBuiltinToolAliases_idem (tools : Json) :
    normalizeBuiltinToolAliases (normalizeBuiltinToolAliases tools) =
      normalizeBuiltinToolAliases tools := by
  cases tools with
  | array tools =>
    simp only [normalizeBuiltinToolAliases, List.map_map]
    congr 1
    refine List.map_congr_left fun tool _ => ?_
    exact normalizeBuiltinToolAlias_idem tool
  | _ => rfl

theorem normalizeToolChoiceAliases_idem (toolChoice : Json) :
    normalizeToolChoiceAliases (normalizeToolChoiceAliases toolChoice) =
      normalizeToolChoiceAliases toolChoice := by
  cases toolChoice with
  | string toolType =>
    simp only [normalizeToolChoiceAliases, normalizeBuiltinToolChoiceString]
    cases hnormalized : (if toolType = "web_search" then some "web_search"
        else normalizeBuiltinToolType toolType) with
    | none => simp [hnormalized]
    | some normalized =>
      have hname : normalized = "web_search" := by
        split at hnormalized
        · exact (Option.some.inj hnormalized).symm
        · exact normalizeBuiltinToolType_eq_none_of_some hnormalized
      subst hname
      rfl
  | object toolChoice =>
    rw [normalizeToolChoiceAliases_object, normalizeToolChoiceAliases_object]
    congr 1
    refine Fields.applyRules_applyRules (by decide) fun rule hrule => ?_
    simp only [toolChoiceRules, List.mem_cons, List.not_mem_nil, or_false] at hrule
    rcases hrule with rfl | rfl
    · exact stable_rewritten _ normalizeBuiltinToolAliasType_idem
    · exact stable_rewritten _ normalizeBuiltinToolAliases_idem
  | _ => rfl

/-! ## Tables -/

theorem stable_compatibilityRules (object : Fields) :
    ∀ rule ∈ compatibilityRules, rule.2.StableAt (object.get? rule.1) := by
  intro rule hrule
  simp only [compatibilityRules, List.mem_append, List.mem_map, List.mem_cons, List.not_mem_nil,
    or_false] at hrule
  rcases hrule with ⟨key, -, rfl⟩ | rfl | rfl | rfl | rfl
  · exact stable_removed _
  · exact stable_priorityOnly _
  · exact stable_rewritten _ normalizeBuiltinToolAliases_idem
  · exact stable_rewritten _ normalizeToolChoiceAliases_idem
  · exact stable_inputRule _

theorem stable_defaultRules (parallel : Bool) (object : Fields) :
    ∀ rule ∈ defaultRules parallel, rule.2.StableAt (object.get? rule.1) := by
  intro rule hrule
  simp only [defaultRules, List.mem_cons, List.not_mem_nil, or_false] at hrule
  rcases hrule with rfl | rfl | rfl
  · exact stable_instructionsRule _
  · exact stable_defaulting _ _
  · exact stable_defaulting _ _

theorem stable_responsesRules (mode : FingerprintMode) (codexOriginator parallel : Bool)
    (object : Fields) :
    ∀ rule ∈ responsesRules mode codexOriginator parallel,
      rule.2.StableAt (object.get? rule.1) := by
  intro rule hrule
  unfold responsesRules at hrule
  rw [List.mem_append] at hrule
  rcases hrule with hrule | hrule
  · cases codexOriginator with
    | true => cases hrule
    | false => exact stable_compatibilityRules object rule hrule
  · cases mode with
    | passthrough => cases hrule
    | normalize => exact stable_defaultRules parallel object rule hrule

theorem stable_compactRules (mode : FingerprintMode) (codexOriginator parallel : Bool)
    (object : Fields) :
    ∀ rule ∈ compactRules mode codexOriginator parallel, rule.2.StableAt (object.get? rule.1) := by
  intro rule hrule
  unfold compactRules at hrule
  rw [List.mem_append] at hrule
  rcases hrule with hrule | hrule
  · cases codexOriginator with
    | true => cases hrule
    | false =>
      obtain rfl := List.mem_singleton.mp hrule
      exact stable_inputRule _
  · cases mode with
    | passthrough => cases hrule
    | normalize =>
      simp only [List.mem_cons, List.not_mem_nil, or_false] at hrule
      rcases hrule with rfl | rfl
      · exact stable_instructionsRule _
      · exact stable_defaulting _ _

theorem normalizeResponsesRequestBody_idem (mode : FingerprintMode) (codexOriginator : Bool)
    (snapshot : Option ModelsSnapshot) (body : Json) :
    normalizeResponsesRequestBody mode codexOriginator snapshot
        (normalizeResponsesRequestBody mode codexOriginator snapshot body) =
      normalizeResponsesRequestBody mode codexOriginator snapshot body := by
  cases body with
  | object object =>
    rw [normalizeResponsesRequestBody_object, normalizeResponsesRequestBody_object,
      Fields.get?_applyRules_of_not_mem (model_not_mem_responsesRules _ _ _),
      Fields.applyRules_applyRules (nodup_responsesRules _ _ _) (stable_responsesRules _ _ _ _)]
  | _ => rfl

theorem model_not_mem_compactRules (mode : FingerprintMode) (codexOriginator parallel : Bool) :
    "model" ∉ (compactRules mode codexOriginator parallel).map (·.1) := by
  cases mode <;> cases codexOriginator <;> simp [compactRules]

theorem normalizeCompactRequestBody_idem (mode : FingerprintMode) (codexOriginator : Bool)
    (snapshot : Option ModelsSnapshot) (body : Json) :
    normalizeCompactRequestBody mode codexOriginator snapshot
        (normalizeCompactRequestBody mode codexOriginator snapshot body) =
      normalizeCompactRequestBody mode codexOriginator snapshot body := by
  cases body with
  | object object =>
    rw [normalizeCompactRequestBody_object, normalizeCompactRequestBody_object,
      Fields.get?_applyRules_of_not_mem (model_not_mem_compactRules _ _ _),
      Fields.applyRules_applyRules (nodup_compactRules _ _ _) (stable_compactRules _ _ _ _)]
  | _ => rfl

/-! ## A `response.create` -/

/-- The text of the document is read as the document. -/
def ReadsBack (libs : Libraries) (json : Json) : Prop :=
  ∀ text, libs.encode json = some text → libs.fromStr text = some json

def userTurnMetadata : Json := .object [("thread_source", .string "user")]

/-- The documents that the rewriting of a message prints are read back: the message, the turn
metadata it merges, and the turn metadata it adds. -/
structure ReadsOutput (libs : Libraries) (mode : FingerprintMode) (codexOriginator : Bool)
    (snapshot : Option ModelsSnapshot) (installationId : Option String) (object : Fields) :
    Prop where
  message : ReadsBack libs
    (.object (createdObject libs mode codexOriginator snapshot installationId object))
  turnMetadata : ∀ metadata raw turn, clientMetadata? object = some metadata →
    metadata.get? turnMetadataHeader = some (.string raw) →
    libs.fromStr raw = some (.object turn) →
    ReadsBack libs (.object (Fields.orInsert turn "thread_source" (.string "user")))
  added : libs.encode userTurnMetadata = some defaultTurnMetadataValue ∧
    libs.fromStr defaultTurnMetadataValue = some userTurnMetadata

theorem orInsert_orInsert_self (fields : Fields) (key : String) (value : Json) :
    (fields.orInsert key value).orInsert key value = fields.orInsert key value := by
  rw [orInsert_eq fields, orInsert_eq]
  exact Fields.applyRule_applyRule (stable_defaulting _ _)

section

variable {libs : Libraries} {mode : FingerprintMode} {codexOriginator : Bool}
  {snapshot : Option ModelsSnapshot} {installationId : Option String} {object : Fields}

/-- Merged turn metadata is merged already. -/
theorem mergeTurnMetadataThreadSource_idem {raw merged : String}
    (hread : ∀ turn, libs.fromStr raw = some (.object turn) →
      ReadsBack libs (.object (Fields.orInsert turn "thread_source" (.string "user"))))
    (hmerged : mergeTurnMetadataThreadSource libs raw = some merged) :
    mergeTurnMetadataThreadSource libs merged = some merged := by
  unfold mergeTurnMetadataThreadSource at hmerged
  split at hmerged
  next turn hraw =>
    have hback := hread turn hraw merged hmerged
    rw [mergeTurnMetadataThreadSource, hback]
    dsimp only
    rw [orInsert_orInsert_self, hmerged]
  next => cases hmerged

theorem mergeTurnMetadataThreadSource_default
    (hadded : libs.encode userTurnMetadata = some defaultTurnMetadataValue ∧
      libs.fromStr defaultTurnMetadataValue = some userTurnMetadata) :
    mergeTurnMetadataThreadSource libs defaultTurnMetadataValue =
      some defaultTurnMetadataValue := by
  rw [mergeTurnMetadataThreadSource, hadded.2]
  exact hadded.1

theorem stable_turnMetadataRule {old : Option Json}
    (hadded : libs.encode userTurnMetadata = some defaultTurnMetadataValue ∧
      libs.fromStr defaultTurnMetadataValue = some userTurnMetadata)
    (hread : ∀ raw turn, old = some (.string raw) → libs.fromStr raw = some (.object turn) →
      ReadsBack libs (.object (Fields.orInsert turn "thread_source" (.string "user")))) :
    (turnMetadataRule libs).StableAt old := by
  have hdefault : turnMetadataRule libs (some (.string defaultTurnMetadataValue)) =
      .put (.string defaultTurnMetadataValue) := by
    simp only [turnMetadataRule, mergeTurnMetadataThreadSource_default hadded]
  cases old with
  | none => exact .inr hdefault
  | some value =>
    cases value with
    | null => exact .inr hdefault
    | string raw =>
      unfold Rule.StableAt Rule.value
      simp only [turnMetadataRule]
      cases hmerged : mergeTurnMetadataThreadSource libs raw with
      | none =>
        refine .inl ?_
        simp [Edit.result, hmerged]
      | some merged =>
        have hagain := mergeTurnMetadataThreadSource_idem (hread raw · rfl) hmerged
        refine .inr ?_
        simp [Edit.result, hagain]
    | _ => exact .inl rfl

theorem metadataRules_idem {metadata : Fields}
    (hadded : libs.encode userTurnMetadata = some defaultTurnMetadataValue ∧
      libs.fromStr defaultTurnMetadataValue = some userTurnMetadata)
    (hread : ∀ raw turn, metadata.get? turnMetadataHeader = some (.string raw) →
      libs.fromStr raw = some (.object turn) →
      ReadsBack libs (.object (Fields.orInsert turn "thread_source" (.string "user")))) :
    Fields.applyRules (metadataRules libs installationId)
        (Fields.applyRules (metadataRules libs installationId) metadata) =
      Fields.applyRules (metadataRules libs installationId) metadata := by
  refine Fields.applyRules_applyRules nodup_metadataRules fun rule hrule => ?_
  unfold metadataRules at hrule
  rw [List.mem_cons] at hrule
  rcases hrule with rfl | hrule
  · exact stable_turnMetadataRule hadded hread
  · cases installationId with
    | none => cases hrule
    | some installationId =>
      obtain rfl := List.mem_singleton.mp hrule
      exact .inr rfl

theorem stable_clientMetadataRule
    (hreads : ReadsOutput libs mode codexOriginator snapshot installationId object) :
    (clientMetadataRule libs installationId).StableAt (object.get? "client_metadata") := by
  have hput (metadata : Fields) (hmetadata : clientMetadata? object = some metadata) :
      clientMetadataRule libs installationId (some (.object
        (Fields.applyRules (metadataRules libs installationId) metadata))) =
      .put (.object (Fields.applyRules (metadataRules libs installationId) metadata)) := by
    have hidem := @metadataRules_idem libs installationId metadata hreads.added
      fun raw turn => hreads.turnMetadata metadata raw turn hmetadata
    simp only [clientMetadataRule, hidem]
  cases hvalue : object.get? "client_metadata" with
  | none => exact .inr (hput [] (by simp only [clientMetadata?, hvalue]))
  | some value =>
    cases value with
    | null => exact .inr (hput [] (by simp only [clientMetadata?, hvalue]))
    | object metadata => exact .inr (hput metadata (by simp only [clientMetadata?, hvalue]))
    | _ => exact .inl rfl

theorem model_not_mem_createRules (parallel : Bool) :
    "model" ∉ (createRules libs mode codexOriginator parallel installationId).map (·.1) := by
  have hnot := model_not_mem_responsesRules mode codexOriginator parallel
  cases mode with
  | passthrough => simpa only [createRules, List.append_nil] using hnot
  | normalize =>
    simp only [createRules, List.map_append, List.mem_append, not_or]
    exact ⟨hnot, by simp⟩

theorem createdObject_idem
    (hreads : ReadsOutput libs mode codexOriginator snapshot installationId object) :
    createdObject libs mode codexOriginator snapshot installationId
        (createdObject libs mode codexOriginator snapshot installationId object) =
      createdObject libs mode codexOriginator snapshot installationId object := by
  unfold createdObject
  rw [Fields.get?_applyRules_of_not_mem (model_not_mem_createRules _)]
  refine Fields.applyRules_applyRules (nodup_createRules _) fun rule hrule => ?_
  unfold createRules at hrule
  rw [List.mem_append] at hrule
  rcases hrule with hrule | hrule
  · exact stable_responsesRules _ _ _ _ rule hrule
  · cases mode with
    | passthrough => cases hrule
    | normalize =>
      obtain rfl := List.mem_singleton.mp hrule
      exact stable_clientMetadataRule hreads

/-- A message that was rewritten is not rewritten again. -/
theorem normalizeResponseCreatePayload_settled {text text' : String}
    (hreads : ∀ object, libs.fromStr text = some (.object object) →
      ReadsOutput libs mode codexOriginator snapshot installationId object)
    (h : normalizeResponseCreatePayload libs mode codexOriginator snapshot installationId text =
      some text') :
    normalizeResponseCreatePayload libs mode codexOriginator snapshot installationId text' =
      none := by
  unfold normalizeResponseCreatePayload at h
  obtain ⟨original, horiginal, h⟩ := Option.bind_eq_some_iff.mp h
  split at h
  next htype =>
    obtain ⟨json, hjson, htext⟩ := Option.bind_eq_some_iff.mp h
    cases original with
    | object object =>
      have hreads := hreads object horiginal
      rw [normalizeResponseCreate_object] at hjson
      split at hjson
      next => cases hjson
      next =>
        obtain rfl := Option.some.inj hjson
        have hback := hreads.message text' htext
        unfold normalizeResponseCreatePayload
        rw [hback, Option.bind_some]
        split
        next =>
          rw [normalizeResponseCreate_object, createdObject_idem hreads, if_pos (Json.beq_self _)]
          rfl
        next => rfl
    | _ => cases htype
  next => cases h

end

/-- Normalizing a body, a body of a compaction or a `response.create` again changes nothing. -/
theorem normalization_idempotent (libs : Libraries) (mode : FingerprintMode)
    (codexOriginator : Bool) (snapshot : Option ModelsSnapshot) :
    (∀ body, normalizeResponsesRequestBody mode codexOriginator snapshot
        (normalizeResponsesRequestBody mode codexOriginator snapshot body) =
      normalizeResponsesRequestBody mode codexOriginator snapshot body) ∧
    (∀ body, normalizeCompactRequestBody mode codexOriginator snapshot
        (normalizeCompactRequestBody mode codexOriginator snapshot body) =
      normalizeCompactRequestBody mode codexOriginator snapshot body) ∧
    ∀ installationId text text',
      (∀ object, libs.fromStr text = some (.object object) →
        ReadsOutput libs mode codexOriginator snapshot installationId object) →
      normalizeResponseCreatePayload libs mode codexOriginator snapshot installationId text =
        some text' →
      normalizeResponseCreatePayload libs mode codexOriginator snapshot installationId text' =
        none :=
  ⟨normalizeResponsesRequestBody_idem mode codexOriginator snapshot,
    normalizeCompactRequestBody_idem mode codexOriginator snapshot,
    fun _ _ _ hreads h => normalizeResponseCreatePayload_settled hreads h⟩

/-! ## A message of a client other than Codex -/

def clientTurn : Fields := [("turn_id", .string "t1")]

def clientTurnText : String := String.ofList (Json.object clientTurn).compact

def clientCreate : Fields :=
  [("type", .string "response.create"), ("temperature", .number (.posInt 1)),
    ("input", .string "hello"), ("tool_choice", .string "web_search_preview"),
    ("client_metadata", .object [(turnMetadataHeader, .string clientTurnText)])]

def clientCreateText : String := String.ofList (Json.object clientCreate).compact

def mergedTurn : Fields := [("turn_id", .string "t1"), ("thread_source", .string "user")]

def mergedTurnText : String := String.ofList (Json.object mergedTurn).compact

def sentCreate : Fields :=
  [("type", .string "response.create"),
    ("client_metadata", .object [(turnMetadataHeader, .string mergedTurnText),
      (installationIdHeader, .string "i1")]),
    ("input", inputMessage "hello"),
    ("tool_choice", .object [("type", .string "web_search")]),
    ("instructions", .string ""), ("store", .bool false), ("parallel_tool_calls", .bool true)]

def sentCreateText : String := String.ofList (Json.object sentCreate).compact

def createTexts : Fields :=
  [(sentCreateText, .object sentCreate), (clientCreateText, .object clientCreate),
    (mergedTurnText, .object mergedTurn), (clientTurnText, .object clientTurn),
    (defaultTurnMetadataValue, userTurnMetadata)]

def createLibraries : Libraries := .ofTexts createTexts

theorem fromStr_of_mem {text : String} {json : Json} (h : (text, json) ∈ createTexts) :
    createLibraries.fromStr text = some json := by
  have hkeys : (createTexts.map (·.1)).Nodup := by decide +kernel
  simp only [createLibraries, Libraries.ofTexts]
  exact Fields.lookup_of_mem hkeys h

theorem fromStr_clientCreateText :
    createLibraries.fromStr clientCreateText = some (.object clientCreate) :=
  fromStr_of_mem (by simp [createTexts])

theorem fromStr_clientTurnText :
    createLibraries.fromStr clientTurnText = some (.object clientTurn) :=
  fromStr_of_mem (by simp [createTexts])

/-- The removed field leaves its place to the last one. -/
theorem createdObject_clientCreate :
    createdObject createLibraries .normalize false none (some "i1") clientCreate = sentCreate := by
  have hmerged : mergeTurnMetadataThreadSource createLibraries clientTurnText =
      some mergedTurnText := by
    rw [mergeTurnMetadataThreadSource, fromStr_clientTurnText]
    rfl
  have hturn : turnMetadataRule createLibraries (some (.string clientTurnText)) =
      .put (.string mergedTurnText) := by
    simp only [turnMetadataRule, hmerged]
  have hmetadata : clientMetadataRule createLibraries (some "i1")
      (some (.object [(turnMetadataHeader, .string clientTurnText)])) =
        .put (.object [(turnMetadataHeader, .string mergedTurnText),
          (installationIdHeader, .string "i1")]) := by
    have hget : Fields.get? [(turnMetadataHeader, .string clientTurnText)] turnMetadataHeader =
        some (.string clientTurnText) := rfl
    simp only [clientMetadataRule, metadataRules, Fields.applyRules, List.foldl_cons,
      List.foldl_nil, Fields.applyRule, hget, hturn]
    rfl
  have hbody : Fields.applyRules (responsesRules .normalize false true) clientCreate =
      [("type", .string "response.create"),
        ("client_metadata", .object [(turnMetadataHeader, .string clientTurnText)]),
        ("input", inputMessage "hello"),
        ("tool_choice", .object [("type", .string "web_search")]),
        ("instructions", .string ""), ("store", .bool false),
        ("parallel_tool_calls", .bool true)] := rfl
  have hparallel : defaultParallelToolCalls (clientCreate.get? "model") none = true := rfl
  have hget : Fields.get? (Fields.applyRules (responsesRules .normalize false true) clientCreate)
      "client_metadata" = some (.object [(turnMetadataHeader, .string clientTurnText)]) := rfl
  rw [createdObject, createRules, applyRules_append, hparallel]
  simp only [Fields.applyRules, List.foldl_cons, List.foldl_nil, Fields.applyRule] at hbody hget ⊢
  rw [hget, hmetadata, hbody]
  rfl

theorem readsOutput_clientCreate :
    ReadsOutput createLibraries .normalize false none (some "i1") clientCreate where
  message := by
    rw [createdObject_clientCreate]
    intro text htext
    obtain rfl : sentCreateText = text := Option.some.inj htext
    exact fromStr_of_mem (by simp [createTexts])
  turnMetadata metadata raw turn hmetadata hraw hturn := by
    obtain rfl : [(turnMetadataHeader, .string clientTurnText)] = metadata :=
      Option.some.inj hmetadata
    obtain rfl : clientTurnText = raw := Json.string.inj (Option.some.inj hraw)
    obtain rfl : clientTurn = turn :=
      Json.object.inj (Option.some.inj (fromStr_clientTurnText.symm.trans hturn))
    intro text htext
    obtain rfl : mergedTurnText = text := Option.some.inj htext
    exact fromStr_of_mem (by simp [createTexts, mergedTurn, clientTurn, Fields.orInsert])
  added := ⟨by decide +kernel, fromStr_of_mem (by simp [createTexts])⟩

theorem normalization_idempotent_clientCreate :
    normalizeResponseCreatePayload createLibraries .normalize false none (some "i1")
        clientCreateText = some sentCreateText ∧
      normalizeResponseCreatePayload createLibraries .normalize false none (some "i1")
        sentCreateText = none := by
  have hfirst : normalizeResponseCreatePayload createLibraries .normalize false none (some "i1")
      clientCreateText = some sentCreateText := by
    have htype : getStr? (.object clientCreate) "type" = some "response.create" := rfl
    rw [normalizeResponseCreatePayload, fromStr_clientCreateText, Option.bind_some, if_pos htype,
      normalizeResponseCreate_object, createdObject_clientCreate]
    rfl
  refine ⟨hfirst, (normalization_idempotent createLibraries .normalize false none).2.2 _ _ _
    (fun object hobject => ?_) hfirst⟩
  obtain rfl : clientCreate = object :=
    Json.object.inj (Option.some.inj (fromStr_clientCreateText.symm.trans hobject))
  exact readsOutput_clientCreate

end Codaze.Upstream
