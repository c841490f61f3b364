import Codaze.Foundation.Edits
import Codaze.Upstream.Requests

/-!
# Normalization as a table

Each step of a normalization looks at one key of the body and edits that key, so a whole
normalization is a table of rules. The one step that reads another key, the default of
`parallel_tool_calls`, reads the model, which no step edits.
-/
namespace Codaze.Upstream
open Foundation Responses

/-! ## Rules -/

def removed : Rule := fun _ => .drop

def priorityOnly : Rule
  | some (.string tier) => if tier = "priority" then .keep else .drop
  | _ => .drop

/-- `if let Some(value) = map.get_mut(key) { ... }`. -/
def rewritten (f : Json → Json) : Rule
  | some value => .put (f value)
  | none => .keep

/-- `map.entry(key).or_insert(value)`. -/
def defaulting (value : Json) : Rule
  | some _ => .keep
  | none => .put value

def instructionsRule : Rule
  | some .null | none => .put (.string "")
  | some _ => .keep

def inputMessage (text : String) : Json :=
  .array [.object [("type", .string "message"), ("role", .string "user"),
    ("content", .array [.object [("type", .string "input_text"), ("text", .string text)]])]]

def inputRule : Rule
  | some (.string text) => .put (inputMessage text)
  | _ => .keep

/-! ## Tables -/

abbrev RuleTable := List (String × Rule)

def removedFields : List String :=
  ["max_output_tokens", "max_completion_tokens", "temperature", "top_p", "truncation", "user"]

/-- What a client other than Codex gets. -/
def compatibilityRules : RuleTable :=
  removedFields.map (fun key => (key, removed)) ++ [("service_tier", priorityOnly),
    ("tools", rewritten normalizeBuiltinToolAliases),
    ("tool_choice", rewritten normalizeToolChoiceAliases), ("input", inputRule)]

def defaultRules (parallel : Bool) : RuleTable :=
  [("instructions", instructionsRule), ("store", defaulting (.bool false)),
    ("parallel_tool_calls", defaulting (.bool parallel))]

def responsesRules (mode : FingerprintMode) (codexOriginator parallel : Bool) : RuleTable :=
  (if codexOriginator then [] else compatibilityRules) ++
    match mode with
    | .passthrough => []
    | .normalize => defaultRules parallel

def compactRules (mode : FingerprintMode) (codexOriginator parallel : Bool) : RuleTable :=
  (if codexOriginator then [] else [("input", inputRule)]) ++
    match mode with
    | .passthrough => []
    | .normalize => [("instructions", instructionsRule),
        ("parallel_tool_calls", defaulting (.bool parallel))]

/-! ## The steps of the code are rules -/

section

variable (object : Fields) (key : String)

theorem modify_eq (f : Json → Json) : object.modify key f = object.applyRule key (rewritten f) := by
  unfold Fields.modify Fields.applyRule
  cases object.get? key <;> rfl

theorem orInsert_eq (value : Json) :
    object.orInsert key value = object.applyRule key (defaulting value) := by
  unfold Fields.orInsert Fields.applyRule
  have hpresent := Fields.isSome_get? object key
  cases hvalue : object.get? key with
  | none =>
    rw [hvalue] at hpresent
    have habsent : object.any (·.1 == key) = false := hpresent.symm
    simp [habsent, defaulting, Fields.edit, Fields.insert]
  | some value =>
    rw [hvalue] at hpresent
    have hany : object.any (·.1 == key) = true := hpresent.symm
    rw [if_pos hany]
    rfl

theorem normalizeServiceTier_eq :
    normalizeServiceTier object = object.applyRule "service_tier" priorityOnly := by
  unfold normalizeServiceTier Fields.applyRule
  cases object.get? "service_tier" with
  | none => rfl
  | some value =>
    cases value with
    | string tier =>
      dsimp only [priorityOnly]
      split <;> rfl
    | _ => rfl

theorem normalizeInstructionsField_eq :
    normalizeInstructionsField object = object.applyRule "instructions" instructionsRule := by
  unfold normalizeInstructionsField Fields.applyRule
  cases object.get? "instructions" with
  | none => rfl
  | some value => cases value <;> rfl

theorem normalizeStringInputToMessage_eq :
    normalizeStringInputToMessage object = object.applyRule "input" inputRule := by
  unfold normalizeStringInputToMessage Fields.applyRule
  cases object.get? "input" with
  | none => rfl
  | some value => cases value <;> rfl

end

theorem applyRules_append (rules rules' : RuleTable) (object : Fields) :
    Fields.applyRules (rules ++ rules') object =
      Fields.applyRules rules' (Fields.applyRules rules object) := List.foldl_append ..

theorem foldl_remove_eq (keys : List String) (object : Fields) :
    keys.foldl Fields.remove object =
      Fields.applyRules (keys.map fun key => (key, removed)) object := by
  induction keys generalizing object with
  | nil => rfl
  | cons key keys ih => exact ih (object.remove key)

/-- The rules of an object `tool_choice`. -/
def toolChoiceRules : RuleTable :=
  [("type", rewritten normalizeBuiltinToolAliasType),
    ("tools", rewritten normalizeBuiltinToolAliases)]

theorem normalizeToolChoiceAliases_object (toolChoice : Fields) :
    normalizeToolChoiceAliases (.object toolChoice) =
      .object (Fields.applyRules toolChoiceRules toolChoice) := by
  simp only [normalizeToolChoiceAliases, modify_eq]
  rfl

/-- The compatibility steps and the message of a string input. -/
theorem compatibility_eq (object : Fields) :
    normalizeStringInputToMessage (normalizeNonCodexResponsesCompatibility object) =
      Fields.applyRules compatibilityRules object := by
  have hremoved := foldl_remove_eq removedFields object
  unfold removedFields at hremoved
  rw [normalizeStringInputToMessage_eq, normalizeNonCodexResponsesCompatibility, hremoved,
    normalizeServiceTier_eq, modify_eq, modify_eq, compatibilityRules, applyRules_append]
  simp only [Fields.applyRules, List.foldl_cons, List.foldl_nil, removedFields]

/-- The model of the body is not edited. -/
theorem model_not_mem_responsesRules (mode : FingerprintMode) (codexOriginator parallel : Bool) :
    "model" ∉ (responsesRules mode codexOriginator parallel).map (·.1) := by
  cases mode <;> cases codexOriginator <;> simp [responsesRules, compatibilityRules, removedFields,
    defaultRules]

theorem nodup_responsesRules (mode : FingerprintMode) (codexOriginator parallel : Bool) :
    ((responsesRules mode codexOriginator parallel).map (·.1)).Nodup := by
  cases mode <;> cases codexOriginator <;> cases parallel <;> decide

theorem nodup_compactRules (mode : FingerprintMode) (codexOriginator parallel : Bool) :
    ((compactRules mode codexOriginator parallel).map (·.1)).Nodup := by
  cases mode <;> cases codexOriginator <;> cases parallel <;> decide

theorem normalizeResponsesRequestBody_object (mode : FingerprintMode) (codexOriginator : Bool)
    (snapshot : Option ModelsSnapshot) (object : Fields) :
    normalizeResponsesRequestBody mode codexOriginator snapshot (.object object) =
      .object (Fields.applyRules (responsesRules mode codexOriginator
        (defaultParallelToolCalls (object.get? "model") snapshot)) object) := by
  have hobject : (if codexOriginator then object
      else normalizeStringInputToMessage (normalizeNonCodexResponsesCompatibility object)) =
        Fields.applyRules (if codexOriginator then [] else compatibilityRules) object := by
    cases codexOriginator with
    | true => simp only [if_true, Fields.applyRules, List.foldl_nil]
    | false =>
      simp only [Bool.false_eq_true, if_false]
      exact compatibility_eq object
  have hmodel : (Fields.applyRules (if codexOriginator then [] else compatibilityRules) object).get?
      "model" = object.get? "model" := by
    refine Fields.get?_applyRules_of_not_mem ?_
    have hnot := model_not_mem_responsesRules .passthrough codexOriginator true
    simpa only [responsesRules, List.append_nil] using hnot
  unfold normalizeResponsesRequestBody
  dsimp only
  rw [hobject]
  cases mode with
  | passthrough => simp only [responsesRules, List.append_nil]
  | normalize =>
    simp only [responsesRules, applyRules_append, withParallelToolCalls, orInsert_eq,
      normalizeInstructionsField_eq]
    have hdefaults : (((Fields.applyRules (if codexOriginator then [] else compatibilityRules)
        object).applyRule "instructions" instructionsRule).applyRule "store"
          (defaulting (.bool false))).get? "model" = object.get? "model" := by
      rw [Fields.get?_applyRule_of_ne _ (by decide), Fields.get?_applyRule_of_ne _ (by decide),
        hmodel]
    rw [hdefaults]
    rfl

theorem normalizeCompactRequestBody_object (mode : FingerprintMode) (codexOriginator : Bool)
    (snapshot : Option ModelsSnapshot) (object : Fields) :
    normalizeCompactRequestBody mode codexOriginator snapshot (.object object) =
      .object (Fields.applyRules (compactRules mode codexOriginator
        (defaultParallelToolCalls (object.get? "model") snapshot)) object) := by
  have hobject : (if codexOriginator then object else normalizeStringInputToMessage object) =
      Fields.applyRules (if codexOriginator then [] else [("input", inputRule)]) object := by
    cases codexOriginator with
    | true => rfl
    | false => exact normalizeStringInputToMessage_eq object
  have hmodel : (Fields.applyRules (if codexOriginator then [] else [("input", inputRule)])
      object).get? "model" = object.get? "model" := by
    refine Fields.get?_applyRules_of_not_mem ?_
    cases codexOriginator <;> simp
  unfold normalizeCompactRequestBody
  dsimp only
  rw [hobject]
  cases mode with
  | passthrough => simp only [compactRules, List.append_nil]
  | normalize =>
    simp only [compactRules, applyRules_append, withParallelToolCalls, orInsert_eq,
      normalizeInstructionsField_eq]
    rw [Fields.get?_applyRule_of_ne _ (by decide), hmodel]
    rfl

/-! ## The client metadata of a `response.create` -/

def turnMetadataRule (libs : Libraries) : Rule
  | none | some .null => .put (.string defaultTurnMetadataValue)
  | some (.string raw) => match mergeTurnMetadataThreadSource libs raw with
    | some merged => .put (.string merged)
    | none => .keep
  | some _ => .keep

def metadataRules (libs : Libraries) (installationId : Option String) : RuleTable :=
  (turnMetadataHeader, turnMetadataRule libs) :: match installationId with
    | some installationId => [(installationIdHeader, fun _ => .put (.string installationId))]
    | none => []

/-- The rules inside `client_metadata`, a new object where it is missing or null. -/
def clientMetadataRule (libs : Libraries) (installationId : Option String) : Rule
  | none | some .null => .put (.object (Fields.applyRules (metadataRules libs installationId) []))
  | some (.object metadata) =>
    .put (.object (Fields.applyRules (metadataRules libs installationId) metadata))
  | some _ => .keep

def createRules (libs : Libraries) (mode : FingerprintMode) (codexOriginator parallel : Bool)
    (installationId : Option String) : RuleTable :=
  responsesRules mode codexOriginator parallel ++ match mode with
    | .passthrough => []
    | .normalize => [("client_metadata", clientMetadataRule libs installationId)]

theorem nodup_metadataRules {libs : Libraries} {installationId : Option String} :
    ((metadataRules libs installationId).map (·.1)).Nodup := by
  cases installationId with
  | none => exact List.nodup_singleton _
  | some _ =>
    change [turnMetadataHeader, installationIdHeader].Nodup
    decide

theorem nodup_createRules {libs : Libraries} {mode : FingerprintMode} {codexOriginator : Bool}
    {installationId : Option String} (parallel : Bool) :
    ((createRules libs mode codexOriginator parallel installationId).map (·.1)).Nodup := by
  cases mode with
  | passthrough =>
    have hnodup := nodup_responsesRules .passthrough codexOriginator parallel
    simpa only [createRules, List.append_nil] using hnodup
  | normalize =>
    have hnodup : ((responsesRules .normalize codexOriginator parallel).map (·.1) ++
        ["client_metadata"]).Nodup := by
      cases codexOriginator <;> cases parallel <;> decide
    simpa only [createRules, List.map_append, List.map_cons, List.map_nil] using hnodup

theorem withUserThreadSource_eq (libs : Libraries) (metadata : Fields) :
    withUserThreadSource libs metadata =
      metadata.applyRule turnMetadataHeader (turnMetadataRule libs) := by
  unfold withUserThreadSource Fields.applyRule
  cases metadata.get? turnMetadataHeader with
  | none => rfl
  | some value =>
    cases value with
    | string raw =>
      dsimp only [turnMetadataRule]
      cases mergeTurnMetadataThreadSource libs raw <;> rfl
    | _ => rfl

theorem clientMetadata_eq (libs : Libraries) (installationId : Option String) (object : Fields) :
    applyResponsesInstallationId installationId .normalize
        (applyClientMetadataUserThreadSource libs (.object object)) =
      .object (object.applyRule "client_metadata" (clientMetadataRule libs installationId)) := by
  have hput (metadata : Fields) (hmetadata : clientMetadata? object = some metadata) :
      applyResponsesInstallationId installationId .normalize
          (applyClientMetadataUserThreadSource libs (.object object)) =
        .object (object.insert "client_metadata"
          (.object (Fields.applyRules (metadataRules libs installationId) metadata))) := by
    have hturn : applyClientMetadataUserThreadSource libs (.object object) =
        .object (object.insert "client_metadata"
          (.object (metadata.applyRule turnMetadataHeader (turnMetadataRule libs)))) := by
      simp only [applyClientMetadataUserThreadSource, hmetadata, withUserThreadSource_eq]
    rw [hturn]
    cases installationId with
    | none => rfl
    | some installationId =>
      have hinserted : clientMetadata? (object.insert "client_metadata"
          (.object (metadata.applyRule turnMetadataHeader (turnMetadataRule libs)))) =
            some (metadata.applyRule turnMetadataHeader (turnMetadataRule libs)) := by
        simp only [clientMetadata?, Fields.get?_insert_self]
      simp only [applyResponsesInstallationId, applyClientMetadataInstallationId, hinserted,
        Fields.insert_insert_self]
      rfl
  unfold Fields.applyRule
  cases hvalue : object.get? "client_metadata" with
  | none => exact hput [] (by simp only [clientMetadata?, hvalue])
  | some value =>
    cases value with
    | null => exact hput [] (by simp only [clientMetadata?, hvalue])
    | object metadata => exact hput metadata (by simp only [clientMetadata?, hvalue])
    | _ =>
      have hnone : clientMetadata? object = none := by simp only [clientMetadata?, hvalue]
      cases installationId with
      | none =>
        simp only [applyResponsesInstallationId, applyClientMetadataUserThreadSource, hnone]; rfl
      | some installationId =>
        simp only [applyResponsesInstallationId, applyClientMetadataUserThreadSource,
          applyClientMetadataInstallationId, hnone]
        rfl

/-- What a `response.create` is turned into. -/
def createdObject (libs : Libraries) (mode : FingerprintMode) (codexOriginator : Bool)
    (snapshot : Option ModelsSnapshot) (installationId : Option String) (object : Fields) :
      Fields :=
  Fields.applyRules (createRules libs mode codexOriginator
    (defaultParallelToolCalls (object.get? "model") snapshot) installationId) object

theorem normalizeResponseCreate_object (libs : Libraries) (mode : FingerprintMode)
    (codexOriginator : Bool) (snapshot : Option ModelsSnapshot) (installationId : Option String)
    (object : Fields) :
    normalizeResponseCreate libs mode codexOriginator snapshot installationId (.object object) =
      if (Json.object (createdObject libs mode codexOriginator snapshot installationId object)).beq
          (.object object) then none
      else some
        (.object (createdObject libs mode codexOriginator snapshot installationId object)) := by
  unfold normalizeResponseCreate createdObject createRules
  rw [normalizeResponsesRequestBody_object]
  cases mode with
  | passthrough => simp only [List.append_nil]
  | normalize =>
    rw [applyRules_append]
    simp only [clientMetadata_eq]
    rfl

end Codaze.Upstream
