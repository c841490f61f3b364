import Codaze.Upstream.Idempotence

/-!
# What normalization touches

The rules of a table are known key by key. What they do to the values is described here
without the functions that do it: a lookup before and a lookup after the normalization.
-/
namespace Codaze.Upstream
open Foundation Responses

abbrev Lookup := String → Option Json

/-! ## Aliases of the web search -/

def LegacyAlias (name : String) : Prop :=
  name = "web_search_preview" ∨ name = "web_search_preview_2025_03_11"

/-- The `type` of a tool. -/
def TypeRewritten (old new : Option Json) : Prop :=
  (∃ name, old = some (.string name) ∧ LegacyAlias name ∧ new = some (.string "web_search")) ∨
    ((∀ name, old = some (.string name) → ¬LegacyAlias name) ∧ new = old)

def ToolRewritten : Json → Json → Prop
  | .object tool, new => ∃ tool', new = .object tool' ∧
      (∀ key, key ≠ "type" → Fields.get? tool' key = Fields.get? tool key) ∧
      TypeRewritten (Fields.get? tool "type") (Fields.get? tool' "type")
  | old, new => new = old

def ToolsRewritten : Option Json → Option Json → Prop
  | some (.array tools), new =>
    ∃ tools', new = some (.array tools') ∧ List.Forall₂ ToolRewritten tools tools'
  | old, new => new = old

def ToolChoiceRewritten : Option Json → Option Json → Prop
  | some (.string name), new =>
    ((LegacyAlias name ∨ name = "web_search") ∧
        new = some (.object [("type", .string "web_search")])) ∨
      (¬(LegacyAlias name ∨ name = "web_search") ∧ new = some (.string name))
  | some (.object choice), new => ∃ choice', new = some (.object choice') ∧
      (∀ key, key ≠ "type" → key ≠ "tools" →
        Fields.get? choice' key = Fields.get? choice key) ∧
      TypeRewritten (Fields.get? choice "type") (Fields.get? choice' "type") ∧
      ToolsRewritten (Fields.get? choice "tools") (Fields.get? choice' "tools")
  | old, new => new = old

/-- A tool whose type is no legacy alias. -/
def AliasFree (tool : Json) : Prop := ∀ name, getStr? tool "type" = some name → ¬LegacyAlias name

def ToolsAliasFree (tools : Option Json) : Prop :=
  ∀ items, tools = some (.array items) → ∀ tool ∈ items, AliasFree tool

def ToolChoiceAliasFree (toolChoice : Option Json) : Prop :=
  (∀ name, toolChoice = some (.string name) → ¬LegacyAlias name) ∧
    ∀ choice, toolChoice = some (.object choice) →
      AliasFree (.object choice) ∧ ToolsAliasFree (Fields.get? choice "tools")

/-! ## The whole body -/

def documentedKeys (codexOriginator : Bool) : List String :=
  ["instructions", "store", "parallel_tool_calls", "client_metadata"] ++
    if codexOriginator then []
    else removedFields ++ ["service_tier", "tools", "tool_choice", "input"]

structure Normalized (codexOriginator : Bool) (before after : Lookup) : Prop where
  others : ∀ key, key ∉ documentedKeys codexOriginator → after key = before key
  kept : ∀ key ∈ ["store", "parallel_tool_calls"], ∀ value, before key = some value →
    after key = some value
  instructions : ∀ value, before "instructions" = some value → value ≠ .null →
    after "instructions" = some value
  tools : codexOriginator = false → ToolsRewritten (before "tools") (after "tools")
  toolChoice : codexOriginator = false →
    ToolChoiceRewritten (before "tool_choice") (after "tool_choice")
  removed : codexOriginator = false → ∀ key ∈ removedFields, after key = none
  serviceTier : codexOriginator = false → ∀ value, after "service_tier" = some value ↔
    value = .string "priority" ∧ before "service_tier" = some value
  aliasFree : codexOriginator = false →
    ToolsAliasFree (after "tools") ∧ ToolChoiceAliasFree (after "tool_choice")

/-! ## The client metadata -/

/-- The turn metadata survive as JSON, with at most a `thread_source` added. -/
def TurnSurvives (libs : Libraries) (value value' : Json) : Prop :=
  value' = value ∨ ∃ raw turn merged turn', value = .string raw ∧
    libs.fromStr raw = some (.object turn) ∧ value' = .string merged ∧
    libs.fromStr merged = some (.object turn') ∧
    (∀ key, key ≠ "thread_source" → Fields.get? turn' key = Fields.get? turn key) ∧
    Fields.get? turn' "thread_source" =
      (Fields.get? turn "thread_source").or (some (.string "user"))

/-- Turn metadata that are absent or null are made up. -/
def TurnRewritten (libs : Libraries) (old new : Option Json) : Prop :=
  ((old = none ∨ old = some .null) ∧ new = some (.string defaultTurnMetadataValue)) ∨
    ∃ value value', old = some value ∧ value ≠ .null ∧ new = some value' ∧
      TurnSurvives libs value value'

/-- The entries of a `client_metadata` object, and of an empty one where there was none. -/
structure EntriesSurvive (libs : Libraries) (installationId : Option String)
    (metadata metadata' : Fields) : Prop where
  others : ∀ key, key ≠ turnMetadataHeader → key ≠ installationIdHeader →
    metadata'.get? key = metadata.get? key
  installationId : metadata'.get? installationIdHeader =
    (installationId.map Json.string).or (metadata.get? installationIdHeader)
  turn : TurnRewritten libs (metadata.get? turnMetadataHeader) (metadata'.get? turnMetadataHeader)

def ClientMetadataRewritten (libs : Libraries) (installationId : Option String) :
    Option Json → Option Json → Prop
  | none, new | some .null, new =>
    ∃ metadata', new = some (.object metadata') ∧ EntriesSurvive libs installationId [] metadata'
  | some (.object metadata), new => ∃ metadata', new = some (.object metadata') ∧
      EntriesSurvive libs installationId metadata metadata'
  | old, new => new = old

/-! ## The functions on values -/

theorem typeRewritten (old : Option Json) :
    TypeRewritten old ((rewritten normalizeBuiltinToolAliasType).value old) := by
  cases old with
  | none => exact .inr ⟨fun _ h => absurd h (by simp), rfl⟩
  | some value =>
    cases value with
    | string name =>
      by_cases hname : LegacyAlias name
      · refine .inl ⟨name, rfl, hname, ?_⟩
        have hnormalized : normalizeBuiltinToolType name = some "web_search" := if_pos hname
        simp [Rule.value, rewritten, Edit.result, normalizeBuiltinToolAliasType, hnormalized]
      · refine .inr ⟨fun name' h => ?_, ?_⟩
        · cases h
          exact hname
        · have hnormalized : normalizeBuiltinToolType name = none := if_neg hname
          simp [Rule.value, rewritten, Edit.result, normalizeBuiltinToolAliasType, hnormalized]
    | _ => exact .inr ⟨fun _ h => absurd h (by simp), rfl⟩

theorem toolRewritten (tool : Json) : ToolRewritten tool (normalizeBuiltinToolAlias tool) := by
  cases tool with
  | object tool =>
    refine ⟨_, rfl, fun key hkey => ?_, ?_⟩
    · rw [modify_eq, Fields.get?_applyRule_of_ne _ hkey]
    · rw [modify_eq, Fields.get?_applyRule_self]
      exact typeRewritten _
  | _ => rfl

theorem toolsRewritten (old : Option Json) :
    ToolsRewritten old ((rewritten normalizeBuiltinToolAliases).value old) := by
  cases old with
  | none => rfl
  | some value =>
    cases value with
    | array tools =>
      refine ⟨_, rfl, ?_⟩
      rw [List.forall₂_map_right_iff]
      exact List.forall₂_same.mpr fun tool _ => toolRewritten tool
    | _ => rfl

theorem nodup_toolChoiceRules : (toolChoiceRules.map (·.1)).Nodup := by decide

theorem toolChoiceRewritten (old : Option Json) :
    ToolChoiceRewritten old ((rewritten normalizeToolChoiceAliases).value old) := by
  cases old with
  | none => rfl
  | some value =>
    cases value with
    | string name =>
      have hvalue : (rewritten normalizeToolChoiceAliases).value (some (.string name)) =
          some (normalizeBuiltinToolChoiceString name) := rfl
      rw [hvalue]
      unfold normalizeBuiltinToolChoiceString
      by_cases hcurrent : name = "web_search"
      · refine .inl ⟨.inr hcurrent, ?_⟩
        simp [hcurrent]
      · by_cases hname : LegacyAlias name
        · have hnormalized : normalizeBuiltinToolType name = some "web_search" := if_pos hname
          refine .inl ⟨.inl hname, ?_⟩
          simp [hcurrent, hnormalized]
        · have hnormalized : normalizeBuiltinToolType name = none := if_neg hname
          refine .inr ⟨not_or.mpr ⟨hname, hcurrent⟩, ?_⟩
          simp [hcurrent, hnormalized]
    | object choice =>
      refine ⟨Fields.applyRules toolChoiceRules choice, ?_, fun key htype htools => ?_, ?_, ?_⟩
      · exact congrArg some (normalizeToolChoiceAliases_object choice)
      · exact Fields.get?_applyRules_of_not_mem (by simp [toolChoiceRules, htype, htools])
      · have htype : ("type", rewritten normalizeBuiltinToolAliasType) ∈ toolChoiceRules := .head _
        rw [Fields.get?_applyRules nodup_toolChoiceRules htype]
        exact typeRewritten _
      · have htools : ("tools", rewritten normalizeBuiltinToolAliases) ∈ toolChoiceRules :=
          .tail _ (.head _)
        rw [Fields.get?_applyRules nodup_toolChoiceRules htools]
        exact toolsRewritten _
    | _ => rfl

/-! ## No alias is left -/

theorem not_legacyAlias_of_typeRewritten {old new : Option Json} (h : TypeRewritten old new)
    (name : String) (hname : new = some (.string name)) : ¬LegacyAlias name := by
  rcases h with ⟨_, -, -, rfl⟩ | ⟨hother, rfl⟩
  · cases hname
    unfold LegacyAlias
    decide
  · exact hother name hname

theorem aliasFree_of_typeRewritten {tool : Fields} {old : Option Json}
    (h : TypeRewritten old (tool.get? "type")) : AliasFree (.object tool) := by
  intro name hname
  obtain ⟨value, hvalue, hstring⟩ := Option.bind_eq_some_iff.mp hname
  cases value with
  | string text =>
    obtain rfl := Option.some.inj hstring
    exact not_legacyAlias_of_typeRewritten h text hvalue
  | _ => cases hstring

theorem aliasFree_of_toolRewritten {tool tool' : Json} (h : ToolRewritten tool tool') :
    AliasFree tool' := by
  cases tool with
  | object tool =>
    obtain ⟨tool', rfl, -, htype⟩ := h
    exact aliasFree_of_typeRewritten htype
  | _ =>
    cases h
    intro name hname
    cases hname

theorem aliasFree_of_forall₂ {tools tools' : List Json}
    (h : List.Forall₂ ToolRewritten tools tools') : ∀ tool ∈ tools', AliasFree tool := by
  induction h with
  | nil => exact fun tool htool => (by cases htool)
  | cons htool _ ih =>
    intro tool hmem
    rcases List.mem_cons.mp hmem with rfl | hmem
    · exact aliasFree_of_toolRewritten htool
    · exact ih tool hmem

theorem toolsAliasFree_of_toolsRewritten {old new : Option Json} (h : ToolsRewritten old new) :
    ToolsAliasFree new := by
  rintro items rfl tool htool
  cases old with
  | none => cases h
  | some value =>
    cases value with
    | array tools =>
      obtain ⟨tools', hitems, htools⟩ := h
      cases hitems
      exact aliasFree_of_forall₂ htools tool htool
    | _ => cases h

theorem toolChoiceAliasFree_of_toolChoiceRewritten {old new : Option Json}
    (h : ToolChoiceRewritten old new) : ToolChoiceAliasFree new := by
  cases old with
  | none =>
    cases h
    exact ⟨fun _ h => (by cases h), fun _ h => (by cases h)⟩
  | some value =>
    cases value with
    | string name =>
      rcases h with ⟨-, rfl⟩ | ⟨hname, rfl⟩
      · refine ⟨fun _ h => (by cases h), fun choice h => ?_⟩
        cases h
        refine ⟨fun name hname => ?_, fun items hitems => ?_⟩
        · obtain rfl : "web_search" = name := Option.some.inj hname
          unfold LegacyAlias
          decide
        · cases hitems
      · refine ⟨fun name' h => ?_, fun _ h => (by cases h)⟩
        cases h
        exact fun halias => hname (.inl halias)
    | object choice =>
      obtain ⟨choice', rfl, -, htype, htools⟩ := h
      refine ⟨fun _ h => (by cases h), fun choice h => ?_⟩
      cases h
      exact ⟨aliasFree_of_typeRewritten htype, toolsAliasFree_of_toolsRewritten htools⟩
    | _ =>
      cases h
      exact ⟨fun _ h => (by cases h), fun _ h => (by cases h)⟩

/-! ## A table of the responses path -/

section

variable {mode : FingerprintMode} {parallel : Bool} {object : Fields} {key : String} {rule : Rule}

theorem get?_compatibilityRules (hrule : (key, rule) ∈ compatibilityRules) :
    (Fields.applyRules (responsesRules mode false parallel) object).get? key =
      rule.value (object.get? key) :=
  Fields.get?_applyRules (nodup_responsesRules _ _ _) (List.mem_append_left _ hrule)

/-- A default is there after the normalization or, in the other mode, as it was. -/
theorem get?_defaultRules {codexOriginator : Bool} (hrule : (key, rule) ∈ defaultRules parallel) :
    (Fields.applyRules (responsesRules mode codexOriginator parallel) object).get? key =
      match mode with
      | .passthrough => object.get? key
      | .normalize => rule.value (object.get? key) := by
  cases mode with
  | passthrough =>
    refine Fields.get?_applyRules_of_not_mem fun hmem => ?_
    have hnodup := nodup_responsesRules .normalize codexOriginator parallel
    have hkeys : key ∈ (defaultRules parallel).map (·.1) := List.mem_map_of_mem hrule
    have hsplit : (responsesRules .normalize codexOriginator parallel).map (·.1) =
        (responsesRules .passthrough codexOriginator parallel).map (·.1) ++
          (defaultRules parallel).map (·.1) := by
      simp only [responsesRules, List.append_nil, List.map_append]
    rw [hsplit] at hnodup
    exact List.disjoint_of_nodup_append hnodup hmem hkeys
  | normalize =>
    exact Fields.get?_applyRules (nodup_responsesRules _ _ _) (List.mem_append_right _ hrule)

end

theorem documentedKeys_of_responsesRules {mode : FingerprintMode} {codexOriginator parallel : Bool}
    {key : String} (hkey : key ∈ (responsesRules mode codexOriginator parallel).map (·.1)) :
    key ∈ documentedKeys codexOriginator := by
  have hsubset : (responsesRules mode codexOriginator parallel).map (·.1) ⊆
      documentedKeys codexOriginator := by
    cases mode <;> cases codexOriginator <;> cases parallel <;> decide
  exact hsubset hkey

theorem rule_mem_serviceTier : ("service_tier", priorityOnly) ∈ compatibilityRules :=
  List.mem_append_right _ (.head _)

theorem rule_mem_tools : ("tools", rewritten normalizeBuiltinToolAliases) ∈ compatibilityRules :=
  List.mem_append_right _ (.tail _ (.head _))

theorem rule_mem_toolChoice :
    ("tool_choice", rewritten normalizeToolChoiceAliases) ∈ compatibilityRules :=
  List.mem_append_right _ (.tail _ (.tail _ (.head _)))

theorem value_priorityOnly (old : Option Json) (value : Json) :
    priorityOnly.value old = some value ↔ value = .string "priority" ∧ old = some value := by
  cases old with
  | none => simp [Rule.value, priorityOnly, Edit.result]
  | some old =>
    cases old with
    | string tier =>
      by_cases htier : tier = "priority"
      · simp only [Rule.value, priorityOnly, htier, if_true, Edit.result, Option.some.injEq]
        exact ⟨fun h => ⟨h.symm, h⟩, fun h => h.2⟩
      · simp only [Rule.value, priorityOnly, htier, if_false, Edit.result, Option.some.injEq,
          reduceCtorEq, false_iff, not_and]
        rintro rfl h
        exact htier (Json.string.inj h)
    | _ =>
      simp only [Rule.value, priorityOnly, Edit.result, Option.some.injEq, reduceCtorEq, false_iff,
        not_and]
      rintro rfl h
      cases h

theorem normalized_responsesRules (mode : FingerprintMode) (codexOriginator parallel : Bool)
    (object : Fields) :
    Normalized codexOriginator object.get?
      (Fields.applyRules (responsesRules mode codexOriginator parallel) object).get? where
  others key hkey := Fields.get?_applyRules_of_not_mem
    fun hmem => hkey (documentedKeys_of_responsesRules hmem)
  kept key hkey value hvalue := by
    have hrule : ∃ default, (key, defaulting default) ∈ defaultRules parallel := by
      simp only [List.mem_cons, List.not_mem_nil, or_false] at hkey
      rcases hkey with rfl | rfl
      · exact ⟨_, .tail _ (.head _)⟩
      · exact ⟨_, .tail _ (.tail _ (.head _))⟩
    obtain ⟨default, hrule⟩ := hrule
    rw [get?_defaultRules hrule]
    cases mode with
    | passthrough => exact hvalue
    | normalize => rw [hvalue]; rfl
  instructions value hvalue hnull := by
    have hrule : ("instructions", instructionsRule) ∈ defaultRules parallel := .head _
    rw [get?_defaultRules hrule]
    cases mode with
    | passthrough => exact hvalue
    | normalize =>
      rw [hvalue]
      cases value with
      | null => exact absurd rfl hnull
      | _ => rfl
  tools hcodex := by
    subst hcodex
    rw [get?_compatibilityRules rule_mem_tools]
    exact toolsRewritten _
  toolChoice hcodex := by
    subst hcodex
    rw [get?_compatibilityRules rule_mem_toolChoice]
    exact toolChoiceRewritten _
  removed hcodex key hkey := by
    subst hcodex
    have hrule : (key, removed) ∈ compatibilityRules :=
      List.mem_append_left _ (List.mem_map_of_mem hkey)
    rw [get?_compatibilityRules hrule]
    rfl
  serviceTier hcodex value := by
    subst hcodex
    rw [get?_compatibilityRules rule_mem_serviceTier]
    exact value_priorityOnly _ _
  aliasFree hcodex := by
    subst hcodex
    rw [get?_compatibilityRules rule_mem_tools, get?_compatibilityRules rule_mem_toolChoice]
    exact ⟨toolsAliasFree_of_toolsRewritten (toolsRewritten _),
      toolChoiceAliasFree_of_toolChoiceRewritten (toolChoiceRewritten _)⟩

/-! ## A table of the client metadata -/

section

variable {libs : Libraries} {installationId : Option String}

/-- Turn metadata in a text are read back after their merge. -/
def MergeReadsBack (libs : Libraries) (old : Option Json) : Prop :=
  ∀ raw turn, old = some (.string raw) → libs.fromStr raw = some (.object turn) →
    ReadsBack libs (.object (Fields.orInsert turn "thread_source" (.string "user")))

theorem get?_orInsert_self (fields : Fields) (key : String) (value : Json) :
    (fields.orInsert key value).get? key = (fields.get? key).or (some value) := by
  rw [orInsert_eq, Fields.get?_applyRule_self]
  cases fields.get? key <;> rfl

theorem turnRewritten {old : Option Json} (hread : MergeReadsBack libs old) :
    TurnRewritten libs old ((turnMetadataRule libs).value old) := by
  cases old with
  | none => exact .inl ⟨.inl rfl, rfl⟩
  | some value =>
    cases value with
    | null => exact .inl ⟨.inr rfl, rfl⟩
    | string raw =>
      refine .inr ⟨.string raw, ?_⟩
      cases hmerged : mergeTurnMetadataThreadSource libs raw with
      | none =>
        refine ⟨.string raw, rfl, (fun h => by cases h), ?_, .inl rfl⟩
        simp [Rule.value, turnMetadataRule, hmerged, Edit.result]
      | some merged =>
        refine ⟨.string merged, rfl, (fun h => by cases h), ?_, .inr ?_⟩
        · simp [Rule.value, turnMetadataRule, hmerged, Edit.result]
        · unfold mergeTurnMetadataThreadSource at hmerged
          split at hmerged
          next turn hraw =>
            refine ⟨raw, turn, merged, _, rfl, hraw, rfl, hread raw turn rfl hraw merged hmerged,
              fun key hkey => ?_, ?_⟩
            · exact Fields.get?_orInsert_of_ne hkey
            · exact get?_orInsert_self _ _ _
          next => cases hmerged
    | _ => exact .inr ⟨_, _, rfl, (fun h => by cases h), rfl, .inl rfl⟩

theorem entriesSurvive {metadata : Fields}
    (hread : MergeReadsBack libs (metadata.get? turnMetadataHeader)) :
    EntriesSurvive libs installationId metadata
      (Fields.applyRules (metadataRules libs installationId) metadata) where
  others key hturn hid := by
    refine Fields.get?_applyRules_of_not_mem ?_
    cases installationId with
    | none => simp [metadataRules, hturn]
    | some _ => simp [metadataRules, hturn, hid]
  installationId := by
    cases installationId with
    | none =>
      have hnot : installationIdHeader ∉ (metadataRules libs none).map (·.1) := by
        change installationIdHeader ∉ [turnMetadataHeader]
        decide
      exact Fields.get?_applyRules_of_not_mem hnot
    | some installationId =>
      have hrule : (installationIdHeader, fun _ => Edit.put (.string installationId)) ∈
          metadataRules libs (some installationId) := .tail _ (.head _)
      rw [Fields.get?_applyRules nodup_metadataRules hrule]
      rfl
  turn := by
    have hrule : (turnMetadataHeader, turnMetadataRule libs) ∈
        metadataRules libs installationId := .head _
    rw [Fields.get?_applyRules nodup_metadataRules hrule]
    exact turnRewritten hread

/-- The turn metadata in the client metadata of a body. -/
def turnMetadata? (object : Fields) : Option Json :=
  (clientMetadata? object).bind (Fields.get? · turnMetadataHeader)

theorem clientMetadataRewritten {object : Fields}
    (hread : MergeReadsBack libs (turnMetadata? object)) :
    ClientMetadataRewritten libs installationId (object.get? "client_metadata")
      ((clientMetadataRule libs installationId).value (object.get? "client_metadata")) := by
  unfold turnMetadata? clientMetadata? at hread
  cases hvalue : object.get? "client_metadata" with
  | none =>
    rw [hvalue] at hread
    exact ⟨_, rfl, entriesSurvive hread⟩
  | some value =>
    rw [hvalue] at hread
    cases value with
    | null => exact ⟨_, rfl, entriesSurvive hread⟩
    | object metadata => exact ⟨_, rfl, entriesSurvive hread⟩
    | _ => rfl

end

theorem Normalized.congr {codexOriginator : Bool} {before after after' : Lookup}
    (h : Normalized codexOriginator before after)
    (hagree : ∀ key, key ≠ "client_metadata" → after' key = after key) :
    Normalized codexOriginator before after' where
  others key hkey := by
    have hne : key ≠ "client_metadata" := fun heq => hkey (by simp [documentedKeys, heq])
    rw [hagree key hne]
    exact h.others key hkey
  kept key hkey := by
    have hne : key ≠ "client_metadata" := fun heq => by simp [heq] at hkey
    rw [hagree key hne]
    exact h.kept key hkey
  instructions := by
    rw [hagree _ (by decide)]
    exact h.instructions
  tools := by
    rw [hagree _ (by decide)]
    exact h.tools
  toolChoice := by
    rw [hagree _ (by decide)]
    exact h.toolChoice
  removed hcodex key hkey := by
    have hne : key ≠ "client_metadata" := fun heq => by simp [heq, removedFields] at hkey
    rw [hagree key hne]
    exact h.removed hcodex key hkey
  serviceTier := by
    rw [hagree _ (by decide)]
    exact h.serviceTier
  aliasFree := by
    rw [hagree "tools" (by decide), hagree "tool_choice" (by decide)]
    exact h.aliasFree

theorem get?_createdObject_of_ne {libs : Libraries} {mode : FingerprintMode}
    {codexOriginator : Bool} {snapshot : Option ModelsSnapshot} {installationId : Option String}
    {object : Fields} {key : String} (hkey : key ≠ "client_metadata") :
    (createdObject libs mode codexOriginator snapshot installationId object).get? key =
      (Fields.applyRules (responsesRules mode codexOriginator
        (defaultParallelToolCalls (object.get? "model") snapshot)) object).get? key := by
  unfold createdObject createRules
  cases mode with
  | passthrough => rw [List.append_nil]
  | normalize =>
    rw [applyRules_append]
    exact Fields.get?_applyRule_of_ne _ hkey

theorem get?_createdObject_clientMetadata {libs : Libraries} {mode : FingerprintMode}
    {codexOriginator : Bool} {snapshot : Option ModelsSnapshot} {installationId : Option String}
    {object : Fields} :
    (createdObject libs mode codexOriginator snapshot installationId object).get?
        "client_metadata" = match mode with
      | .passthrough => object.get? "client_metadata"
      | .normalize =>
        (clientMetadataRule libs installationId).value (object.get? "client_metadata") := by
  have hnot (mode : FingerprintMode) (parallel : Bool) :
      "client_metadata" ∉ (responsesRules mode codexOriginator parallel).map (·.1) := by
    cases mode <;> cases codexOriginator <;> cases parallel <;> decide
  unfold createdObject createRules
  cases mode with
  | passthrough =>
    rw [List.append_nil]
    exact Fields.get?_applyRules_of_not_mem (hnot _ _)
  | normalize =>
    rw [applyRules_append]
    exact (Fields.get?_applyRule_self _).trans
      (congrArg _ (Fields.get?_applyRules_of_not_mem (hnot _ _)))

theorem normalizeResponseCreatePayload_passthrough (libs : Libraries)
    (snapshot : Option ModelsSnapshot) (installationId : Option String) (text : String) :
    normalizeResponseCreatePayload libs .passthrough true snapshot installationId text = none := by
  unfold normalizeResponseCreatePayload
  cases libs.fromStr text with
  | none => rfl
  | some original =>
    rw [Option.bind_some]
    split
    next htype =>
      cases original with
      | object object =>
        have hsame : createdObject libs .passthrough true snapshot installationId object = object :=
          rfl
        rw [normalizeResponseCreate_object, hsame, if_pos (Json.beq_self _)]
        rfl
      | _ => cases htype
    next => rfl

/-- Outside the documented keys a body keeps its values, and under them only what is documented
changes; turn metadata that are null count as absent. -/
theorem normalization_frame (libs : Libraries) (mode : FingerprintMode) (codexOriginator : Bool)
    (snapshot : Option ModelsSnapshot) :
    ((∀ object, normalizeResponsesRequestBody .passthrough true snapshot (.object object) =
        .object object) ∧
      ∀ installationId text,
        normalizeResponseCreatePayload libs .passthrough true snapshot installationId text =
          none) ∧
    (∀ object : Fields, ∃ after : Fields,
      normalizeResponsesRequestBody mode codexOriginator snapshot (.object object) =
        .object after ∧
      Normalized codexOriginator object.get? after.get? ∧
      after.get? "client_metadata" = object.get? "client_metadata") ∧
    ∀ (installationId : Option String) (text : String) (object : Fields),
      libs.fromStr text = some (.object object) →
      getStr? (.object object) "type" = some "response.create" →
      MergeReadsBack libs (turnMetadata? object) →
      ∃ after : Fields, Normalized codexOriginator object.get? after.get? ∧
        (match mode with
          | .passthrough => after.get? "client_metadata" = object.get? "client_metadata"
          | .normalize => ClientMetadataRewritten libs installationId
              (object.get? "client_metadata") (after.get? "client_metadata")) ∧
        ((normalizeResponseCreatePayload libs mode codexOriginator snapshot installationId text =
            none ∧ after = object) ∨
          ∃ text', normalizeResponseCreatePayload libs mode codexOriginator snapshot installationId
              text = some text' ∧ libs.encode (.object after) = some text') := by
  refine ⟨⟨fun _ => rfl, normalizeResponseCreatePayload_passthrough libs snapshot⟩,
    fun object => ?_, fun installationId text object htext htype hread => ?_⟩
  · refine ⟨_, normalizeResponsesRequestBody_object mode codexOriginator snapshot object,
      normalized_responsesRules _ _ _ object, Fields.get?_applyRules_of_not_mem ?_⟩
    cases mode <;> cases codexOriginator <;>
      simp [responsesRules, compatibilityRules, removedFields, defaultRules]
  · refine ⟨createdObject libs mode codexOriginator snapshot installationId object,
      (normalized_responsesRules mode codexOriginator _ object).congr
        fun key hkey => get?_createdObject_of_ne hkey, ?_, ?_⟩
    · rw [get?_createdObject_clientMetadata]
      cases mode with
      | passthrough => rfl
      | normalize => exact clientMetadataRewritten hread
    · unfold normalizeResponseCreatePayload
      rw [htext, Option.bind_some, if_pos htype, normalizeResponseCreate_object]
      split
      next hsame =>
        exact .inl ⟨rfl, createdObject_eq_of_beq hsame⟩
      next =>
        obtain ⟨text', htext'⟩ := Option.isSome_iff_exists.mp (libs.encode_isSome
          (.object (createdObject libs mode codexOriginator snapshot installationId object)))
        exact .inr ⟨text', htext', htext'⟩

theorem normalization_frame_clientCreate : ∃ after : Fields,
    Normalized false clientCreate.get? after.get? ∧
    ClientMetadataRewritten createLibraries (some "i1") (clientCreate.get? "client_metadata")
      (after.get? "client_metadata") ∧
    ((normalizeResponseCreatePayload createLibraries .normalize false none (some "i1")
        clientCreateText = none ∧ after = clientCreate) ∨
      ∃ text', normalizeResponseCreatePayload createLibraries .normalize false none (some "i1")
          clientCreateText = some text' ∧ createLibraries.encode (.object after) = some text') := by
  refine (normalization_frame createLibraries .normalize false none).2.2 (some "i1")
    clientCreateText clientCreate fromStr_clientCreateText rfl fun raw turn hraw hturn => ?_
  obtain rfl : clientTurnText = raw := Json.string.inj (Option.some.inj hraw)
  exact readsOutput_clientCreate.turnMetadata _ _ turn rfl rfl hturn

/-- A `response.create` with turn metadata that are null. -/
def nullTurnCreate : Fields :=
  [("type", .string "response.create"),
    ("client_metadata", .object [(turnMetadataHeader, .null)])]

/-- The null does not survive. -/
theorem null_turn_metadata_replaced :
    turnMetadata? nullTurnCreate = some .null ∧
      ∀ value', turnMetadata? (createdObject createLibraries .normalize true none none
        nullTurnCreate) = some value' → ¬TurnSurvives createLibraries .null value' := by
  refine ⟨rfl, fun value' hvalue hsurvives => ?_⟩
  have hreplaced : turnMetadata? (createdObject createLibraries .normalize true none none
      nullTurnCreate) = some (.string defaultTurnMetadataValue) := rfl
  obtain rfl := Option.some.inj (hreplaced.symm.trans hvalue)
  rcases hsurvives with hsame | ⟨raw, _, _, _, hraw, -⟩
  · cases hsame
  · cases hraw

end Codaze.Upstream
