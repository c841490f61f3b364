import Codaze.Foundation.Fields
import Codaze.Foundation.HashMap
import Codaze.Foundation.Headers
import Codaze.Foundation.Text

/-!
# Normalized request bodies

What `request_normalization` makes of a client's body and of its `_gateway` overrides
before an account is selected.
-/
namespace Codaze.Upstream
open Foundation

inductive FingerprintMode where
  | normalize | passthrough
  deriving DecidableEq, Repr

structure ModelsSnapshot where
  parallelToolCallsBySlug : HashMap String Bool

def ModelsSnapshot.supportsParallelToolCalls (snapshot : ModelsSnapshot) (slug : String) : Bool :=
  (snapshot.parallelToolCallsBySlug.lookup slug).getD true

def defaultParallelToolCalls (model : Option Json) (snapshot : Option ModelsSnapshot) : Bool :=
  match (model.bind Json.asStr?).map trim, snapshot with
  | some slug, some snapshot => snapshot.supportsParallelToolCalls slug
  | _, _ => true

def normalizeInstructionsField (object : Fields) : Fields :=
  match object.get? "instructions" with
  | some .null | none => object.insert "instructions" (.string "")
  | some _ => object

def normalizeStringInputToMessage (object : Fields) : Fields :=
  match (object.get? "input").bind Json.asStr? with
  | none => object
  | some text => object.insert "input" (.array [.object [
      ("type", .string "message"),
      ("role", .string "user"),
      ("content", .array [.object [("type", .string "input_text"), ("text", .string text)]])]])

def normalizeBuiltinToolType (toolType : String) : Option String :=
  if toolType = "web_search_preview" ∨ toolType = "web_search_preview_2025_03_11" then
    some "web_search"
  else none

def normalizeBuiltinToolAliasType : Json → Json
  | .string toolType => .string ((normalizeBuiltinToolType toolType).getD toolType)
  | value => value

def normalizeBuiltinToolAlias : Json → Json
  | .object tool => .object (Fields.modify tool "type" normalizeBuiltinToolAliasType)
  | tool => tool

/-- `normalize_builtin_tool_aliases_at_path`. -/
def normalizeBuiltinToolAliases : Json → Json
  | .array tools => .array (tools.map normalizeBuiltinToolAlias)
  | value => value

def normalizeBuiltinToolChoiceString (toolType : String) : Json :=
  let normalized :=
    if toolType = "web_search" then some "web_search" else normalizeBuiltinToolType toolType
  match normalized with
  | some normalized => .object [("type", .string normalized)]
  | none => .string toolType

def normalizeToolChoiceAliases : Json → Json
  | .string toolType => normalizeBuiltinToolChoiceString toolType
  | .object toolChoice =>
    .object ((Fields.modify toolChoice "type" normalizeBuiltinToolAliasType).modify "tools"
      normalizeBuiltinToolAliases)
  | toolChoice => toolChoice

/-- Only the tier `priority` is kept. -/
def normalizeServiceTier (object : Fields) : Fields :=
  match object.get? "service_tier" with
  | some (.string tier) => if tier = "priority" then object else object.remove "service_tier"
  | _ => object.remove "service_tier"

def normalizeNonCodexResponsesCompatibility (object : Fields) : Fields :=
  let object := normalizeServiceTier <| ["max_output_tokens", "max_completion_tokens",
    "temperature", "top_p", "truncation", "user"].foldl Fields.remove object
  (object.modify "tools" normalizeBuiltinToolAliases).modify "tool_choice"
    normalizeToolChoiceAliases

/-- The default of `parallel_tool_calls`, by the model of the body. -/
def withParallelToolCalls (snapshot : Option ModelsSnapshot) (object : Fields) : Fields :=
  object.orInsert "parallel_tool_calls"
    (.bool (defaultParallelToolCalls (object.get? "model") snapshot))

def normalizeResponsesRequestBody (mode : FingerprintMode) (codexOriginator : Bool)
    (snapshot : Option ModelsSnapshot) : Json → Json
  | .object object =>
    let object := if codexOriginator then object
      else normalizeStringInputToMessage (normalizeNonCodexResponsesCompatibility object)
    .object <| match mode with
      | .passthrough => object
      | .normalize => withParallelToolCalls snapshot
          ((normalizeInstructionsField object).orInsert "store" (.bool false))
  | body => body

def normalizeCompactRequestBody (mode : FingerprintMode) (codexOriginator : Bool)
    (snapshot : Option ModelsSnapshot) : Json → Json
  | .object object =>
    let object := if codexOriginator then object else normalizeStringInputToMessage object
    .object <| match mode with
      | .passthrough => object
      | .normalize => withParallelToolCalls snapshot (normalizeInstructionsField object)
  | body => body

/-- `codex_protocol::protocol::SessionSource`, as far as the gateway looks at it. -/
inductive SessionSource where
  | review
  | compact
  | memoryConsolidation
  | threadSpawn (parentThreadId : String)
  | otherSubAgent (label : String)
  | other
  deriving DecidableEq, Repr

/-- The serialization of `SessionSource`. -/
structure SessionSources where
  fromStr : String → Option SessionSource
  /-- `from_value` and `to_string`, with the text of the error. -/
  reencode : Json → Except String String

/-- `insert_header`; the name is a valid one. -/
def insertHeader (headers : HeaderMap) (name value : String) : HeaderMap :=
  match HeaderValue.fromStr value with
  | some value => headers.insert name value
  | none => headers

def jsonTypeName : Json → String
  | .null => "null"
  | .bool _ => "boolean"
  | .number _ => "number"
  | .string _ => "string"
  | .array _ => "array"
  | .object _ => "object"

def applySessionSourceOverride (sources : SessionSources) (headers : HeaderMap) :
    Json → Except String HeaderMap
  | .null => .ok (headers.remove "x-codex-session-source")
  | sessionSource =>
    (sources.reencode sessionSource).map (insertHeader headers "x-codex-session-source")

def applyBodyGatewayOverrides (sources : SessionSources) (headers : HeaderMap) :
    Json → Except String (HeaderMap × Json)
  | .object object =>
    let body := Json.object (Fields.remove object "_gateway")
    match Fields.get? object "_gateway" with
    | none | some .null => .ok (headers, body)
    | some (.object gateway) =>
      match Fields.get? gateway "session_source" with
      | none => .ok (headers, body)
      | some sessionSource =>
        (applySessionSourceOverride sources headers sessionSource).map fun headers =>
          (headers, body)
    | some other => .error ("_gateway must be null or object; got " ++ jsonTypeName other)
  | body => .ok (headers, body)

end Codaze.Upstream
