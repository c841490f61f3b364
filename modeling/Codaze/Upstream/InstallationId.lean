import Codaze.Upstream.Requests

/-!
# The installation id in a body

Every step of the normalization is blind to the installation id of the client's
`client_metadata`: it neither reads nor moves it. Overwriting it leaves nothing of the id
before.
-/
namespace Codaze.Upstream
open Foundation Accounts Responses

/-- A metadata object without the installation id. -/
def withoutMetadataId : Json → Json
  | .object metadata => .object (Fields.without metadata installationIdHeader)
  | metadata => metadata

/-- A body without the installation id in its `client_metadata`. -/
def withoutInstallationId : Json → Json
  | .object object => .object (object.map (Fields.onKey "client_metadata" withoutMetadataId))
  | body => body

theorem withoutInstallationId_of_other {body : Json} (h : body.asObject? = none) :
    withoutInstallationId body = body := by
  cases body with
  | object => cases h
  | _ => rfl

/-- The installation id in the `client_metadata` of a body. -/
def installationId? (body : Json) : Option Json :=
  body.getPath? ["client_metadata", installationIdHeader]

/-- Equal as JSON values: where the id stands among the metadata does not count. -/
def SameBody (body body' : Json) : Prop :=
  withoutInstallationId body = withoutInstallationId body' ∧
    installationId? body = installationId? body'

/-! ## Edits that are blind to the id -/

/-- An edit of an object that neither reads nor changes its `client_metadata`. -/
structure OffMetadata (edit : Fields → Fields) : Prop where
  commutes (object : Fields) (f : Json → Json) :
    edit (object.map (Fields.onKey "client_metadata" f)) =
      (edit object).map (Fields.onKey "client_metadata" f)
  keeps (object : Fields) : (edit object).get? "client_metadata" = object.get? "client_metadata"

namespace OffMetadata

variable {edit edit' : Fields → Fields} {key : String}

theorem id : OffMetadata fun object => object := ⟨fun _ _ => rfl, fun _ => rfl⟩

theorem comp (h : OffMetadata edit) (h' : OffMetadata edit') :
    OffMetadata fun object => edit' (edit object) where
  commutes object f := by rw [h.commutes, h'.commutes]
  keeps object := by rw [h'.keeps, h.keeps]

theorem insert (value : Json) (hkey : key ≠ "client_metadata") :
    OffMetadata fun object => object.insert key value where
  commutes _ f := Fields.insert_map_onKey_of_ne f hkey
  keeps _ := Fields.get?_insert_of_ne hkey.symm

theorem orInsert (value : Json) (hkey : key ≠ "client_metadata") :
    OffMetadata fun object => object.orInsert key value where
  commutes _ f := Fields.orInsert_map_onKey_of_ne f hkey
  keeps _ := Fields.get?_orInsert_of_ne hkey.symm

theorem remove (hkey : key ≠ "client_metadata") :
    OffMetadata fun object => object.remove key where
  commutes _ f := Fields.remove_map_onKey f
  keeps _ := Fields.get?_remove_of_ne hkey.symm

theorem modify (f : Json → Json) (hkey : key ≠ "client_metadata") :
    OffMetadata fun object => object.modify key f where
  commutes _ g := Fields.modify_map_onKey_of_ne g hkey
  keeps _ := Fields.get?_modify_of_ne hkey.symm

/-- An edit that is chosen by another field. -/
theorem reading (key : String) (hkey : key ≠ "client_metadata")
    (h : ∀ value, ∃ edit', OffMetadata edit' ∧
      ∀ object : Fields, object.get? key = value → edit object = edit' object) :
    OffMetadata edit where
  commutes object f := by
    obtain ⟨edit', hoff, hedit⟩ := h (object.get? key)
    have hsame : Fields.get? (object.map (Fields.onKey "client_metadata" f)) key =
        object.get? key := Fields.get?_map_onKey_of_ne f hkey
    rw [hedit _ hsame, hedit object rfl, hoff.commutes]
  keeps object := by
    obtain ⟨edit', hoff, hedit⟩ := h (object.get? key)
    rw [hedit object rfl, hoff.keeps]

theorem foldl_remove (keys : List String) (hkeys : "client_metadata" ∉ keys) :
    OffMetadata fun object => keys.foldl Fields.remove object := by
  induction keys with
  | nil => exact id
  | cons key keys ih =>
    have hkey : key ≠ "client_metadata" := fun h => hkeys (h ▸ List.mem_cons_self)
    have hrest := ih fun h => hkeys (List.mem_cons_of_mem _ h)
    exact (remove hkey).comp hrest

theorem instructions : OffMetadata normalizeInstructionsField := by
  refine reading "instructions" (by decide) fun value => ?_
  by_cases hempty : value = none ∨ value = some .null
  · have hkey : "instructions" ≠ "client_metadata" := by decide
    refine ⟨_, insert (.string "") hkey, fun object hvalue => ?_⟩
    rcases hempty with rfl | rfl <;> rw [normalizeInstructionsField, hvalue]
  · refine ⟨_, id, fun object hvalue => ?_⟩
    unfold normalizeInstructionsField
    split <;> simp_all

theorem input : OffMetadata normalizeStringInputToMessage := by
  refine reading "input" (by decide) fun value => ?_
  cases htext : value.bind Json.asStr? with
  | none =>
    refine ⟨_, id, fun object hvalue => ?_⟩
    rw [normalizeStringInputToMessage, hvalue, htext]
  | some text =>
    have hkey : "input" ≠ "client_metadata" := by decide
    let message : Json := .object [
      ("type", .string "message"),
      ("role", .string "user"),
      ("content", .array [.object [("type", .string "input_text"), ("text", .string text)]])]
    refine ⟨_, insert (.array [message]) hkey, fun object hvalue => ?_⟩
    rw [normalizeStringInputToMessage, hvalue, htext]

theorem serviceTier : OffMetadata normalizeServiceTier := by
  refine reading "service_tier" (by decide) fun value => ?_
  by_cases hpriority : value = some (.string "priority")
  · refine ⟨_, id, fun object hvalue => ?_⟩
    rw [normalizeServiceTier, hvalue, hpriority]
    rfl
  · have hkey : "service_tier" ≠ "client_metadata" := by decide
    refine ⟨_, remove hkey, fun object hvalue => ?_⟩
    unfold normalizeServiceTier
    split
    next tier htier =>
      have hother : tier ≠ "priority" := by
        rintro rfl
        exact hpriority (hvalue.symm.trans htier)
      rw [if_neg hother]
    next => rfl

theorem compatibility : OffMetadata normalizeNonCodexResponsesCompatibility := by
  have hremoved := foldl_remove ["max_output_tokens", "max_completion_tokens", "temperature",
    "top_p", "truncation", "user"] (by decide)
  have htools : OffMetadata fun object => object.modify "tools" normalizeBuiltinToolAliases :=
    modify _ (by decide)
  have hchoice : OffMetadata fun object => object.modify "tool_choice"
      normalizeToolChoiceAliases := modify _ (by decide)
  exact ((hremoved.comp serviceTier).comp htools).comp hchoice

theorem parallelToolCalls (snapshot : Option ModelsSnapshot) :
    OffMetadata (withParallelToolCalls snapshot) := by
  refine reading "model" (by decide) fun model => ?_
  have hkey : "parallel_tool_calls" ≠ "client_metadata" := by decide
  refine ⟨_, orInsert (.bool (defaultParallelToolCalls model snapshot)) hkey,
    fun object hmodel => ?_⟩
  rw [withParallelToolCalls, hmodel]

end OffMetadata

/-- A step that neither reads nor moves the installation id of a body. -/
structure Blind (step : Json → Json) : Prop where
  commutes (body : Json) : withoutInstallationId (step body) = step (withoutInstallationId body)
  keeps (body : Json) : installationId? (step body) = installationId? body

namespace Blind

variable {step step' : Json → Json}

theorem id : Blind fun body => body := ⟨fun _ => rfl, fun _ => rfl⟩

theorem comp (h : Blind step) (h' : Blind step') : Blind fun body => step' (step body) where
  commutes body := by rw [h'.commutes, h.commutes]
  keeps body := by rw [h'.keeps, h.keeps]

/-- An edit of the other fields of a body. -/
theorem ofEdit {edit : Fields → Fields} (h : OffMetadata edit)
    (hobject : ∀ object, step (.object object) = .object (edit object))
    (hother : ∀ body, body.asObject? = none → step body = body) : Blind step where
  commutes body := by
    cases hbody : body.asObject? with
    | none =>
      have hsame := withoutInstallationId_of_other hbody
      rw [hsame, hother body hbody, hsame]
    | some object =>
      obtain rfl := Json.eq_object_of_asObject? hbody
      have hcommutes := h.commutes object withoutMetadataId
      simp only [withoutInstallationId, hobject, hcommutes]
  keeps body := by
    cases hbody : body.asObject? with
    | none => rw [hother body hbody]
    | some object =>
      obtain rfl := Json.eq_object_of_asObject? hbody
      have hkeeps : (Json.object (edit object)).get? "client_metadata" =
        (Json.object object).get? "client_metadata" := h.keeps object
      simp only [installationId?, Json.getPath?, hobject, hkeeps]

theorem responsesBody (codexOriginator : Bool) (snapshot : Option ModelsSnapshot) :
    Blind (normalizeResponsesRequestBody .normalize codexOriginator snapshot) := by
  have hclient : OffMetadata fun object => if codexOriginator then object
      else normalizeStringInputToMessage (normalizeNonCodexResponsesCompatibility object) := by
    cases codexOriginator with
    | true => exact .id
    | false =>
      simp only [Bool.false_eq_true, if_false]
      exact OffMetadata.compatibility.comp .input
  have hdefault : OffMetadata fun object => object.orInsert "store" (.bool false) :=
    .orInsert _ (by decide)
  have hstore := OffMetadata.instructions.comp hdefault
  refine ofEdit ((hclient.comp hstore).comp (.parallelToolCalls snapshot)) (fun _ => rfl) ?_
  intro body hbody
  cases body with
  | object => cases hbody
  | _ => rfl

theorem compactBody (codexOriginator : Bool) (snapshot : Option ModelsSnapshot) :
    Blind (normalizeCompactRequestBody .normalize codexOriginator snapshot) := by
  have hclient : OffMetadata fun object => if codexOriginator then object
      else normalizeStringInputToMessage object := by
    cases codexOriginator with
    | true => exact .id
    | false => exact .input
  refine ofEdit ((hclient.comp .instructions).comp (.parallelToolCalls snapshot)) (fun _ => rfl) ?_
  intro body hbody
  cases body with
  | object => cases hbody
  | _ => rfl

end Blind

/-! ## The metadata -/

theorem turnMetadata_ne_installationId : turnMetadataHeader ≠ installationIdHeader := by decide

/-- The metadata object of a body, as the edits see it. -/
def metadata? (body : Json) : Option Fields := body.asObject?.bind clientMetadata?

theorem metadata?_without (body : Json) :
    metadata? (withoutInstallationId body) =
      (metadata? body).map fun metadata => metadata.without installationIdHeader := by
  cases hbody : body.asObject? with
  | none =>
    rw [withoutInstallationId_of_other hbody, metadata?, hbody]
    rfl
  | some object =>
    obtain rfl := Json.eq_object_of_asObject? hbody
    have hget : Fields.get? (object.map (Fields.onKey "client_metadata" withoutMetadataId))
        "client_metadata" = (Fields.get? object "client_metadata").map withoutMetadataId :=
      Fields.get?_map_onKey _
    simp only [metadata?, withoutInstallationId, Json.asObject?, Option.bind_some, clientMetadata?,
      hget]
    cases Fields.get? object "client_metadata" with
    | none => rfl
    | some value => cases value <;> rfl

theorem installationId?_eq (body : Json) :
    installationId? body =
      (metadata? body).bind fun metadata => metadata.get? installationIdHeader := by
  have hpath (json : Json) : json.getPath? [installationIdHeader] =
      json.get? installationIdHeader := by
    simp only [Json.getPath?]
    cases json.get? installationIdHeader <;> rfl
  cases hbody : body.asObject? with
  | none =>
    cases body with
    | object => cases hbody
    | _ => rfl
  | some object =>
    obtain rfl := Json.eq_object_of_asObject? hbody
    have hget : (Json.object object).get? "client_metadata" =
        Fields.get? object "client_metadata" := rfl
    simp only [installationId?, Json.getPath?, metadata?, Json.asObject?, Option.bind_some, hget,
      clientMetadata?]
    cases Fields.get? object "client_metadata" with
    | none => rfl
    | some value =>
      rw [Option.bind_some]
      cases value <;> exact hpath _

/-- Edits the metadata object of a body, if it has one or can be given one. -/
def editMetadata (edit : Fields → Fields) : Json → Json
  | .object object =>
    match clientMetadata? object with
    | some metadata => .object (Fields.insert object "client_metadata" (.object (edit metadata)))
    | none => .object object
  | root => root

theorem applyClientMetadataInstallationId_eq (installationId : String) (body : Json) :
    applyClientMetadataInstallationId installationId body =
      editMetadata (fun metadata => metadata.insert installationIdHeader (.string installationId))
        body := by
  cases body <;> rfl

theorem applyClientMetadataUserThreadSource_eq (libs : Libraries) (body : Json) :
    applyClientMetadataUserThreadSource libs body =
      editMetadata (withUserThreadSource libs) body := by
  cases body <;> rfl

section edit

variable {edit edit' : Fields → Fields}

theorem metadata?_editMetadata (edit : Fields → Fields) (body : Json) :
    metadata? (editMetadata edit body) = (metadata? body).map edit := by
  cases hbody : body.asObject? with
  | none =>
    cases body with
    | object => cases hbody
    | _ => rfl
  | some object =>
    obtain rfl := Json.eq_object_of_asObject? hbody
    simp only [editMetadata, metadata?, Json.asObject?, Option.bind_some]
    cases hmetadata : clientMetadata? object with
    | none => simpa using hmetadata
    | some metadata =>
      have hget : Fields.get? (Fields.insert object "client_metadata" (.object (edit metadata)))
        "client_metadata" = some (.object (edit metadata)) := Fields.get?_insert_self
      simp only [Option.bind_some, clientMetadata?, hget, Option.map_some]

theorem withoutInstallationId_editMetadata (body : Json)
    (h : ∀ metadata : Fields, (edit metadata).without installationIdHeader =
      edit' (metadata.without installationIdHeader)) :
    withoutInstallationId (editMetadata edit body) =
      editMetadata edit' (withoutInstallationId body) := by
  cases hbody : body.asObject? with
  | none =>
    rw [withoutInstallationId_of_other hbody]
    cases body with
    | object => cases hbody
    | _ => rfl
  | some object =>
    obtain rfl := Json.eq_object_of_asObject? hbody
    have hwithout := metadata?_without (.object object)
    simp only [metadata?, Json.asObject?, Option.bind_some, withoutInstallationId] at hwithout
    simp only [editMetadata, withoutInstallationId, hwithout]
    cases clientMetadata? object with
    | none => rfl
    | some metadata =>
      have hinsert : Fields.insert
          (object.map (Fields.onKey "client_metadata" withoutMetadataId)) "client_metadata"
          (withoutMetadataId (.object (edit metadata))) =
            (Fields.insert object "client_metadata" (.object (edit metadata))).map
              (Fields.onKey "client_metadata" withoutMetadataId) :=
        Fields.insert_map_onKey withoutMetadataId
      have hvalue : withoutMetadataId (.object (edit metadata)) =
        .object (edit' (metadata.without installationIdHeader)) := congrArg Json.object (h metadata)
      simp only [Option.map_some, ← hinsert, hvalue]

end edit

theorem Blind.userThreadSource (libs : Libraries) :
    Blind (applyClientMetadataUserThreadSource libs) := by
  have hinsert (metadata : Fields) (value : Json) :
      (metadata.insert turnMetadataHeader value).without installationIdHeader =
        (metadata.without installationIdHeader).insert turnMetadataHeader value :=
    Fields.without_insert_of_ne turnMetadata_ne_installationId
  have hget (metadata : Fields) (value : Json) :
      (metadata.insert turnMetadataHeader value).get? installationIdHeader =
        metadata.get? installationIdHeader :=
    Fields.get?_insert_of_ne turnMetadata_ne_installationId.symm
  refine ⟨fun body => ?_, fun body => ?_⟩
  · simp only [applyClientMetadataUserThreadSource_eq]
    refine withoutInstallationId_editMetadata body fun metadata => ?_
    have hturn : Fields.get? (metadata.without installationIdHeader) turnMetadataHeader =
        metadata.get? turnMetadataHeader :=
      Fields.get?_without_of_ne turnMetadata_ne_installationId
    simp only [withUserThreadSource, hturn]
    split
    · exact hinsert metadata _
    · exact hinsert metadata _
    · split
      · exact hinsert metadata _
      · rfl
    · rfl
  · rw [applyClientMetadataUserThreadSource_eq, installationId?_eq, metadata?_editMetadata,
      installationId?_eq, Option.bind_map]
    congr 1
    funext metadata
    simp only [Function.comp_apply, withUserThreadSource]
    split
    · exact hget metadata _
    · exact hget metadata _
    · split
      · exact hget metadata _
      · rfl
    · rfl

/-- The id of an overwritten body, wherever its metadata is an object. -/
theorem installationId?_overwritten (installationId : String) (body : Json) :
    installationId? (applyClientMetadataInstallationId installationId body) =
      (metadata? body).map fun _ => .string installationId := by
  rw [applyClientMetadataInstallationId_eq, installationId?_eq, metadata?_editMetadata]
  cases metadata? body with
  | none => rfl
  | some metadata => exact Fields.get?_insert_self

/-- Overwriting the id leaves nothing of the one before. -/
theorem sameBody_overwritten {body body' : Json} (installationId : String)
    (h : withoutInstallationId body = withoutInstallationId body') :
    SameBody (applyClientMetadataInstallationId installationId body)
      (applyClientMetadataInstallationId installationId body') := by
  have hwithout (body : Json) :
      withoutInstallationId (applyClientMetadataInstallationId installationId body) =
        editMetadata (fun metadata => metadata) (withoutInstallationId body) := by
    rw [applyClientMetadataInstallationId_eq]
    exact withoutInstallationId_editMetadata body fun metadata => Fields.without_insert_self
  have hmetadata : (metadata? body).map (fun metadata => metadata.without installationIdHeader) =
      (metadata? body').map fun metadata => metadata.without installationIdHeader := by
    rw [← metadata?_without, ← metadata?_without, h]
  refine ⟨by rw [hwithout, hwithout, h], ?_⟩
  rw [installationId?_overwritten, installationId?_overwritten]
  cases hbody : metadata? body with
  | none =>
    rw [hbody] at hmetadata
    rw [Option.map_eq_none_iff.mp hmetadata.symm]
  | some metadata =>
    rw [hbody] at hmetadata
    obtain ⟨metadata', hbody', -⟩ := Option.map_eq_some_iff.mp hmetadata.symm
    rw [hbody']
    rfl

end Codaze.Upstream
