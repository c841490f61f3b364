import Codaze.Upstream.NormalizationRules

/-!
# Messages that normalization does not change

A `response.create` is forwarded as it came where its normalized document is equal to it, and the
equality of documents does not look at the order of fields. No rule puts a value that is equal to
the old one and another, so such a document has not changed at all.
-/
namespace Codaze.Upstream
open Foundation Responses

/-- What the function makes of a value is the value where the two are equal. -/
def Exact (f : Json → Json) : Prop := ∀ value, (f value).beq value = true → f value = value

theorem string_eq_of_beq {text : String} {value : Json} (h : (Json.string text).beq value = true) :
    .string text = value := by
  cases value with
  | string text' => simpa [Json.beq] using h
  | _ => cases h

theorem beqItems_map {f : Json → Json} (hf : Exact f) {items : List Json}
    (h : beqItems (items.map f) items = true) : items.map f = items := by
  induction items with
  | nil => rfl
  | cons item items ih =>
    simp only [List.map_cons, beqItems, Bool.and_eq_true] at h
    rw [List.map_cons, hf item h.1, ih h.2]

/-! ## Single rules -/

theorem exact_removed : removed.Exact := fun _ _ hput => by cases hput

theorem exact_priorityOnly : priorityOnly.Exact := by
  intro value old hput
  cases old with
  | string tier =>
    simp only [priorityOnly] at hput
    split at hput <;> cases hput
  | _ => cases hput

theorem exact_rewritten {f : Json → Json} (hf : Exact f) : (rewritten f).Exact := by
  intro value old hput hsame
  obtain rfl : f old = value := Edit.put.inj hput
  exact hf old hsame

theorem exact_defaulting (value : Json) : (defaulting value).Exact :=
  fun _ _ hput => by cases hput

theorem exact_instructionsRule : instructionsRule.Exact := by
  intro value old hput hsame
  cases old with
  | null =>
    obtain rfl := Edit.put.inj hput
    cases hsame
  | _ => cases hput

/-- A message is no text. -/
theorem exact_inputRule : inputRule.Exact := by
  intro value old hput hsame
  cases old with
  | string text =>
    obtain rfl := Edit.put.inj hput
    cases hsame
  | _ => cases hput

theorem exact_normalizeBuiltinToolAliasType : Exact normalizeBuiltinToolAliasType := by
  intro value hsame
  cases value with
  | string toolType => exact string_eq_of_beq hsame
  | _ => rfl

theorem exact_normalizeBuiltinToolAlias : Exact normalizeBuiltinToolAlias := by
  intro value hsame
  cases value with
  | object tool =>
    have hrule : Fields.modify tool "type" normalizeBuiltinToolAliasType =
        Fields.applyRules [("type", rewritten normalizeBuiltinToolAliasType)] tool :=
      modify_eq tool "type" normalizeBuiltinToolAliasType
    simp only [normalizeBuiltinToolAlias, hrule] at hsame ⊢
    congr 1
    refine Fields.applyRules_eq_of_beq (List.nodup_singleton _) (fun rule hmem => ?_) hsame
    obtain rfl := List.mem_singleton.mp hmem
    exact exact_rewritten exact_normalizeBuiltinToolAliasType
  | _ => rfl

theorem exact_normalizeBuiltinToolAliases : Exact normalizeBuiltinToolAliases := by
  intro value hsame
  cases value with
  | array tools => exact congrArg Json.array (beqItems_map exact_normalizeBuiltinToolAlias hsame)
  | _ => rfl

theorem exact_normalizeToolChoiceAliases : Exact normalizeToolChoiceAliases := by
  intro value hsame
  cases value with
  | string toolType =>
    simp only [normalizeToolChoiceAliases, normalizeBuiltinToolChoiceString] at hsame ⊢
    split at hsame
    · cases hsame
    next => rfl
  | object toolChoice =>
    rw [normalizeToolChoiceAliases_object] at hsame ⊢
    congr 1
    refine Fields.applyRules_eq_of_beq (by decide) (fun rule hrule => ?_) hsame
    simp only [toolChoiceRules, List.mem_cons, List.not_mem_nil, or_false] at hrule
    rcases hrule with rfl | rfl
    · exact exact_rewritten exact_normalizeBuiltinToolAliasType
    · exact exact_rewritten exact_normalizeBuiltinToolAliases
  | _ => rfl

theorem exact_turnMetadataRule (libs : Libraries) : (turnMetadataRule libs).Exact := by
  intro value old hput hsame
  cases old with
  | null =>
    obtain rfl := Edit.put.inj hput
    cases hsame
  | string raw =>
    simp only [turnMetadataRule] at hput
    split at hput
    · obtain rfl := Edit.put.inj hput
      exact string_eq_of_beq hsame
    · cases hput
  | _ => cases hput

theorem exact_clientMetadataRule (libs : Libraries) (installationId : Option String) :
    (clientMetadataRule libs installationId).Exact := by
  intro value old hput hsame
  cases old with
  | null =>
    obtain rfl := Edit.put.inj hput
    cases hsame
  | object metadata =>
    obtain rfl := Edit.put.inj hput
    congr 1
    refine Fields.applyRules_eq_of_beq nodup_metadataRules (fun rule hrule => ?_) hsame
    unfold metadataRules at hrule
    rw [List.mem_cons] at hrule
    rcases hrule with rfl | hrule
    · exact exact_turnMetadataRule libs
    · cases installationId with
      | none => cases hrule
      | some installationId =>
        obtain rfl := List.mem_singleton.mp hrule
        intro value old hput hsame
        obtain rfl := Edit.put.inj hput
        exact string_eq_of_beq hsame
  | _ => cases hput

/-! ## Tables -/

theorem exact_responsesRules (mode : FingerprintMode) (codexOriginator parallel : Bool) :
    ∀ rule ∈ responsesRules mode codexOriginator parallel, rule.2.Exact := by
  intro rule hrule
  unfold responsesRules at hrule
  rw [List.mem_append] at hrule
  rcases hrule with hrule | hrule
  · cases codexOriginator with
    | true => cases hrule
    | false =>
      simp only [Bool.false_eq_true, if_false, compatibilityRules, List.mem_append, List.mem_map,
        List.mem_cons, List.not_mem_nil, or_false] at hrule
      rcases hrule with ⟨key, -, rfl⟩ | rfl | rfl | rfl | rfl
      · exact exact_removed
      · exact exact_priorityOnly
      · exact exact_rewritten exact_normalizeBuiltinToolAliases
      · exact exact_rewritten exact_normalizeToolChoiceAliases
      · exact exact_inputRule
  · cases mode with
    | passthrough => cases hrule
    | normalize =>
      simp only [defaultRules, List.mem_cons, List.not_mem_nil, or_false] at hrule
      rcases hrule with rfl | rfl | rfl
      · exact exact_instructionsRule
      · exact exact_defaulting _
      · exact exact_defaulting _

theorem createdObject_eq_of_beq {libs : Libraries} {mode : FingerprintMode}
    {codexOriginator : Bool} {snapshot : Option ModelsSnapshot} {installationId : Option String}
    {object : Fields}
    (hsame : (Json.object (createdObject libs mode codexOriginator snapshot installationId
      object)).beq (.object object) = true) :
    createdObject libs mode codexOriginator snapshot installationId object = object := by
  refine Fields.applyRules_eq_of_beq (nodup_createRules _) (fun rule hrule => ?_) hsame
  unfold createRules at hrule
  rw [List.mem_append] at hrule
  rcases hrule with hrule | hrule
  · exact exact_responsesRules _ _ _ rule hrule
  · cases mode with
    | passthrough => cases hrule
    | normalize =>
      obtain rfl := List.mem_singleton.mp hrule
      exact exact_clientMetadataRule libs installationId

/-- The document of a `response.create`, whether its text was written anew or not. -/
theorem sendResponseCreate_body (libs : Libraries) (codexOriginator : Bool)
    (snapshot : Option ModelsSnapshot) (own : Option String) (original : Json) :
    (normalizeResponseCreate libs .normalize codexOriginator snapshot own original).getD original =
      applyResponsesInstallationId own .normalize (applyClientMetadataUserThreadSource libs
        (normalizeResponsesRequestBody .normalize codexOriginator snapshot original)) := by
  have hchoice (json : Json) (h : json.beq original = true → json = original) :
      (if json.beq original then none else some json).getD original = json := by
    split
    next hsame => exact (h hsame).symm
    next => rfl
  refine hchoice _ fun hsame => ?_
  cases original with
  | object object =>
    rw [normalizeResponsesRequestBody_object, clientMetadata_eq] at hsame ⊢
    have hcreated := @createdObject_eq_of_beq libs .normalize codexOriginator snapshot own object
    rw [createdObject, createRules, applyRules_append] at hcreated
    exact congrArg Json.object (hcreated hsame)
  | _ => cases own <;> rfl

end Codaze.Upstream
