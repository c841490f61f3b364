import Codaze.Responses.GatewayErrors

/-!
# What a caller sees of the upstream headers

Which names are removed is decided by the header map itself, through its `Connection`
headers; the values of a quota header only matter for whether there is one.
-/
namespace Codaze.Responses
open Foundation Upstream

variable {headers : HeaderMap} {name : String}

/-- The headers about one hop that are removed under every map. -/
def hopByHopHeaders : List String :=
  ["connection", "keep-alive", "proxy-authenticate", "proxy-authorization", "te", "trailer",
    "transfer-encoding", "upgrade"]

/-- Some textual `Connection` header lists the name, in whichever letter case; the names of
a map are in lower case. -/
def NamedByConnection (headers : HeaderMap) (name : String) : Prop :=
  ∃ value ∈ headers.getAll "connection", ∃ raw, value.toStr = some raw ∧
    ∃ token ∈ raw.toList.splitOn ',', trimChars token ≠ [] ∧
      toAsciiLowercase (String.ofList (trimChars token)) = name

/-- What is not passed on. -/
def Removed (headers : HeaderMap) (name : String) : Prop :=
  name ∈ hopByHopHeaders ∨ name = "content-encoding" ∨ name = "content-length" ∨
    NamedByConnection headers name

/-- The value `0.0` of a quota header. -/
def nothingUsed : HeaderValue := ⟨utf8Bytes "0.0", by decide⟩

/-- Two maps that differ in the values of quota headers only. -/
def SameButUsage (headers headers' : HeaderMap) : Prop :=
  ∀ name, if isUsedPercentHeader name then headers.getAll name = [] ↔ headers'.getAll name = []
    else headers.getAll name = headers'.getAll name

/-! ## The headers removed -/

theorem mem_connectionTokens {value : HeaderValue} :
    name ∈ connectionTokens value ↔ ∃ raw, value.toStr = some raw ∧
      ∃ token ∈ raw.toList.splitOn ',', trimChars token ≠ [] ∧
        toAsciiLowercase (String.ofList (trimChars token)) = name := by
  unfold connectionTokens
  cases htext : value.toStr with
  | none => simp
  | some raw => simp [and_assoc]

theorem getAll_removeHopByHopResponseHeaders [Decidable (NamedByConnection headers name)] :
    (removeHopByHopResponseHeaders headers).getAll name =
      if NamedByConnection headers name ∨ name ∈ hopByHopHeaders then []
      else headers.getAll name := by
  have hnames : name ∈ (headers.getAll "connection").flatMap connectionTokens ++ hopByHopHeaders ↔
      NamedByConnection headers name ∨ name ∈ hopByHopHeaders := by
    rw [List.mem_append, List.mem_flatMap]
    simp only [mem_connectionTokens, NamedByConnection]
  have hfold : (removeHopByHopResponseHeaders headers).getAll name = _ :=
    HeaderMap.getAll_foldl_remove
      ((headers.getAll "connection").flatMap connectionTokens ++ hopByHopHeaders) headers name
  rw [hfold]
  exact if_congr hnames rfl rfl

/-! ## The quota headers -/

theorem insertHeader_nothingUsed (headers : HeaderMap) (name : String) :
    insertHeader headers name "0.0" = headers.insert name nothingUsed := by
  have hvalue : HeaderValue.fromStr "0.0" = some nothingUsed := dif_pos (by decide)
  rw [insertHeader, hvalue]

theorem getAll_foldl_insertHeader (names : List String) (headers : HeaderMap) :
    (names.foldl (fun headers name => insertHeader headers name "0.0") headers).getAll name =
      if name ∈ names then [nothingUsed] else headers.getAll name := by
  induction names generalizing headers with
  | nil => simp
  | cons first names ih =>
    rw [List.foldl_cons, ih, insertHeader_nothingUsed]
    by_cases hfirst : name = first
    · subst hfirst
      simp [HeaderMap.getAll_insert_self]
    · simp [hfirst, HeaderMap.getAll_insert_of_ne (Ne.symm hfirst)]

theorem getAll_normalizeRateLimitHeaders (headers : HeaderMap) (name : String) :
    (normalizeRateLimitHeaders headers).getAll name =
      if isUsedPercentHeader name ∧ headers.getAll name ≠ [] then [nothingUsed]
      else headers.getAll name := by
  rw [normalizeRateLimitHeaders, getAll_foldl_insertHeader]
  refine if_congr ?_ rfl rfl
  rw [List.mem_filter, List.mem_dedup, HeaderMap.mem_names, and_comm]

/-! ## Sanitizing -/

theorem getAll_sanitizeResponseHeaders [Decidable (Removed headers name)] :
    (sanitizeResponseHeaders headers).getAll name =
      if Removed headers name then []
      else if isUsedPercentHeader name ∧ headers.getAll name ≠ [] then [nothingUsed]
      else headers.getAll name := by
  classical
  have hkept : (((removeHopByHopResponseHeaders headers).remove "content-encoding").remove
      "content-length").getAll name = if Removed headers name then [] else headers.getAll name := by
    by_cases hlength : name = "content-length"
    · rw [if_pos (.inr (.inr (.inl hlength))), hlength, HeaderMap.getAll_remove]
    by_cases hencoding : name = "content-encoding"
    · rw [if_pos (.inr (.inl hencoding)), HeaderMap.getAll_remove_of_ne hlength, hencoding,
        HeaderMap.getAll_remove]
    · rw [HeaderMap.getAll_remove_of_ne hlength, HeaderMap.getAll_remove_of_ne hencoding,
        getAll_removeHopByHopResponseHeaders]
      refine if_congr ?_ rfl rfl
      simp only [Removed, hlength, hencoding, false_or]
      exact or_comm
  rw [sanitizeResponseHeaders, getAll_normalizeRateLimitHeaders, hkept]
  by_cases hremoved : Removed headers name
  · simp [hremoved]
  · simp only [hremoved, if_false]

theorem SameButUsage.removed_iff {headers' : HeaderMap} (h : SameButUsage headers headers') :
    Removed headers name ↔ Removed headers' name := by
  have hconnection := h "connection"
  rw [if_neg (by decide)] at hconnection
  simp only [Removed, NamedByConnection, hconnection]

/-- The headers passed on are the ones not removed, with all their values in order; a quota
header says that nothing is used, and what it said before changes nothing. -/
theorem response_headers_sanitized (headers : HeaderMap) :
    (∀ name, Removed headers name → (sanitizeResponseHeaders headers).getAll name = []) ∧
    (∀ name, ¬Removed headers name → (sanitizeResponseHeaders headers).getAll name =
      if isUsedPercentHeader name ∧ headers.getAll name ≠ [] then [nothingUsed]
      else headers.getAll name) ∧
    ∀ headers', SameButUsage headers headers' → ∀ name,
      (sanitizeResponseHeaders headers).getAll name =
        (sanitizeResponseHeaders headers').getAll name := by
  classical
  refine ⟨fun name hremoved => ?_, fun name hkept => ?_, fun headers' hsame name => ?_⟩
  · rw [getAll_sanitizeResponseHeaders, if_pos hremoved]
  · rw [getAll_sanitizeResponseHeaders, if_neg hkept]
  · have hvalues := hsame name
    rw [getAll_sanitizeResponseHeaders, getAll_sanitizeResponseHeaders]
    refine if_congr hsame.removed_iff rfl ?_
    by_cases husage : isUsedPercentHeader name
    · rw [if_pos husage] at hvalues
      by_cases hnone : headers.getAll name = []
      · simp [hnone, hvalues.mp hnone]
      · simp [husage, hnone, mt hvalues.mpr hnone]
    · rw [if_neg husage] at hvalues
      simp [husage, hvalues]

/-- A response that names an extension header, and says how much of a quota is used. -/
def quotaHeaders (used : HeaderValue) : HeaderMap :=
  [("connection", ⟨utf8Bytes "close, X-Next", by decide⟩), ("x-next", ⟨utf8Bytes "b", by decide⟩),
    ("x-codex-primary-used-percent", used)]

theorem removed_quotaHeaders (used : HeaderValue) : Removed (quotaHeaders used) "x-next" := by
  refine .inr (.inr (.inr ⟨⟨utf8Bytes "close, X-Next", by decide⟩, ?_, "close, X-Next", ?_,
    " X-Next".toList, ?_, ?_, ?_⟩))
  · exact List.mem_cons_self
  · decide
  · decide
  · decide
  · decide

theorem sameButUsage_quotaHeaders (used used' : HeaderValue) :
    SameButUsage (quotaHeaders used) (quotaHeaders used') := by
  intro name
  by_cases husage : name = "x-codex-primary-used-percent"
  · subst husage
    rw [if_pos (by decide)]
    exact iff_of_false (List.cons_ne_nil _ _) (List.cons_ne_nil _ _)
  · have hvalues : (quotaHeaders used).getAll name = (quotaHeaders used').getAll name := by
      simp [quotaHeaders, HeaderMap.getAll, List.filter_cons, Ne.symm husage]
    split
    · rw [hvalues]
    · exact hvalues

theorem response_headers_sanitized_quotaHeaders :
    (sanitizeResponseHeaders (quotaHeaders nothingUsed)).getAll "x-next" = [] ∧
      ∀ name, (sanitizeResponseHeaders (quotaHeaders ⟨utf8Bytes "42.5", by decide⟩)).getAll name =
        (sanitizeResponseHeaders (quotaHeaders nothingUsed)).getAll name :=
  ⟨(response_headers_sanitized _).1 _ (removed_quotaHeaders _),
    (response_headers_sanitized _).2.2 _ (sameButUsage_quotaHeaders _ _)⟩

end Codaze.Responses
