import Codaze.Upstream.Requests

/-!
# The session source of a request body

`_gateway.session_source` is printed into a header, and the header is parsed where the
request is sent. The two ends allow different characters, and a header value that is not
allowed is left out in silence.
-/
namespace Codaze.Upstream
open Foundation

abbrev sessionSourceHeader : String := "x-codex-session-source"

/-- The serialization of the sources with all their values: `from_value`, `to_string` and
`from_str`. -/
structure SessionSourceCodec (Source : Type) where
  fromValue : Json → Except String Source
  print : Source → String
  fromStr : String → Option Source
  /-- What the gateway looks at. -/
  view : Source → SessionSource

namespace SessionSourceCodec

variable {Source : Type}

/-- A printed source is read back; it is JSON without blanks around it. -/
structure Lawful (codec : SessionSourceCodec Source) : Prop where
  fromStr_print : ∀ source, codec.fromStr (codec.print source) = some source
  trim_print : ∀ source, trim (codec.print source) = codec.print source
  print_ne : ∀ source, codec.print source ≠ ""

def sources (codec : SessionSourceCodec Source) : SessionSources where
  fromStr text := (codec.fromStr text).map codec.view
  reencode json := (codec.fromValue json).map codec.print

/-- `parse_session_source_header`, with all of the source. -/
def parseHeader (codec : SessionSourceCodec Source) (source : HeaderMap) : Option Source :=
  ((source.get sessionSourceHeader).bind HeaderValue.toStr).bind fun raw =>
    if trim raw = "" then none else codec.fromStr (trim raw)

theorem parseSessionSourceHeader_eq (codec : SessionSourceCodec Source) (source : HeaderMap) :
    parseSessionSourceHeader codec.sources source = (codec.parseHeader source).map codec.view := by
  unfold parseSessionSourceHeader parseHeader
  cases (source.get sessionSourceHeader).bind HeaderValue.toStr with
  | none => rfl
  | some raw =>
    dsimp only [Option.bind_some]
    split <;> rfl

end SessionSourceCodec

/-! ## The headers a failed override leaves -/

/-- `apply_session_source_override` on the headers it changes. -/
def overrideSessionSource (sources : SessionSources) (headers : HeaderMap) :
    Json → HeaderMap × Except String Unit
  | .null => (headers.remove sessionSourceHeader, .ok ())
  | sessionSource => match sources.reencode sessionSource with
    | .ok encoded => (insertHeader headers sessionSourceHeader encoded, .ok ())
    | .error error => (headers, .error error)

/-- `apply_body_gateway_overrides` on the headers and the body it changes. -/
def overrideFromBody (sources : SessionSources) (headers : HeaderMap) :
    Json → (HeaderMap × Json) × Except String Unit
  | .object object =>
    let body := Json.object (Fields.remove object "_gateway")
    match Fields.get? object "_gateway" with
    | none | some .null => ((headers, body), .ok ())
    | some (.object gateway) =>
      match Fields.get? gateway "session_source" with
      | none => ((headers, body), .ok ())
      | some sessionSource =>
        let (headers, result) := overrideSessionSource sources headers sessionSource
        ((headers, body), result)
    | some other =>
      ((headers, body), .error ("_gateway must be null or object; got " ++ jsonTypeName other))
  | body => ((headers, body), .ok ())

section

variable {sources : SessionSources} {headers : HeaderMap} {json : Json}

theorem overrideSessionSource_ok {text : String} (hnull : json ≠ .null)
    (htext : sources.reencode json = .ok text) : overrideSessionSource sources headers json =
      (insertHeader headers sessionSourceHeader text, .ok ()) := by
  cases json with
  | null => exact absurd rfl hnull
  | _ => simp only [overrideSessionSource, htext]

theorem overrideSessionSource_error {error : String} (hnull : json ≠ .null)
    (herror : sources.reencode json = .error error) :
    overrideSessionSource sources headers json = (headers, .error error) := by
  cases json with
  | null => exact absurd rfl hnull
  | _ => simp only [overrideSessionSource, herror]

end

theorem applySessionSourceOverride_eq (sources : SessionSources) (headers : HeaderMap)
    (json : Json) : applySessionSourceOverride sources headers json =
      (overrideSessionSource sources headers json).2.map fun _ =>
        (overrideSessionSource sources headers json).1 := by
  by_cases hnull : json = .null
  · subst hnull
    rfl
  have hreencoded : applySessionSourceOverride sources headers json =
      (sources.reencode json).map (insertHeader headers sessionSourceHeader) := by
    cases json with
    | null => exact absurd rfl hnull
    | _ => rfl
  cases hresult : sources.reencode json with
  | ok text => rw [hreencoded, hresult, overrideSessionSource_ok hnull hresult]; rfl
  | error error => rw [hreencoded, hresult, overrideSessionSource_error hnull hresult]; rfl

/-- What the caller gets of the headers and the body if there is no error. -/
theorem applyBodyGatewayOverrides_eq (sources : SessionSources) (headers : HeaderMap)
    (body : Json) : applyBodyGatewayOverrides sources headers body =
      (overrideFromBody sources headers body).2.map fun _ =>
        (overrideFromBody sources headers body).1 := by
  cases body with
  | object object =>
    unfold applyBodyGatewayOverrides overrideFromBody
    dsimp only
    cases Fields.get? object "_gateway" with
    | none => rfl
    | some gateway =>
      cases gateway with
      | object gateway =>
        dsimp only
        cases Fields.get? gateway "session_source" with
        | none => rfl
        | some json =>
          dsimp only
          rw [applySessionSourceOverride_eq]
          cases (overrideSessionSource sources headers json).2 <;> rfl
      | _ => rfl
  | _ => rfl

/-! ## Reading the header back -/

/-- The `session_source` of a body, `null` included. -/
def sessionSource? : Json → Option Json
  | .object object => match Fields.get? object "_gateway" with
    | some (.object gateway) => Fields.get? gateway "session_source"
    | _ => none
  | _ => none

theorem overrideFromBody_of_source {sources : SessionSources} {headers : HeaderMap}
    {body json : Json} (hsource : sessionSource? body = some json) :
    ∃ body', overrideFromBody sources headers body =
      (((overrideSessionSource sources headers json).1, body'),
        (overrideSessionSource sources headers json).2) := by
  cases body with
  | object object =>
    unfold sessionSource? at hsource
    unfold overrideFromBody
    dsimp only at hsource ⊢
    cases hgateway : Fields.get? object "_gateway" with
    | none => rw [hgateway] at hsource; cases hsource
    | some gateway =>
      rw [hgateway] at hsource
      cases gateway with
      | object gateway =>
        dsimp only at hsource ⊢
        rw [hsource]
        exact ⟨_, rfl⟩
      | _ => cases hsource
  | _ => cases hsource

/-- The headers of a request whose override fails are the ones it came with. -/
theorem headers_of_error {sources : SessionSources} {headers : HeaderMap} {body : Json}
    {error : String} (herror : (overrideFromBody sources headers body).2 = .error error) :
    (overrideFromBody sources headers body).1.1 = headers := by
  cases hsource : sessionSource? body with
  | some json =>
    obtain ⟨body', hbody⟩ := @overrideFromBody_of_source sources headers body json hsource
    rw [hbody] at herror ⊢
    by_cases hnull : json = .null
    · subst hnull
      cases herror
    cases hresult : sources.reencode json with
    | ok text =>
      rw [overrideSessionSource_ok hnull hresult] at herror
      cases herror
    | error error => rw [overrideSessionSource_error hnull hresult]
  | none =>
    cases body with
    | object object =>
      unfold sessionSource? at hsource
      unfold overrideFromBody
      dsimp only at hsource ⊢
      cases hgateway : Fields.get? object "_gateway" with
      | none => rfl
      | some gateway =>
        rw [hgateway] at hsource
        cases gateway with
        | object gateway =>
          dsimp only at hsource ⊢
          rw [hsource]
        | _ => rfl
    | _ => rfl

namespace SessionSourceCodec

variable {Source : Type} {codec : SessionSourceCodec Source}

/-- What holds of an override that round-trips. -/
structure RoundTrips (codec : SessionSourceCodec Source) (headers : HeaderMap) (body : Json) :
    Prop where
  source : ∀ json source, sessionSource? body = some json → json ≠ .null →
    codec.fromValue json = .ok source →
    (overrideFromBody codec.sources headers body).2 = .ok () →
    codec.parseHeader (overrideFromBody codec.sources headers body).1.1 = some source
  null : sessionSource? body = some .null →
    codec.parseHeader (overrideFromBody codec.sources headers body).1.1 = none
  error : ∀ message, (overrideFromBody codec.sources headers body).2 = .error message →
    (overrideFromBody codec.sources headers body).1.1 = headers

/-- A source whose text the reader of the header accepts, or one that the header map does not
take although the header names it already. -/
def Carried (codec : SessionSourceCodec Source) (headers : HeaderMap) (source : Source) : Prop :=
  (utf8Bytes (codec.print source)).all isVisibleAscii ∨
    ((utf8Bytes (codec.print source)).all isHeaderByte = false ∧
      codec.parseHeader headers = some source)

/-- The header after a source was printed into it. -/
theorem parseHeader_insertHeader (hcodec : codec.Lawful) (headers : HeaderMap)
    (source : Source) :
    codec.parseHeader (insertHeader headers sessionSourceHeader (codec.print source)) =
      some source ↔ codec.Carried headers source := by
  have hvisible : (utf8Bytes (codec.print source)).all isVisibleAscii →
      (utf8Bytes (codec.print source)).all isHeaderByte := by
    simp only [List.all_eq_true]
    intro hall b hb
    have hbyte := hall b hb
    simp only [isVisibleAscii, isHeaderByte, Bool.or_eq_true, Bool.and_eq_true, beq_iff_eq,
      decide_eq_true_eq, bne_iff_ne] at hbyte ⊢
    omega
  unfold Carried insertHeader
  cases hvalue : HeaderValue.fromStr (codec.print source) with
  | none =>
    -- the value is left out, and the header stays
    have hbytes : (utf8Bytes (codec.print source)).all isHeaderByte = false := by
      unfold HeaderValue.fromStr at hvalue
      split at hvalue
      next => cases hvalue
      next hinvalid => simpa using hinvalid
    have hinvisible : (utf8Bytes (codec.print source)).all isVisibleAscii = false := by
      refine Bool.eq_false_of_not_eq_true fun h => ?_
      rw [hvisible h] at hbytes
      cases hbytes
    simp only [hinvisible, hbytes, Bool.false_eq_true, false_or, true_and]
  | some value =>
    have hbytes : (utf8Bytes (codec.print source)).all isHeaderByte = true := by
      unfold HeaderValue.fromStr at hvalue
      split at hvalue
      next hvalid => exact hvalid
      next => cases hvalue
    have hget : (headers.insert sessionSourceHeader value).get sessionSourceHeader =
        some value := by
      rw [HeaderMap.get_eq_head?, HeaderMap.getAll_insert_self]
      rfl
    simp only [hbytes, Bool.true_eq_false, false_and, or_false, parseHeader, hget,
      Option.bind_some, HeaderValue.toStr_fromStr hvalue]
    cases htext : (utf8Bytes (codec.print source)).all isVisibleAscii with
    | true => simp [hcodec.trim_print, hcodec.print_ne, hcodec.fromStr_print]
    | false => simp

/-- An override round-trips just when the text of its source is carried by the header. -/
theorem session_source_round_trips_iff (hcodec : codec.Lawful) (headers : HeaderMap)
    (body : Json) :
    codec.RoundTrips headers body ↔ ∀ json source, sessionSource? body = some json →
      json ≠ .null → codec.fromValue json = .ok source → codec.Carried headers source := by
  have hoverride (json : Json) (source : Source) (hsource : sessionSource? body = some json)
      (hnull : json ≠ .null) (hvalue : codec.fromValue json = .ok source) :
      (overrideFromBody codec.sources headers body).1.1 =
          insertHeader headers sessionSourceHeader (codec.print source) ∧
        (overrideFromBody codec.sources headers body).2 = .ok () := by
    have htext : codec.sources.reencode json = .ok (codec.print source) := by
      change (codec.fromValue json).map codec.print = _
      rw [hvalue]
      rfl
    obtain ⟨body', hbody⟩ := @overrideFromBody_of_source codec.sources headers body json hsource
    rw [hbody, overrideSessionSource_ok hnull htext]
    exact ⟨rfl, rfl⟩
  constructor
  · intro htrips json source hsource hnull hvalue
    obtain ⟨hheaders, hok⟩ := hoverride json source hsource hnull hvalue
    rw [← parseHeader_insertHeader hcodec, ← hheaders]
    exact htrips.source json source hsource hnull hvalue hok
  · intro hcarried
    refine ⟨fun json source hsource hnull hvalue _ => ?_, fun hnull => ?_, fun message herror => ?_⟩
    · rw [(hoverride json source hsource hnull hvalue).1, parseHeader_insertHeader hcodec]
      exact hcarried json source hsource hnull hvalue
    · obtain ⟨body', hbody⟩ := @overrideFromBody_of_source codec.sources headers body .null hnull
      rw [hbody]
      have hremoved : (headers.remove sessionSourceHeader).get sessionSourceHeader = none := by
        rw [HeaderMap.get_eq_head?, HeaderMap.getAll_remove]
        rfl
      simp [parseHeader, overrideSessionSource, hremoved]
    · exact headers_of_error herror

/-- Two sources, one of them with a label that is not ASCII. -/
inductive LabelledSource where
  | review | green
  deriving DecidableEq

def LabelledSource.json : LabelledSource → Json
  | review => .object [("subagent", .string "review")]
  | green => .object [("subagent", .object [("other", .string "grün")])]

def labelledCodec : SessionSourceCodec LabelledSource where
  fromValue json :=
    if json.beq LabelledSource.review.json then .ok .review
    else if json.beq LabelledSource.green.json then .ok .green
    else .error "unknown variant"
  print source := String.ofList source.json.compact
  fromStr text :=
    if text = "\x7b\"subagent\":\"review\"\x7d" then some .review
    else if text = "\x7b\"subagent\":\x7b\"other\":\"grün\"\x7d\x7d" then some .green
    else none
  view
    | .review => .review
    | .green => .otherSubAgent "grün"

theorem lawful_labelledCodec : labelledCodec.Lawful where
  fromStr_print source := by cases source <;> decide +kernel
  trim_print source := by cases source <;> decide +kernel
  print_ne source := by cases source <;> decide +kernel

/-- The headers of a client that calls itself `exec`. -/
def executedHeaders : HeaderMap := [(sessionSourceHeader, ⟨utf8Bytes "\"exec\"", by decide⟩)]

def overridingBody (source : LabelledSource) : Json :=
  .object [("_gateway", .object [("session_source", source.json)])]

theorem session_source_round_trips_iff_review :
    labelledCodec.RoundTrips executedHeaders (overridingBody .review) := by
  refine (session_source_round_trips_iff lawful_labelledCodec executedHeaders
    (overridingBody .review)).mpr fun json source hsource _ hvalue => .inl ?_
  obtain rfl : LabelledSource.review.json = json := Option.some.inj hsource
  obtain rfl : LabelledSource.review = source := Except.ok.inj hvalue
  decide +kernel

/-- The label reaches the header, which is not read as text then. -/
theorem labelled_source_is_lost :
    ¬labelledCodec.RoundTrips executedHeaders (overridingBody .green) := by
  intro htrips
  have hread : labelledCodec.parseHeader
      (overrideFromBody labelledCodec.sources executedHeaders (overridingBody .green)).1.1 =
        none := by
    decide +kernel
  have hsource := htrips.source LabelledSource.green.json .green rfl (fun h => by cases h) rfl rfl
  rw [hread] at hsource
  cases hsource

end SessionSourceCodec

end Codaze.Upstream
