import Codaze.Accounts.Record
import Codaze.Foundation.Json

/-!
# The refresh request

`refresh_access_token` as a function of the reply. The two parsers of the access token
are parameters; a reply outside 2xx arrives classified.
-/
namespace Codaze.Failover
open Foundation Accounts

/-- The claims `parse_chatgpt_jwt_claims` reads from an access token. -/
structure JwtClaims where
  chatgptAccountId : Option String
  planType : Option String
  email : Option String
  deriving DecidableEq, Repr

/-- The parsers of `codex_login::token_data`. -/
structure TokenParsers where
  parseChatgptJwtClaims : String → Except String JwtClaims
  parseJwtExpiration : String → Except String (Option Time)

/-- The status is kept as it is printed. -/
structure RefreshFailure where
  status : String
  body : String
  failure : FailureClass
  retryAfter : Option StdDuration
  deriving DecidableEq, Repr

inductive RefreshReply where
  /-- The request could not be sent or answered. -/
  | unsent (error : String)
  /-- A reply outside 2xx, as `analyze_refresh_http` classifies it. -/
  | rejected (failure : RefreshFailure)
  /-- A 2xx reply whose body is not JSON. -/
  | unreadable (error : String)
  | json (body : Json)

structure RefreshResponse where
  accessToken : Option String
  refreshToken : Option String
  deriving DecidableEq, Repr

def gatewayFailure (body : String) : RefreshFailure where
  status := "502 Bad Gateway"
  body := body
  failure := .temporaryFailure
  retryAfter := none

/-- An optional string field: absent and `null` are `none`, anything but a string fails. -/
def decodeOptionalString : Option Json → Option (Option String)
  | none => some none
  | some .null => some none
  | some (.string value) => some (some value)
  | some _ => none

/-- One field of the response struct. A repeated field fails. -/
def decodeField (fields : List (String × Json)) (name : String) : Option (Option String) :=
  match fields.filter fun field => field.1 = name with
  | [] => some none
  | [field] => decodeOptionalString (some field.2)
  | _ => none

/-- The derived `Deserialize` of `RefreshResponse`; it also takes a sequence of the two fields. -/
def decodeRefreshResponse : Json → Option RefreshResponse
  | .object fields => do
    let accessToken ← decodeField fields "access_token"
    let refreshToken ← decodeField fields "refresh_token"
    return { accessToken, refreshToken }
  | .array [first, second] => do
    let accessToken ← decodeOptionalString (some first)
    let refreshToken ← decodeOptionalString (some second)
    return { accessToken, refreshToken }
  | _ => none

/-- `UpstreamClient::refresh_access_token`. -/
def refreshAccessToken (parsers : TokenParsers) :
    RefreshReply → Except RefreshFailure RefreshedAccount
  | .unsent error => .error (gatewayFailure error)
  | .rejected failure => .error failure
  | .unreadable error => .error (gatewayFailure error)
  | .json body =>
    match decodeRefreshResponse body with
    | none => .error (gatewayFailure "error decoding response body")
    | some refreshed =>
      match refreshed.accessToken with
      | none => .error (gatewayFailure "refresh response did not include access_token")
      | some accessToken =>
        match parsers.parseChatgptJwtClaims accessToken with
        | .error error => .error (gatewayFailure error)
        | .ok claims =>
          match parsers.parseJwtExpiration accessToken with
          | .error error => .error (gatewayFailure error)
          | .ok expiresAt => .ok {
              accessToken
              refreshToken := refreshed.refreshToken
              accountId := claims.chatgptAccountId
              planType := claims.planType
              email := claims.email
              accessTokenExpiresAt := expiresAt }

/-- The refresh token a 2xx JSON reply carries, whatever else is in it. -/
def RefreshReply.rotated? : RefreshReply → Option String
  | .json (.array [_, second]) => second.asStr?
  | .json body => (body.get? "refresh_token").bind Json.asStr?
  | _ => none

/-- A 2xx JSON reply whose fields decode and whose access token is there and parses. -/
def RefreshReply.readable (parsers : TokenParsers) : RefreshReply → Bool
  | .json body => match decodeRefreshResponse body with
    | some { accessToken := some accessToken, .. } =>
      (parsers.parseChatgptJwtClaims accessToken).isOk &&
        (parsers.parseJwtExpiration accessToken).isOk
    | _ => false
  | _ => false

/-- A field that decodes is what a lookup of its name finds. -/
theorem get?_of_decodeField {fields : List (String × Json)} {name : String}
    {value : Option String} (h : decodeField fields name = some value) :
    ((Json.object fields).get? name).bind Json.asStr? = value := by
  rw [Json.get?, lookup_eq_head?_filter, List.filter_reverse]
  unfold decodeField at h
  split at h
  next hfields =>
    rw [hfields]
    simpa using h
  next field hfields =>
    rw [hfields]
    cases hvalue : field.2 <;> simp [hvalue, decodeOptionalString] at h
    · subst h; simp [hvalue, Json.asStr?]
    · subst h; simp [hvalue, Json.asStr?]
  next => cases h

theorem rotated?_of_decode {body : Json} {response : RefreshResponse}
    (h : decodeRefreshResponse body = some response) :
    (RefreshReply.json body).rotated? = response.refreshToken := by
  unfold decodeRefreshResponse at h
  split at h
  next fields =>
    obtain ⟨accessToken, -, h⟩ := Option.bind_eq_some_iff.mp h
    obtain ⟨refreshToken, hrefresh, h⟩ := Option.bind_eq_some_iff.mp h
    obtain rfl := Option.some.inj h
    exact get?_of_decodeField hrefresh
  next first second =>
    obtain ⟨accessToken, -, h⟩ := Option.bind_eq_some_iff.mp h
    obtain ⟨refreshToken, hrefresh, h⟩ := Option.bind_eq_some_iff.mp h
    obtain rfl := Option.some.inj h
    cases second <;> simp [decodeOptionalString] at hrefresh <;> subst hrefresh <;> rfl
  next => cases h

/-- A successful refresh hands on the refresh token of the reply. -/
theorem refreshToken_of_ok {parsers : TokenParsers} {reply : RefreshReply}
    {refreshed : RefreshedAccount} (h : refreshAccessToken parsers reply = .ok refreshed) :
    refreshed.refreshToken = reply.rotated? := by
  unfold refreshAccessToken at h
  split at h
  next => cases h
  next => cases h
  next => cases h
  next body =>
    split at h
    next => cases h
    next response hdecode =>
      rw [rotated?_of_decode hdecode]
      split at h
      next => cases h
      next =>
        split at h
        next => cases h
        next =>
          split at h
          next => cases h
          next => obtain rfl := Except.ok.inj h; rfl

/-- Such a reply is not an error. -/
theorem ok_of_readable {parsers : TokenParsers} {reply : RefreshReply}
    (h : reply.readable parsers = true) :
    ∃ refreshed, refreshAccessToken parsers reply = .ok refreshed := by
  unfold RefreshReply.readable at h
  split at h
  next body =>
    split at h
    next accessToken refreshToken hdecode =>
      obtain ⟨hclaims, hexpiration⟩ := Bool.and_eq_true_iff.mp h
      cases hparse : parsers.parseChatgptJwtClaims accessToken with
      | error => simp [hparse, Except.isOk, Except.toBool] at hclaims
      | ok claims =>
        cases hparse' : parsers.parseJwtExpiration accessToken with
        | error => simp [hparse', Except.isOk, Except.toBool] at hexpiration
        | ok expiresAt => simp [refreshAccessToken, hdecode, hparse, hparse']
    next => cases h
  next => cases h

end Codaze.Failover
