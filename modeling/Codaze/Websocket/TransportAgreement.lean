import Codaze.Websocket.DescribedStatus

/-!
# The two transports on one terminal event

An event of a stream and a message of a websocket carry the same document. The stream reads
an error with or without an `error` object, the websocket only one with it, and only the
stream reads a failure without a `response`. What each of them settles is compared field by
field of the document.
-/
namespace Codaze.Websocket
open Foundation Accounts Responses Failover

/-! ## What an error event is classified as -/

/-- `payload.headers["retry-after"]` as a delay. -/
def headerDelay (libs : Libraries) (now : Time) (payload : Json) : Option StdDuration :=
  ((retryAfterField? payload).bind jsonHeaderValueFromJson).bind (libs.parseRetryAfter now)

/-- The delay an error object asks for by its reset times or in its message. -/
def objectDelay (libs : Libraries) (now : Time) (fields : StructuredErrorPayload) :
    Option StdDuration :=
  (parseResetsRetryAfterPayload now fields).or (fields.message.bind libs.parseRetryAfterMessage)

section

variable (libs : Libraries) (now : Time)

/-- The `error` object of an event, all of its fields missing where there is none. -/
def wrappedFields (payload : Json) : StructuredErrorPayload :=
  ((payload.get? "error").map parseStructuredErrorValue).getD {}

theorem wrappedFields_read (payload : Json) :
    (wrappedFields payload).code = errorField? payload "code" ∧
      (wrappedFields payload).errorType = errorField? payload "type" ∧
      (wrappedFields payload).message = errorField? payload "message" := by
  unfold wrappedFields errorField?
  cases payload.get? "error" <;> exact ⟨rfl, rfl, rfl⟩

/-- The status a wrapped error is classified with. -/
def wrappedStatus (payload : Json) (details : String) : StatusCode :=
  (wrappedErrorStatus payload).getD (inferResponseErrorStatus (errorField? payload "code")
    (errorField? payload "type") ((errorField? payload "message").getD details))

theorem classifyWrapped_failure (payload : Json) (details : String) :
    (libs.classifyWrappedErrorEvent now payload details).failure =
      classifyError (wrappedStatus payload details) (errorField? payload "code")
        (errorField? payload "type") (errorField? payload "message") .accessTokenRejected := by
  obtain ⟨hcode, htype, hmessage⟩ := wrappedFields_read payload
  unfold wrappedStatus
  rw [← hcode, ← htype, ← hmessage]
  cases herror : payload.get? "error" <;>
    simp [Libraries.classifyWrappedErrorEvent, Libraries.analyzeError,
      Libraries.parseStructuredErrorBody, wrappedFields, herror]

theorem classifyWrapped_retryAfter (payload : Json) (details : String) :
    (libs.classifyWrappedErrorEvent now payload details).retryAfter =
      (headerDelay libs now payload).or (objectDelay libs now (wrappedFields payload)) := by
  cases herror : payload.get? "error" <;>
    simp [Libraries.classifyWrappedErrorEvent, Libraries.analyzeError,
      Libraries.parseStructuredErrorBody, wrappedFields, headerDelay, objectDelay,
      Libraries.parseRetryAfterHeader, herror]

end

/-- A token rejection is read off the status alone. -/
theorem structured_ne_rejected (code errorType : Option String) :
    classifyStructuredError code errorType ≠ some .accessTokenRejected := by
  unfold classifyStructuredError
  split_ifs <;> try simp
  split <;> simp

/-- What an error without a message is classified as from its status, its code and its type. -/
theorem classify_silent (status : StatusCode) (code errorType : Option String)
    (rejected : FailureClass) :
    classifyError status code errorType none rejected =
      if status = .unauthorized then rejected
      else (classifyStructuredError code errorType).getD
        (if status = .tooManyRequests then .rateLimited
        else if status = .forbidden ∨ status.isServerError = true then .temporaryFailure
        else .requestRejected) := by
  have hempty : toAsciiLowercase "" = "" := by simp [toAsciiLowercase]
  have hwords : ∀ word ∈ ["unusual activity", "arkose", "turnstile", "rate limit", "quota",
      "credits", "usage cap", "limit reached"], contains "" word = false := by
    simp [contains]
  have hstatuses : classifyHttpFromStatusAndText status none =
      if status = .tooManyRequests then .rateLimited
      else if status = .forbidden ∨ status.isServerError = true then .temporaryFailure
      else .requestRejected := by
    simp only [classifyHttpFromStatusAndText, Option.getD_none, hempty, namesChallenge]
    rw [hwords "unusual activity" (by simp), hwords "arkose" (by simp),
      hwords "turnstile" (by simp), hwords "rate limit" (by simp), hwords "quota" (by simp),
      hwords "credits" (by simp), hwords "usage cap" (by simp), hwords "limit reached" (by simp)]
    by_cases hforbidden : status = .forbidden <;> simp [hforbidden]
  rw [classifyError, hstatuses]

/-- The text of an event without a message names no status and asks for no delay. -/
theorem fallback_text_plain :
    inferStatusFromDetails "error event received" = .badRequest ∧
      afterFirst? "try again in".toList (toAsciiLowercase "error event received").toList =
        none := by
  decide +kernel

/-- A wrapped error is classified alike on both transports exactly if its status is named, is
decided by its code and type or is read from its message, or if the words that only the
websocket looks at do not change its class. -/
def WrappedAlike (payload : Json) : Prop :=
  (wrappedErrorStatus payload).isSome ∨
  (statusOfCodeAndType (errorField? payload "code") (errorField? payload "type")).isSome ∨
  (errorField? payload "message").isSome ∨
  describes payload "unauthorized" = false ∧
    (challengeWords.any (describes payload) = false ∨
      (classifyStructuredError (errorField? payload "code") (errorField? payload "type")).isSome)

theorem wrappedStatus_of_told {payload : Json} (h : (wrappedErrorStatus payload).isSome ∨
      (statusOfCodeAndType (errorField? payload "code") (errorField? payload "type")).isSome ∨
      (errorField? payload "message").isSome) (first second : String) :
    wrappedStatus payload first = wrappedStatus payload second := by
  unfold wrappedStatus inferResponseErrorStatus
  rcases h with h | h | h
  · obtain ⟨status, hstatus⟩ := Option.isSome_iff_exists.mp h
    simp only [hstatus, Option.getD_some]
  · obtain ⟨status, hstatus⟩ := Option.isSome_iff_exists.mp h
    simp only [hstatus, Option.getD_some]
  · obtain ⟨message, hmessage⟩ := Option.isSome_iff_exists.mp h
    simp only [hmessage, Option.getD_some]

theorem wrapped_failure_eq_iff (libs : Libraries) (now : Time) {payload error : Json}
    (herror : payload.get? "error" = some error) :
    (libs.classifyWrappedErrorEvent now payload
        ((getStr? error "message").getD "error event received")).failure =
      (libs.classifyWrappedWebsocketErrorEvent now payload).failure ↔ WrappedAlike payload := by
  have hinner : getStr? error "message" = errorField? payload "message" := by
    simp [errorField?, herror]
  rw [hinner, Libraries.classifyWrappedWebsocketErrorEvent, classifyWrapped_failure,
    classifyWrapped_failure]
  by_cases htold : (wrappedErrorStatus payload).isSome ∨
      (statusOfCodeAndType (errorField? payload "code") (errorField? payload "type")).isSome ∨
      (errorField? payload "message").isSome
  · rw [wrappedStatus_of_told htold _ (describeWrappedWebsocketErrorEvent payload)]
    simp only [true_iff]
    rcases htold with h | h | h
    · exact .inl h
    · exact .inr (.inl h)
    · exact .inr (.inr (.inl h))
  · simp only [not_or, Option.not_isSome_iff_eq_none] at htold
    obtain ⟨hstatus, hdecided, hmessage⟩ := htold
    have hplain := fallback_text_plain.1
    have hnamed := inferStatus_description hstatus hmessage
    have hrejected := structured_ne_rejected (errorField? payload "code")
      (errorField? payload "type")
    unfold WrappedAlike
    simp only [wrappedStatus, inferResponseErrorStatus, hstatus, hdecided, hmessage,
      Option.getD_none, hplain, hnamed, classify_silent, Option.isSome_none]
    unfold describedStatus
    generalize classifyStructuredError (errorField? payload "code") (errorField? payload "type") =
      structured at hrejected ⊢
    have hbad : StatusCode.badRequest ≠ .unauthorized := by decide
    have hforbidden : StatusCode.forbidden ≠ .unauthorized := by decide
    cases hunauthorized : describes payload "unauthorized"
    · cases hchallenge : challengeWords.any (describes payload)
      · simp
      · cases structured with
        | none => simp; decide
        | some failure => simp [hbad, hforbidden]
    · cases structured with
      | none => simp; decide
      | some failure => simpa [hbad] using hrejected

/-! ## Errors without an `error` object -/

/-- The codes a status is inferred from. -/
def decidedCodes : List String :=
  ["invalid_api_key", "forbidden", "rate_limit_exceeded", "insufficient_quota",
    "server_is_overloaded", "slow_down", "internal_server_error", "invalid_prompt",
    "context_length_exceeded"]

/-- A message speaks of one of the words. -/
def speaksOf (message : String) (words : List String) : Bool :=
  words.any (contains (toAsciiLowercase message))

def quotaWords : List String := ["quota", "credits", "usage cap", "limit reached"]

/-- The code leaves the class to the words of the message on limits. -/
def LeftToWords (code : Option String) (message : String) : Prop :=
  code = some "internal_server_error" ∨
  code = some "forbidden" ∧ ¬ speaksOf message challengeWords ∨
  code ≠ some "websocket_connection_limit_reached" ∧ (∀ known ∈ decidedCodes, code ≠ some known) ∧
    ¬ speaksOf message statusWords

/-- The class that a flat error names by its code and its message. -/
def FlatNames (code : Option String) (message : String) : FailureClass → Prop
  | .accessTokenRejected =>
    code = some "invalid_api_key" ∨
    (∀ known ∈ decidedCodes, code ≠ some known) ∧ speaksOf message ["unauthorized"]
  | .rateLimited =>
    code = some "rate_limit_exceeded" ∨
    LeftToWords code message ∧ speaksOf message ["rate limit"]
  | .temporaryFailure =>
    code = some "server_is_overloaded" ∨ code = some "slow_down" ∨
    code = some "websocket_connection_limit_reached" ∧ ¬ speaksOf message ["unauthorized"] ∨
    (code = some "internal_server_error" ∨ code = some "forbidden") ∧ LeftToWords code message ∧
      ¬ speaksOf message ("rate limit" :: quotaWords)
  | .requestRejected =>
    code = some "invalid_prompt" ∨ code = some "context_length_exceeded" ∨
    code ≠ some "internal_server_error" ∧ code ≠ some "forbidden" ∧ LeftToWords code message ∧
      ¬ speaksOf message ("rate limit" :: quotaWords)
  | _ => False

/-- The class that a status names by itself. -/
def StatusNames (status : StatusCode) : FailureClass → Prop
  | .accessTokenRejected => status = .unauthorized
  | .rateLimited => status = .tooManyRequests
  | .temporaryFailure => status = .forbidden ∨ status.isServerError = true
  | .requestRejected => status ≠ .unauthorized ∧ status ≠ .tooManyRequests ∧
      status ≠ .forbidden ∧ status.isServerError = false
  | _ => False

theorem statusNames_iff (status : StatusCode) (failure : FailureClass) :
    classifyError status none none none .accessTokenRejected = failure ↔
      StatusNames status failure := by
  have hnone : classifyStructuredError none none = none := rfl
  rw [classify_silent, hnone, Option.getD_none]
  have hserver : StatusCode.unauthorized.isServerError = false ∧
      StatusCode.tooManyRequests.isServerError = false := by decide
  have hdistinct : StatusCode.unauthorized ≠ .tooManyRequests ∧
      StatusCode.unauthorized ≠ .forbidden ∧ StatusCode.tooManyRequests ≠ .forbidden := by decide
  split_ifs with hunauthorized hlimited hserved
  · subst hunauthorized
    cases failure <;> simp [StatusNames, hserver, hdistinct]
  · subst hlimited
    cases failure <;> simp [StatusNames, hserver, hdistinct, hunauthorized]
  · cases failure <;> simp [StatusNames, hunauthorized, hlimited, hserved]
    tauto
  · rw [not_or, Bool.not_eq_true] at hserved
    cases failure <;> simp [StatusNames, hunauthorized, hlimited, hserved]

/-- The class of an error with a message, by the words of the message. -/
theorem classify_told (status : StatusCode) (code errorType : Option String) (message : String) :
    classifyError status code errorType (some message) .accessTokenRejected =
      if status = .unauthorized then .accessTokenRejected
      else (classifyStructuredError code errorType).getD
        (if status = .forbidden ∧ speaksOf message challengeWords then .riskControlled
        else if status = .tooManyRequests ∨ speaksOf message ["rate limit"] then .rateLimited
        else if speaksOf message quotaWords then .quotaExhausted
        else if status = .forbidden ∨ status.isServerError = true then .temporaryFailure
        else .requestRejected) := by
  have hquota : speaksOf message quotaWords = true ↔
      contains (toAsciiLowercase message) "quota" = true ∨
        contains (toAsciiLowercase message) "credits" = true ∨
        contains (toAsciiLowercase message) "usage cap" = true ∨
        contains (toAsciiLowercase message) "limit reached" = true := by
    simp [speaksOf, quotaWords]
  rw [classifyError, classifyHttpFromStatusAndText, Option.getD_some]
  simp only [namesChallenge_eq, ← hquota]
  by_cases hforbidden : status = .forbidden
  · simp [hforbidden, speaksOf]
  · simp [hforbidden, speaksOf]

theorem inferStatus_told (message : String) :
    inferStatusFromDetails message =
      if speaksOf message ["unauthorized"] then .unauthorized
      else if speaksOf message challengeWords then .forbidden
      else .badRequest := by
  unfold inferStatusFromDetails
  simp only [namesChallenge_eq]
  simp [speaksOf]

/-- Codes that decide neither the status nor the class of an error. -/
theorem classify_of_unknown {code : Option String}
    (hconnection : code ≠ some "websocket_connection_limit_reached")
    (hknown : ∀ known ∈ decidedCodes, code ≠ some known) :
    statusOfCodeAndType code (some "error") = none ∧
      classifyStructuredError code (some "error") = none := by
  simp only [decidedCodes, List.forall_mem_cons] at hknown
  obtain ⟨hkey, hforbidden, hlimit, hquota, hoverloaded, hslow, hinternal, hprompt, hlength, -⟩ :=
    hknown
  constructor
  · simp [statusOfCodeAndType, hkey, hforbidden, hlimit, hquota, hoverloaded, hslow, hinternal,
      hprompt, hlength]
  · simp [classifyStructuredError]

theorem named_by_status {status : StatusCode} {failure : FailureClass}
    (h : StatusNames status failure) :
    failure ≠ .quotaExhausted ∧ failure ≠ .riskControlled := by
  constructor
  · rintro rfl
    exact h
  · rintro rfl
    exact h

theorem flatNames_iff (code : Option String) (message : String) {failure : FailureClass}
    (hfailure : failure ≠ .quotaExhausted ∧ failure ≠ .riskControlled) :
    classifyError (inferResponseErrorStatus code (some "error") message) code (some "error")
        (some message) .accessTokenRejected = failure ↔ FlatNames code message failure := by
  have hwords : speaksOf message ("rate limit" :: quotaWords) =
      (speaksOf message ["rate limit"] || speaksOf message quotaWords) := by
    simp [speaksOf, quotaWords]
  have hstatus : speaksOf message statusWords =
      (speaksOf message ["unauthorized"] || speaksOf message challengeWords) := by
    simp [speaksOf, statusWords, challengeWords]
  rw [classify_told]
  unfold inferResponseErrorStatus FlatNames LeftToWords
  rw [inferStatus_told, hwords, hstatus]
  generalize speaksOf message ["unauthorized"] = unauthorized
  generalize speaksOf message challengeWords = challenge
  generalize speaksOf message ["rate limit"] = limited
  generalize speaksOf message quotaWords = quota
  by_cases hknown : ∃ known ∈ "websocket_connection_limit_reached" :: decidedCodes,
      code = some known
  · obtain ⟨known, hmem, rfl⟩ := hknown
    simp only [decidedCodes, List.mem_cons, List.not_mem_nil, or_false] at hmem
    rcases hmem with rfl | rfl | rfl | rfl | rfl | rfl | rfl | rfl | rfl | rfl
    all_goals
      simp [statusOfCodeAndType, classifyStructuredError, decidedCodes, StatusCode.unauthorized,
        StatusCode.forbidden, StatusCode.badRequest, StatusCode.tooManyRequests,
        StatusCode.serviceUnavailable, StatusCode.isServerError]
    all_goals (try split_ifs) <;> cases failure <;> simp_all
  · simp only [List.mem_cons, exists_eq_or_imp, not_or, not_exists, not_and] at hknown
    obtain ⟨hconnection, hknown⟩ := hknown
    obtain ⟨hundecided, hstructured⟩ := classify_of_unknown hconnection hknown
    have hinternal : code ≠ some "internal_server_error" := hknown _ (by decide)
    have hforbidden : code ≠ some "forbidden" := hknown _ (by decide)
    rw [hundecided, hstructured]
    simp only [Option.getD_none]
    have hkey : code ≠ some "invalid_api_key" := hknown _ (by decide)
    have hlimit : code ≠ some "rate_limit_exceeded" := hknown _ (by decide)
    have hoverloaded : code ≠ some "server_is_overloaded" := hknown _ (by decide)
    have hslow : code ≠ some "slow_down" := hknown _ (by decide)
    have hprompt : code ≠ some "invalid_prompt" := hknown _ (by decide)
    have hlength : code ≠ some "context_length_exceeded" := hknown _ (by decide)
    have hall : (∀ known ∈ decidedCodes, code ≠ some known) ↔ True := iff_true_intro hknown
    simp only [hinternal, hforbidden, hkey, hlimit, hoverloaded, hslow, hprompt, hlength,
      hconnection, hall, false_or, false_and, true_and, ne_eq, not_false_eq_true]
    cases unauthorized <;> cases challenge <;>
      simp [StatusCode.unauthorized, StatusCode.forbidden, StatusCode.badRequest,
        StatusCode.tooManyRequests, StatusCode.isServerError]
    all_goals (try split_ifs) <;> cases failure <;> simp_all

/-- A flat error is classified alike on both transports exactly if the status next to it names
the class that its code and message name, and its `retry-after` the delay that it asks for. -/
def FlatAlike (libs : Libraries) (now : Time) (payload : Json) : Prop :=
  (∃ failure,
    StatusNames ((wrappedErrorStatus payload).getD (describedStatus payload)) failure ∧
      FlatNames (getStr? payload "code")
        ((getStr? payload "message").getD "error event received") failure) ∧
  headerDelay libs now payload = objectDelay libs now (parseStructuredErrorValue payload)

theorem flat_failure_eq_iff (libs : Libraries) (now : Time) {payload : Json}
    (htype : getStr? payload "type" = some "error") (herror : payload.get? "error" = none) :
    (libs.classifyErrorObject now payload "error event received").failure =
        (libs.classifyWrappedWebsocketErrorEvent now payload).failure ↔
      ∃ failure,
        StatusNames ((wrappedErrorStatus payload).getD (describedStatus payload)) failure ∧
          FlatNames (getStr? payload "code")
            ((getStr? payload "message").getD "error event received") failure := by
  have hfields : ∀ key, errorField? payload key = none := by
    intro key
    simp [errorField?, herror]
  have hstatus : wrappedStatus payload (describeWrappedWebsocketErrorEvent payload) =
      (wrappedErrorStatus payload).getD (describedStatus payload) := by
    have hundecided : statusOfCodeAndType none none = none := by decide
    unfold wrappedStatus
    simp only [hfields, Option.getD_none, inferResponseErrorStatus, hundecided]
    cases hnamed : wrappedErrorStatus payload with
    | some status => rw [Option.getD_some, Option.getD_some]
    | none =>
      rw [Option.getD_none, Option.getD_none]
      exact inferStatus_description hnamed (hfields "message")
  have hflat : (libs.classifyErrorObject now payload "error event received").failure =
      classifyError (inferResponseErrorStatus (getStr? payload "code") (some "error")
          ((getStr? payload "message").getD "error event received"))
        (getStr? payload "code") (some "error")
        (some ((getStr? payload "message").getD "error event received")) .accessTokenRejected := by
    simp [Libraries.classifyErrorObject, Libraries.analyzeError, parseStructuredErrorValue,
      Libraries.parseStructuredErrorBody, htype]
  rw [Libraries.classifyWrappedWebsocketErrorEvent, classifyWrapped_failure, hflat, hstatus]
  simp only [hfields]
  constructor
  · intro hsame
    have hnames := (statusNames_iff _ _).mp hsame.symm
    exact ⟨_, hnames, (flatNames_iff _ _ (named_by_status hnames)).mp rfl⟩
  · rintro ⟨failure, hnames, hflatNames⟩
    rw [(flatNames_iff _ _ (named_by_status hnames)).mpr hflatNames,
      (statusNames_iff _ _).mpr hnames]

theorem flat_retryAfter (libs : Libraries) (now : Time) (payload : Json) :
    (libs.classifyErrorObject now payload "error event received").retryAfter =
      objectDelay libs now (parseStructuredErrorValue payload) := by
  have hsilent : libs.parseRetryAfterMessage "error event received" = none := by
    rw [Libraries.parseRetryAfterMessage, fallback_text_plain.2, Option.bind_none]
  have hmessage : (some ((getStr? payload "message").getD "error event received")).bind
      libs.parseRetryAfterMessage =
        (getStr? payload "message").bind libs.parseRetryAfterMessage := by
    cases getStr? payload "message" with
    | none => exact hsilent
    | some message => rfl
  rw [objectDelay]
  simp only [parseStructuredErrorValue]
  rw [← hmessage]
  simp [Libraries.classifyErrorObject, Libraries.analyzeError, parseStructuredErrorValue,
    Libraries.parseStructuredErrorBody, Libraries.parseRetryAfterHeader,
    parseResetsRetryAfterPayload]

theorem websocket_retryAfter_of_flat (libs : Libraries) (now : Time) {payload : Json}
    (herror : payload.get? "error" = none) :
    (libs.classifyWrappedWebsocketErrorEvent now payload).retryAfter =
      headerDelay libs now payload := by
  have hfields : wrappedFields payload = {} := by
    simp [wrappedFields, herror]
  rw [Libraries.classifyWrappedWebsocketErrorEvent, classifyWrapped_retryAfter, hfields]
  simp [objectDelay, parseResetsRetryAfterPayload]

/-! ## The two settlements -/

/-- The kinds of event that end a response. -/
def terminalKinds : List String :=
  ["response.completed", "response.failed", "response.incomplete", "error"]

/-- Two settlements of one kind; failures are of one class and ask for one delay. -/
def SameSettlement : Option AccountSettlement → Option AccountSettlement → Prop
  | some (.failure failure retryAfter _), some (.failure failure' retryAfter' _) =>
    failure = failure' ∧ retryAfter = retryAfter'
  | some .success, some .success => True
  | some .release, some .release => True
  | none, none => True
  | _, _ => False

/-- A terminal event says the same on both transports. -/
def ReadAlike (libs : Libraries) (now : Time) (json : Json) : Prop :=
  ((getStr? json "type" = some "response.failed" ∨
    getStr? json "type" = some "response.incomplete") → (json.get? "response").isSome) ∧
  (getStr? json "type" = some "error" →
    match json.get? "error" with
    | some _ => WrappedAlike json
    | none => FlatAlike libs now json)

theorem terminalAction_of_event {libs : Libraries} {now : Time} {shape : ResponseShape}
    {state : ResponsesSseState} {eventBytes : List Byte} {json : Json} {kind : String}
    {terminal : ResponsesTerminalState} {replaced : Bool}
    (hjson : (eventPayload? eventBytes).bind libs.fromStr = some json)
    (hname : ∀ name, eventName? eventBytes = some name → name = kind)
    (hkind : getStr? json "type" = some kind)
    (hterminal : libs.terminalOfEvent now kind json = some (terminal, replaced)) :
    (state.consumeEvent libs now shape eventBytes).1.terminalAction = some terminal.action := by
  have hread : ((eventName? eventBytes).or (getStr? json "type")).getD "" = kind := by
    cases hevent : eventName? eventBytes with
    | none => rw [hkind]; rfl
    | some name => rw [hname name hevent]; rfl
  unfold ResponsesSseState.consumeEvent
  simp only [hjson, hread, hterminal, ResponsesSseState.terminalAction, Option.map_some]

/-- What the websocket settles on a text. -/
def websocketSettlement (libs : Libraries) (now : Time) (text : String) :
    Option AccountSettlement :=
  (analyzeWebsocketTerminalText libs now text).map fun terminal => terminal.outcome.settlement

/-- Both transports settle a terminal event alike exactly if it is read alike. -/
theorem settle_alike_iff (libs : Libraries) (now : Time) (shape : ResponseShape)
    (state : ResponsesSseState) {eventBytes : List Byte} {json : Json} {kind frame : String}
    (hjson : (eventPayload? eventBytes).bind libs.fromStr = some json)
    (hname : ∀ name, eventName? eventBytes = some name → name = kind)
    (hframe : libs.fromStr frame = some json)
    (hkind : getStr? json "type" = some kind) (hterminal : kind ∈ terminalKinds) :
    SameSettlement (state.consumeEvent libs now shape eventBytes).1.terminalAction
        (websocketSettlement libs now frame) ↔
      ReadAlike libs now json := by
  have hsettled {terminal replaced} := @terminalAction_of_event libs now shape state eventBytes
    json kind terminal replaced hjson hname hkind
  have hwebsocket : websocketSettlement libs now frame =
      (analyzeWebsocketTerminal libs now json).map fun terminal => terminal.outcome.settlement := by
    simp [websocketSettlement, analyzeWebsocketTerminalText, hframe]
  rw [hwebsocket, ReadAlike]
  simp only [terminalKinds, List.mem_cons, List.not_mem_nil, or_false] at hterminal
  rcases hterminal with rfl | rfl | rfl | rfl
  · have hsse := hsettled (show libs.terminalOfEvent now "response.completed" json = _ from rfl)
    rw [hsse]
    simp [analyzeWebsocketTerminal, hkind, SameSettlement, ResponsesTerminalState.action,
      WebsocketTerminal.outcome, WebsocketProxyOutcome.settlement]
  · have hsse := hsettled (show libs.terminalOfEvent now "response.failed" json = _ from rfl)
    rw [hsse]
    cases hresponse : json.get? "response" with
    | none =>
      simp [analyzeWebsocketTerminal, hkind, SameSettlement, ResponsesTerminalState.action,
        ResponsesTerminalState.ofClassified, hresponse]
    | some response =>
      simp [analyzeWebsocketTerminal, hkind, SameSettlement, ResponsesTerminalState.action,
        ResponsesTerminalState.ofClassified, hresponse, Json.getPath?, WebsocketTerminal.outcome,
        WebsocketProxyOutcome.settlement]
  · have hsse := hsettled (show libs.terminalOfEvent now "response.incomplete" json = _ from rfl)
    rw [hsse]
    cases hresponse : json.get? "response" with
    | none =>
      simp [analyzeWebsocketTerminal, hkind, SameSettlement, ResponsesTerminalState.action,
        hresponse]
    | some response =>
      simp [analyzeWebsocketTerminal, hkind, SameSettlement, ResponsesTerminalState.action,
        hresponse, WebsocketTerminal.outcome, WebsocketProxyOutcome.settlement]
  · have hsse := hsettled (show libs.terminalOfEvent now "error" json = _ from rfl)
    rw [hsse]
    cases herror : json.get? "error" with
    | none =>
      simp [analyzeWebsocketTerminal, hkind, SameSettlement, ResponsesTerminalState.action,
        ResponsesTerminalState.ofClassified, Libraries.classifyOpenaiErrorEvent, herror,
        WebsocketTerminal.outcome, WebsocketProxyOutcome.settlement]
      rw [flat_failure_eq_iff libs now hkind herror, flat_retryAfter,
        websocket_retryAfter_of_flat libs now herror, FlatAlike]
      exact and_congr_right fun _ => eq_comm
    | some error =>
      simp [analyzeWebsocketTerminal, hkind, SameSettlement, ResponsesTerminalState.action,
        ResponsesTerminalState.ofClassified, Libraries.classifyOpenaiErrorEvent, herror,
        WebsocketTerminal.outcome, WebsocketProxyOutcome.settlement]
      rw [wrapped_failure_eq_iff libs now herror, Libraries.classifyWrappedWebsocketErrorEvent,
        classifyWrapped_retryAfter, classifyWrapped_retryAfter]
      simp

/-- A rate limit that stands alone. -/
def flatRateLimitText : String := "\x7b\"type\":\"error\",\"code\":\"rate_limit_exceeded\"\x7d"

def flatRateLimit : Json :=
  .object [("type", .string "error"), ("code", .string "rate_limit_exceeded")]

def flatRateLimitLibraries : Libraries := .ofTexts [(flatRateLimitText, flatRateLimit)]

def flatRateLimitEvent : List Byte := utf8Bytes ("data: " ++ flatRateLimitText ++ "\n\n")

theorem flatRateLimitEvent_read :
    (eventPayload? flatRateLimitEvent).bind flatRateLimitLibraries.fromStr = some flatRateLimit ∧
      eventName? flatRateLimitEvent = none := by
  have hevent : eventPayload? flatRateLimitEvent = some flatRateLimitText ∧
      eventName? flatRateLimitEvent = none := by
    decide +kernel
  refine ⟨?_, hevent.2⟩
  rw [hevent.1]
  simp [flatRateLimitLibraries, Libraries.ofTexts]

/-- `settle_alike_iff` for a rate limit that stands alone. -/
theorem settle_alike_iff_flatRateLimit :
    SameSettlement (ResponsesSseState.consumeEvent flatRateLimitLibraries 0 .openAi {}
        flatRateLimitEvent).1.terminalAction
        (websocketSettlement flatRateLimitLibraries 0 flatRateLimitText) ↔
      ReadAlike flatRateLimitLibraries 0 flatRateLimit :=
  settle_alike_iff flatRateLimitLibraries 0 .openAi {} flatRateLimitEvent_read.1
    (fun name hname => absurd (flatRateLimitEvent_read.2.symm.trans hname) (by simp))
    (by simp [flatRateLimitLibraries, Libraries.ofTexts])
    (show getStr? flatRateLimit "type" = some "error" from rfl) (by decide)

/-- The stream settles a rate limit, the websocket a request that was rejected. -/
theorem flat_rate_limit_settled_apart :
    ∃ (libs : Libraries) (eventBytes : List Byte) (frame : String) (json : Json),
      (eventPayload? eventBytes).bind libs.fromStr = some json ∧ eventName? eventBytes = none ∧
      libs.fromStr frame = some json ∧ getStr? json "type" = some "error" ∧
      ¬ SameSettlement
        (ResponsesSseState.consumeEvent libs 0 .openAi {} eventBytes).1.terminalAction
        (websocketSettlement libs 0 frame) := by
  refine ⟨flatRateLimitLibraries, flatRateLimitEvent, flatRateLimitText, flatRateLimit,
    flatRateLimitEvent_read.1, flatRateLimitEvent_read.2, ?_, rfl, ?_⟩
  · simp [flatRateLimitLibraries, Libraries.ofTexts]
  · have hsettled : (ResponsesSseState.consumeEvent flatRateLimitLibraries 0 .openAi {}
          flatRateLimitEvent).1.terminalAction =
            some (.failure .rateLimited none "error event received") ∧
        websocketSettlement flatRateLimitLibraries 0 flatRateLimitText =
          some (.failure .requestRejected none
            "responses websocket upstream returned error event") := by
      decide +kernel
    rw [hsettled.1, hsettled.2]
    intro hsame
    exact absurd hsame.1 (by decide)

end Codaze.Websocket
