import Codaze.Websocket.Errors

/-!
# The text an error event is described by

A status that an error event does not name is inferred from the text the event is described
by. That text shows the words the inference looks for exactly where a field of the event has
them: neither the labels of the fields nor their numbers do.
-/
namespace Codaze.Websocket
open Foundation Accounts Responses

/-- A text field of the `error` object of an event. -/
def errorField? (payload : Json) (key : String) : Option String :=
  (payload.get? "error").bind (getStr? · key)

def challengeWords : List String := ["unusual activity", "arkose", "turnstile"]

/-- The words a status is inferred from. -/
def statusWords : List String := "unauthorized" :: challengeWords

/-- An event names a word in its error's type or code or in its `retry-after`. -/
def describes (payload : Json) (word : String) : Bool :=
  (List.filterMap id [errorField? payload "type", errorField? payload "code",
    (retryAfterField? payload).bind headerText?]).any fun text =>
      contains (toAsciiLowercase text) word

/-- The status of an event from the words it names. -/
def describedStatus (payload : Json) : StatusCode :=
  if describes payload "unauthorized" then .unauthorized
  else if challengeWords.any (describes payload) then .forbidden
  else .badRequest

theorem namesChallenge_eq (lowered : String) :
    namesChallenge lowered = challengeWords.any (contains lowered) := by
  simp [namesChallenge, challengeWords, Bool.or_assoc]

/-- The labelled texts of a description without a status and a message. -/
def describedFields (payload : Json) : List (String × String) :=
  List.filterMap id [
    (errorField? payload "type").map ("error.type", ·),
    (errorField? payload "code").map ("error.code", ·),
    ((payload.get? "error").bind (getI64? · "resets_at")).map fun value =>
      ("error.resets_at", toString value),
    ((payload.get? "error").bind (getI64? · "resets_in_seconds")).map fun value =>
      ("error.resets_in_seconds", toString value),
    ((retryAfterField? payload).bind headerText?).map ("headers.retry-after", ·)]

theorem describe_eq {payload : Json} (hstatus : wrappedErrorStatus payload = none)
    (hmessage : errorField? payload "message" = none) :
    describeWrappedWebsocketErrorEvent payload =
      let segments := (describedFields payload).map fun field => field.1 ++ "=" ++ field.2
      if segments = [] then "responses websocket upstream returned error event"
      else "responses websocket upstream returned error event: " ++ " ".intercalate segments := by
  have hsegments : (describedFields payload).map (fun field => field.1 ++ "=" ++ field.2) =
      List.filterMap id [
        (errorField? payload "type").map fun value => "error.type" ++ "=" ++ value,
        (errorField? payload "code").map fun value => "error.code" ++ "=" ++ value,
        ((payload.get? "error").bind (getI64? · "resets_at")).map fun value =>
          "error.resets_at" ++ "=" ++ toString value,
        ((payload.get? "error").bind (getI64? · "resets_in_seconds")).map fun value =>
          "error.resets_in_seconds" ++ "=" ++ toString value,
        ((retryAfterField? payload).bind headerText?).map ("headers.retry-after=" ++ ·)] := by
    unfold describedFields
    cases errorField? payload "type" <;> cases errorField? payload "code" <;>
      cases (payload.get? "error").bind (getI64? · "resets_at") <;>
      cases (payload.get? "error").bind (getI64? · "resets_in_seconds") <;>
      cases (retryAfterField? payload).bind headerText? <;> rfl
  rw [hsegments]
  unfold errorField? at hmessage
  simp only [describeWrappedWebsocketErrorEvent, hstatus, hmessage, errorField?]
  rfl

/-- The characters of the labelled texts, lowered. -/
def loweredFields (payload : Json) : List (List Char × List Char) :=
  (describedFields payload).map fun field =>
    (field.1.toList, field.2.toList.map Char.toLower)

theorem toLower_segments (fields : List (String × String))
    (h : ∀ field ∈ fields, field.1.toList.map Char.toLower = field.1.toList) (hne : fields ≠ []) :
    ' ' :: (" ".intercalate (fields.map fun field => field.1 ++ "=" ++ field.2)).toList.map
      Char.toLower =
    labelledText (fields.map fun field => (field.1.toList, field.2.toList.map Char.toLower)) := by
  induction fields with
  | nil => exact absurd rfl hne
  | cons field fields ih =>
    have hlabel := h field List.mem_cons_self
    cases fields with
    | nil => simp [labelledText, hlabel]
    | cons next fields =>
      have hrest := ih (fun other hother => h other (List.mem_cons_of_mem _ hother)) (by simp)
      rw [List.map_cons, List.map_cons, String.intercalate_cons_cons]
      rw [List.map_cons] at hrest
      simp only [String.toList_append, List.map_append, hlabel]
      rw [List.map_cons, labelledText, List.flatMap_cons, ← labelledText, ← hrest]
      simp

/-- The labels of a description and its heads have none of the words, and no word is a number. -/
theorem statusWords_apart : ∀ word ∈ statusWords,
    (∀ label ∈ ["error.type", "error.code", "error.resets_at", "error.resets_in_seconds",
        "headers.retry-after"],
      ForeignTo label.toList word.toList ∧ label.toList.map Char.toLower = label.toList) ∧
    (∀ head ∈ ["responses websocket upstream returned error event",
        "responses websocket upstream returned error event:"],
      head.toList.map Char.toLower = head.toList ∧ ¬ word.toList <:+: head.toList) ∧
    (word.toList.any fun c => !c.isDigit && c != '-') = true := by
  decide +kernel

theorem foreign_of_mem {payload : Json} {word : String} (hword : word ∈ statusWords)
    {field : String × String} (hfield : field ∈ describedFields payload) :
    ForeignTo field.1.toList word.toList ∧ field.1.toList.map Char.toLower = field.1.toList := by
  have hlabel : field.1 ∈ ["error.type", "error.code", "error.resets_at",
      "error.resets_in_seconds", "headers.retry-after"] := by
    simp only [describedFields, List.mem_filterMap, List.mem_cons, List.not_mem_nil, or_false,
      id] at hfield
    obtain ⟨_, rfl | rfl | rfl | rfl | rfl, h⟩ := hfield <;>
      obtain ⟨value, -, rfl⟩ := Option.map_eq_some_iff.mp h <;> simp
  exact (statusWords_apart word hword).1 field.1 hlabel

theorem letter_of_mem {word : String} (hword : word ∈ statusWords) :
    ∃ c ∈ word.toList, c.isDigit = false ∧ c ≠ '-' := by
  obtain ⟨c, hc, hletter⟩ := List.any_eq_true.mp (statusWords_apart word hword).2.2
  simp at hletter
  exact ⟨c, hc, hletter⟩

theorem not_infix_number {word : String} (hword : word ∈ statusWords) (n : ℤ) :
    ¬ word.toList <:+: (toString n).toList.map Char.toLower := by
  intro hfound
  obtain ⟨c, hc, hdigit, hsign⟩ := letter_of_mem hword
  obtain ⟨d, hd, rfl⟩ := List.mem_map.mp (hfound.subset hc)
  have hchars : ∀ d ∈ (toString n).toList, d.isDigit = true ∨ d = '-' := by
    intro d hd
    rw [Int.toString_eq_repr, Int.repr_eq_if] at hd
    have hnat : ∀ m : ℕ, d ∈ m.repr.toList → d.isDigit = true := by
      intro m hm
      rw [← Nat.toString_eq_repr, Nat.toString_eq_ofList_toDigits, String.toList_ofList] at hm
      exact Nat.isDigit_of_mem_toDigits (by decide) (by decide) hm
    split_ifs at hd with hsigned
    · exact .inl (hnat _ hd)
    · rw [String.toList_append, List.mem_append] at hd
      rcases hd with hminus | hm
      · exact .inr (by simpa using hminus)
      · exact .inl (hnat _ hm)
  have hlower : d.toLower = d := by
    have hupper : ¬ (d.val ≥ 'A'.val ∧ d.val ≤ 'Z'.val) := by
      rcases hchars d hd with hd' | rfl
      · intro hup
        simp [Char.isDigit, UInt32.le_iff_toNat_le] at hup hd'
        omega
      · decide
    exact dif_neg hupper
  rcases hchars d hd with hdigit' | rfl
  · rw [hlower, hdigit'] at hdigit
    cases hdigit
  · exact hsign (by decide)

theorem contains_iff (text word : String) :
    contains (toAsciiLowercase text) word = true ↔
      word.toList <:+: text.toList.map Char.toLower := by
  simp [contains, toAsciiLowercase]

/-- A description shows a word exactly if the event names it. -/
theorem contains_description {payload : Json} {word : String}
    (hstatus : wrappedErrorStatus payload = none)
    (hmessage : errorField? payload "message" = none) (hword : word ∈ statusWords) :
    contains (toAsciiLowercase (describeWrappedWebsocketErrorEvent payload)) word =
      describes payload word := by
  have hforeign : ∀ field ∈ loweredFields payload, ForeignTo field.1 word.toList := by
    intro field hfield
    obtain ⟨source, hsource, rfl⟩ := List.mem_map.mp hfield
    exact (foreign_of_mem hword hsource).1
  have hheads := (statusWords_apart word hword).2.1
  have hnamed : describes payload word = true ↔
      ∃ field ∈ loweredFields payload, word.toList <:+: field.2 := by
    have hnumber := not_infix_number hword
    unfold describes loweredFields describedFields
    cases errorField? payload "type" <;> cases errorField? payload "code" <;>
      cases (payload.get? "error").bind (getI64? · "resets_at") <;>
      cases (payload.get? "error").bind (getI64? · "resets_in_seconds") <;>
      cases (retryAfterField? payload).bind headerText? <;>
      simp [contains_iff, hnumber, -Int.toString_eq_repr]
  rw [Bool.eq_iff_iff, contains_iff, hnamed, describe_eq hstatus hmessage]
  by_cases hfields : describedFields payload = []
  · obtain ⟨hlowered, hplain⟩ := hheads "responses websocket upstream returned error event"
      (by simp)
    have hnone : ¬ ∃ field ∈ loweredFields payload, word.toList <:+: field.2 := by
      simp [loweredFields, hfields]
    simp only [hfields, List.map_nil, if_true, hlowered, hplain, hnone]
  · obtain ⟨hlowered, hplain⟩ := hheads "responses websocket upstream returned error event:"
      (by simp)
    have hsegments := toLower_segments (describedFields payload)
      (fun field hfield => (foreign_of_mem hword hfield).2) hfields
    have htext : ("responses websocket upstream returned error event: " ++ " ".intercalate
        ((describedFields payload).map fun field => field.1 ++ "=" ++ field.2)).toList.map
          Char.toLower = "responses websocket upstream returned error event:".toList ++
            labelledText (loweredFields payload) := by
      have hhead : "responses websocket upstream returned error event: " =
          "responses websocket upstream returned error event:" ++ " " := by simp
      rw [loweredFields, ← hsegments, hhead]
      simp only [String.toList_append, List.map_append, hlowered, List.append_assoc]
      rfl
    simp only [List.map_eq_nil_iff, hfields, if_false]
    rw [htext, infix_labelledText hforeign, or_iff_right hplain]

/-- The status inferred from the description of an event. -/
theorem inferStatus_description {payload : Json} (hstatus : wrappedErrorStatus payload = none)
    (hmessage : errorField? payload "message" = none) :
    inferStatusFromDetails (describeWrappedWebsocketErrorEvent payload) =
      describedStatus payload := by
  have hword : ∀ word ∈ statusWords,
      contains (toAsciiLowercase (describeWrappedWebsocketErrorEvent payload)) word =
        describes payload word :=
    fun word hword => contains_description hstatus hmessage hword
  have hchallenge : namesChallenge
      (toAsciiLowercase (describeWrappedWebsocketErrorEvent payload)) =
        challengeWords.any (describes payload) := by
    rw [namesChallenge_eq]
    simp only [challengeWords, List.any_cons, List.any_nil]
    rw [hword "unusual activity" (by decide), hword "arkose" (by decide),
      hword "turnstile" (by decide)]
  unfold inferStatusFromDetails describedStatus
  simp only [hword "unauthorized" List.mem_cons_self, hchallenge]

end Codaze.Websocket
