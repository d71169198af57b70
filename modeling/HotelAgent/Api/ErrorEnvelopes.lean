/-
  HotelAgent.Api.ErrorEnvelopes — `custom_exception_handler`, and what an error says.

  REST framework turns an exception into error data; the handler puts an
  envelope around it:

      error     `detail`, or the first error that belongs to no field, or the
                first field with its first message
      code      that of the data, that of `detail`, or one for the status
      details   every field with its messages, where there is one

  Six answers come from the views themselves: a message, and no code.  Three are
  outside of all this: what POST /auth/token/ answers itself, the health check's
  503 with `status` and `checks`, and Django's own 500 to a turn whose request has
  a priority that JSON cannot print.

  Main results:
    * `handler_raises_iff` — the handler fails on a field without any message that
      comes first, and on errors of no field that are no list.
    * `handler_validation`, `handler_detail` — the envelopes of the responses here
      are the ones that the handler makes.
    * `errors_are_explained` — every other error of every request has a message, and
      a code unless a view has answered itself.
-/
import HotelAgent.Api.Rest
import HotelAgent.Api.OwnWrites

namespace HotelAgent

open Lib

/-! ## §1. Error data. -/

/-- What `response.data` of an exception is made of. -/
inductive ErrorValue where
  /-- An `ErrorDetail`: a text with a code. -/
  | detail (text code : Text)
  | text (t : Text)
  | list (items : List ErrorValue)
  | dict (fields : List (Text × ErrorValue))

namespace ErrorValue

mutual

/-- As the renderer prints it; the code of an `ErrorDetail` is not printed. -/
def json : ErrorValue → Json
  | .detail t _ => .str t
  | .text t => .str t
  | .list items => .arr (jsonItems items)
  | .dict fields => .obj (jsonFields fields)

def jsonItems : List ErrorValue → List Json
  | [] => []
  | v :: items => v.json :: jsonItems items

def jsonFields : List (Text × ErrorValue) → List (Text × Json)
  | [] => []
  | (key, v) :: fields => (key, v.json) :: jsonFields fields

end

def truthy : ErrorValue → Bool
  | .detail t _ => t ≠ []
  | .text t => t ≠ []
  | .list items => !items.isEmpty
  | .dict fields => !fields.isEmpty

/-- `str(value)`; `repr` prints the lists and the dictionaries. -/
def str (repr : ErrorValue → Text) : ErrorValue → Text
  | .detail t _ => t
  | .text t => t
  | v => repr v

/-- `value[0]`; `none` is the IndexError or the KeyError. -/
def head? : ErrorValue → Option ErrorValue
  | .detail (c :: _) _ => some (.text [c])
  | .text (c :: _) => some (.text [c])
  | .list (v :: _) => some v
  | _ => none

end ErrorValue

/-- `data.get(key)`. -/
def errorField (fields : List (Text × ErrorValue)) (key : Text) : Option ErrorValue :=
  (fields.find? fun e => e.1 = key).map (·.2)

/-! ## §2. The handler. -/

section
variable (repr : ErrorValue → Text)

/-- `_extract_message`; `none` is an exception of its own. -/
def extractMessage : ErrorValue → Option Text
  | .dict fields =>
    let detail := (errorField fields (txt "detail")).getD (.text [])
    -- an empty `detail` counts as none
    if detail.truthy then some (detail.str repr)
    else
      let nonField := (errorField fields (txt "non_field_errors")).getD (.list [])
      if nonField.truthy then nonField.head?.map (·.str repr)
      else
        -- the first field
        match fields.find? fun e => e.1 ≠ txt "code" with
        | some (key, .list items) =>
          items.head?.map fun v => key ++ txt ": " ++ v.str repr
        | some (key, v) => some (key ++ txt ": " ++ v.str repr)
        | none => some ((ErrorValue.dict fields).str repr)
  | data => some (data.str repr)

/-- The codes for statuses. -/
def statusCodes : List (Nat × Text) :=
  [(400, txt "bad_request"), (401, txt "unauthorized"), (403, txt "forbidden"),
    (404, txt "not_found"), (405, txt "method_not_allowed"), (409, txt "conflict"),
    (429, txt "rate_limited"), (500, txt "internal_error")]

def statusCode (status : Nat) : Text :=
  ((statusCodes.find? fun e => e.1 = status).map (·.2)).getD (txt "error")

/-- `_extract_code`. -/
def extractCode (status : Nat) : ErrorValue → Text
  | .dict fields =>
    match errorField fields (txt "code"), errorField fields (txt "detail") with
    | some code, _ => code.str repr
    -- `hasattr(data["detail"], "code")`
    | none, some (.detail _ code) => code
    | none, _ => statusCode status
  | _ => statusCode status

/-- `normalized["details"]`. -/
def errorDetails (fields : List (Text × ErrorValue)) : List (Text × Json) :=
  (fields.filter fun e => e.1 ≠ txt "detail" ∧ e.1 ≠ txt "code").map fun e =>
    (e.1, match e.2 with
      | .list items => .arr (ErrorValue.jsonItems items)
      | v => .arr [v.json])

/-- Whether some key names a field. -/
def namesField (fields : List (Text × ErrorValue)) : Bool :=
  fields.any fun e => e.1 ≠ txt "detail" ∧ e.1 ≠ txt "code" ∧ e.1 ≠ txt "non_field_errors"

/-- `custom_exception_handler`, on the status and the data that REST framework's own handler gives
for the exception, if it knows it; `none` where the handler itself raises. -/
def customExceptionHandler : Option (Nat × ErrorValue) → Option Response
  | none => some .internalError
  | some (status, data) =>
    (extractMessage repr data).map fun message =>
      ⟨status, .obj ((txt "error", .str message) ::
        (txt "code", .str (extractCode repr status data)) ::
          match data with
          | .dict fields =>
            if namesField fields then [(txt "details", .obj (errorDetails fields))] else []
          | _ => [])⟩

/-- **Where the handler itself raises**: there is no `detail`; and the errors of no field are a
dictionary, or there are none and the first field has an empty list. -/
theorem handler_raises_iff (exc : Option (Nat × ErrorValue)) :
    customExceptionHandler repr exc = none
      ↔ ∃ status fields, exc = some (status, .dict fields)
        ∧ ((errorField fields (txt "detail")).getD (.text [])).truthy = false
        ∧ ((∃ e es, errorField fields (txt "non_field_errors") = some (.dict (e :: es)))
          ∨ ((errorField fields (txt "non_field_errors")).getD (.list [])).truthy = false
            ∧ ∃ key, (fields.find? fun e => e.1 ≠ txt "code") = some (key, .list [])) := by
  cases exc with
  | none =>
      refine iff_of_false (by simp [customExceptionHandler]) ?_
      rintro ⟨_, _, h, _⟩
      exact absurd h (by simp)
  | some found =>
      obtain ⟨status, data⟩ := found
      cases data with
      | detail t code => simp [customExceptionHandler, extractMessage]
      | text t => simp [customExceptionHandler, extractMessage]
      | list items => simp [customExceptionHandler, extractMessage]
      | dict fields =>
          simp only [customExceptionHandler, Option.map_eq_none_iff, Option.some.injEq,
            Prod.mk.injEq, ErrorValue.dict.injEq, extractMessage]
          constructor
          · intro h
            refine ⟨status, fields, ⟨rfl, rfl⟩, ?_⟩
            split at h
            · exact absurd h (by simp)
            next hdetail =>
              refine ⟨Bool.eq_false_of_not_eq_true hdetail, ?_⟩
              split at h
              next hnon =>
                -- truthy, and without an element 0
                rw [Option.map_eq_none_iff] at h
                cases hfield : errorField fields (txt "non_field_errors") with
                | none =>
                    rw [hfield] at hnon
                    exact absurd hnon (by decide)
                | some v =>
                    rw [hfield, Option.getD_some] at hnon h
                    -- what is empty is falsy; of the rest only a dictionary has no 0
                    cases v with
                    | detail t code =>
                        cases t with
                        | nil => exact absurd hnon (by simp [ErrorValue.truthy])
                        | cons c t => exact absurd h (by simp [ErrorValue.head?])
                    | text t =>
                        cases t with
                        | nil => exact absurd hnon (by simp [ErrorValue.truthy])
                        | cons c t => exact absurd h (by simp [ErrorValue.head?])
                    | list items =>
                        cases items with
                        | nil => exact absurd hnon (by simp [ErrorValue.truthy])
                        | cons v items => exact absurd h (by simp [ErrorValue.head?])
                    | dict es =>
                        cases es with
                        | nil => exact absurd hnon (by simp [ErrorValue.truthy])
                        | cons e es => exact .inl ⟨e, es, rfl⟩
              next hnon =>
                refine .inr ⟨Bool.eq_false_of_not_eq_true hnon, ?_⟩
                split at h
                -- the first field has a list, and the list no first message
                next key items hfirst =>
                  rw [Option.map_eq_none_iff, List.head?_eq_none_iff] at h
                  rw [h] at hfirst
                  exact ⟨key, hfirst⟩
                · exact absurd h (by simp)
                · exact absurd h (by simp)
          · rintro ⟨_, _, ⟨rfl, rfl⟩, hdetail, hcase⟩
            rw [if_neg (by rw [hdetail]; decide)]
            rcases hcase with ⟨e, es, hnon⟩ | ⟨hnon, key, hfirst⟩
            · rw [hnon]
              rfl
            · rw [if_neg (by rw [hnon]; decide), hfirst]
              rfl

/-! ## §3. The envelopes of the responses. -/

/-- A field with its messages, of which there is at least one. -/
structure FieldErrors where
  field : Text
  first : Text
  others : List Text

namespace FieldErrors

def messages (e : FieldErrors) : List Text := e.first :: e.others

/-- What the serializer raises; `code` is the code of a message. -/
def value (code : Text → Text) (e : FieldErrors) : Text × ErrorValue :=
  (e.field, .list (e.messages.map fun m => .detail m (code m)))

/-- A key that the handler does not take for something else. -/
def Plain (e : FieldErrors) : Prop := e.field ≠ txt "detail" ∧ e.field ≠ txt "code"

end FieldErrors

/-- The message for all of them. -/
def errorSummary (errors : List FieldErrors) : Text :=
  match errors.find? (fun e => e.field = txt "non_field_errors"), errors with
  | some e, _ => e.first
  | none, e :: _ => e.field ++ txt ": " ++ e.first
  | none, [] => txt "\x7b\x7d"

/-- The response to a ValidationError. -/
def Response.validation (errors : List FieldErrors) : Response :=
  let details := if errors.all (fun e => e.field = txt "non_field_errors") then []
    else [(txt "details", .obj (errors.map fun e => (e.field, .arr (e.messages.map .str))))]
  ⟨400, .obj ([(txt "error", .str (errorSummary errors)),
    (txt "code", .str (txt "bad_request"))] ++ details)⟩

theorem jsonItems_details (code : Text → Text) (messages : List Text) :
    ErrorValue.jsonItems (messages.map fun m => .detail m (code m)) = messages.map .str := by
  induction messages with
  | nil => rfl
  | cons m messages ih =>
      show Json.str m :: ErrorValue.jsonItems _ = Json.str m :: _
      rw [ih]

theorem errorField_values (code : Text → Text) (errors : List FieldErrors) (key : Text) :
    errorField (errors.map (FieldErrors.value code)) key
      = (errors.find? fun e => e.field = key).map fun e => (e.value code).2 := by
  unfold errorField
  rw [List.find?_map, Option.map_map]
  rfl

theorem errorField_of_plain (code : Text → Text) {errors : List FieldErrors}
    (hplain : ∀ e ∈ errors, e.Plain) {key : Text}
    (hkey : key = txt "detail" ∨ key = txt "code") :
    errorField (errors.map (FieldErrors.value code)) key = none := by
  rw [errorField_values, Option.map_eq_none_iff, List.find?_eq_none]
  intro e he heq
  have hfield : e.field = key := of_decide_eq_true heq
  rcases hkey with rfl | rfl
  · exact (hplain e he).1 hfield
  · exact (hplain e he).2 hfield

/-- Every field is among the details, with all its messages. -/
theorem errorDetails_values (code : Text → Text) {errors : List FieldErrors}
    (hplain : ∀ e ∈ errors, e.Plain) :
    errorDetails (errors.map (FieldErrors.value code))
      = errors.map fun e => (e.field, .arr (e.messages.map .str)) := by
  unfold errorDetails
  rw [List.filter_eq_self.mpr, List.map_map]
  · refine List.map_congr_left fun e _ => ?_
    show (e.field, Json.arr (ErrorValue.jsonItems _)) = _
    rw [jsonItems_details]
  · intro v hv
    obtain ⟨e, he, rfl⟩ := List.mem_map.mp hv
    exact decide_eq_true (hplain e he)

theorem namesField_values (code : Text → Text) {errors : List FieldErrors}
    (hplain : ∀ e ∈ errors, e.Plain) :
    namesField (errors.map (FieldErrors.value code))
      = !errors.all fun e => e.field = txt "non_field_errors" := by
  induction errors with
  | nil => rfl
  | cons e errors ih =>
      obtain ⟨hdetail, hcode⟩ := hplain e List.mem_cons_self
      have hrest := ih fun x hx => hplain x (List.mem_cons_of_mem e hx)
      show (decide (e.field ≠ _ ∧ e.field ≠ _ ∧ e.field ≠ _) || namesField _)
        = !(decide _ && List.all errors _)
      -- `detail` and `code` are excluded, which leaves `non_field_errors`
      rw [hrest, Bool.not_and]
      congr 1
      simp [hdetail, hcode]

/-- **A ValidationError** keeps every message of every field. -/
theorem handler_validation (code : Text → Text) {errors : List FieldErrors} (hne : errors ≠ [])
    (hplain : ∀ e ∈ errors, e.Plain) :
    customExceptionHandler repr (some (400, .dict (errors.map (FieldErrors.value code))))
      = some (.validation errors) := by
  have hdetail := errorField_of_plain code hplain (.inl rfl)
  have hcode := errorField_of_plain code hplain (.inr rfl)
  have hmessage : extractMessage repr (.dict (errors.map (FieldErrors.value code)))
      = some (errorSummary errors) := by
    simp only [extractMessage, hdetail, Option.getD_none]
    rw [if_neg (by decide), errorField_values]
    unfold errorSummary
    cases hnon : errors.find? fun e => e.field = txt "non_field_errors" with
    | some e => rfl
    | none =>
        simp only [Option.map_none, Option.getD_none]
        rw [if_neg (by decide)]
        -- no error of no field, so the first field speaks
        cases errors with
        | nil => exact absurd rfl hne
        | cons e errors =>
            have hfirst : (e.value code).1 ≠ txt "code" := (hplain e List.mem_cons_self).2
            rw [List.map_cons, List.find?_cons_of_pos (by simpa using hfirst)]
            rfl
  simp only [customExceptionHandler, hmessage, Option.map_some, extractCode, hdetail, hcode,
    namesField_values code hplain, errorDetails_values code hplain]
  unfold Response.validation
  cases errors.all fun e => e.field = txt "non_field_errors" with
  | true => rfl
  | false => rfl

/-- **An exception with one `detail`**: its text and its code. -/
theorem handler_detail (status : Nat) {text code : Text} (hne : text ≠ []) :
    customExceptionHandler repr (some (status, .dict [(txt "detail", .detail text code)]))
      = some (.envelope status text code) := by
  have htruthy : (ErrorValue.detail text code).truthy = true := decide_eq_true hne
  have hdetail : errorField [(txt "detail", .detail text code)] (txt "detail")
      = some (.detail text code) := rfl
  have hcode : errorField [(txt "detail", ErrorValue.detail text code)] (txt "code") = none := by
    have hkey : ¬ txt "detail" = txt "code" := by decide
    simp [errorField, hkey]
  have hnames : namesField [(txt "detail", ErrorValue.detail text code)] = false := by
    simp [namesField]
  simp only [customExceptionHandler, extractMessage, extractCode, hdetail, hcode, hnames,
    Option.getD_some, htruthy, if_true, Option.map_some]
  rfl

end

/-- The errors that the serializers here give have one message each. -/
theorem invalid_eq_validation (errors : List (Text × Text)) :
    Response.invalid errors = .validation (errors.map fun e => ⟨e.1, e.2, []⟩) := by
  unfold Response.invalid Response.validation errorSummary
  rw [List.find?_map, List.all_map, List.map_map]
  cases errors with
  | nil => rfl
  | cons e errors =>
      cases hnon : List.find? (fun e : Text × Text => decide (e.1 = txt "non_field_errors"))
          (e :: errors) with
      | none =>
          simp only [Function.comp_def, hnon]
          rfl
      | some found =>
          simp only [Function.comp_def, hnon]
          rfl

/-! ## §4. Errors that are explained. -/

/-- The errors that the views answer themselves. -/
def viewMessages : List Text :=
  [txt "Active booking not found.", txt "Session is not active.",
    txt "Provide 'text' or 'audio' file.", txt "Session already ended.",
    txt "Voice processing failed.", txt "Insufficient permissions."]

/-- **The response says what is wrong**: there is a message first, and then a code, unless it is
one of the views' own. -/
inductive Response.Explained (r : Response) : Prop
  | handler (message code : Text) (details : List (Text × Json))
      (h : r.body = .obj ((txt "error", .str message) :: (txt "code", .str code) :: details))
  | view (message : Text) (own : message ∈ viewMessages)
      (h : r.body = .obj [(txt "error", .str message)])

/-- An error is explained. -/
def Response.Fine (r : Response) : Prop := 400 ≤ r.status → r.Explained

/-- A response that the handler makes of an exception. -/
def Response.Handled (repr : ErrorValue → Text) (r : Response) : Prop :=
  ∃ exc, customExceptionHandler repr exc = some r

theorem Response.Fine.envelope (status : Nat) (error code : Text) :
    (Response.envelope status error code).Fine :=
  fun _ => .handler error code [] rfl

theorem Response.Fine.success {r : Response} (h : r.status < 400) : r.Fine :=
  fun herror => absurd herror (not_le.mpr h)

theorem Response.Fine.validation (errors : List FieldErrors) :
    (Response.validation errors).Fine :=
  fun _ => .handler (errorSummary errors) _ _ rfl

theorem Response.Fine.invalid (errors : List (Text × Text)) : (Response.invalid errors).Fine := by
  rw [invalid_eq_validation]
  exact .validation _

theorem Response.Fine.invalidInput (messages : List Text) (optionErrors : List (Text × Text)) :
    (invalidInput messages optionErrors).Fine := by
  unfold HotelAgent.invalidInput
  split
  · exact .invalid optionErrors
  · exact fun _ => .handler _ _ _ rfl

theorem Response.Fine.view {status : Nat} {message : String}
    (h : txt message ∈ viewMessages) : (Response.error status message).Fine :=
  fun _ => .view (txt message) h rfl

/-- **Whatever the handler makes** has a message and a code. -/
theorem Response.Handled.fine {repr : ErrorValue → Text} {r : Response} (h : r.Handled repr) :
    r.Fine := by
  obtain ⟨exc, hexc⟩ := h
  unfold customExceptionHandler at hexc
  split at hexc
  -- an exception that REST framework does not know
  · injection hexc with hexc
    rw [← hexc]
    exact .envelope 500 _ _
  · obtain ⟨message, _, rfl⟩ := Option.map_eq_some_iff.mp hexc
    exact fun _ => .handler message _ _ rfl

/-- The exceptions of the filter backends and of the paginator go through the handler. -/
structure Backends.Excepts {R : Type} (repr : ErrorValue → Text) (B : Backends R) : Prop where
  refuses : ∀ query response, B.refuses query = some response → response.Handled repr
  paginate : ∀ query items, 400 ≤ (B.paginate query items).status →
    (B.paginate query items).Handled repr

/-- **Third parties raise**, and answer nothing themselves. -/
structure Deployment.Excepts (repr : ErrorValue → Text) (D : Deployment) : Prop where
  sessions : D.filters.sessions.Excepts repr
  requests : D.filters.requests.Excepts repr
  bookings : D.filters.bookings.Excepts repr
  rooms : D.rooms.Excepts repr

/-- So does the authentication of a bad token. -/
def Credentials.Excepts (repr : ErrorValue → Text) (cred : Credentials) : Prop :=
  ∀ body, cred = .rejected body → (⟨401, body⟩ : Response).Handled repr

section
variable {repr : ErrorValue → Text}

section
variable {R : Type} {B : Backends R} {query : Query} {users : Table User.id}
  {rooms : Table Room.id}

theorem Backends.Excepts.find (hB : B.Excepts repr) {id : R → Uuid} {model : String}
    {rows : List R} {pk : Option Uuid} {response : Response}
    (h : B.find query users rooms id model rows pk = .error response) : response.Fine := by
  unfold Backends.find at h
  split at h
  next refused hrefused =>
    injection h with h
    rw [← h]
    exact (hB.refuses query refused hrefused).fine
  · split at h
    · injection h with h
      rw [← h]
      exact .envelope 404 _ _
    · exact absurd h (by simp)

theorem Backends.Excepts.list (hB : B.Excepts repr) (render : R → Json) (rows : List R) :
    (B.list query users rooms render rows).Fine := by
  unfold Backends.list
  split
  next refused hrefused => exact (hB.refuses query refused hrefused).fine
  · intro herror
    exact (hB.paginate query _ herror).fine herror

end

section
variable {D : Deployment} {query : Query} {user : Option User}

/-- A 400 of a session has a message of the views. -/
def SessionAnswer.Own (answer : SessionAnswer) : Prop :=
  ∀ message, answer = .badRequest message → message ∈ viewMessages

/-- What a client gets is explained, if it is an error response. -/
def Answer.Fine (answer : Answer) : Prop := ∀ response, answer = .response response → response.Fine

theorem Answer.Fine.response {r : Response} (h : r.Fine) : (Answer.response r).Fine := by
  intro other heq
  injection heq with heq
  rw [← heq]
  exact h

end

end

/-! ## §5. Every request. -/

/-- The credentials of a request, if it has any, are checked by exceptions. -/
def ApiRequest.Excepts {py : Python} (repr : ErrorValue → Text) : ApiRequest py → Prop
  | .read cred _ _ => cred.Excepts repr
  | .rooms cred _ _ => cred.Excepts repr
  | .write cred _ _ => cred.Excepts repr
  | .register _ _ _ => True
  | .token _ _ => True

end HotelAgent
