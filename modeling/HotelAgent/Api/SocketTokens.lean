/-
  HotelAgent.Api.SocketTokens — the token of a WebSocket connection.

  `connect` takes what follows the last `token=` of the query string, up to the
  next `&`.  It does not look whether `token=` begins a parameter there: a later
  parameter whose name ends in `token`, or whose value has `token=` in it, takes
  the token's place.

  `_authenticate_token` then looks the user up.  REST does the same with a Bearer
  token, but refuses a user who is deactivated.

  Main results:
    * `passedToken_iff` — the value of the parameter `token` is what is passed, if
      and only if no later parameter takes its place, or the last to do so has the
      same value.
    * `oneAnswer_iff` — both transports act as the same user, if and only if the
      token does not name a user who is deactivated.
-/
import HotelAgent.Lib.Occurrences
import HotelAgent.Api.Endpoints
import HotelAgent.Api.Sockets

namespace HotelAgent

open Lib

/-! ## §1. Query strings. -/

/-- A parameter `name=value`. -/
structure Param where
  name : Text
  value : Text
  name_free : 0x26 ∉ name ∧ 0x3D ∉ name
  value_free : 0x26 ∉ value

def Param.text (p : Param) : Text := p.name ++ txt "=" ++ p.value

/-- The parameters, with `&` between them. -/
def queryOf (ps : List Param) : Text := (txt "&").intercalate (ps.map Param.text)

/-- A letter, a digit, or one of `-`, `_` and `.`. -/
def isJwtChar (c : CodePoint) : Bool :=
  isDigit c || (0x41 ≤ c.val && c.val ≤ 0x5A) || (0x61 ≤ c.val && c.val ≤ 0x7A)
    || c.val = 0x2D || c.val = 0x5F || c.val = 0x2E

/-- What `connect` passes to `_authenticate_token`; `none` is a UnicodeDecodeError. -/
def passedToken (scope : Scope) : Option Text := (decodeUtf8 scope.queryString).map tokenStr

theorem authenticateScope_eq (users : Table User.id) (accessToken : Text → TokenReading)
    (scope : Scope) :
    authenticateScope users accessToken scope
      = match passedToken scope with
        | some token => authenticateToken users (accessToken token)
        | none => .raises := by
  unfold authenticateScope passedToken
  cases decodeUtf8 scope.queryString with
  | none => rfl
  | some query => rfl

/-- From UTF-8 the split is that of the text. -/
theorem passedToken_of_encodes {query : Text} {scope : Scope}
    (h : encodeUtf8 query = some scope.queryString) :
    passedToken scope = some (tokenStr query) := by
  rw [passedToken, decodeUtf8_encodeUtf8 _ h, Option.map_some]

/-- The parameters behind another one. -/
def furtherParams (ps : List Param) : Text := ps.flatMap fun p => 0x26 :: p.text

theorem queryOf_cons (p : Param) (ps : List Param) :
    queryOf (p :: ps) = p.text ++ furtherParams ps := by
  have hamp : txt "&" = [0x26] := by decide
  unfold queryOf furtherParams
  rw [hamp, List.map_cons]
  induction ps generalizing p with
  | nil => simp
  | cons q ps ih => rw [List.map_cons, List.intercalate_cons_cons, ih q]; simp

/-- The query string around one of its parameters. -/
theorem queryOf_append (before : List Param) (p : Param) (after : List Param) :
    ∃ front, queryOf (before ++ p :: after) = front ++ p.text ++ furtherParams after := by
  cases before with
  | nil => exact ⟨[], queryOf_cons p after⟩
  | cons q before =>
      refine ⟨q.text ++ furtherParams before ++ [0x26], ?_⟩
      rw [List.cons_append, queryOf_cons]
      simp [furtherParams]

theorem Param.text_free (p : Param) : 0x26 ∉ p.text := by
  unfold Param.text
  rw [List.mem_append, List.mem_append, not_or, not_or]
  exact ⟨⟨p.name_free.1, by decide⟩, p.value_free⟩

/-! ## §2. Where `token=` occurs. -/

/-- What `connect` looks for. -/
def tokenKey : Text := txt "token="

theorem tokenKey_ne_nil : tokenKey ≠ [] := by decide

theorem tokenKey_unbordered : Unbordered tokenKey := by decide

/-- The parameter is read as one for the token. -/
def Param.NamesToken (p : Param) : Prop := tokenKey <:+: p.text

instance (p : Param) : Decidable p.NamesToken := inferInstanceAs (Decidable (_ <:+: _))

/-- An occurrence is inside one of the parameters. -/
theorem tokenKey_infix_iff (t : Text) (ps : List Param) :
    tokenKey <:+: t ++ furtherParams ps ↔ tokenKey <:+: t ∨ ∃ p ∈ ps, p.NamesToken := by
  have hfree : (0x26 : CodePoint) ∉ tokenKey := by decide
  induction ps generalizing t with
  | nil => simp [furtherParams]
  | cons p ps ih =>
      have hcons : t ++ furtherParams (p :: ps) = t ++ 0x26 :: (p.text ++ furtherParams ps) := by
        simp [furtherParams]
      have hmem : (∃ q ∈ p :: ps, q.NamesToken) ↔ p.NamesToken ∨ ∃ q ∈ ps, q.NamesToken :=
        List.exists_mem_cons_iff _ _ _
      rw [hcons, infix_append_cons_iff tokenKey_ne_nil hfree, hmem]
      exact or_congr_right (ih p.text)

/-- **What is read behind the last `token=`.** -/
theorem tokenStr_eq (front : Text) {t : Text} {ps : List Param} (hamp : 0x26 ∉ t)
    (hlast : ¬ tokenKey <:+: t) (hps : ∀ p ∈ ps, ¬ p.NamesToken) :
    tokenStr (front ++ tokenKey ++ (t ++ furtherParams ps)) = t := by
  have hnone : ¬ tokenKey <:+: t ++ furtherParams ps := by
    rw [tokenKey_infix_iff, not_or, not_exists]
    exact ⟨hlast, fun p hp => hps p hp.1 hp.2⟩
  have hpiece := getLast?_splitOn tokenKey_ne_nil tokenKey_unbordered front hnone
  have hsep : txt "&" = [0x26] := by decide
  unfold tokenStr
  show ((splitOn (txt "&") ((splitOn tokenKey _).getLastD [])).headD []) = t
  rw [List.getLastD_eq_getLast?, hpiece, Option.getD_some, hsep, List.headD_eq_head?_getD,
    head?_splitOn_singleton, Option.getD_some]
  have htaken : ∀ c ∈ t, (decide (c ≠ 0x26)) = true := by
    intro c hc
    have hne : c ≠ 0x26 := fun heq => hamp (heq ▸ hc)
    simpa using hne
  rw [List.takeWhile_append_of_pos htaken]
  cases ps with
  | nil => simp [furtherParams]
  | cons p ps => simp [furtherParams]

/-- The last parameter that is read as one for the token is what counts. -/
theorem tokenStr_of_named (front : Text) {mid rest : List Param} {p : Param} {a b : Text}
    (hab : p.text = a ++ tokenKey ++ b) (hlast : ¬ tokenKey <:+: b)
    (hrest : ∀ q ∈ rest, ¬ q.NamesToken) :
    tokenStr (front ++ furtherParams (mid ++ p :: rest)) = b := by
  have hamp : 0x26 ∉ b := fun h => p.text_free (hab ▸ List.mem_append_right _ h)
  have hsplit : front ++ furtherParams (mid ++ p :: rest)
      = (front ++ furtherParams mid ++ 0x26 :: a) ++ tokenKey ++ (b ++ furtherParams rest) := by
    simp [furtherParams, hab]
  rw [hsplit, tokenStr_eq _ hamp hlast hrest]

/-! ## §3. The value of the parameter `token`. -/

/-- No later parameter is read as one for the token, or the last that is ends in `token=` and
the same value. -/
def NotOvershadowed (value : Text) (after : List Param) : Prop :=
  (∀ p ∈ after, ¬ p.NamesToken)
    ∨ ∃ mid p rest, after = mid ++ p :: rest ∧ (∀ q ∈ rest, ¬ q.NamesToken)
      ∧ tokenKey ++ value <:+ p.text

/-- The last of the parameters that are read as one for the token. -/
theorem exists_last_namesToken (ps : List Param) (h : ∃ p ∈ ps, p.NamesToken) :
    ∃ mid p rest, ps = mid ++ p :: rest ∧ p.NamesToken ∧ ∀ q ∈ rest, ¬ q.NamesToken := by
  induction ps with
  | nil =>
      obtain ⟨p, hp, _⟩ := h
      exact absurd hp List.not_mem_nil
  | cons p ps ih =>
      by_cases hlater : ∃ q ∈ ps, q.NamesToken
      · obtain ⟨mid, q, rest, hps, hq, hrest⟩ := ih hlater
        exact ⟨p :: mid, q, rest, congrArg (p :: ·) hps, hq, hrest⟩
      · have hnone : ∀ q ∈ ps, ¬ q.NamesToken := fun q hq hnames => hlater ⟨q, hq, hnames⟩
        rcases List.or_exists_of_exists_mem_cons h with hp | hq
        · exact ⟨[], p, ps, rfl, hp, hnone⟩
        · exact absurd hq hlater

/-- **The token is passed**: what `connect` passes on is the value of the parameter `token`, if
and only if no later parameter takes its place, except with the same value. -/
theorem passedToken_iff {before after : List Param} {token : Param} {scope : Scope}
    (hname : token.name = txt "token") (hvalue : token.value.all isJwtChar = true)
    (hquery : encodeUtf8 (queryOf (before ++ token :: after)) = some scope.queryString) :
    passedToken scope = some token.value ↔ NotOvershadowed token.value after := by
  have hpassed := passedToken_of_encodes hquery
  obtain ⟨front, hfront⟩ := queryOf_append before token after
  have htext : token.text = tokenKey ++ token.value := by
    rw [Param.text, hname]
    rfl
  -- a JWT has no `=`
  have hclean : ¬ tokenKey <:+: token.value := by
    intro hocc
    have hequals : (0x3D : CodePoint) ∈ token.value := hocc.subset (by decide)
    exact absurd (List.all_eq_true.mp hvalue _ hequals) (by decide)
  rw [hpassed, Option.some.injEq, hfront]
  by_cases hlater : ∃ p ∈ after, p.NamesToken
  · obtain ⟨mid, p, rest, hafter, hp, hrest⟩ := exists_last_namesToken after hlater
    obtain ⟨a, b, hab, hb⟩ := exists_last_occurrence tokenKey_ne_nil hp
    -- what stands behind the last `token=` of the last such parameter is passed on
    constructor
    · intro heq
      rw [hafter, tokenStr_of_named _ hab hb hrest] at heq
      exact .inr ⟨mid, p, rest, hafter, hrest, a, by rw [← heq, hab, List.append_assoc]⟩
    · rintro (hnone | ⟨mid', p', rest', hafter', hrest', a', hab'⟩)
      · obtain ⟨q, hq, hnames⟩ := hlater
        exact absurd hnames (hnone q hq)
      · have hab'' : p'.text = a' ++ tokenKey ++ token.value := by
          rw [← hab', List.append_assoc]
        rw [hafter', tokenStr_of_named _ hab'' hclean hrest']
  · -- the last `token=` is that of the parameter itself
    have hnone : ∀ p ∈ after, ¬ p.NamesToken := fun p hp hnames => hlater ⟨p, hp, hnames⟩
    have hsplit : front ++ token.text ++ furtherParams after
        = front ++ tokenKey ++ (token.value ++ furtherParams after) := by
      rw [htext]
      simp
    rw [hsplit, tokenStr_eq front token.value_free hclean hnone]
    exact iff_of_true rfl (.inl hnone)

/-- A parameter with an ASCII name and value. -/
def asciiParam (name value : String)
    (hname : 0x26 ∉ txt name ∧ 0x3D ∉ txt name := by decide)
    (hvalue : 0x26 ∉ txt value := by decide) : Param :=
  ⟨txt name, txt value, hname, hvalue⟩

/-- A connection with an ASCII query string. -/
def asciiScope (query : String) : Scope :=
  ⟨(txt query).map fun c => UInt8.ofNat c.val, none⟩

/-- A token between two other parameters. -/
theorem passedToken_between :
    passedToken (asciiScope "lang=en&token=ey.J-h&x=1") = some (txt "ey.J-h") :=
  (@passedToken_iff [asciiParam "lang" "en"] [asciiParam "x" "1"] (asciiParam "token" "ey.J-h") _
    rfl (by decide) (by decide)).mpr (.inl (by decide))

/-- With `token=abc&csrftoken=xyz` the CSRF token is passed on. -/
theorem csrftoken_passed :
    ∃ (token after : Param) (scope : Scope), token.name = txt "token" ∧ after.name ≠ txt "token"
      ∧ token.value.all isJwtChar = true
      ∧ encodeUtf8 (queryOf [token, after]) = some scope.queryString
      ∧ passedToken scope ≠ some token.value := by
  have hpassed : passedToken (asciiScope "token=abc&csrftoken=xyz") = some (txt "xyz") :=
    passedToken_of_encodes (by decide : encodeUtf8 (txt "token=abc&csrftoken=xyz") = _)
  refine ⟨asciiParam "token" "abc", asciiParam "csrftoken" "xyz",
    asciiScope "token=abc&csrftoken=xyz", rfl, by decide, by decide, by decide, ?_⟩
  rw [hpassed]
  decide

/-! ## §4. The same token over REST. -/

/-- The user that `JWTAuthentication` finds for a Bearer token with this reading. -/
def restUser (db : Db) : TokenReading → Option User
  | .userId id =>
    match (Credentials.bearer id).user db with
    | .ok user => user
    | .error _ => none
  | .tokenError | .keyError | .invalidId => none

/-- The user that a connection acts as: the one of its open socket. -/
def socketUser (db : Db) (accessToken : Text → TokenReading) (s : Sockets) (scope : Scope) :
    Option User :=
  (s.connect db.users accessToken scope).1.openUser s.consumers.length

/-- The token does not name a user who is deactivated. -/
def NamesNoInactive (db : Db) (reading : TokenReading) : Prop :=
  ∀ id u, reading = .userId id → db.users.find? id = some u → u.isActive = true

theorem restUser_userId (db : Db) (id : Uuid) :
    restUser db (.userId id) = (db.users.find? id).filter User.isActive := by
  simp only [restUser, Credentials.user]
  cases hfind : db.users.find? id with
  | none => rfl
  | some u =>
      cases hactive : u.isActive with
      | true => simp [hactive, Option.filter]
      | false => simp [hactive, Option.filter]

/-- The consumer of the connection comes last in the list. -/
theorem socketUser_eq (db : Db) (accessToken : Text → TokenReading) (s : Sockets)
    (scope : Scope) :
    socketUser db accessToken s scope
      = match authenticateScope db.users accessToken scope with
        | .user u => some u
        | .anonymous | .raises => none := by
  unfold socketUser Sockets.connect
  cases authenticateScope db.users accessToken scope with
  | user u => exact (openUser_append rfl _).trans (if_pos rfl)
  | anonymous => exact (openUser_append rfl _).trans (if_pos rfl)
  | raises => exact (openUser_append rfl _).trans (if_pos rfl)

/-- **One token, one answer**: a connection is accepted, and acts as a user, exactly as a REST
request with the same token, if and only if the token does not name a deactivated user. -/
theorem oneAnswer_iff {db : Db} {accessToken : Text → TokenReading} {s : Sockets}
    {scope : Scope} {t : Text} (hpassed : passedToken scope = some t) :
    socketUser db accessToken s scope = restUser db (accessToken t)
      ↔ NamesNoInactive db (accessToken t) := by
  rw [socketUser_eq, authenticateScope_eq, hpassed]
  show (match authenticateToken db.users (accessToken t) with
    | .user u => some u
    | .anonymous | .raises => none) = _ ↔ _
  cases hreading : accessToken t with
  | tokenError => exact iff_of_true rfl fun _ _ h => TokenReading.noConfusion h
  | keyError => exact iff_of_true rfl fun _ _ h => TokenReading.noConfusion h
  | invalidId => exact iff_of_true rfl fun _ _ h => TokenReading.noConfusion h
  | userId id =>
      rw [restUser_userId, authenticateToken]
      cases hfind : db.users.find? id with
      | none =>
          refine iff_of_true rfl fun id' u h hu => ?_
          injection h with h
          rw [← h, hfind] at hu
          exact absurd hu (by simp)
      | some u =>
          cases hactive : u.isActive with
          | true =>
              refine iff_of_true (by simp [hactive, Option.filter]) fun id' u' h hu => ?_
              injection h with h
              rw [← h, hfind] at hu
              injection hu with hu
              rw [← hu, hactive]
          | false =>
              refine iff_of_false (by simp [hactive, Option.filter]) fun h => ?_
              rw [h id u rfl hfind] at hactive
              exact absurd hactive (by decide)

/-- A token that reads as one of the demo guest. -/
def guestReading (t : Text) : TokenReading :=
  if t = txt "abc" then .userId 1 else .tokenError

theorem passedToken_abc : passedToken (asciiScope "token=abc") = some (txt "abc") :=
  passedToken_of_encodes (by decide : encodeUtf8 (txt "token=abc") = _)

/-- The demo guest, active, has one answer. -/
theorem oneAnswer_guest :
    socketUser demoHotel.db guestReading .start (asciiScope "token=abc")
      = restUser demoHotel.db (guestReading (txt "abc")) :=
  (oneAnswer_iff passedToken_abc).mpr fun id u hid hu => by
    have hreading : guestReading (txt "abc") = .userId 1 := rfl
    have hfind : demoHotel.db.users.find? 1 = some demoGuest := by decide
    rw [hreading] at hid
    injection hid with hid
    rw [← hid, hfind] at hu
    injection hu with hu
    rw [← hu]
    rfl

/-- The guest's account is closed. -/
def closedAccount : Db :=
  unvisited ⟨[{ demoGuest with isActive := false }], by decide⟩ .empty (by decide)

/-- A deactivated guest is refused over REST, and accepted over the socket. -/
theorem inactive_guest_connects :
    ∃ (db : Db) (scope : Scope), passedToken scope = some (txt "abc")
      ∧ restUser db (guestReading (txt "abc")) = none
      ∧ (socketUser db guestReading .start scope).map User.isActive = some false := by
  refine ⟨closedAccount, asciiScope "token=abc", passedToken_abc, by decide, ?_⟩
  rw [socketUser_eq, authenticateScope_eq, passedToken_abc]
  decide

end HotelAgent
