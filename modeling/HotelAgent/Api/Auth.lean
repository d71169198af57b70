/-
  HotelAgent.Api.Auth — POST /api/v1/auth/token/ and the account lockout.

  `CustomTokenObtainPairView.post` refuses a locked account, asks simplejwt's
  view for the tokens and then counts the outcome.  What simplejwt does is a
  parameter: it answers 200 to good credentials, and to all others its
  serializer RAISES, out of the parent's `post` and out of this one.  So the
  branch that would count a failure is never reached.

  The two look for different accounts:

      this view          the email as it was sent
      the serializer     the email without the spaces around it

  and with a space before the email the check for a lock finds nobody.

  Main result, `lockout_iff_locked_before`: in a run of requests the lockout
  holds exactly when each request that it covers names, as it was sent, an
  account whose lock is from before the run and still holds.
-/
import HotelAgent.Api.Access
import HotelAgent.Lib.Run

namespace HotelAgent

open Lib

/-! ## §1. The lock of an account. -/

/-- `is_locked` at time `now`. -/
def User.isLocked (u : User) (now : Instant) : Bool :=
  match u.lockedUntil with
  | some lockedUntil => decide (now < lockedUntil)
  | none => false

/-- 30 minutes. -/
def lockPeriod : Int := 30 * 60 * second

/-- `record_failed_login` before its `save`. -/
def User.recordFailedLogin (u : User) (now : Instant) : User :=
  let attempts := u.failedLoginAttempts + 1
  { u with
    failedLoginAttempts := attempts
    lockedUntil := if 5 ≤ attempts then some (now + lockPeriod) else u.lockedUntil }

/-- `reset_failed_login` before its `save`. -/
def User.resetFailedLogin (u : User) : User :=
  { u with failedLoginAttempts := 0, lockedUntil := none }

/-- `save(update_fields=["failed_login_attempts", "locked_until"])` of the copy `u`. -/
def UserWrite.lockColumns (u : User) : UserWrite where
  write := fun row =>
    { row with failedLoginAttempts := u.failedLoginAttempts, lockedUntil := u.lockedUntil }
  id_eq := fun _ => rfl
  email_eq := fun _ => rfl

/-- `save(update_fields=["failed_login_attempts", "locked_until"])`; `none` is the `DataError` for
a count beyond the column. -/
def Db.saveLockColumns (db : Db) (u : User) : Option Db :=
  if u.failedLoginAttempts ≤ maxSmallInteger then
    some (db.saveUser u.id (.lockColumns u))
  else none

/-- `reset_failed_login`, which saves only what there is to reset. -/
def Db.resetFailedLogin (db : Db) (u : User) : Db :=
  if 0 < u.failedLoginAttempts then db.saveUser u.id (.lockColumns u.resetFailedLogin) else db

/-- `save(update_fields=["last_login_ip"])`. -/
def UserWrite.loginIp (ip : Option Text) : UserWrite where
  write := fun row => { row with lastLoginIp := ip }
  id_eq := fun _ => rfl
  email_eq := fun _ => rfl

/-- What the column keeps of an address, an empty one as null; `none` is the `DataError` for a
text that is none.  `inet` says which texts PostgreSQL takes as an address. -/
def addressOf? (inet : Text → Bool) (remoteAddr : Text) : Option (Option Text) :=
  if remoteAddr = [] then some none
  else if inet remoteAddr = true then some (some remoteAddr) else none

/-- `user.last_login_ip = ...`, saved. -/
def Db.saveLoginIp (inet : Text → Bool) (db : Db) (u : User) (remoteAddr : Text) : Option Db :=
  (addressOf? inet remoteAddr).map fun ip => db.saveUser u.id (.loginIp ip)

/-- A lock that is over stays over. -/
theorem User.isLocked_mono {u : User} {t t' : Instant} (h : u.isLocked t = false) (hle : t ≤ t') :
    u.isLocked t' = false := by
  unfold User.isLocked at h ⊢
  cases hl : u.lockedUntil with
  | none => rfl
  | some lockedUntil =>
      simp only [hl, decide_eq_false_iff_not] at h ⊢
      exact fun hlt => h (lt_of_le_of_lt hle hlt)

/-! ## §2. The parent view. -/

/-- The email and the password are as they were sent. -/
structure TokenRequest where
  email : Option Text
  password : Option Text
  remoteAddr : Text

/-- What a required `CharField` makes of a text: it is trimmed; `none` where the field refuses
it. -/
def charField (t : Option Text) : Option Text :=
  (t.map strip).filter fun s => s ≠ [] && storable s

/-- The email that the serializer authenticates. -/
def TokenRequest.account (req : TokenRequest) : Option Text := charField req.email

/-- The password that the serializer authenticates with. -/
def TokenRequest.credential (req : TokenRequest) : Option Text := charField req.password

inductive ParentResult where
  | response (status : Nat)
  /-- An API exception; DRF answers with its status after the view is left. -/
  | raises (status : Nat)
  deriving DecidableEq

/-- `TokenObtainPairView.post`.  The user is the one with the email that the serializer looks up;
there is none for an email that the field refuses. -/
structure SimpleJwt where
  checkPassword : (hash password : Text) → Bool
  post : Option User → TokenRequest → ParentResult
  post_good : ∀ u req p, req.credential = some p → u.isActive = true →
    checkPassword u.password p = true → post (some u) req = .response 200
  post_bad : ∀ u req,
    ¬ (u.isActive = true ∧ req.credential.any (checkPassword u.password) = true) →
    ∃ status, post (some u) req = .raises status
  post_unknown : ∀ req, ∃ status, post none req = .raises status

/-- The request carries good credentials, if it is `u` whom it names. -/
def SimpleJwt.accepts (jwt : SimpleJwt) (u : User) (req : TokenRequest) : Bool :=
  u.isActive && req.credential.any (jwt.checkPassword u.password)

/-- The request carries a password, and it is not that of `u`. -/
def SimpleJwt.wrongPassword (jwt : SimpleJwt) (u : User) (req : TokenRequest) : Bool :=
  req.password.isSome && !req.credential.any (jwt.checkPassword u.password)

/-- **The parent**, exactly: tokens for good credentials of a known user, and else it raises. -/
theorem SimpleJwt.post_cases (jwt : SimpleJwt) (user : Option User) (req : TokenRequest) :
    (user.any (jwt.accepts · req) = true ∧ jwt.post user req = .response 200)
      ∨ (user.any (jwt.accepts · req) = false ∧ ∃ status, jwt.post user req = .raises status) := by
  cases user with
  | none => exact .inr ⟨rfl, jwt.post_unknown req⟩
  | some u =>
      show (jwt.accepts u req = true ∧ _) ∨ (jwt.accepts u req = false ∧ _)
      cases hacc : jwt.accepts u req with
      | true =>
          unfold accepts at hacc
          rw [Bool.and_eq_true, Option.any_eq_true] at hacc
          obtain ⟨hactive, p, hp, hcheck⟩ := hacc
          exact .inl ⟨rfl, jwt.post_good u req p hp hactive hcheck⟩
      | false =>
          refine .inr ⟨rfl, jwt.post_bad u req fun hgood => ?_⟩
          unfold accepts at hacc
          rw [hgood.1, hgood.2] at hacc
          exact absurd hacc (by decide)

/-! ## §3. `CustomTokenObtainPairView.post`. -/

inductive AuthResult where
  | response (status : Nat) (tokens : Bool)
  /-- An exception; the client gets its status, or a 500, and no tokens. -/
  | raised (status : Nat)
  deriving DecidableEq

section
variable (jwt : SimpleJwt) (inet : Text → Bool)

/-- The view after the parent's 200. -/
def recordLogin (db : Db) (req : TokenRequest) : Db × AuthResult :=
  match req.email.bind db.userByEmail with
  | none => (db, .response 200 true)
  | some u =>
    let db := db.resetFailedLogin u
    match db.saveLoginIp inet u req.remoteAddr with
    -- the tokens are lost, and the reset stays
    | none => (db, .raised 500)
    | some db => (db, .response 200 true)

/-- The view behind the check for a lock. -/
def obtainTokens (db : Db) (req : TokenRequest) (now : Instant) : Db × AuthResult :=
  match jwt.post (req.account.bind db.userByEmail) req with
  -- an exception passes the counting below by
  | .raises status => (db, .raised status)
  | .response status =>
    if status = 200 then recordLogin inet db req
    else
      -- the branch that counts a failure
      match db.userByEmail (req.email.getD []) with
      | none => (db, .response status false)
      | some u =>
        match db.saveLockColumns (u.recordFailedLogin now) with
        | none => (db, .raised 500)
        | some db => (db, .response status false)

/-- `CustomTokenObtainPairView.post`. -/
def tokenPost (db : Db) (req : TokenRequest) (now : Instant) : Db × AuthResult :=
  match db.userByEmail (req.email.getD []) with
  | some u =>
    if u.isLocked now then (db, .response 423 false) else obtainTokens jwt inet db req now
  | none => obtainTokens jwt inet db req now

end

/-- The account that the request names as it was sent is locked. -/
def Db.namesLocked (db : Db) (req : TokenRequest) (now : Instant) : Bool :=
  (db.userByEmail (req.email.getD [])).any (·.isLocked now)

/-- The account that the serializer looks up takes the credentials. -/
def Db.namesAccepting (db : Db) (jwt : SimpleJwt) (req : TokenRequest) : Bool :=
  (req.account.bind db.userByEmail).any (jwt.accepts · req)

/-- The tokens reach the client: the address can be stored, or there is no row to store it in. -/
def Db.recordsLogin (db : Db) (inet : Text → Bool) (req : TokenRequest) : Bool :=
  (addressOf? inet req.remoteAddr).isSome || (req.email.bind db.userByEmail).isNone

section
variable {jwt : SimpleJwt} {inet : Text → Bool} {db : Db} {req : TokenRequest} {now : Instant}

theorem obtainTokens_cases (jwt : SimpleJwt) (inet : Text → Bool) (db : Db) (req : TokenRequest)
    (now : Instant) :
    (db.namesAccepting jwt req = true ∧ obtainTokens jwt inet db req now = recordLogin inet db req)
      ∨ (db.namesAccepting jwt req = false
        ∧ ∃ status, obtainTokens jwt inet db req now = (db, .raised status)) := by
  unfold obtainTokens Db.namesAccepting
  rcases jwt.post_cases (req.account.bind db.userByEmail) req with
    ⟨hacc, hpost⟩ | ⟨hacc, status, hpost⟩
  · rw [hpost]
    exact .inl ⟨hacc, if_pos rfl⟩
  · rw [hpost]
    exact .inr ⟨hacc, status, rfl⟩

/-- **What a request does**: it meets a lock, or it logs in, or the parent raises. -/
theorem tokenPost_cases (jwt : SimpleJwt) (inet : Text → Bool) (db : Db) (req : TokenRequest)
    (now : Instant) :
    (db.namesLocked req now = true ∧ tokenPost jwt inet db req now = (db, .response 423 false))
      ∨ (db.namesLocked req now = false ∧ db.namesAccepting jwt req = true
        ∧ tokenPost jwt inet db req now = recordLogin inet db req)
      ∨ (db.namesLocked req now = false ∧ db.namesAccepting jwt req = false
        ∧ ∃ status, tokenPost jwt inet db req now = (db, .raised status)) := by
  have hobtain := obtainTokens_cases jwt inet db req now
  unfold tokenPost Db.namesLocked
  cases db.userByEmail (req.email.getD []) with
  | none =>
      right
      rcases hobtain with ⟨hacc, heq⟩ | ⟨hacc, heq⟩
      · exact .inl ⟨rfl, hacc, heq⟩
      · exact .inr ⟨rfl, hacc, heq⟩
  | some u =>
      show (u.isLocked now = true ∧ _) ∨ (u.isLocked now = false ∧ _) ∨ (u.isLocked now = false ∧ _)
      cases hlock : u.isLocked now with
      | true => exact .inl ⟨rfl, by simp [hlock]⟩
      | false =>
          right
          simp only [hlock, Bool.false_eq_true, if_false]
          rcases hobtain with ⟨hacc, heq⟩ | ⟨hacc, heq⟩
          · exact .inl ⟨trivial, hacc, heq⟩
          · exact .inr ⟨trivial, hacc, heq⟩

theorem recordLogin_answer (inet : Text → Bool) (db : Db) (req : TokenRequest) :
    (db.recordsLogin inet req = true ∧ (recordLogin inet db req).2 = .response 200 true)
      ∨ (db.recordsLogin inet req = false ∧ (recordLogin inet db req).2 = .raised 500) := by
  unfold recordLogin Db.recordsLogin
  cases req.email.bind db.userByEmail with
  | none => exact .inl ⟨by simp, rfl⟩
  | some u =>
      unfold Db.saveLoginIp
      cases addressOf? inet req.remoteAddr with
      | none => exact .inr ⟨rfl, rfl⟩
      | some ip => exact .inl ⟨rfl, rfl⟩

/-- **The answer**: 423 exactly to a request that names a locked account, and tokens exactly to one
that meets no lock, has good credentials and whose address is stored. -/
theorem tokenPost_answer (jwt : SimpleJwt) (inet : Text → Bool) (db : Db) (req : TokenRequest)
    (now : Instant) :
    ((tokenPost jwt inet db req now).2 = .response 423 false ↔ db.namesLocked req now = true)
      ∧ decide ((tokenPost jwt inet db req now).2 = .response 200 true)
        = (!db.namesLocked req now && db.namesAccepting jwt req && db.recordsLogin inet req) := by
  rcases tokenPost_cases jwt inet db req now with ⟨hl, heq⟩ | ⟨hl, ha, heq⟩ | ⟨hl, ha, status, heq⟩
  · rw [heq, hl]
    simp
  · rw [heq, hl, ha]
    rcases recordLogin_answer inet db req with ⟨hrecords, hanswer⟩ | ⟨hrecords, hanswer⟩
    · rw [hanswer, hrecords]
      simp
    · rw [hanswer, hrecords]
      simp
  · rw [heq, hl, ha]
    simp

end

/-! ## §4. Every lock stays what it was. -/

/-- What the view and the parent look at in a row, from a time on. -/
def User.lockView (t : Instant) (u : User) : Uuid × Text × Bool × Bool :=
  (u.id, u.password, u.isActive, u.isLocked t)

/-- From `now` on, every email finds a row in the one database that looks like the row in the
other. -/
def SameLocks (db db' : Db) (now : Instant) : Prop :=
  ∀ email t, now ≤ t →
    (db'.userByEmail email).map (User.lockView t) = (db.userByEmail email).map (User.lockView t)

theorem SameLocks.refl (db : Db) (now : Instant) : SameLocks db db now := fun _ _ _ => rfl

theorem SameLocks.trans {db db' db'' : Db} {now : Instant} (h : SameLocks db db' now)
    (h' : SameLocks db' db'' now) : SameLocks db db'' now :=
  fun email t ht => (h' email t ht).trans (h email t ht)

theorem SameLocks.later {db db' : Db} {now now' : Instant} (h : SameLocks db db' now)
    (hle : now ≤ now') : SameLocks db db' now' :=
  fun email t ht => h email t (le_trans hle ht)

/-- A save changes the row that it is for. -/
theorem Db.userByEmail_saveUser (db : Db) (id : Uuid) (w : UserWrite) (email : Text) :
    (db.saveUser id w).userByEmail email
      = (db.userByEmail email).map fun u => if u.id = id then w.write u else u := by
  show (db.users.rows.map fun u => if decide (u.id = id) then w.write u else u).find? _ = _
  rw [List.find?_map]
  simp only [decide_eq_true_eq]
  -- the row is found by an email that the save keeps
  have hsame : ((fun u : User => decide (u.email = email)) ∘
      fun u => if u.id = id then w.write u else u) = fun u => decide (u.email = email) := by
    funext u
    show decide ((if u.id = id then w.write u else u).email = email) = _
    split
    · rw [w.email_eq]
    · rfl
  rw [hsame]
  rfl

/-- A save that shows nothing in the row keeps all locks. -/
theorem sameLocks_saveUser {db : Db} {id : Uuid} {w : UserWrite} {now : Instant}
    (h : ∀ u ∈ db.users, u.id = id → ∀ t, now ≤ t → (w.write u).lockView t = u.lockView t) :
    SameLocks db (db.saveUser id w) now := by
  intro email t ht
  rw [Db.userByEmail_saveUser]
  cases hfind : db.userByEmail email with
  | none => rfl
  | some u =>
      simp only [Option.map_some]
      by_cases hid : u.id = id
      · rw [if_pos hid, h u (Db.userByEmail_eq_some_iff.mp hfind).1 hid t ht]
      · rw [if_neg hid]

/-- An account that is open has no lock to lose. -/
theorem sameLocks_resetFailedLogin {db : Db} {u : User} (hu : u ∈ db.users) {now : Instant}
    (hopen : u.isLocked now = false) : SameLocks db (db.resetFailedLogin u) now := by
  unfold Db.resetFailedLogin
  split
  · refine sameLocks_saveUser fun v hv hid t ht => ?_
    rw [Table.eq_of_key_eq hv hu hid]
    show (u.id, u.password, u.isActive, false) = u.lockView t
    rw [User.lockView, User.isLocked_mono hopen ht]
  · exact .refl db now

theorem sameLocks_saveLoginIp {inet : Text → Bool} {db db' : Db} {u : User} {remoteAddr : Text}
    (h : db.saveLoginIp inet u remoteAddr = some db') (now : Instant) : SameLocks db db' now := by
  obtain ⟨ip, _, rfl⟩ := Option.map_eq_some_iff.mp h
  exact sameLocks_saveUser fun _ _ _ _ _ => rfl

/-- A login resets the account that the request names, which is not locked. -/
theorem sameLocks_recordLogin (inet : Text → Bool) {db : Db} {req : TokenRequest} {now : Instant}
    (hopen : db.namesLocked req now = false) : SameLocks db (recordLogin inet db req).1 now := by
  unfold recordLogin
  cases hemail : req.email with
  | none => exact .refl db now
  | some email =>
      simp only [Option.bind_some]
      cases hfind : db.userByEmail email with
      | none => exact .refl db now
      | some u =>
          have hunlocked : u.isLocked now = false := by
            unfold Db.namesLocked at hopen
            rw [hemail, Option.getD_some, hfind] at hopen
            exact hopen
          have hreset := sameLocks_resetFailedLogin
            (Db.userByEmail_eq_some_iff.mp hfind).1 hunlocked
          simp only
          cases hip : (db.resetFailedLogin u).saveLoginIp inet u req.remoteAddr with
          | none => exact hreset
          | some db' => exact hreset.trans (sameLocks_saveLoginIp hip now)

/-- **One request keeps every lock.** -/
theorem sameLocks_tokenPost (jwt : SimpleJwt) (inet : Text → Bool) (db : Db) (req : TokenRequest)
    (now : Instant) : SameLocks db (tokenPost jwt inet db req now).1 now := by
  rcases tokenPost_cases jwt inet db req now with ⟨_, heq⟩ | ⟨hopen, _, heq⟩ | ⟨_, _, status, heq⟩
  · rw [heq]
    exact .refl db now
  · rw [heq]
    exact sameLocks_recordLogin inet hopen
  · rw [heq]
    exact .refl db now

section
variable {db db' : Db} {now : Instant} (h : SameLocks db db' now) (req : TokenRequest)
include h

theorem SameLocks.namesLocked : db'.namesLocked req now = db.namesLocked req now := by
  have hview : ∀ user : Option User,
      user.any (·.isLocked now) = (user.map (User.lockView now)).any (·.2.2.2) := by
    intro user
    cases user with
    | none => rfl
    | some u => rfl
  unfold Db.namesLocked
  rw [hview, hview, h _ now (le_refl now)]

theorem SameLocks.namesAccepting (jwt : SimpleJwt) :
    db'.namesAccepting jwt req = db.namesAccepting jwt req := by
  have hview : ∀ user : Option User, user.any (jwt.accepts · req)
      = (user.map (User.lockView now)).any
        fun v => v.2.2.1 && req.credential.any (jwt.checkPassword v.2.1) := by
    intro user
    cases user with
    | none => rfl
    | some u => rfl
  unfold Db.namesAccepting
  cases req.account with
  | none => rfl
  | some email =>
      rw [Option.bind_some, Option.bind_some, hview, hview, h email now (le_refl now)]

theorem SameLocks.recordsLogin (inet : Text → Bool) :
    db'.recordsLogin inet req = db.recordsLogin inet req := by
  unfold Db.recordsLogin
  cases req.email with
  | none => rfl
  | some email =>
      have hnone := congrArg Option.isNone (h email now (le_refl now))
      rw [Option.isNone_map, Option.isNone_map] at hnone
      rw [Option.bind_some, Option.bind_some, hnone]

end

/-! ## §5. Runs of requests, watched for one user. -/

/-- A request and how long after the previous one it comes. -/
structure Arrival where
  wait : Nat
  request : TokenRequest

/-- A request for `u`: the account that its serializer authenticates. -/
def Arrival.isFor (a : Arrival) (u : User) : Prop := a.request.account = some u.email

instance (a : Arrival) (u : User) : Decidable (a.isFor u) :=
  inferInstanceAs (Decidable (a.request.account = some u.email))

/-- A run of requests.  `strikes` are the times of the wrong-password requests
for the watched user since that user's last successful login. -/
structure LoginRun where
  db : Db
  now : Instant
  strikes : List Instant

/-- What the watched user's strikes become. -/
def nextStrikes (strikes : List Instant) (now : Instant) (success wrong : Bool) : List Instant :=
  if success then [] else if wrong then strikes ++ [now] else strikes

/-- The lockout covers time `now`: it is less than 30 minutes after a strike that
is at least the fifth. -/
def Covered (strikes : List Instant) (now : Instant) : Prop :=
  ∃ fifth ∈ strikes.drop 4, now < fifth + lockPeriod

instance (strikes : List Instant) (now : Instant) : Decidable (Covered strikes now) :=
  inferInstanceAs (Decidable (∃ fifth ∈ strikes.drop 4, _))

section
variable (jwt : SimpleJwt) (inet : Text → Bool)

/-- One request of the run. -/
def loginStep (u : User) (s : LoginRun) (a : Arrival) : LoginRun :=
  let now := s.now + a.wait
  let result := tokenPost jwt inet s.db a.request now
  { db := result.1
    now := now
    strikes := if a.isFor u
      then nextStrikes s.strikes now (decide (result.2 = .response 200 true))
        (jwt.wrongPassword u a.request)
      else s.strikes }

/-- **The lockout**: a covered request for `u` is answered 423, without tokens. -/
def LocksOut (u : User) (s : LoginRun) (a : Arrival) : Prop :=
  a.isFor u → Covered s.strikes (s.now + a.wait) →
    (tokenPost jwt inet s.db a.request (s.now + a.wait)).2 = .response 423 false

/-- The same run with the database as it was at first: whether a login succeeds is read off the
request and the locks of that time. -/
structure LoginTimeline where
  now : Instant
  strikes : List Instant

/-- One request of the timeline. -/
def timelineStep (db : Db) (u : User) (s : LoginTimeline) (a : Arrival) : LoginTimeline :=
  let now := s.now + a.wait
  { now := now
    strikes := if a.isFor u
      then nextStrikes s.strikes now
        (!db.namesLocked a.request now && jwt.accepts u a.request
          && db.recordsLogin inet a.request)
        (jwt.wrongPassword u a.request)
      else s.strikes }

end

/-- The condition: a covered request for `u` names, as it was sent, an account that was locked
before the run and still is. -/
def CoveredByOldLock (db : Db) (u : User) (s : LoginTimeline) (a : Arrival) : Prop :=
  a.isFor u → Covered s.strikes (s.now + a.wait) →
    db.namesLocked a.request (s.now + a.wait) = true

/-- The run and its timeline in step. -/
def InStep (db : Db) (s : LoginRun) (t : LoginTimeline) : Prop :=
  s.now = t.now ∧ s.strikes = t.strikes ∧ SameLocks db s.db s.now

/-- The account that a request for `u` looks up is `u`. -/
theorem namesAccepting_of_isFor {db : Db} {u : User} (hu : u ∈ db.users) {a : Arrival}
    (ha : a.isFor u) (jwt : SimpleJwt) :
    db.namesAccepting jwt a.request = jwt.accepts u a.request := by
  have hfind : db.userByEmail u.email = some u := Db.userByEmail_eq_some_iff.mpr ⟨hu, rfl⟩
  unfold Arrival.isFor at ha
  unfold Db.namesAccepting
  rw [ha, Option.bind_some, hfind]
  rfl

theorem inStep_step (jwt : SimpleJwt) (inet : Text → Bool) {db : Db} {u : User}
    (hu : u ∈ db.users) (s : LoginRun) (t : LoginTimeline) (a : Arrival) (h : InStep db s t) :
    InStep db (loginStep jwt inet u s a) (timelineStep jwt inet db u t a) := by
  obtain ⟨hnow, hstrikes, hsame⟩ := h
  have hlater : SameLocks db s.db (s.now + a.wait) :=
    hsame.later (le_add_of_nonneg_right (Int.natCast_nonneg _))
  refine ⟨?_, ?_, hlater.trans (sameLocks_tokenPost jwt inet s.db a.request _)⟩
  · show s.now + a.wait = t.now + a.wait
    rw [hnow]
  · unfold loginStep timelineStep
    simp only
    by_cases ha : a.isFor u
    · -- the answer is read off the locks that there were at first
      have hanswer := (tokenPost_answer jwt inet s.db a.request (s.now + a.wait)).2
      rw [hlater.namesLocked, hlater.namesAccepting, hlater.recordsLogin,
        namesAccepting_of_isFor hu ha] at hanswer
      rw [if_pos ha, if_pos ha, hanswer, hstrikes, hnow]
    · rw [if_neg ha, if_neg ha, hstrikes]

/-- **The lockout, exactly.**  Along a run of requests every covered request for
`u` is answered 423 if and only if every covered request names, as it was sent, an account
whose lock from before the run still holds. -/
theorem lockout_iff_locked_before (jwt : SimpleJwt) (inet : Text → Bool) (db : Db) {u : User}
    (hu : u ∈ db.users) (now : Instant) (as : List Arrival) :
    AllSteps (loginStep jwt inet u) (LocksOut jwt inet u)
        { db := db, now := now, strikes := [] } as
      ↔ AllSteps (timelineStep jwt inet db u) (CoveredByOldLock db u)
        { now := now, strikes := [] } as := by
  apply allSteps_iff_of_simulation (R := InStep db) (inStep_step jwt inet hu)
  · intro s t a h
    obtain ⟨hnow, hstrikes, hsame⟩ := h
    have hlater : SameLocks db s.db (s.now + a.wait) :=
      hsame.later (le_add_of_nonneg_right (Int.natCast_nonneg _))
    have hanswer := (tokenPost_answer jwt inet s.db a.request (s.now + a.wait)).1
    rw [hlater.namesLocked] at hanswer
    unfold LocksOut CoveredByOldLock
    rw [hnow, hstrikes] at *
    exact forall_congr' fun _ => forall_congr' fun _ => hanswer
  · exact ⟨rfl, rfl, .refl db now⟩

/-- A simplejwt whose password hashes are the passwords. -/
def plainJwt : SimpleJwt where
  checkPassword := fun hash password => hash = password
  post := fun user req =>
    match user with
    | none => .raises 401
    | some u =>
      if u.isActive && req.credential.any (fun p => u.password = p) then .response 200
      else .raises 401
  post_good := by
    intro u req p hp hactive hcheck
    simp [hp, hactive, of_decide_eq_true hcheck]
  post_bad := by
    intro u req hbad
    rw [← Bool.and_eq_true] at hbad
    exact ⟨401, if_neg hbad⟩
  post_unknown := fun _ => ⟨401, rfl⟩

/-- A request for the demo guest a second after the one before. -/
def demoArrival (password : Text) : Arrival where
  wait := 1000000
  request := { email := some (txt "guest@hotel.com"), password := some password,
               remoteAddr := txt "10.0.0.1" }

theorem lockout_holds_without_strikes :
    demoGuest ∈ demoHotel.db.users
      ∧ AllSteps (loginStep plainJwt (fun _ => true) demoGuest)
          (LocksOut plainJwt (fun _ => true) demoGuest)
          { db := demoHotel.db, now := 0, strikes := [] } [demoArrival (txt "right")] :=
  ⟨demoGuest_mem, (lockout_iff_locked_before plainJwt _ demoHotel.db demoGuest_mem 0 _).mpr
    ⟨fun _ hcov => absurd hcov (by decide), trivial⟩⟩

/-- Five wrong passwords, and the sixth request gets its tokens. -/
theorem sixth_login_after_five_failures :
    ¬ ∀ (jwt : SimpleJwt) (inet : Text → Bool) (db : Db) (u : User), u ∈ db.users →
        ∀ (now : Instant) (as : List Arrival),
      AllSteps (loginStep jwt inet u) (LocksOut jwt inet u)
        { db := db, now := now, strikes := [] } as := by
  intro h
  have hrun := h plainJwt (fun _ => true) demoHotel.db demoGuest demoGuest_mem 0
    (List.replicate 5 (demoArrival (txt "wrong")) ++ [demoArrival (txt "right")])
  have hsixth := hrun.2.2.2.2.2.1 (by decide) (by decide)
  exact absurd hsixth (by decide)

end HotelAgent
