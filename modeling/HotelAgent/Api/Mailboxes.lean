/-
  HotelAgent.Api.Mailboxes — the two ways to an account, and one mailbox.

  `User.email` is unique as it is written.  `UserManager.create_user` stores the
  address in the spelling of `normalize_email`, a registration as it was sent:

      RegisterView, UserSerializer.create     the email of the body
      create_user, create_superuser           `normalize_email(email)`

  `normalize_email` is inherited from Django: it lower-cases the part behind the
  last `@`.  Nothing below depends on what it does, so it is a parameter.

  Main results:
    * `oneAccount_iff` — no two users have one mailbox along a run, exactly if no
      account is made for a mailbox that is stored in another spelling.
    * `oneAccount_of_normal` — so it is as long as what is registered is spelled
      as `normalize_email` spells it.
-/
import HotelAgent.Api.Registration
import HotelAgent.Lib.Run

namespace HotelAgent

open Lib

/-! ## §1. UserManager. -/

/-- `**extra_fields`: the columns that a caller may set. -/
structure ExtraFields where
  firstName : Option Text
  lastName : Option Text
  phone : Option Text
  role : Option Role
  isActive : Option Bool
  preferences : Option Json

/-- No extra fields. -/
def ExtraFields.none : ExtraFields := ⟨.none, .none, .none, .none, .none, .none⟩

/-- `self.model(email=email, **extra_fields)`, with the password set. -/
def ExtraFields.row (extra : ExtraFields) (email : Text) (fresh : RegisterFresh) : User where
  id := fresh.id
  email := email
  firstName := extra.firstName.getD []
  lastName := extra.lastName.getD []
  phone := extra.phone.getD []
  password := fresh.passwordHash
  role := extra.role.getD .guest
  isActive := extra.isActive.getD true
  lastLoginIp := .none
  preferences := extra.preferences.getD (.obj [])
  failedLoginAttempts := 0
  lockedUntil := .none
  createdAt := fresh.now

/-- How `create_user` fails. -/
inductive CreateError where
  | valueError (message : Text)
  /-- An IntegrityError or a DataError of the INSERT. -/
  | databaseError
  deriving DecidableEq

/-- `UserManager.create_user`. -/
def createUser (normalizeEmail : Text → Text) (db : Db) (email : Text) (extra : ExtraFields)
    (fresh : RegisterFresh) : Except CreateError Db :=
  if email = [] then .error (.valueError (txt "Email is required"))
  else
    match db.insertUser (extra.row (normalizeEmail email) fresh) with
    | none => .error .databaseError
    | some db => .ok db

/-- `UserManager.create_superuser`: the role is ADMIN unless one is given. -/
def createSuperuser (normalizeEmail : Text → Text) (db : Db) (email : Text) (extra : ExtraFields)
    (fresh : RegisterFresh) : Except CreateError Db :=
  createUser normalizeEmail db email { extra with role := some (extra.role.getD .admin) } fresh

/-! ## §2. Accounts. -/

inductive AccountStep where
  | register (body : RegisterBody) (remoteAddr : Text) (fresh : RegisterFresh)
  | createUser (email : Text) (extra : ExtraFields) (fresh : RegisterFresh)
  | createSuperuser (email : Text) (extra : ExtraFields) (fresh : RegisterFresh)

def accountStep (inet : Text → Bool) (normalizeEmail : Text → Text) (w : World) :
    AccountStep → World
  | .register body remoteAddr fresh => (register inet w body remoteAddr fresh).1
  | .createUser email extra fresh =>
    match createUser normalizeEmail w.db email extra fresh with
    | .error _ => w
    | .ok db => { w with db := db }
  | .createSuperuser email extra fresh =>
    match createSuperuser normalizeEmail w.db email extra fresh with
    | .error _ => w
    | .ok db => { w with db := db }

/-- **One account per mailbox.** -/
def OneAccount (normalizeEmail : Text → Text) (w : World) : Prop :=
  ∀ u ∈ w.db.users, ∀ v ∈ w.db.users, normalizeEmail u.email = normalizeEmail v.email → u.id = v.id

/-- The row that a step wants to store, after the checks before the INSERT. -/
def AccountStep.wanted (normalizeEmail : Text → Text) (db : Db) : AccountStep → Option User
  | .register body _ fresh => if body.errors db ≠ [] then none else some (body.row fresh)
  | .createUser email extra fresh =>
    if email = [] then none else some (extra.row (normalizeEmail email) fresh)
  | .createSuperuser email extra fresh =>
    if email = [] then none
    else some ({ extra with role := some (extra.role.getD .admin) }.row (normalizeEmail email)
      fresh)

/-- The INSERT takes the row: its values fit, and its key and its email are new. -/
def Db.Takes (db : Db) (u : User) : Prop :=
  u.Fits ∧ (∀ v ∈ db.users, v.id ≠ u.id) ∧ ∀ v ∈ db.users, v.email ≠ u.email

/-- The condition on one step: if it stores a user, no other has the same mailbox in another
spelling. -/
def NoOtherSpelling (normalizeEmail : Text → Text) (w : World) (step : AccountStep) : Prop :=
  ∀ u ∈ step.wanted normalizeEmail w.db, w.db.Takes u →
    ∀ v ∈ w.db.users, v.email ≠ u.email → normalizeEmail v.email ≠ normalizeEmail u.email

/-! ## §3. One step. -/

/-- **The INSERT of a user.** -/
theorem insertUser_eq_none_iff {db : Db} {u : User} : db.insertUser u = none ↔ ¬ db.Takes u := by
  unfold Db.insertUser Db.Takes
  by_cases hcolumns : u.Fits ∧ ∀ v ∈ db.users.rows, v.email ≠ u.email
  · rw [dif_pos hcolumns]
    split
    next hins =>
      obtain ⟨x, hx, hid⟩ := Table.insert?_eq_none_iff.mp hins
      exact iff_of_true rfl fun h => h.2.1 x hx hid
    next users hins =>
      have hnew := (Table.insert?_eq_some_iff.mp hins).1
      refine iff_of_false (by simp) fun h => h ⟨hcolumns.1, hnew, hcolumns.2⟩
  · rw [dif_neg hcolumns]
    exact iff_of_true rfl fun h => hcolumns ⟨h.1, h.2.2⟩

theorem users_insertAuditLog {inet : Text → Bool} {db db' : Db} {row : AuditLog}
    (h : db.insertAuditLog inet row = some db') : db'.users = db.users := by
  unfold Db.insertAuditLog at h
  simp only [Option.ite_none_right_eq_some] at h
  obtain ⟨_, h⟩ := h
  injection h with h
  rw [← h]

/-- What a step stores, of the row that it wants to. -/
inductive Stores (normalizeEmail : Text → Text) (inet : Text → Bool) (w : World)
    (step : AccountStep) : Prop where
  | nothing : (∀ u ∈ step.wanted normalizeEmail w.db, ¬ w.db.Takes u) →
      (accountStep inet normalizeEmail w step).db = w.db → Stores normalizeEmail inet w step
  | user (u : User) : step.wanted normalizeEmail w.db = some u → w.db.Takes u →
      (accountStep inet normalizeEmail w step).db.users.rows = w.db.users.rows ++ [u] →
      Stores normalizeEmail inet w step

section
variable {normalizeEmail : Text → Text} {inet : Text → Bool} {w : World}

/-- **`create_user`** stores the row with the normalised address, if anything. -/
theorem createUser_cases (db : Db) (email : Text) (extra : ExtraFields) (fresh : RegisterFresh) :
    (∃ e, createUser normalizeEmail db email extra fresh = .error e
        ∧ (email = [] ∨ ¬ db.Takes (extra.row (normalizeEmail email) fresh)))
      ∨ ∃ db', createUser normalizeEmail db email extra fresh = .ok db' ∧ email ≠ []
        ∧ db.Takes (extra.row (normalizeEmail email) fresh)
        ∧ db'.users.rows = db.users.rows ++ [extra.row (normalizeEmail email) fresh] := by
  unfold createUser
  by_cases hempty : email = []
  · rw [if_pos hempty]
    exact .inl ⟨_, rfl, .inl hempty⟩
  · rw [if_neg hempty]
    cases hins : db.insertUser (extra.row (normalizeEmail email) fresh) with
    | none => exact .inl ⟨_, rfl, .inr (insertUser_eq_none_iff.mp hins)⟩
    | some db' =>
        refine .inr ⟨db', rfl, hempty, ?_, Db.insertUser_eq_some hins⟩
        by_contra hrefused
        exact absurd (hins.symm.trans (insertUser_eq_none_iff.mpr hrefused)) (by simp)

theorem stores_register (body : RegisterBody) (remoteAddr : Text) (fresh : RegisterFresh) :
    Stores normalizeEmail inet w (.register body remoteAddr fresh) := by
  by_cases herrors : body.errors w.db = []
  · cases hins : w.db.insertUser (body.row fresh) with
    | none =>
        refine .nothing (fun u hu => ?_) ?_
        · simp only [AccountStep.wanted, herrors, ne_eq, not_true_eq_false, if_false] at hu
          injection hu with hu
          exact hu ▸ insertUser_eq_none_iff.mp hins
        · simp [accountStep, register, herrors, hins]
    | some db =>
        refine .user (body.row fresh) ?_ ?_ ?_
        · simp only [AccountStep.wanted, herrors, ne_eq, not_true_eq_false, if_false]
        · by_contra hrefused
          exact absurd (hins.symm.trans (insertUser_eq_none_iff.mpr hrefused)) (by simp)
        · -- the user stays, whatever becomes of the audit log
          have hstays : (register inet w body remoteAddr fresh).1.db.users = db.users := by
            simp only [register, herrors, ne_eq, not_true_eq_false, if_false, hins]
            cases haudit : db.insertAuditLog inet (registeredLog (body.row fresh) remoteAddr) with
            | none => rfl
            | some db' => exact users_insertAuditLog haudit
          show (register inet w body remoteAddr fresh).1.db.users.rows = _
          rw [hstays]
          exact Db.insertUser_eq_some hins
  · refine .nothing (fun u hu => ?_) ?_
    · simp [AccountStep.wanted, herrors] at hu
    · simp [accountStep, register, herrors]

theorem stores_createUser (email : Text) (extra : ExtraFields) (fresh : RegisterFresh) :
    Stores normalizeEmail inet w (.createUser email extra fresh) := by
  rcases @createUser_cases normalizeEmail w.db email extra fresh with
    ⟨e, herror, hwhy⟩ | ⟨db', hok, hne, htakes, hrows⟩
  · refine .nothing (fun u hu => ?_) ?_
    · simp only [AccountStep.wanted] at hu
      split at hu
      · exact absurd hu (by simp)
      next hne =>
        injection hu with hu
        exact hu ▸ hwhy.resolve_left hne
    · simp only [accountStep, herror]
  · refine .user _ ?_ htakes ?_
    · simp only [AccountStep.wanted, if_neg hne]
    · simp only [accountStep, hok]
      exact hrows

/-- **What a step stores.** -/
theorem stores (normalizeEmail : Text → Text) (inet : Text → Bool) (w : World)
    (step : AccountStep) : Stores normalizeEmail inet w step := by
  cases step with
  | register body remoteAddr fresh => exact stores_register body remoteAddr fresh
  | createUser email extra fresh => exact stores_createUser email extra fresh
  | createSuperuser email extra fresh =>
      -- the step is `create_user` with a role
      rcases @stores_createUser normalizeEmail inet w email
        { extra with role := some (extra.role.getD .admin) } fresh with
        ⟨hnone, hdb⟩ | ⟨u, hwanted, htakes, hrows⟩
      · exact .nothing hnone hdb
      · exact .user u hwanted htakes hrows

/-- **One step keeps one account per mailbox** exactly if it makes none for a mailbox that is
stored in another spelling. -/
theorem oneAccount_step_iff (step : AccountStep) (h : OneAccount normalizeEmail w) :
    OneAccount normalizeEmail (accountStep inet normalizeEmail w step)
      ↔ NoOtherSpelling normalizeEmail w step := by
  cases stores normalizeEmail inet w step with
  | nothing hnone hdb =>
      refine iff_of_true ?_ fun u hu htakes => absurd htakes (hnone u hu)
      unfold OneAccount
      rw [hdb]
      exact h
  | user u hwanted htakes hrows =>
      have hmem : ∀ x, x ∈ (accountStep inet normalizeEmail w step).db.users
          ↔ x ∈ w.db.users ∨ x = u := by
        intro x
        rw [Table.mem_def, hrows, List.mem_append, List.mem_singleton]
        exact Iff.rfl
      constructor
      · intro hafter u' hu' _ v hv _ hsame
        rw [hwanted] at hu'
        injection hu' with hu'
        subst hu'
        have hid := hafter v ((hmem v).mpr (.inl hv)) u ((hmem u).mpr (.inr rfl)) hsame
        exact htakes.2.1 v hv hid
      · intro hkeeps x hx y hy hsame
        have hother := hkeeps u hwanted htakes
        rcases (hmem x).mp hx with hx | rfl <;> rcases (hmem y).mp hy with hy | rfl
        · exact h x hx y hy hsame
        · -- the unique column has them spelled differently
          exact absurd hsame (hother x hx (htakes.2.2 x hx))
        · exact absurd hsame.symm (hother y hy (htakes.2.2 y hy))
        · rfl

end

/-! ## §4. Runs. -/

/-- **One account per mailbox** in every state of a run, exactly if there is at its start and no
step makes an account for a mailbox that is stored in another spelling. -/
theorem oneAccount_iff (inet : Text → Bool) (normalizeEmail : Text → Text) (w : World)
    (steps : List AccountStep) :
    AllStates (accountStep inet normalizeEmail) (OneAccount normalizeEmail) w steps
      ↔ OneAccount normalizeEmail w
        ∧ AllSteps (accountStep inet normalizeEmail) (NoOtherSpelling normalizeEmail) w steps := by
  have hiff := fun h : OneAccount normalizeEmail w =>
    allStates_iff_allSteps (K := fun _ => True) (fun _ _ _ => trivial)
      (fun w step _ hw => @oneAccount_step_iff normalizeEmail inet w step hw) trivial h steps
  constructor
  · intro h
    exact ⟨h.head, (hiff h.head).mp h⟩
  · rintro ⟨hstart, h⟩
    exact (hiff hstart).mpr h

/-- Every address is spelled as `normalize_email` spells it. -/
def AllNormal (normalizeEmail : Text → Text) (w : World) : Prop :=
  ∀ u ∈ w.db.users, normalizeEmail u.email = u.email

theorem AllNormal.oneAccount {normalizeEmail : Text → Text} {w : World}
    (h : AllNormal normalizeEmail w) : OneAccount normalizeEmail w := by
  intro u hu v hv hsame
  rw [h u hu, h v hv] at hsame
  exact w.db.user_email u hu v hv hsame

/-- **Only a registration can do it**: as long as what is registered is normal, there is one
account per mailbox. -/
theorem oneAccount_of_normal (inet : Text → Bool) {normalizeEmail : Text → Text}
    (hidem : ∀ email, normalizeEmail (normalizeEmail email) = normalizeEmail email) {w : World}
    (h : AllNormal normalizeEmail w) (steps : List AccountStep)
    (hsteps : ∀ body remoteAddr fresh, .register body remoteAddr fresh ∈ steps →
      normalizeEmail (body.email.getD []) = body.email.getD []) :
    AllStates (accountStep inet normalizeEmail) (OneAccount normalizeEmail) w steps := by
  have hkept : ∀ (w : World) (step : AccountStep), AllNormal normalizeEmail w →
      (∀ u ∈ step.wanted normalizeEmail w.db, normalizeEmail u.email = u.email) →
      AllNormal normalizeEmail (accountStep inet normalizeEmail w step) := by
    intro w step hw hnew
    cases stores normalizeEmail inet w step with
    | nothing _ hdb =>
        intro u hu
        rw [hdb] at hu
        exact hw u hu
    | user u hwanted _ hrows =>
        intro x hx
        rw [Table.mem_def, hrows, List.mem_append, List.mem_singleton] at hx
        rcases hx with hx | rfl
        · exact hw x hx
        · exact hnew x hwanted
  refine AllStates.imp (P := AllNormal normalizeEmail) (fun _ hw => hw.oneAccount) ?_
  induction steps generalizing w with
  | nil => exact h
  | cons step steps ih =>
      refine ⟨h, ih (hkept w step h fun u hu => ?_) fun body remoteAddr fresh hmem =>
        hsteps body remoteAddr fresh (List.mem_cons_of_mem step hmem)⟩
      cases step with
      | register body remoteAddr fresh =>
          have hnormal := hsteps body remoteAddr fresh List.mem_cons_self
          simp only [AccountStep.wanted] at hu
          split at hu
          · exact absurd hu (by simp)
          · injection hu with hu
            exact hu ▸ hnormal
      | createUser email extra fresh =>
          simp only [AccountStep.wanted] at hu
          split at hu
          · exact absurd hu (by simp)
          · injection hu with hu
            exact hu ▸ hidem email
      | createSuperuser email extra fresh =>
          simp only [AccountStep.wanted] at hu
          split at hu
          · exact absurd hu (by simp)
          · injection hu with hu
            exact hu ▸ hidem email

/-! ## §5. Two spellings. -/

/-- `str.lower` of an ASCII character. -/
def lowerAscii (c : CodePoint) : CodePoint :=
  if h : 0x41 ≤ c.val ∧ c.val ≤ 0x5A then ⟨c.val + 0x20, by omega⟩ else c

/-- `normalize_email`, for a domain of ASCII characters. -/
def normalizeAscii (email : Text) : Text :=
  -- `email.strip().rsplit("@", 1)`
  let stripped := strip email
  let domain := (stripped.reverse.takeWhile (· ≠ codePoint '@')).reverse
  if domain.length = stripped.length then email
  else stripped.take (stripped.length - domain.length) ++ domain.map lowerAscii

example : normalizeAscii (txt "Ann.Lee@Example.COM") = txt "Ann.Lee@example.com" := by decide

/-- A guest registers. -/
def demoRegistration (email : Text) : RegisterBody where
  malformed := []
  email := some email
  firstName := none
  lastName := none
  phone := none
  preferences := none
  password := some (txt "correct horse")
  confirmPassword := some (txt "correct horse")

/-- One mailbox is registered, and then an account is made for it in another spelling. -/
theorem mailbox_has_two_accounts :
    ¬ ∀ (inet : Text → Bool) (normalizeEmail : Text → Text) (w : World)
        (steps : List AccountStep), OneAccount normalizeEmail w →
      AllStates (accountStep inet normalizeEmail) (OneAccount normalizeEmail) w steps := by
  intro h
  have hnobody : OneAccount normalizeAscii ⟨unvisited .empty .empty (by decide), []⟩ :=
    fun u hu => absurd hu List.not_mem_nil
  have hlast := (h (fun _ => true) normalizeAscii _
    [.register (demoRegistration (txt "ann@Hotel.com")) (txt "10.0.0.1") ⟨1, 0, txt "hash"⟩,
      .createUser (txt "ann@Hotel.com") .none ⟨2, 0, txt "hash"⟩] hnobody).last
  revert hlast
  unfold OneAccount
  decide +kernel

end HotelAgent
