/-
  HotelAgent.Api.RegistrationRaces — registrations that overlap.

  A registration reads once and writes twice, without a transaction:

      posted ──is_valid──▶ valid ──INSERT user──▶ stored ──INSERT audit log──▶ answered
         └──400──▶ answered  └──500──▶ answered

  The unique keys decide between two registrations of one email, so the order of
  the decisions (a refusal by `is_valid`, or the INSERT of the user) is an order
  in which the same registrations could have come one after another.

  Main results:
    * `uninterrupted_register` — three steps in a row are `register`.
    * `registrations_serializable` — every interleaving leaves what some order one
      after another leaves, up to the order of the audit logs, and answers alike,
      but for a 500 where that order says that the email exists.
-/
import HotelAgent.Api.CleanFailures
import HotelAgent.Api.Mailboxes
import HotelAgent.Api.Standing

namespace HotelAgent

open Lib

/-! ## §1. Steps. -/

/-- What a registration comes with. -/
structure RegisterCall where
  body : RegisterBody
  remoteAddr : Text
  fresh : RegisterFresh

def RegisterCall.row (c : RegisterCall) : User := c.body.row c.fresh

/-- How far a registration is. -/
inductive RegisterPhase where
  | posted
  | valid
  | stored
  | answered (response : Response)

instance decidableStored : (phase : RegisterPhase) → Decidable (phase = .stored)
  | .posted => .isFalse (by simp)
  | .valid => .isFalse (by simp)
  | .stored => .isTrue rfl
  | .answered _ => .isFalse (by simp)

/-- The registrations of a process; the call `k` is the one with the number `k`. -/
structure Registrations where
  world : World
  phase : Nat → RegisterPhase

/-- Nobody has begun. -/
def Registrations.start (w : World) : Registrations := ⟨w, fun _ => .posted⟩

section
variable (inet : Text → Bool)

/-- The next step of a call. -/
def advanceRegister (w : World) (c : RegisterCall) : RegisterPhase → World × RegisterPhase
  | .posted =>
    if c.body.errors w.db ≠ [] then (w, .answered (.invalid (c.body.errors w.db)))
    else (w, .valid)
  | .valid =>
    match w.db.insertUser c.row with
    | none => (w, .answered .internalError)
    | some db => ({ w with db := db }, .stored)
  | .stored =>
    match w.db.insertAuditLog inet (registeredLog c.row c.remoteAddr) with
    | none => (w, .answered .internalError)
    | some db => ({ w with db := db }, .answered ⟨201, userJson c.row⟩)
  | .answered response => (w, .answered response)

def registerStep (calls : Nat → RegisterCall) (s : Registrations) (k : Nat) : Registrations :=
  let (w, phase) := advanceRegister inet s.world (calls k) (s.phase k)
  ⟨w, Function.update s.phase k phase⟩

/-- The call `k` as a request of its own. -/
def serveRegister (calls : Nat → RegisterCall) (w : World) (k : Nat) : World × Response :=
  register inet w (calls k).body (calls k).remoteAddr (calls k).fresh

variable {inet} {calls : Nat → RegisterCall} {w : World}

theorem phase_registerStep_of_ne (s : Registrations) {k j : Nat} (h : j ≠ k) :
    (registerStep inet calls s k).phase j = s.phase j := by
  unfold registerStep
  simp [h]

/-- A call that takes no step. -/
theorem phase_run_of_not_mem (s : Registrations) {ks : List Nat} {j : Nat} (h : j ∉ ks) :
    (run (registerStep inet calls) s ks).phase j = s.phase j := by
  induction ks generalizing s with
  | nil => rfl
  | cons k ks ih =>
      obtain ⟨hjk, hrest⟩ := not_or.mp (mt List.mem_cons.mpr h)
      rw [run_cons, ih _ hrest, phase_registerStep_of_ne s hjk]

/-- **Three steps in a row** are the view. -/
theorem uninterrupted_register (s : Registrations) {k : Nat} (h : s.phase k = .posted) :
    (run (registerStep inet calls) s [k, k, k]).world = (serveRegister inet calls s.world k).1
      ∧ (run (registerStep inet calls) s [k, k, k]).phase k
        = .answered (serveRegister inet calls s.world k).2 := by
  unfold serveRegister register
  simp only [run_cons, run_nil, registerStep, h, advanceRegister, RegisterCall.row]
  by_cases herrors : (calls k).body.errors s.world.db = []
  · simp only [herrors, ne_eq, not_true_eq_false, if_false, Function.update_self]
    cases hins : s.world.db.insertUser ((calls k).body.row (calls k).fresh) with
    | none => simp
    | some db =>
        cases hlog : db.insertAuditLog inet
            (registeredLog ((calls k).body.row (calls k).fresh) (calls k).remoteAddr) with
        | none => simp [hlog]
        | some db' => simp [hlog]
  · simp [herrors]

end

/-! ## §2. What a registration depends on. -/

/-- The checks that need no database. -/
structure RegisterBody.Sound (body : RegisterBody) : Prop where
  malformed : body.malformed = []
  missing : body.missing = []
  passwords : body.password = body.confirmPassword

/-- The answer to an email that exists. -/
def emailTaken : Response :=
  .invalid [(txt "email", txt "User with this email already exists.")]

theorem errors_eq_nil_iff {body : RegisterBody} {db : Db} :
    body.errors db = [] ↔ body.Sound ∧ body.takenEmail db = [] := by
  unfold RegisterBody.errors
  simp only
  by_cases hfields : fieldErrors userFields body.malformed (body.missing ++ body.takenEmail db) = []
  · obtain ⟨hmalformed, hothers⟩ := fieldErrors_eq_nil_iff.mp hfields
    obtain ⟨hmissing, htaken⟩ := List.append_eq_nil_iff.mp hothers
    simp only [hfields, ne_eq, not_true_eq_false, if_false]
    by_cases hpasswords : body.password = body.confirmPassword
    · rw [if_neg (not_not_intro hpasswords)]
      exact iff_of_true rfl ⟨⟨hmalformed, hmissing, hpasswords⟩, htaken⟩
    · rw [if_pos hpasswords]
      exact iff_of_false (by simp) fun h => hpasswords h.1.passwords
  · rw [if_pos hfields]
    refine iff_of_false hfields fun h => hfields ?_
    exact fieldErrors_eq_nil_iff.mpr
      ⟨h.1.malformed, List.append_eq_nil_iff.mpr ⟨h.1.missing, h.2⟩⟩

/-- A sound body has at most the error of an email that exists. -/
theorem RegisterBody.Sound.errors_cases {body : RegisterBody} (h : body.Sound) (db : Db) :
    body.errors db = [] ∨ Response.invalid (body.errors db) = emailTaken := by
  have htaken : body.takenEmail db = []
      ∨ body.takenEmail db = [(txt "email", txt "User with this email already exists.")] := by
    unfold RegisterBody.takenEmail
    split
    · exact .inl rfl
    · split
      · exact .inr rfl
      · exact .inl rfl
  rcases htaken with htaken | htaken
  · exact .inl (errors_eq_nil_iff.mpr ⟨h, htaken⟩)
  · right
    unfold RegisterBody.errors
    rw [htaken, h.malformed, h.missing]
    rfl

/-- What is taken, has no other user with its email. -/
theorem takenEmail_of_takes {body : RegisterBody} {fresh : RegisterFresh} {db : Db}
    (h : db.Takes (body.row fresh)) : body.takenEmail db = [] := by
  obtain ⟨_, _, hemail⟩ := h
  unfold RegisterBody.takenEmail
  cases hbody : body.email with
  | none => rfl
  | some email =>
      simp only
      rw [if_neg]
      intro hsome
      obtain ⟨u, hu⟩ := Option.isSome_iff_exists.mp hsome
      obtain ⟨hmem, heq⟩ := Db.userByEmail_eq_some_iff.mp hu
      refine hemail u hmem ?_
      show u.email = body.email.getD []
      rw [hbody, heq]
      rfl

/-- The row that the audit log gets for a call, if it takes the address. -/
def RegisterCall.auditRow (inet : Text → Bool) (c : RegisterCall) : Option AuditLog :=
  if c.remoteAddr = [] then some { registeredLog c.row c.remoteAddr with ipAddress := none }
  else if inet c.remoteAddr = true then some (registeredLog c.row c.remoteAddr)
  else none

/-- The answer to a call whose user is stored. -/
def RegisterCall.storedAnswer (inet : Text → Bool) (c : RegisterCall) : Response :=
  if (c.auditRow inet).isSome then ⟨201, userJson c.row⟩ else .internalError

/-- **The audit log** of a registration, in any database. -/
theorem insertAuditLog_registered (inet : Text → Bool) (c : RegisterCall) (db : Db) :
    db.insertAuditLog inet (registeredLog c.row c.remoteAddr)
      = (c.auditRow inet).map fun row => { db with auditLogs := db.auditLogs ++ [row] } := by
  have hlengths : (registeredLog c.row c.remoteAddr).action.length ≤ 100
      ∧ (registeredLog c.row c.remoteAddr).resourceType.length ≤ 50
      ∧ (registeredLog c.row c.remoteAddr).resourceId.length ≤ 100 := by
    show (txt "user.registered").length ≤ 100 ∧ (txt "user").length ≤ 50
      ∧ c.row.id.str.length ≤ 100
    rw [Uuid.length_str]
    decide
  unfold Db.insertAuditLog RegisterCall.auditRow
  simp only [hlengths, and_true]
  by_cases hempty : c.remoteAddr = []
  · simp [hempty, registeredLog]
  · by_cases hinet : inet c.remoteAddr = true
    · simp [hempty, hinet, registeredLog]
    · simp [hempty, hinet, registeredLog]

/-- The same database with another audit log. -/
def Db.withAudit (db : Db) (logs : List AuditLog) : Db := { db with auditLogs := logs }

@[simp] theorem withAudit_self (db : Db) : db.withAudit db.auditLogs = db := rfl

theorem errors_withAudit (body : RegisterBody) (db : Db) (logs : List AuditLog) :
    body.errors (db.withAudit logs) = body.errors db := rfl

theorem insertUser_withAudit (db : Db) (logs : List AuditLog) (u : User) :
    (db.withAudit logs).insertUser u = (db.insertUser u).map fun db' => db'.withAudit logs := by
  unfold Db.withAudit Db.insertUser
  simp only
  by_cases hcolumns : u.Fits ∧ ∀ v ∈ db.users.rows, v.email ≠ u.email
  · rw [dif_pos hcolumns, dif_pos hcolumns]
    split
    · rfl
    · rfl
  · rw [dif_neg hcolumns, dif_neg hcolumns]
    rfl

/-- **The view** over a database with another audit log. -/
theorem serveRegister_withAudit (inet : Text → Bool) (calls : Nat → RegisterCall) (db : Db)
    (logs : List AuditLog) (log : List Record) (k : Nat) :
    serveRegister inet calls ⟨db.withAudit logs, log⟩ k
      = if (calls k).body.errors db ≠ [] then
          (⟨db.withAudit logs, log⟩, .invalid ((calls k).body.errors db))
        else
          match db.insertUser (calls k).row with
          | none => (⟨db.withAudit logs, log⟩, .internalError)
          | some db' =>
            (⟨db'.withAudit (logs ++ ((calls k).auditRow inet).toList), log⟩,
              (calls k).storedAnswer inet) := by
  unfold serveRegister register
  simp only [errors_withAudit, insertUser_withAudit]
  by_cases herrors : (calls k).body.errors db = []
  · simp only [herrors, ne_eq, not_true_eq_false, if_false]
    show _ = match db.insertUser (calls k).row with
      | none => _
      | some db' => _
    cases hins : db.insertUser (calls k).row with
    | none =>
        have hnone : db.insertUser ((calls k).body.row (calls k).fresh) = none := hins
        simp only [hnone, Option.map_none]
    | some db' =>
        have hsome : db.insertUser ((calls k).body.row (calls k).fresh) = some db' := hins
        simp only [hsome, Option.map_some]
        have hlog := insertAuditLog_registered inet (calls k) (db'.withAudit logs)
        unfold RegisterCall.row at hlog
        rw [hlog]
        unfold RegisterCall.storedAnswer
        cases (calls k).auditRow inet with
        | none => simp
        | some row => rfl
  · rw [if_pos herrors, if_pos herrors]

/-! ## §3. One after another. -/

/-- The registrations that were served, in their order. -/
structure ServedRegistrations where
  world : World
  answers : List (Nat × Response)

section
variable (inet : Text → Bool) (calls : Nat → RegisterCall)

def serveNext (t : ServedRegistrations) (k : Nat) : ServedRegistrations :=
  let (w, response) := serveRegister inet calls t.world k
  ⟨w, t.answers ++ [(k, response)]⟩

/-- The audit log that a call in this phase still writes. -/
def pendingLog (phase : Nat → RegisterPhase) (k : Nat) : Option AuditLog :=
  match phase k with
  | .stored => (calls k).auditRow inet
  | _ => none

/-- The call has been refused, or its user is stored. -/
def RegisterPhase.Decided : RegisterPhase → Prop
  | .posted => False
  | .valid => False
  | .stored => True
  | .answered _ => True

/-- **The answers are alike**: `response` is that of the order one after another. -/
def AnsweredAlike (c : RegisterCall) (response : Response) : RegisterPhase → Prop
  | .stored => response = c.storedAnswer inet
  | .answered given => response = given ∨ (given = .internalError ∧ response = emailTaken)
  | _ => False

/-- **The order so far**: `t` has served the decided calls, in the order of the decisions. -/
structure Mirrors (s : Registrations) (t : ServedRegistrations) : Prop where
  world : ∃ logs, t.world = ⟨s.world.db.withAudit logs, s.world.log⟩
    ∧ logs.Perm (s.world.db.auditLogs
      ++ t.answers.filterMap fun a => pendingLog inet calls s.phase a.1)
  nodup : (t.answers.map Prod.fst).Nodup
  decided : ∀ k, k ∈ t.answers.map Prod.fst ↔ (s.phase k).Decided
  sound : ∀ k, s.phase k = .valid → (calls k).body.Sound
  alike : ∀ a ∈ t.answers, AnsweredAlike inet (calls a.1) a.2 (s.phase a.1)

end

section
variable {inet : Text → Bool} {calls : Nat → RegisterCall} {s : Registrations}
  {t : ServedRegistrations}

theorem mirrors_start (inet : Text → Bool) (calls : Nat → RegisterCall) (w : World) :
    Mirrors inet calls (.start w) ⟨w, []⟩ where
  world := ⟨w.db.auditLogs, rfl, by rw [List.filterMap_nil, List.append_nil]; exact .refl _⟩
  nodup := List.nodup_nil
  decided := fun _ => iff_of_false List.not_mem_nil id
  sound := fun _ h => absurd h (by simp [Registrations.start])
  alike := fun _ h => absurd h List.not_mem_nil

/-- The other calls do not see the new phase of one. -/
theorem pending_update {answers : List (Nat × Response)} {phase : Nat → RegisterPhase} {k : Nat}
    (h : k ∉ answers.map Prod.fst) (new : RegisterPhase) :
    (answers.filterMap fun a => pendingLog inet calls (Function.update phase k new) a.1)
      = answers.filterMap fun a => pendingLog inet calls phase a.1 := by
  refine List.filterMap_congr fun a ha => ?_
  have hne : a.1 ≠ k := fun heq => h (heq ▸ List.mem_map_of_mem ha)
  unfold pendingLog
  rw [Function.update_of_ne hne]

/-- **A decision**: the call is served next. -/
theorem mirrors_decide (logs : List AuditLog) (h : Mirrors inet calls s t) {k : Nat}
    {new : RegisterPhase} {db : Db} {response : Response} (hk : ¬ (s.phase k).Decided)
    (hnew : new.Decided) (haudit : db.auditLogs = s.world.db.auditLogs)
    (hserve : ∀ before, t.world = ⟨s.world.db.withAudit before, s.world.log⟩ →
      serveRegister inet calls t.world k
        = (⟨db.withAudit (before ++ logs), s.world.log⟩, response))
    (hlogs : logs = (pendingLog inet calls (Function.update s.phase k new) k).toList)
    (halike : AnsweredAlike inet (calls k) response new) :
    Mirrors inet calls ⟨⟨db, s.world.log⟩, Function.update s.phase k new⟩
      (serveNext inet calls t k) := by
  obtain ⟨before, hworld, hperm⟩ := h.world
  have hnext : serveNext inet calls t k
      = ⟨⟨db.withAudit (before ++ logs), s.world.log⟩, t.answers ++ [(k, response)]⟩ := by
    unfold serveNext
    rw [hserve before hworld]
  have hfresh : k ∉ t.answers.map Prod.fst := fun hmem => hk ((h.decided k).mp hmem)
  rw [hnext]
  refine ⟨⟨before ++ logs, rfl, ?_⟩, ?_, ?_, ?_, ?_⟩
  · show (before ++ logs).Perm _
    rw [List.filterMap_append, pending_update hfresh, haudit, ← List.append_assoc]
    refine hperm.append ?_
    rw [hlogs]
    cases hpending : pendingLog inet calls (Function.update s.phase k new) k with
    | none => simp [hpending]
    | some row => simp [hpending]
  · rw [List.map_append, List.map_singleton]
    refine List.nodup_append.mpr ⟨h.nodup, List.nodup_singleton _, fun a ha b hb hab => ?_⟩
    rw [hab, List.mem_singleton.mp hb] at ha
    exact hfresh ha
  · intro j
    rw [List.map_append, List.map_singleton, List.mem_append, List.mem_singleton]
    show j ∈ t.answers.map Prod.fst ∨ j = k ↔ (Function.update s.phase k new j).Decided
    by_cases hj : j = k
    · rw [hj, Function.update_self]
      exact iff_of_true (.inr rfl) hnew
    · rw [Function.update_of_ne hj, ← h.decided j]
      exact or_iff_left hj
  · intro j hj
    replace hj : Function.update s.phase k new j = .valid := hj
    by_cases hjk : j = k
    · rw [hjk, Function.update_self] at hj
      rw [hj] at hnew
      exact absurd hnew id
    · rw [Function.update_of_ne hjk] at hj
      exact h.sound j hj
  · intro a ha
    show AnsweredAlike inet (calls a.1) a.2 (Function.update s.phase k new a.1)
    rcases List.mem_append.mp ha with ha | ha
    · have hne : a.1 ≠ k := fun heq => hfresh (heq ▸ List.mem_map_of_mem ha)
      rw [Function.update_of_ne hne]
      exact h.alike a ha
    · rw [List.mem_singleton.mp ha, Function.update_self]
      exact halike

/-- **The checks pass**: nothing is decided. -/
theorem mirrors_valid (h : Mirrors inet calls s t) {k : Nat} (hk : s.phase k = .posted)
    (hsound : (calls k).body.Sound) :
    Mirrors inet calls ⟨s.world, Function.update s.phase k .valid⟩ t := by
  have hfresh : k ∉ t.answers.map Prod.fst := by
    intro hmem
    have hdecided := (h.decided k).mp hmem
    rw [hk] at hdecided
    exact hdecided
  obtain ⟨logs, hworld, hperm⟩ := h.world
  refine ⟨⟨logs, hworld, ?_⟩, h.nodup, fun j => ?_, fun j hj => ?_, fun a ha => ?_⟩
  · show logs.Perm (s.world.db.auditLogs ++ t.answers.filterMap fun a =>
      pendingLog inet calls (Function.update s.phase k .valid) a.1)
    rw [pending_update hfresh]
    exact hperm
  · show _ ↔ (Function.update s.phase k .valid j).Decided
    by_cases hj : j = k
    · rw [hj, Function.update_self]
      exact iff_of_false hfresh id
    · rw [Function.update_of_ne hj]
      exact h.decided j
  · replace hj : Function.update s.phase k .valid j = .valid := hj
    by_cases hjk : j = k
    · rw [hjk]
      exact hsound
    · rw [Function.update_of_ne hjk] at hj
      exact h.sound j hj
  · have hne : a.1 ≠ k := fun heq => hfresh (heq ▸ List.mem_map_of_mem ha)
    show AnsweredAlike inet (calls a.1) a.2 (Function.update s.phase k .valid a.1)
    rw [Function.update_of_ne hne]
    exact h.alike a ha

/-- **The audit log follows**: it was pending, and the answer was settled with the user. -/
theorem mirrors_log (h : Mirrors inet calls s t) {k : Nat} (hk : s.phase k = .stored)
    {logs : List AuditLog} (hlogs : logs = ((calls k).auditRow inet).toList) :
    Mirrors inet calls
      ⟨⟨s.world.db.withAudit (s.world.db.auditLogs ++ logs), s.world.log⟩,
        Function.update s.phase k (.answered ((calls k).storedAnswer inet))⟩ t := by
  have hmem : k ∈ t.answers.map Prod.fst := (h.decided k).mpr (by rw [hk]; trivial)
  obtain ⟨a, ha, hak⟩ := List.mem_map.mp hmem
  obtain ⟨front, rest, hsplit⟩ := List.append_of_mem ha
  have hnodup := h.nodup
  rw [hsplit, List.map_append, List.map_cons, hak] at hnodup
  obtain ⟨_, htail, hdisjoint⟩ := List.nodup_append.mp hnodup
  have hfront : k ∉ front.map Prod.fst := fun hkf => hdisjoint k hkf k List.mem_cons_self rfl
  have hrest : k ∉ rest.map Prod.fst := (List.nodup_cons.mp htail).1
  have halike := h.alike a ha
  rw [hak, hk] at halike
  obtain ⟨before, hworld, hperm⟩ := h.world
  refine ⟨⟨before, hworld, ?_⟩, h.nodup, fun j => ?_, fun j hj => ?_, fun x hx => ?_⟩
  · show before.Perm ((s.world.db.auditLogs ++ logs) ++ t.answers.filterMap fun a =>
      pendingLog inet calls
        (Function.update s.phase k (.answered ((calls k).storedAnswer inet))) a.1)
    rw [hsplit, List.filterMap_append, List.filterMap_cons, pending_update hfront,
      pending_update hrest]
    rw [hsplit, List.filterMap_append, List.filterMap_cons] at hperm
    have hnew : pendingLog inet calls
        (Function.update s.phase k (.answered ((calls k).storedAnswer inet))) a.1 = none := by
      unfold pendingLog
      rw [hak, Function.update_self]
    have hold : pendingLog inet calls s.phase a.1 = (calls k).auditRow inet := by
      unfold pendingLog
      rw [hak, hk]
    rw [hold] at hperm
    rw [hnew, List.append_assoc]
    refine hperm.trans (List.Perm.append_left _ ?_)
    rw [hlogs]
    cases (calls k).auditRow inet with
    | none => exact .refl _
    | some row => exact List.perm_middle
  · show _ ↔ (Function.update s.phase k _ j).Decided
    by_cases hj : j = k
    · rw [hj, Function.update_self]
      exact iff_of_true hmem trivial
    · rw [Function.update_of_ne hj]
      exact h.decided j
  · replace hj : Function.update s.phase k _ j = .valid := hj
    by_cases hjk : j = k
    · rw [hjk, Function.update_self] at hj
      exact absurd hj (by simp)
    · rw [Function.update_of_ne hjk] at hj
      exact h.sound j hj
  · show AnsweredAlike inet (calls x.1) x.2 (Function.update s.phase k _ x.1)
    by_cases hxk : x.1 = k
    · have hxa : x = a := List.inj_on_of_nodup_map h.nodup hx ha (hxk.trans hak.symm)
      rw [hxa, hak, Function.update_self]
      exact .inl halike
    · rw [Function.update_of_ne hxk]
      exact h.alike x hx

/-- **One step**: the call is served next, or not yet, or it was before. -/
theorem mirrors_step (h : Mirrors inet calls s t) (k : Nat) :
    ∃ t', Mirrors inet calls (registerStep inet calls s k) t'
      ∧ (t' = t ∨ t' = serveNext inet calls t k) := by
  unfold registerStep advanceRegister
  cases hphase : s.phase k with
  | posted =>
      simp only
      by_cases herrors : (calls k).body.errors s.world.db = []
      · simp only [herrors, ne_eq, not_true_eq_false, if_false]
        exact ⟨t, mirrors_valid h hphase (errors_eq_nil_iff.mp herrors).1, .inl rfl⟩
      · rw [if_pos herrors]
        refine ⟨_, mirrors_decide [] h (by rw [hphase]; exact id) trivial rfl
          (fun before hworld => ?_) ?_ (.inl rfl), .inr rfl⟩
        · rw [hworld, serveRegister_withAudit, if_pos herrors, List.append_nil]
        · unfold pendingLog
          rw [Function.update_self]
          rfl
  | valid =>
      simp only
      have hsound := h.sound k hphase
      cases hins : s.world.db.insertUser (calls k).row with
      | none =>
          by_cases herrors : (calls k).body.errors s.world.db = []
          · refine ⟨_, mirrors_decide [] h (by rw [hphase]; exact id) trivial rfl
              (fun before hworld => ?_) ?_ (.inl rfl), .inr rfl⟩
            · rw [hworld, serveRegister_withAudit, if_neg (not_not_intro herrors), hins,
                List.append_nil]
            · unfold pendingLog
              rw [Function.update_self]
              rfl
          · -- the email was stored in between, and the order has it before the checks
            have htaken := (hsound.errors_cases s.world.db).resolve_left herrors
            refine ⟨_, mirrors_decide [] h (by rw [hphase]; exact id) trivial rfl
              (fun before hworld => ?_) ?_ (.inr ⟨rfl, htaken⟩), .inr rfl⟩
            · rw [hworld, serveRegister_withAudit, if_pos herrors, List.append_nil]
            · unfold pendingLog
              rw [Function.update_self]
              rfl
      | some db =>
          have htakes : s.world.db.Takes (calls k).row := by
            by_contra hrefused
            exact absurd (hins.symm.trans (insertUser_eq_none_iff.mpr hrefused)) (by simp)
          have herrors := errors_eq_nil_iff.mpr ⟨hsound, takenEmail_of_takes htakes⟩
          obtain ⟨_, _, _, _, haudit⟩ := insertUser_others hins
          have hwrites : ((calls k).auditRow inet).toList
              = (pendingLog inet calls (Function.update s.phase k .stored) k).toList := by
            unfold pendingLog
            rw [Function.update_self]
          refine ⟨_, mirrors_decide _ h (by rw [hphase]; exact id) trivial haudit
            (fun before hworld => ?_) hwrites rfl, .inr rfl⟩
          rw [hworld, serveRegister_withAudit, if_neg (not_not_intro herrors), hins]
  | stored =>
      simp only
      rw [insertAuditLog_registered]
      have hlog := mirrors_log h hphase rfl
      unfold RegisterCall.storedAnswer at hlog
      cases hrow : (calls k).auditRow inet with
      | none =>
          simp only [hrow, Option.toList_none, List.append_nil] at hlog
          exact ⟨t, hlog, .inl rfl⟩
      | some row =>
          simp only [hrow, Option.toList_some] at hlog
          exact ⟨t, hlog, .inl rfl⟩
  | answered response =>
      simp only
      rw [← hphase, Function.update_eq_self]
      exact ⟨t, h, .inl rfl⟩


/-- **A run**: some order has served the decided calls. -/
theorem mirrors_run (h : Mirrors inet calls s t) (ks : List Nat) :
    ∃ order, Mirrors inet calls (run (registerStep inet calls) s ks)
      (run (serveNext inet calls) t order) := by
  induction ks generalizing s t with
  | nil => exact ⟨[], h⟩
  | cons k ks ih =>
      obtain ⟨t', ht', hnext⟩ := mirrors_step h k
      obtain ⟨order, horder⟩ := ih ht'
      rcases hnext with rfl | rfl
      · exact ⟨order, horder⟩
      · exact ⟨k :: order, horder⟩

/-- The order is that of the answers. -/
theorem map_fst_answers (inet : Text → Bool) (calls : Nat → RegisterCall)
    (t : ServedRegistrations) (order : List Nat) :
    (run (serveNext inet calls) t order).answers.map Prod.fst
      = t.answers.map Prod.fst ++ order := by
  induction order generalizing t with
  | nil => exact (List.append_nil _).symm
  | cons k order ih =>
      rw [run_cons, ih]
      unfold serveNext
      simp

end

/-! ## §4. Every interleaving. -/

/-- **Registrations are serializable.**  Let any registrations run in any interleaving until no
call is between its INSERTs.  The calls that are answered could have come one after another in
some order: that order leaves the same database, up to the order of the audit logs, and every call
gets the same answer, but for a 500 where the order says that the email exists. -/
theorem registrations_serializable (inet : Text → Bool) (calls : Nat → RegisterCall) (w : World)
    (ks : List Nat)
    (hsettled : ∀ k ∈ ks, (run (registerStep inet calls) (.start w) ks).phase k ≠ .stored) :
    ∃ order : List Nat, order.Nodup
      ∧ (∀ k, k ∈ order ↔ ∃ given,
          (run (registerStep inet calls) (.start w) ks).phase k = .answered given)
      ∧ (∃ logs, (run (serveNext inet calls) ⟨w, []⟩ order).world
            = ⟨(run (registerStep inet calls) (.start w) ks).world.db.withAudit logs,
                (run (registerStep inet calls) (.start w) ks).world.log⟩
          ∧ logs.Perm (run (registerStep inet calls) (.start w) ks).world.db.auditLogs)
      ∧ ∀ k response, (k, response) ∈ (run (serveNext inet calls) ⟨w, []⟩ order).answers →
          ∀ given, (run (registerStep inet calls) (.start w) ks).phase k = .answered given →
            response = given ∨ (given = .internalError ∧ response = emailTaken) := by
  obtain ⟨order, h⟩ := mirrors_run (mirrors_start inet calls w) ks
  have hfst := map_fst_answers inet calls ⟨w, []⟩ order
  rw [List.map_nil, List.nil_append] at hfst
  have hnever : ∀ k, (run (registerStep inet calls) (.start w) ks).phase k ≠ .stored := by
    intro k
    by_cases hk : k ∈ ks
    · exact hsettled k hk
    · rw [phase_run_of_not_mem _ hk]
      simp [Registrations.start]
  clear hsettled
  generalize run (registerStep inet calls) (.start w) ks = s at hnever h ⊢
  refine ⟨order, hfst ▸ h.nodup, fun k => ?_, ?_, fun k response hmem given hgiven => ?_⟩
  · rw [← hfst, h.decided k]
    cases hphase : s.phase k with
    | posted => exact iff_of_false id fun ⟨_, heq⟩ => absurd heq (by simp)
    | valid => exact iff_of_false id fun ⟨_, heq⟩ => absurd heq (by simp)
    | stored => exact absurd hphase (hnever k)
    | answered given => exact iff_of_true trivial ⟨given, rfl⟩
  · obtain ⟨logs, hworld, hperm⟩ := h.world
    refine ⟨logs, hworld, ?_⟩
    have hnone : ((run (serveNext inet calls) ⟨w, []⟩ order).answers.filterMap fun a =>
        pendingLog inet calls s.phase a.1) = [] := by
      rw [List.filterMap_eq_nil_iff]
      intro a _
      unfold pendingLog
      cases hphase : s.phase a.1 with
      | stored => exact absurd hphase (hnever a.1)
      | _ => rfl
    rw [hnone, List.append_nil] at hperm
    exact hperm
  · have halike := h.alike _ hmem
    rw [hgiven] at halike
    exact halike

/-- Two guests register one email. -/
def demoRegisterCalls (k : Nat) : RegisterCall :=
  ⟨demoRegistration (txt "ann@hotel.com"), txt "10.0.0.1", ⟨k + 1, 0, txt "hash"⟩⟩

/-- Both pass the checks before either is stored. -/
theorem overlapping_registrations_serializable :
    ∃ order : List Nat, order.Nodup
      ∧ (∀ k, k ∈ order ↔ ∃ given, (run (registerStep (fun _ => true) demoRegisterCalls)
          (.start demoHotel) [0, 1, 1, 0, 1, 0]).phase k = .answered given)
      ∧ ∃ logs, (run (serveNext (fun _ => true) demoRegisterCalls) ⟨demoHotel, []⟩ order).world
          = ⟨(run (registerStep (fun _ => true) demoRegisterCalls) (.start demoHotel)
              [0, 1, 1, 0, 1, 0]).world.db.withAudit logs, []⟩ := by
  obtain ⟨order, hnodup, hmem, ⟨logs, hworld, _⟩, _⟩ :=
    registrations_serializable (fun _ => true) demoRegisterCalls demoHotel [0, 1, 1, 0, 1, 0]
      (by decide +kernel)
  refine ⟨order, hnodup, hmem, logs, hworld.trans ?_⟩
  congr 1

end HotelAgent
