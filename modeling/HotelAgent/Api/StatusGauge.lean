/-
  HotelAgent.Api.StatusGauge — the gauge `SERVICE_REQUEST_STATUS` of one process.

  The handler of `post_save` counts the rows of every status, but only for a row
  that is not new, and nothing listens to deletions:

      assign, complete, PUT, PATCH     the gauge is counted anew
      a creation                       `created`, so the gauge is left
      a deletion                       no signal, so the gauge is left

  One operation is handled at a time, and the counts are read from the database
  that the save has left.

  Main result, `statusGauge_iff`: the gauge is what the table says after every
  operation, exactly if the first one saves a row or leaves the table empty, and
  from then on none adds or removes a row.
-/
import HotelAgent.Api.ManualRequests
import HotelAgent.Lib.Run

namespace HotelAgent

open Lib

variable {py : Python}

/-! ## §1. The gauge. -/

/-- The value of `SERVICE_REQUEST_STATUS` for each label; a label that was never set is 0. -/
abbrev StatusGauge := RequestStatus → Nat

/-- `ServiceRequest.objects.filter(status=s).count()`, for each `s`. -/
def statusCounts (db : Db) : StatusGauge := fun s =>
  db.serviceRequests.count fun r => decide (r.status = s)

/-- What `on_service_request_save` makes of the gauge. -/
def onServiceRequestSave (db : Db) (created : Bool) (gauge : StatusGauge) : StatusGauge :=
  if created then gauge else statusCounts db

/-- The database behind the save of a request to an existing row; `none` where nothing is
saved. -/
def RequestAction.saved (py : Python) (db : Db) (user : Option User) : RequestAction → Option Db
  | .assign pk _ =>
    match readAssign db user pk with
    | .ok (u, r) => saveAssign db u r
    | .error _ => none
  | .complete pk data fresh =>
    match readComplete db user pk data with
    | .ok (r, notes) => saveComplete py db r fresh.now notes
    | .error _ => none
  | .update pk part body =>
    match readUpdateRequest db user pk part body with
    | .ok r => db.saveServiceRequest (body.applyTo r)
    | .error _ => none

/-- The database behind the INSERT of a creation through the serializer. -/
def insertedWith (db : Db) (body : RequestBody) (guest : Option Uuid) (fresh : SessionFresh) :
    Option Db :=
  if body.errors db false ≠ [] then none
  else ((body.validated guest).bind fun r => r.row fresh).bind db.insertServiceRequest

/-- An operation on service requests. -/
inductive RequestOp where
  /-- A creation through the serializer; POST passes no guest. -/
  | create (body : RequestBody) (guest : Option Uuid) (fresh : SessionFresh)
  /-- The atomic block of a voice turn. -/
  | voice (d : RequestDraft) (fresh : SessionFresh)
  /-- assign, complete, PUT and PATCH. -/
  | act (user : Option User) (call : RequestAction)
  | destroy (user : Option User) (pk : Option Uuid)

/-- A process: its database and its gauge. -/
structure StatusState where
  world : World
  gauge : StatusGauge

def statusStep (py : Python) (s : StatusState) : RequestOp → StatusState
  | .create body guest fresh =>
    { world := (createWith py s.world body guest fresh).1
      gauge :=
        match insertedWith s.world.db body guest fresh with
        | none => s.gauge
        | some db => onServiceRequestSave db true s.gauge }
  | .voice d fresh =>
    { world := (createRequest py s.world d fresh).1
      gauge :=
        match d.inserts py s.world.db fresh with
        | none => s.gauge
        -- the gauge is not rolled back with the block
        | some (_, db) => onServiceRequestSave db true s.gauge }
  | .act user call =>
    { world := (call.handle py s.world user).1
      gauge :=
        match call.saved py s.world.db user with
        | none => s.gauge
        | some db => onServiceRequestSave db false s.gauge }
  | .destroy user pk => { s with world := (destroyServiceRequest s.world user pk).1 }

/-- **The gauge follows the table.** -/
def Follows (s : StatusState) : Prop := ∀ status, s.gauge status = statusCounts s.world.db status

/-- It does so after each operation from the first one on. -/
def FollowsAfterEach (py : Python) (s : StatusState) : List RequestOp → Prop
  | [] => True
  | op :: ops => AllStates (statusStep py) Follows (statusStep py s op) ops

/-- A process that has just started. -/
def startedGauge (w : World) : StatusState := ⟨w, fun _ => 0⟩

/-! ## §2. The condition. -/

/-- The operation stores a new row. -/
def RequestOp.Adds (py : Python) (db : Db) : RequestOp → Prop
  | .create body guest fresh => (insertedWith db body guest fresh).isSome = true
  | .voice d fresh => d.commits py db fresh = true ∧ db.voiceSessions.Has d.sessionId
  | .act _ _ => False
  | .destroy _ _ => False

/-- The row that the operation deletes. -/
def RequestOp.removed (db : Db) : RequestOp → Option ServiceRequest
  | .destroy user pk =>
    match getRequest db user pk with
    | .ok (_, r) => some r
    | .error _ => none
  | _ => none

/-- The operation saves an existing row. -/
def RequestOp.Saves (py : Python) (db : Db) : RequestOp → Prop
  | .act user call => (call.rewrites py db user).isSome = true
  | _ => False

/-- The condition on the first operation: it saves a row, or it adds none and there is none but
the one that it deletes. -/
def FirstCounts (py : Python) (db : Db) (op : RequestOp) : Prop :=
  op.Saves py db
    ∨ ¬ op.Adds py db ∧ ∀ x ∈ db.serviceRequests, ∃ r ∈ op.removed db, x.id = r.id

/-- The condition on every later one: it adds and removes no row. -/
def KeepsRows (py : Python) (s : StatusState) (op : RequestOp) : Prop :=
  ¬ op.Adds py s.world.db ∧ op.removed s.world.db = none

/-- The condition on a run. -/
def CountedRun (py : Python) (s : StatusState) : List RequestOp → Prop
  | [] => True
  | op :: ops => FirstCounts py s.world.db op
      ∧ AllSteps (statusStep py) (KeepsRows py) (statusStep py s op) ops

/-! ## §3. What the operations do to the table. -/

/-- **A request to an existing row** leaves the database that it has saved. -/
theorem db_handle (w : World) (user : Option User) (call : RequestAction) :
    (call.handle py w user).1.db = (call.saved py w.db user).getD w.db := by
  cases call with
  | assign pk fresh =>
      show (assign py w user pk fresh).1.db = _
      unfold assign
      simp only [RequestAction.saved]
      cases readAssign w.db user pk with
      | error response => rfl
      | ok ur =>
          simp only
          cases saveAssign w.db ur.1 ur.2 with
          | none => rfl
          | some db =>
              simp only
              split
              · rfl
              · rfl
  | complete pk data fresh =>
      show (complete py w user pk data fresh).1.db = _
      unfold complete
      simp only [RequestAction.saved]
      cases readComplete w.db user pk data with
      | error response => rfl
      | ok rn =>
          simp only
          cases saveComplete py w.db rn.1 fresh.now rn.2 with
          | none => rfl
          | some db =>
              simp only
              split
              · rfl
              · rfl
  | update pk part body =>
      show (updateServiceRequest w user pk part body).1.db = _
      unfold updateServiceRequest
      simp only [RequestAction.saved]
      cases readUpdateRequest w.db user pk part body with
      | error response => rfl
      | ok r =>
          simp only
          cases w.db.saveServiceRequest (body.applyTo r) with
          | none => rfl
          | some db => rfl

/-- It saves exactly if it writes over a row. -/
theorem saved_isSome_iff {db : Db} {user : Option User} {call : RequestAction} :
    (call.saved py db user).isSome = true ↔ (call.rewrites py db user).isSome = true := by
  cases call with
  | assign pk fresh =>
      simp only [RequestAction.saved, RequestAction.rewrites]
      cases hread : readAssign db user pk with
      | error response => exact Iff.rfl
      | ok ur =>
          obtain ⟨u, r⟩ := ur
          obtain ⟨_, hmem, _⟩ := getRequest_ok (readAssign_ok hread).1
          obtain ⟨db', hsave, _⟩ := saveAssign_of_mem u hmem
          simp only [hsave]
          exact Iff.rfl
  | complete pk data fresh =>
      simp only [RequestAction.saved, RequestAction.rewrites]
      cases hread : readComplete db user pk data with
      | error response => exact Iff.rfl
      | ok rn =>
          obtain ⟨r, notes⟩ := rn
          cases htext : notesText py notes with
          | none =>
              simp only [saveComplete, htext]
              exact Iff.rfl
          | some text =>
              obtain ⟨_, hget⟩ := readComplete_ok hread
              obtain ⟨db', hsave, _⟩ := saveComplete_of_mem fresh.now (getRequest_ok hget).2.1 htext
              simp only [hsave, htext]
              exact Iff.rfl
  | update pk part body =>
      simp only [RequestAction.saved, RequestAction.rewrites]
      cases hread : readUpdateRequest db user pk part body with
      | error response => exact Iff.rfl
      | ok r =>
          obtain ⟨db', hsave, _⟩ := saveUpdate_of_read hread
          simp only [hsave]
          exact Iff.rfl

/-- **A creation through the serializer** leaves the database behind its INSERT. -/
theorem db_createWith (w : World) (body : RequestBody) (guest : Option Uuid)
    (fresh : SessionFresh) :
    (createWith py w body guest fresh).1.db = (insertedWith w.db body guest fresh).getD w.db := by
  unfold createWith insertedWith saveNew
  split
  · rfl
  · cases (body.validated guest).bind fun r => r.row fresh with
    | none => rfl
    | some row =>
        simp only [Option.bind_some]
        cases w.db.insertServiceRequest row with
        | none => rfl
        | some db =>
            simp only
            split
            · rfl
            · rfl

/-- One more row. -/
def Db.OneMore (db db' : Db) : Prop :=
  ∃ row, db'.serviceRequests.rows = db.serviceRequests.rows ++ [row]

theorem oneMore_of_insert {db db' : Db} {row : ServiceRequest}
    (h : db.insertServiceRequest row = some db') : db.OneMore db' := by
  obtain ⟨_, _, _, _, _, _, hrows, _⟩ := Db.insertServiceRequest_eq_some h
  exact ⟨_, hrows⟩

/-- A block without its session is rolled back. -/
theorem db_createRequest_of_no_session {w : World} {d : RequestDraft} {fresh : SessionFresh}
    (h : ¬ w.db.voiceSessions.Has d.sessionId) : (createRequest py w d fresh).1.db = w.db := by
  rw [createRequest_eq]
  split
  · rfl
  next row db hins =>
    split
    · have hnone : db.saveSession d.sessionId (.addRequest row.id) = none := by
        unfold RequestDraft.inserts at hins
        split at hins
        · exact absurd hins (by simp)
        next row' hrow =>
          obtain ⟨db₁, hdb, heq⟩ := Option.map_eq_some_iff.mp hins
          injection heq with _ heq
          rw [← heq]
          unfold Db.saveSession
          rw [Db.voiceSessions_insertServiceRequest hdb, if_neg h]
      rw [hnone]
    · rfl

/-- The ways in which an operation ends. -/
inductive Outcome (py : Python) (s : StatusState) (op : RequestOp) : Prop where
  /-- A row is saved, and the rows are counted. -/
  | saves : op.Saves py s.world.db → ¬ op.Adds py s.world.db → op.removed s.world.db = none →
      (statusStep py s op).gauge = statusCounts (statusStep py s op).world.db → Outcome py s op
  | adds : ¬ op.Saves py s.world.db → op.Adds py s.world.db → op.removed s.world.db = none →
      (statusStep py s op).gauge = s.gauge →
      s.world.db.OneMore (statusStep py s op).world.db → Outcome py s op
  | removes (r : ServiceRequest) : ¬ op.Saves py s.world.db → ¬ op.Adds py s.world.db →
      op.removed s.world.db = some r → r ∈ s.world.db.serviceRequests →
      (statusStep py s op).gauge = s.gauge →
      (statusStep py s op).world.db = s.world.db.deleteServiceRequest r.id → Outcome py s op
  /-- The operation is refused or rolled back. -/
  | nothing : ¬ op.Saves py s.world.db → ¬ op.Adds py s.world.db →
      op.removed s.world.db = none → (statusStep py s op).gauge = s.gauge →
      (statusStep py s op).world.db = s.world.db → Outcome py s op

theorem outcome_create (s : StatusState) (body : RequestBody) (guest : Option Uuid)
    (fresh : SessionFresh) : Outcome py s (.create body guest fresh) := by
  have hdb := @db_createWith py s.world body guest fresh
  have hgauge : (statusStep py s (.create body guest fresh)).gauge = s.gauge := by
    simp only [statusStep]
    split
    · rfl
    · rfl
  cases hins : insertedWith s.world.db body guest fresh with
  | none =>
      rw [hins] at hdb
      refine .nothing (fun h => h) (fun h => ?_) rfl hgauge hdb
      have hsome : (insertedWith s.world.db body guest fresh).isSome = true := h
      rw [hins] at hsome
      exact absurd hsome (by simp)
  | some db =>
      rw [hins] at hdb
      have hadds : (RequestOp.create body guest fresh).Adds py s.world.db := by
        show (insertedWith s.world.db body guest fresh).isSome = true
        rw [hins]
        rfl
      refine .adds (fun h => h) hadds rfl hgauge ?_
      show s.world.db.OneMore (createWith py s.world body guest fresh).1.db
      rw [hdb]
      unfold insertedWith at hins
      split at hins
      · exact absurd hins (by simp)
      · obtain ⟨row, _, hrow⟩ := Option.bind_eq_some_iff.mp hins
        exact oneMore_of_insert hrow

theorem outcome_voice (s : StatusState) (d : RequestDraft) (fresh : SessionFresh) :
    Outcome py s (.voice d fresh) := by
  have hgauge : (statusStep py s (.voice d fresh)).gauge = s.gauge := by
    simp only [statusStep]
    split
    · rfl
    · rfl
  by_cases hsession : s.world.db.voiceSessions.Has d.sessionId
  · cases hcommits : d.commits py s.world.db fresh with
    | false =>
        refine .nothing (fun h => h) (fun h => ?_) rfl hgauge
          (createRequest_of_not_commits hcommits).1
        exact absurd (hcommits.symm.trans h.1) (by simp)
    | true =>
        obtain ⟨x, hx, hid⟩ := hsession
        obtain ⟨row, stored, _, _, hgained⟩ :=
          createRequest_of_commits ⟨x, Table.find?_eq_some_iff.mpr ⟨hx, hid⟩⟩ hcommits
        exact .adds (fun h => h) ⟨hcommits, x, hx, hid⟩ rfl hgauge ⟨stored, hgained.rows⟩
  · exact .nothing (fun h => h) (fun h => hsession h.2) rfl hgauge
      (db_createRequest_of_no_session hsession)

theorem outcome_act (s : StatusState) (user : Option User) (call : RequestAction) :
    Outcome py s (.act user call) := by
  have hdb := @db_handle py s.world user call
  cases hsaved : call.saved py s.world.db user with
  | none =>
      rw [hsaved] at hdb
      refine .nothing (fun h => ?_) (fun h => h) rfl ?_ hdb
      · rw [RequestOp.Saves, ← saved_isSome_iff, hsaved] at h
        exact absurd h (by simp)
      · simp only [statusStep, hsaved]
  | some db =>
      rw [hsaved] at hdb
      refine .saves ?_ (fun h => h) rfl ?_
      · rw [RequestOp.Saves, ← saved_isSome_iff, hsaved]
        rfl
      · simp only [statusStep, hsaved, hdb]
        rfl

theorem outcome_destroy (s : StatusState) (user : Option User) (pk : Option Uuid) :
    Outcome py s (.destroy user pk) := by
  cases hget : getRequest s.world.db user pk with
  | error response =>
      refine .nothing (fun h => h) (fun h => h) ?_ rfl ?_
      · simp only [RequestOp.removed, hget]
      · simp only [statusStep, destroyServiceRequest, hget]
  | ok ur =>
      obtain ⟨u, r⟩ := ur
      refine .removes r (fun h => h) (fun h => h) ?_ (getRequest_ok hget).2.1 rfl ?_
      · simp only [RequestOp.removed, hget]
      · simp only [statusStep, destroyServiceRequest, hget]

/-- **What an operation does** to the table and to the gauge. -/
theorem outcome (py : Python) (s : StatusState) (op : RequestOp) : Outcome py s op := by
  cases op with
  | create body guest fresh => exact outcome_create s body guest fresh
  | voice d fresh => exact outcome_voice s d fresh
  | act user call => exact outcome_act s user call
  | destroy user pk => exact outcome_destroy s user pk

/-! ## §4. What the gauge counts. -/

/-- One more row is one more with its status. -/
theorem statusCounts_of_oneMore {db db' : Db} (h : db.OneMore db') :
    ∃ status, statusCounts db' status = statusCounts db status + 1 := by
  obtain ⟨row, hrows⟩ := h
  refine ⟨row.status, ?_⟩
  unfold statusCounts Table.count
  rw [hrows, List.countP_append, List.countP_singleton, decide_eq_true rfl]
  rfl

/-- A row less is one less with its status. -/
theorem statusCounts_deleteServiceRequest {db : Db} {r : ServiceRequest}
    (hr : r ∈ db.serviceRequests) :
    statusCounts (db.deleteServiceRequest r.id) r.status + 1 = statusCounts db r.status := by
  have hcount := Table.count_erase (p := fun x : ServiceRequest => decide (x.status = r.status))
    (Table.find?_of_mem hr)
  rw [decide_eq_true rfl] at hcount
  exact hcount

/-- Nothing is counted where there is nothing. -/
theorem statusCounts_eq_zero_iff {db : Db} :
    (∀ status, statusCounts db status = 0) ↔ ∀ x, ¬ x ∈ db.serviceRequests := by
  unfold statusCounts Table.count
  simp only [List.countP_eq_zero, decide_eq_true_eq]
  constructor
  · intro h x hx
    exact h x.status x hx rfl
  · intro h status x hx
    exact absurd hx (h x)

/-- **The first operation**, with every label at 0. -/
theorem follows_first_iff (py : Python) (w : World) (op : RequestOp) :
    Follows (statusStep py (startedGauge w) op) ↔ FirstCounts py w.db op := by
  -- the gauge is still 0, so nothing may be left to count
  have hzero : (statusStep py (startedGauge w) op).gauge = (startedGauge w).gauge →
      (Follows (statusStep py (startedGauge w) op)
        ↔ ∀ x, ¬ x ∈ (statusStep py (startedGauge w) op).world.db.serviceRequests) := by
    intro hgauge
    unfold Follows
    rw [hgauge, ← statusCounts_eq_zero_iff]
    exact forall_congr' fun status => eq_comm
  cases outcome py (startedGauge w) op with
  | saves hsaves _ _ hgauge =>
      refine iff_of_true (fun status => ?_) (.inl hsaves)
      rw [hgauge]
  | adds hsaves hadds _ hgauge hmore =>
      -- the new row is there and not counted
      rw [hzero hgauge]
      obtain ⟨row, hrows⟩ := hmore
      refine iff_of_false (fun h => h row ?_) ?_
      · rw [Table.mem_def, hrows]
        exact List.mem_append_right _ (List.mem_singleton_self row)
      · rintro (h | h)
        · exact hsaves h
        · exact h.1 hadds
  | removes r hsaves hadds hremoved hr hgauge hdb =>
      -- only the last row may be deleted without a count
      rw [hzero hgauge, hdb]
      unfold FirstCounts
      have hremoved' : op.removed w.db = some r := hremoved
      rw [hremoved']
      constructor
      · intro h
        refine .inr ⟨hadds, fun x hx => ⟨r, rfl, ?_⟩⟩
        by_contra hne
        exact h x (Table.mem_erase.mpr ⟨hx, hne⟩)
      · rintro (h | ⟨_, h⟩) x hx
        · exact hsaves h
        · obtain ⟨hx, hne⟩ := Table.mem_erase.mp hx
          obtain ⟨r', hr', hid⟩ := h x hx
          injection hr' with hr'
          exact hne (hid.trans (hr' ▸ rfl))
  | nothing hsaves hadds hremoved hgauge hdb =>
      rw [hzero hgauge, hdb]
      unfold FirstCounts
      have hremoved' : op.removed w.db = none := hremoved
      rw [hremoved']
      constructor
      · intro h
        exact .inr ⟨hadds, fun x hx => absurd hx (h x)⟩
      · rintro (h | ⟨_, h⟩) x hx
        · exact hsaves h
        · obtain ⟨r, hr, _⟩ := h x hx
          exact absurd hr (by simp)

/-- **A later operation**, with the gauge at the counts. -/
theorem follows_step_iff (py : Python) (s : StatusState) (op : RequestOp) (h : Follows s) :
    Follows (statusStep py s op) ↔ KeepsRows py s op := by
  unfold KeepsRows
  cases outcome py s op with
  | saves _ hadds hremoved hgauge =>
      refine iff_of_true (fun status => ?_) ⟨hadds, hremoved⟩
      rw [hgauge]
  | adds _ hadds _ hgauge hmore =>
      refine iff_of_false (fun hafter => ?_) fun hkeeps => hkeeps.1 hadds
      obtain ⟨status, hone⟩ := statusCounts_of_oneMore hmore
      have hbefore := h status
      have hnow := hafter status
      rw [hgauge] at hnow
      omega
  | removes r _ _ hremoved hr hgauge hdb =>
      refine iff_of_false (fun hafter => ?_) fun hkeeps => ?_
      · have hless := statusCounts_deleteServiceRequest hr
        have hbefore := h r.status
        have hnow := hafter r.status
        rw [hgauge, hdb] at hnow
        omega
      · exact absurd (hremoved.symm.trans hkeeps.2) (by simp)
  | nothing _ hadds hremoved hgauge hdb =>
      refine iff_of_true (fun status => ?_) ⟨hadds, hremoved⟩
      rw [hgauge, hdb]
      exact h status

/-! ## §5. Runs. -/

/-- **The gauge follows the table** after every operation exactly if the first one saves a row or
leaves the table empty, and no later one adds or removes a row. -/
theorem statusGauge_iff (py : Python) (w : World) (ops : List RequestOp) :
    FollowsAfterEach py (startedGauge w) ops ↔ CountedRun py (startedGauge w) ops := by
  cases ops with
  | nil => exact Iff.rfl
  | cons op ops =>
      have hrest := fun hfirst : Follows (statusStep py (startedGauge w) op) =>
        allStates_iff_allSteps (K := fun _ => True) (fun _ _ _ => trivial)
          (fun s op _ hs => follows_step_iff py s op hs) trivial hfirst ops
      have hfirst := follows_first_iff py w op
      constructor
      · intro h
        exact ⟨hfirst.mp h.head, (hrest h.head).mp h⟩
      · rintro ⟨hcounts, h⟩
        have hfollows := hfirst.mpr hcounts
        exact (hrest hfollows).mpr h

/-- The demo guest asks for a massage. -/
def demoDraft : RequestDraft where
  bookingId := 20
  guest := demoGuest
  sessionId := 5
  serviceType := .str (txt "spa")
  priority := .str (txt "normal")
  description := .str (txt "massage")

/-- A request is assigned, and counted; then another one comes in. -/
theorem new_request_is_not_counted :
    ¬ ∀ (py : Python) (w : World) (ops : List RequestOp),
      FollowsAfterEach py (startedGauge w) ops := by
  intro h
  have hlast := (h plainPython demoDesk
    [.act (some (demoUser 3 "manager@hotel.com" .manager)) (.assign (some 30) demoAction),
      .voice demoDraft (demoTurnFresh 31 .accepted .accepted)]).last
  exact absurd (hlast .pending) (by decide +kernel)

end HotelAgent
