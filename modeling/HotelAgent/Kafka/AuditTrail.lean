/-
  HotelAgent.Kafka.AuditTrail — audit events, from the log into the database.

  `handle_audit_log` catches every exception of its INSERT and returns, so the
  retry loop never sees a failure of it: it calls the handler once, leaves no
  dead letter and commits.  Nor does the row know its event, so a second delivery
  makes a second row.

      the INSERT fails                         committed, and no row
      a crash behind the INSERT, redelivered   committed, and two rows

  Main result, `storedOnce_iff`: along a run every committed event has exactly
  one row if and only if each pass that commits finds no row of the event and
  stores one, or finds one that an earlier pass left and stores none.
-/
import HotelAgent.Kafka.Delivery
import HotelAgent.Kafka.Handlers

namespace HotelAgent

open Lib

/-! ## §1. `handle_audit_log`. -/

/-- The arguments of `AuditLog.objects.create`. -/
structure AuditColumns where
  action : Json
  resourceType : Json
  resourceId : Json
  changes : Json
  ipAddress : Json

def auditColumns (payload : List (Text × Json)) : AuditColumns where
  action := dictGet payload (txt "action") (.str (txt "unknown"))
  resourceType := dictGet payload (txt "resource_type") (.str [])
  resourceId := dictGet payload (txt "resource_id") (.str [])
  changes := dictGet payload (txt "changes") (.obj [])
  ipAddress := dictGet payload (txt "ip_address") .null

/-- How `AuditLog.objects.create` ends. -/
inductive CreateOutcome where
  | returns
  /-- An exception; the row is there all the same if the connection broke behind the INSERT. -/
  | raises (error : Text) (stored : Bool)

def CreateOutcome.stored : CreateOutcome → Bool
  | .returns => true
  | .raises _ stored => stored

/-- `handle_audit_log`: the row it leaves, and how it ends. -/
def handleAuditLog (event : List (Text × Json)) (create : CreateOutcome) :
    Option AuditColumns × HandlerResult :=
  match payloadOf event with
  -- only a dictionary has a `get`; the AttributeError is caught like any other exception
  | none => (none, .returns)
  | some payload =>
    match create with
    | .returns => (some (auditColumns payload), .returns)
    -- logged, and not raised again
    | .raises _ stored => (if stored then some (auditColumns payload) else none, .returns)

/-- **The handler never fails.** -/
theorem handleAuditLog_returns (event : List (Text × Json)) (create : CreateOutcome) :
    (handleAuditLog event create).2 = .returns := by
  unfold handleAuditLog
  split
  · rfl
  · split
    · rfl
    · rfl

/-- It leaves a row where the payload is an object and the INSERT got through. -/
theorem handleAuditLog_isSome (event : List (Text × Json)) (create : CreateOutcome) :
    (handleAuditLog event create).1.isSome = ((payloadOf event).isSome && create.stored) := by
  unfold handleAuditLog
  cases payloadOf event with
  | none => rfl
  | some payload =>
      cases create with
      | returns => rfl
      | raises error stored => cases stored <;> rfl

/-! ## §2. The consumer of the audit log. -/

/-- The value is an `audit.log` event. -/
def AuditEvent (py : Python) (value : Option (List UInt8)) (event : List (Text × Json)) : Prop :=
  ∃ bytes text, value = some bytes ∧ decodeUtf8 bytes = some text
    ∧ loads py text = .ok (.obj event) ∧ eventTypeOf event = .str (txt "audit.log")

/-- A partition of `audit.log` events. -/
structure AuditLogTopic (py : Python) where
  log : PartitionLog
  events : ∀ value ∈ log.values, ∃ event, AuditEvent py value event

/-- What `register_all_handlers` finds for the event. -/
theorem lookup_auditEvent {py : Python} {value : Option (List UInt8)} {event : List (Text × Json)}
    (h : AuditEvent py value event) :
    lookup py (registerAllHandlers []) value = .found event [.handleAuditLog] := by
  obtain ⟨bytes, text, rfl, hdecode, hloads, htype⟩ := h
  unfold lookup
  simp only [hdecode, hloads, handlersFor, htype]
  rfl

/-- The consumer's offset, and what has been written for whom: rows and dead letters with the
offset of their event. -/
structure AuditState where
  committed : Nat
  rows : List (Nat × AuditColumns)
  deadLettered : List Nat

/-- The calls of the handler turn out as the INSERTs allow. -/
def auditEnv (event : List (Text × Json)) (creates : Nat → CreateOutcome)
    (dlq : Nat → DlqResult) : Env where
  handler := fun _ attempt => (handleAuditLog event (creates attempt)).2
  dlq := dlq

/-- One effect of the pass over the event at `offset`; with the number of calls so far. -/
def applyAudit (offset : Nat) (creates : Nat → CreateOutcome) (s : AuditState × Nat) :
    Effect Handler → AuditState × Nat
  | .call _ _ event _ =>
    ({ s.1 with rows := s.1.rows
        ++ ((handleAuditLog event (creates s.2)).1.toList.map fun row => (offset, row)) }, s.2 + 1)
  | .dlq _ _ .accepted => ({ s.1 with deadLettered := offset :: s.1.deadLettered }, s.2)
  | .commit => ({ s.1 with committed := offset + 1 }, s.2)
  | _ => s

/-- What can happen to the consumer. -/
inductive AuditStep where
  /-- `_process_message` runs to its end; `creates j` is the INSERT of call `j`. -/
  | process (creates : Nat → CreateOutcome) (dlq : Nat → DlqResult)
  /-- The process dies after `effects` effects, before the commit. -/
  | crash (creates : Nat → CreateOutcome) (dlq : Nat → DlqResult) (effects : Nat)
  /-- A restart at a committed offset, perhaps an earlier one. -/
  | restart (offset : Nat)

/-- The effects of a pass over the next message. -/
def auditEffects (py : Python) (log : PartitionLog) (s : AuditState)
    (creates : Nat → CreateOutcome) (dlq : Nat → DlqResult) : List (Effect Handler) :=
  match log.message? s.committed with
  | none => []
  | some msg =>
    match lookup py (registerAllHandlers []) msg.value with
    | .found event _ =>
      (processMessage py (registerAllHandlers []) (auditEnv event creates dlq) msg).1
    | _ => []

def auditStep (py : Python) (log : PartitionLog) (s : AuditState) : AuditStep → AuditState
  | .process creates dlq =>
    ((auditEffects py log s creates dlq).foldl (applyAudit s.committed creates) (s, 0)).1
  | .crash creates dlq effects =>
    (((auditEffects py log s creates dlq).takeWhile fun e => !e.isCommit).take effects |>.foldl
      (applyAudit s.committed creates) (s, 0)).1
  | .restart offset => if offset ≤ s.committed then { s with committed := offset } else s

/-- The number of rows made for the event at `offset`. -/
def AuditState.rowsFor (s : AuditState) (offset : Nat) : Nat :=
  s.rows.countP fun row => decide (row.1 = offset)

/-- **Stored once**: every committed event has exactly one row, or a dead letter. -/
def StoredOnce (s : AuditState) : Prop :=
  ∀ offset < s.committed, s.rowsFor offset = 1 ∨ offset ∈ s.deadLettered

/-- The rows that a pass over the event adds. -/
def newRows (event : List (Text × Json)) (create : CreateOutcome) : Nat :=
  if (payloadOf event).isSome && create.stored then 1 else 0

/-- The condition on one step: with this pass the event has one row. -/
def StoresOnce (py : Python) (log : PartitionLog) (s : AuditState) : AuditStep → Prop
  | .process creates _ => ∀ msg event, log.message? s.committed = some msg →
      AuditEvent py msg.value event → s.rowsFor s.committed + newRows event (creates 0) = 1
  | _ => True

/-! ## §3. One pass. -/

theorem processMessage_audit {py : Python} {msg : KafkaMessage} {event : List (Text × Json)}
    (h : AuditEvent py msg.value event) (creates : Nat → CreateOutcome) (dlq : Nat → DlqResult) :
    (processMessage py (registerAllHandlers []) (auditEnv event creates dlq) msg).1
      = [.call 0 .handleAuditLog event .returns, .commit] := by
  have hreturns : (auditEnv event creates dlq).handler 0 0 = .returns :=
    handleAuditLog_returns event (creates 0)
  have hnot : ¬ (auditEnv event creates dlq).dlqRaises 1 := by
    rintro ⟨pos, hpos, hexhausts, _⟩
    rw [Nat.lt_one_iff.mp hpos] at hexhausts
    exact hexhausts 0 (by decide) hreturns
  rw [processMessage_of_found (lookup_auditEvent h), List.length_singleton, if_neg hnot]
  simp [runHandlers, runHandler, retryLoop, maxRetries, hreturns]

/-- **A pass calls the handler once and commits.** -/
theorem auditEffects_eq {py : Python} (topic : AuditLogTopic py) (s : AuditState)
    (creates : Nat → CreateOutcome) (dlq : Nat → DlqResult) :
    (topic.log.message? s.committed = none ∧ auditEffects py topic.log s creates dlq = [])
      ∨ ∃ msg event, topic.log.message? s.committed = some msg ∧ AuditEvent py msg.value event
        ∧ auditEffects py topic.log s creates dlq
          = [.call 0 .handleAuditLog event .returns, .commit] := by
  unfold auditEffects
  cases hmsg : topic.log.message? s.committed with
  | none => exact .inl ⟨rfl, rfl⟩
  | some msg =>
      have hvalue : msg.value ∈ topic.log.values := by
        unfold PartitionLog.message? at hmsg
        obtain ⟨value, hvalue, rfl⟩ := Option.map_eq_some_iff.mp hmsg
        exact List.mem_of_getElem? hvalue
      obtain ⟨event, hevent⟩ := topic.events msg.value hvalue
      refine .inr ⟨msg, event, rfl, hevent, ?_⟩
      simp only [lookup_auditEvent hevent]
      exact processMessage_audit hevent creates dlq

/-- The state after the call of the handler. -/
def AuditState.handled (s : AuditState) (event : List (Text × Json)) (create : CreateOutcome) :
    AuditState :=
  { s with rows := s.rows
      ++ ((handleAuditLog event create).1.toList.map fun row => (s.committed, row)) }

theorem rowsFor_handled (s : AuditState) (event : List (Text × Json)) (create : CreateOutcome)
    (offset : Nat) :
    (s.handled event create).rowsFor offset
      = s.rowsFor offset + if offset = s.committed then newRows event create else 0 := by
  have hsome := handleAuditLog_isSome event create
  unfold AuditState.rowsFor AuditState.handled newRows
  rw [List.countP_append, ← hsome]
  cases (handleAuditLog event create).1 with
  | none => simp
  | some row =>
      by_cases heq : offset = s.committed
      · simp [heq]
      · simp [heq, Ne.symm heq]

/-- The call makes rows for the event at hand only, which is not committed yet. -/
theorem storedOnce_handled {s : AuditState} (h : StoredOnce s) (event : List (Text × Json))
    (create : CreateOutcome) : StoredOnce (s.handled event create) := by
  intro offset hlt
  have hne : offset ≠ s.committed := Nat.ne_of_lt hlt
  rw [rowsFor_handled, if_neg hne]
  exact h offset hlt

/-- Committing one more event. -/
theorem storedOnce_commit_iff {s : AuditState} (h : StoredOnce s) (hnone : s.deadLettered = []) :
    StoredOnce { s with committed := s.committed + 1 } ↔ s.rowsFor s.committed = 1 := by
  constructor
  · intro hafter
    rcases hafter s.committed (Nat.lt_succ_self _) with hone | hdead
    · exact hone
    · rw [hnone] at hdead
      exact absurd hdead List.not_mem_nil
  · intro hone offset hlt
    rcases Nat.lt_succ_iff_lt_or_eq.mp hlt with hlt | heq
    · exact h offset hlt
    · rw [heq]
      exact .inl hone

/-! ## §4. Runs. -/

section
variable {py : Python} (topic : AuditLogTopic py)

/-- **What a pass does**: nothing at the end of the log, and else the call and the commit. -/
theorem auditStep_process (s : AuditState) (creates : Nat → CreateOutcome)
    (dlq : Nat → DlqResult) :
    (topic.log.message? s.committed = none
        ∧ auditStep py topic.log s (.process creates dlq) = s)
      ∨ ∃ msg event, topic.log.message? s.committed = some msg ∧ AuditEvent py msg.value event
        ∧ auditStep py topic.log s (.process creates dlq)
          = { s.handled event (creates 0) with committed := s.committed + 1 } := by
  unfold auditStep
  simp only
  rcases auditEffects_eq topic s creates dlq with ⟨hmsg, hfx⟩ | ⟨msg, event, hmsg, hevent, hfx⟩
  · rw [hfx]
    exact .inl ⟨hmsg, rfl⟩
  · rw [hfx]
    exact .inr ⟨msg, event, hmsg, hevent, rfl⟩

/-- **What a crash leaves**: the call has been made, or not even that. -/
theorem auditStep_crash (s : AuditState) (creates : Nat → CreateOutcome) (dlq : Nat → DlqResult)
    (effects : Nat) :
    auditStep py topic.log s (.crash creates dlq effects) = s
      ∨ ∃ event, auditStep py topic.log s (.crash creates dlq effects)
        = s.handled event (creates 0) := by
  unfold auditStep
  simp only
  rcases auditEffects_eq topic s creates dlq with ⟨_, hfx⟩ | ⟨msg, event, _, _, hfx⟩
  · rw [hfx, List.takeWhile_nil, List.take_nil]
    exact .inl rfl
  · rw [hfx]
    match effects with
    | 0 => exact .inl rfl
    | n + 1 =>
        refine .inr ⟨event, ?_⟩
        cases n with
        | zero => rfl
        | succ n => rfl

/-- No dead letter is ever left. -/
theorem deadLettered_auditStep (s : AuditState) (i : AuditStep) (h : s.deadLettered = []) :
    (auditStep py topic.log s i).deadLettered = [] := by
  cases i with
  | process creates dlq =>
      rcases auditStep_process topic s creates dlq with ⟨_, hstep⟩ | ⟨msg, event, _, _, hstep⟩
      · rw [hstep]
        exact h
      · rw [hstep]
        exact h
  | crash creates dlq effects =>
      rcases auditStep_crash topic s creates dlq effects with hstep | ⟨event, hstep⟩
      · rw [hstep]
        exact h
      · rw [hstep]
        exact h
  | restart offset =>
      unfold auditStep
      simp only
      split
      · exact h
      · exact h

/-- **One step.** -/
theorem storedOnce_step_iff (s : AuditState) (i : AuditStep) (hnone : s.deadLettered = [])
    (h : StoredOnce s) :
    StoredOnce (auditStep py topic.log s i) ↔ StoresOnce py topic.log s i := by
  cases i with
  | process creates dlq =>
      unfold StoresOnce
      rcases auditStep_process topic s creates dlq with
        ⟨hmsg, hstep⟩ | ⟨msg, event, hmsg, hevent, hstep⟩
      · rw [hstep]
        exact iff_of_true h fun msg event hmsg' => absurd (hmsg.symm.trans hmsg') (by simp)
      · have hpass := storedOnce_commit_iff (storedOnce_handled h event (creates 0)) hnone
        rw [rowsFor_handled] at hpass
        rw [hstep]
        refine hpass.trans ⟨?_, fun hone => ?_⟩
        · intro hone msg' event' hmsg' hevent'
          -- the offset holds one message, with one event
          have hsame : event' = event := by
            rw [hmsg] at hmsg'
            injection hmsg' with hmsg'
            have hl := lookup_auditEvent hevent'
            rw [← hmsg', lookup_auditEvent hevent] at hl
            injection hl with hl
            exact hl.symm
          rw [hsame]
          simpa [AuditState.handled] using hone
        · have hone := hone msg event hmsg hevent
          simpa [AuditState.handled] using hone
  | crash creates dlq effects =>
      refine iff_of_true ?_ trivial
      rcases auditStep_crash topic s creates dlq effects with hstep | ⟨event, hstep⟩
      · rw [hstep]
        exact h
      · rw [hstep]
        exact storedOnce_handled h event (creates 0)
  | restart offset =>
      refine iff_of_true ?_ trivial
      unfold auditStep
      simp only
      split
      next hle => exact fun o ho => h o (Nat.lt_of_lt_of_le ho hle)
      next => exact h

/-- The consumer before its first event. -/
def freshAudit : AuditState := ⟨0, [], []⟩

/-- **Audit events are stored once**, in every state of a run, exactly if every pass that commits
an event brings its rows to one. -/
theorem storedOnce_iff (steps : List AuditStep) :
    AllStates (auditStep py topic.log) StoredOnce freshAudit steps
      ↔ AllSteps (auditStep py topic.log) (StoresOnce py topic.log) freshAudit steps :=
  allStates_iff_allSteps (K := fun s : AuditState => s.deadLettered = [])
    (deadLettered_auditStep topic) (storedOnce_step_iff topic) rfl
    (fun _ ho => absurd ho (Nat.not_lt_zero _)) steps

end

/-- One event, without a payload. -/
def demoAuditText : Text := txt "\x7b\"event_type\": \"audit.log\"\x7d"

theorem decodeUtf8_demoAuditText :
    decodeUtf8 (demoAuditText.flatMap encodePoint) = some demoAuditText := by
  decide +kernel

theorem loads_demoAuditText :
    loads plainPython demoAuditText = .ok (.obj [(txt "event_type", .str (txt "audit.log"))]) := by
  decide +kernel

def demoAuditTopic : AuditLogTopic plainPython where
  log :=
    { topic := txt "hotel.audit.log", partition := 0,
      values := [some (demoAuditText.flatMap encodePoint)] }
  events := by
    intro value hvalue
    rw [List.mem_singleton.mp hvalue]
    exact ⟨[(txt "event_type", .str (txt "audit.log"))], _, demoAuditText, rfl,
      decodeUtf8_demoAuditText, loads_demoAuditText, by decide +kernel⟩

/-- The database is away for one INSERT: the event is committed without a row. -/
theorem audit_event_without_row :
    ¬ ∀ (py : Python) (topic : AuditLogTopic py) (steps : List AuditStep),
      AllStates (auditStep py topic.log) StoredOnce freshAudit steps := by
  intro h
  have hlast := (h plainPython demoAuditTopic
    [.process (fun _ => .raises (txt "connection refused") false) fun _ => .accepted]).last
  have hstored := hlast 0 (by decide +kernel)
  exact absurd hstored (by decide +kernel)

end HotelAgent
