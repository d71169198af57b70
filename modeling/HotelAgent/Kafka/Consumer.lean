/-
  HotelAgent.Kafka.Consumer — `KafkaConsumerService._process_message`.

  The function is modelled by the trace of what it does to the outside world
  (handler calls, back-off sleeps, dead letters, the commit) and by whether it
  returns or raises.  How the handlers and the dead-letter publishes turn out is
  an argument, `Env`; nothing else about the run is left open.

      value is null, or not an object   →  AttributeError, not caught
      event_type unhashable             →  TypeError, not caught
      not UTF-8, not JSON               →  caught, commit
      integer too long, nested too deep →  ValueError, RecursionError, not caught
      no handler                        →  commit
      otherwise                         →  each handler with its retries, commit
-/
import HotelAgent.Kafka.Events

namespace HotelAgent

open Lib

/-! ## §1. Messages and the registry. -/

/-- A consumed message. -/
structure KafkaMessage where
  topic : Text
  partition : Nat
  offset : Nat
  value : Option (List UInt8)

section
variable {H : Type}

/-- `self._handlers`. -/
abbrev Registry (H : Type) := List (Text × List H)

/-- `self._handlers.get(event_type, [])` for a string. -/
def Registry.get (reg : Registry H) (eventType : Text) : List H :=
  ((reg.find? (fun e => e.1 = eventType)).map (·.2)).getD []

/-- `register_handler`. -/
def Registry.registerHandler : Registry H → Text → H → Registry H
  | [], eventType, h => [(eventType, [h])]
  | (t, hs) :: reg, eventType, h =>
    if t = eventType then (t, hs ++ [h]) :: reg
    else (t, hs) :: Registry.registerHandler reg eventType h

theorem Registry.get_cons (t : Text) (hs : List H) (reg : Registry H) (eventType : Text) :
    Registry.get ((t, hs) :: reg) eventType = if t = eventType then hs else reg.get eventType := by
  unfold Registry.get
  rw [List.find?_cons]
  by_cases h : t = eventType <;> simp [h]

theorem Registry.get_registerHandler (reg : Registry H) (eventType : Text) (h : H) (t : Text) :
    (reg.registerHandler eventType h).get t
      = reg.get t ++ if t = eventType then [h] else [] := by
  induction reg with
  | nil =>
      unfold Registry.registerHandler
      rw [Registry.get_cons]
      by_cases ht : t = eventType
      · rw [if_pos ht.symm, if_pos ht]
        rfl
      · rw [if_neg (Ne.symm ht), if_neg ht]
        rfl
  | cons e reg ih =>
      obtain ⟨s, hs⟩ := e
      unfold Registry.registerHandler
      by_cases hse : s = eventType
      · rw [if_pos hse, Registry.get_cons, Registry.get_cons]
        by_cases hst : s = t
        · rw [if_pos hst, if_pos hst, if_pos (hst.symm.trans hse)]
        · rw [if_neg hst, if_neg hst, if_neg fun ht => hst (hse.trans ht.symm),
            List.append_nil]
      · rw [if_neg hse, Registry.get_cons, Registry.get_cons, ih]
        by_cases hst : s = t
        · rw [if_pos hst, if_pos hst, if_neg fun ht => hse (hst.trans ht), List.append_nil]
        · rw [if_neg hst, if_neg hst]

/-! ## §2. Outcomes and effects. -/

/-- How one call of a handler ends. -/
inductive HandlerResult where
  | returns
  | raises (error : Text)
  deriving DecidableEq

/-- How `publish` ends for a dead letter. -/
inductive DlqResult where
  | accepted
  | refused
  | raises
  deriving DecidableEq, Repr

/-- How the calls made for one message turn out: attempt `j` of the handler at
position `i`, and the dead letter for its failure. -/
structure Env where
  handler : Nat → Nat → HandlerResult
  dlq : Nat → DlqResult

inductive Effect (H : Type) where
  /-- `handler(data)`, for the handler at position `pos`. -/
  | call (pos : Nat) (handler : H) (data : List (Text × Json)) (result : HandlerResult)
  /-- `time.sleep(seconds)`. -/
  | sleep (seconds : Nat)
  /-- `_send_to_dlq(msg, error)` for the handler at position `pos`. -/
  | dlq (pos : Nat) (error : Text) (result : DlqResult)
  /-- `self._consumer.commit(message=msg)`. -/
  | commit

/-- Whether the effect is the commit. -/
def Effect.isCommit : Effect H → Bool
  | .commit => true
  | _ => false

/-- How `_process_message` ends. -/
inductive ProcessResult where
  | returned
  | raised
  deriving DecidableEq, Repr

/-! ## §3. The retry loop. -/

/-- `MAX_RETRIES`. -/
def maxRetries : Nat := 3

/-- `RETRY_BACKOFF_S[k]`. -/
def retryBackoffS (k : Nat) : Nat := [1, 5, 15].getD k 0

/-- The `while attempt < MAX_RETRIES` loop with `left` attempts to go: its
effects, and the error of the last attempt when all of them raised. -/
def retryLoop (pos : Nat) (handler : H) (data : List (Text × Json))
    (result : Nat → HandlerResult) : (left : Nat) → List (Effect H) × Option Text
  | 0 => ([], none)
  | left + 1 =>
    let attempt := maxRetries - (left + 1)
    match result attempt with
    | .returns => ([.call pos handler data .returns], none)
    | .raises e =>
      -- the last attempt has no sleep after it
      if left = 0 then ([.call pos handler data (.raises e)], some e)
      else
        let rest := retryLoop pos handler data result left
        (.call pos handler data (.raises e) :: .sleep (retryBackoffS attempt) :: rest.1, rest.2)

/-- The body of `for handler in handlers`: the retries, then the dead letter.
An exception of `publish` leaves the loop. -/
def runHandler (env : Env) (pos : Nat) (handler : H) (data : List (Text × Json)) :
    List (Effect H) × ProcessResult :=
  let attempts := retryLoop pos handler data (env.handler pos) maxRetries
  match attempts.2 with
  | none => (attempts.1, .returned)
  | some e =>
    (attempts.1 ++ [.dlq pos e (env.dlq pos)],
      if env.dlq pos = .raises then .raised else .returned)

/-- `for handler in handlers`, from position `pos` on. -/
def runHandlers (env : Env) (data : List (Text × Json)) :
    (pos : Nat) → List H → List (Effect H) × ProcessResult
  | _, [] => ([], .returned)
  | pos, h :: hs =>
    let first := runHandler env pos h data
    match first.2 with
    | .raised => first
    | .returned =>
      let rest := runHandlers env data (pos + 1) hs
      (first.1 ++ rest.1, rest.2)

/-! ## §4. `_process_message`. -/

/-- What the handlers of a message are, or how looking for them ends. -/
inductive Lookup (H : Type) where
  /-- The body is an object; its handlers, perhaps none. -/
  | found (data : List (Text × Json)) (handlers : List H)
  /-- `JSONDecodeError` or `UnicodeDecodeError`. -/
  | malformed
  /-- An exception that nothing catches. -/
  | uncaught

/-- `data.get("event_type", "unknown")`. -/
def eventTypeOf (data : List (Text × Json)) : Json :=
  dictGet data (txt "event_type") (.str (txt "unknown"))

/-- `self._handlers.get(event_type, [])`: only a string names a handler, and an
array or an object cannot be a key. -/
def handlersFor (reg : Registry H) (data : List (Text × Json)) : Lookup H :=
  match eventTypeOf data with
  | .str t => .found data (reg.get t)
  | .arr _ => .uncaught
  | .obj _ => .uncaught
  | _ => .found data []

/-- From the message's value to its handlers. -/
def lookup (py : Python) (reg : Registry H) (value : Option (List UInt8)) : Lookup H :=
  match value with
  -- a tombstone: `None` has no `decode`
  | none => .uncaught
  | some bytes =>
    match decodeUtf8 bytes with
    | none => .malformed
    | some text =>
      match loads py text with
      | .error .decodeError => .malformed
      -- neither is a JSONDecodeError
      | .error .intTooLong => .uncaught
      | .error .recursion => .uncaught
      | .ok (.obj data) => handlersFor reg data
      -- only an object has `get`
      | .ok _ => .uncaught

/-- `KafkaConsumerService._process_message`. -/
def processMessage (py : Python) (reg : Registry H) (env : Env) (msg : KafkaMessage) :
    List (Effect H) × ProcessResult :=
  match lookup py reg msg.value with
  | .uncaught => ([], .raised)
  | .malformed => ([.commit], .returned)
  -- the no-handler branch
  | .found _ [] => ([.commit], .returned)
  | .found data handlers =>
    let run := runHandlers env data 0 handlers
    match run.2 with
    | .raised => (run.1, .raised)
    | .returned => (run.1 ++ [.commit], .returned)

/-! ## §5. What the loops do. -/

/-- All attempts of the handler at position `pos` raise. -/
def Env.exhausts (env : Env) (pos : Nat) : Prop :=
  ∀ j < maxRetries, env.handler pos j ≠ .returns

instance (env : Env) (pos : Nat) : Decidable (env.exhausts pos) :=
  inferInstanceAs (Decidable (∀ j < maxRetries, _))

/-- Publishing the dead letter of some exhausted handler raises. -/
def Env.dlqRaises (env : Env) (n : Nat) : Prop :=
  ∃ pos < n, env.exhausts pos ∧ env.dlq pos = .raises

instance (env : Env) (n : Nat) : Decidable (env.dlqRaises n) :=
  inferInstanceAs (Decidable (∃ pos < n, _))

/-- The retry loop reports an error exactly when every attempt raises. -/
theorem retryLoop_isSome_iff (pos : Nat) (h : H) (data : List (Text × Json))
    (result : Nat → HandlerResult) {left : Nat} (hpos : 0 < left) (hle : left ≤ maxRetries) :
    (retryLoop pos h data result left).2.isSome = true
      ↔ ∀ j, maxRetries - left ≤ j → j < maxRetries → result j ≠ .returns := by
  -- with `left` attempts to go, the next one is attempt `maxRetries - left`
  induction left with
  | zero => exact absurd hpos (Nat.lt_irrefl 0)
  | succ left ih =>
      unfold retryLoop
      simp only
      cases hr : result (maxRetries - (left + 1)) with
      | returns =>
          simp only [Option.isSome_none, Bool.false_eq_true, false_iff]
          intro hall
          exact hall (maxRetries - (left + 1)) (Nat.le_refl _) (by omega) hr
      | raises e =>
          by_cases hl : left = 0
          · simp only [if_pos hl, Option.isSome_some, true_iff]
            intro j hj hlt hret
            have : j = maxRetries - (left + 1) := by omega
            rw [this, hr] at hret
            exact absurd hret (by simp)
          · simp only [if_neg hl]
            rw [ih (by omega) (by omega)]
            constructor
            · intro hall j hj hlt hret
              by_cases heq : j = maxRetries - (left + 1)
              · rw [heq, hr] at hret
                exact absurd hret (by simp)
              · exact hall j (by omega) hlt hret
            · intro hall j hj hlt
              exact hall j (by omega) hlt

/-- **A handler is given up exactly when all its attempts raise.** -/
theorem retryLoop_max_isSome_iff (env : Env) (pos : Nat) (h : H) (data : List (Text × Json)) :
    (retryLoop pos h data (env.handler pos) maxRetries).2.isSome = true ↔ env.exhausts pos := by
  rw [retryLoop_isSome_iff pos h data _ (by decide) (Nat.le_refl _)]
  simp only [Nat.sub_self, Nat.zero_le, true_implies]
  exact Iff.rfl

/-- The retry loop never commits. -/
theorem retryLoop_no_commit (pos : Nat) (h : H) (data : List (Text × Json))
    (result : Nat → HandlerResult) (left : Nat) :
    ∀ e ∈ (retryLoop pos h data result left).1, e.isCommit = false := by
  induction left with
  | zero => simp [retryLoop]
  | succ left ih =>
      unfold retryLoop
      simp only
      split
      · simp [Effect.isCommit]
      · split
        · simp [Effect.isCommit]
        · simpa [Effect.isCommit] using ih

theorem runHandler_no_commit (env : Env) (pos : Nat) (h : H) (data : List (Text × Json)) :
    ∀ e ∈ (runHandler env pos h data).1, e.isCommit = false := by
  have hloop := retryLoop_no_commit pos h data (env.handler pos) maxRetries
  unfold runHandler
  simp only
  split
  · exact hloop
  · intro e he
    rcases List.mem_append.mp he with he | he
    · exact hloop e he
    · rw [List.mem_singleton.mp he]
      rfl

theorem runHandlers_no_commit (env : Env) (data : List (Text × Json)) (pos : Nat) (hs : List H) :
    ∀ e ∈ (runHandlers env data pos hs).1, e.isCommit = false := by
  induction hs generalizing pos with
  | nil => simp [runHandlers]
  | cons h hs ih =>
      have hfirst := runHandler_no_commit env pos h data
      unfold runHandlers
      simp only
      split
      · exact hfirst
      · intro e he
        rcases List.mem_append.mp he with he | he
        · exact hfirst e he
        · exact ih (pos + 1) e he

/-- A handler's turn raises exactly when its dead letter does. -/
theorem runHandler_raised_iff (env : Env) (pos : Nat) (h : H) (data : List (Text × Json)) :
    (runHandler env pos h data).2 = .raised ↔ env.exhausts pos ∧ env.dlq pos = .raises := by
  have hiff := retryLoop_max_isSome_iff env pos h data
  unfold runHandler
  simp only
  split
  next hnone =>
    rw [hnone] at hiff
    simp only [Option.isSome_none, Bool.false_eq_true, false_iff] at hiff
    simp [hiff]
  next e hsome =>
    rw [hsome] at hiff
    simp only [Option.isSome_some, true_iff] at hiff
    simp [hiff]

/-- **The handlers' loop raises exactly when a dead letter does.** -/
theorem runHandlers_raised_iff (env : Env) (data : List (Text × Json)) (pos : Nat) (hs : List H) :
    (runHandlers env data pos hs).2 = .raised
      ↔ ∃ k < hs.length, env.exhausts (pos + k) ∧ env.dlq (pos + k) = .raises := by
  induction hs generalizing pos with
  | nil => simp [runHandlers]
  | cons h hs ih =>
      have hfirst := runHandler_raised_iff env pos h data
      unfold runHandlers
      simp only
      split
      next hr =>
        -- the first handler's dead letter ends the loop
        rw [hr]
        simp only [true_iff]
        exact ⟨0, by simp, hfirst.mp hr⟩
      next hr =>
        -- the rest runs one position further on
        rw [ih]
        have hnot : ¬ (env.exhausts pos ∧ env.dlq pos = .raises) := by
          intro hex
          rw [hfirst.mpr hex] at hr
          exact absurd hr (by simp)
        constructor
        · intro hex
          obtain ⟨k, hk, hex⟩ := hex
          refine ⟨k + 1, by simpa using hk, ?_⟩
          rwa [show pos + (k + 1) = pos + 1 + k by omega]
        · intro hex
          obtain ⟨k, hk, hex⟩ := hex
          cases k with
          | zero => exact absurd hex hnot
          | succ k =>
              refine ⟨k, by simpa using hk, ?_⟩
              rwa [show pos + 1 + k = pos + (k + 1) by omega]

end

end HotelAgent
