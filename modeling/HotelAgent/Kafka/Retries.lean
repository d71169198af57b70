/-
  HotelAgent.Kafka.Retries — what the retry loop does, call by call.

  `Env.turn` says what one handler is owed: it is called until it returns, three
  times at most, with 1 and then 5 seconds in between, and leaves a dead letter
  with the error of its third call if none of them returned.  A message is owed
  the turns of its handlers in the order they were registered, and one commit.

  Main result, `retriesExactly_iff`: `_process_message` does exactly this unless
  the publish of some dead letter raises, which leaves the remaining handlers and
  the commit out.
-/
import HotelAgent.Kafka.Delivery

namespace HotelAgent

open Lib

variable {H : Type}

/-! ## §1. What a handler is owed. -/

/-- The number of calls: up to the first that returns, and `MAX_RETRIES` at most. -/
def Env.callsMade (env : Env) (pos : Nat) : Nat :=
  (((List.range maxRetries).find? fun j => decide (env.handler pos j = .returns)).map
    (· + 1)).getD maxRetries

/-- The seconds before call `j`, counted from 0. -/
def waitBefore : Nat → List Nat
  | 1 => [1]
  | 2 => [5]
  | _ => []

/-- The error of a call. -/
def HandlerResult.error : HandlerResult → Text
  | .returns => []
  | .raises e => e

/-- The turn of the handler at position `pos`. -/
def Env.turn (env : Env) (data : List (Text × Json)) (pos : Nat) (h : H) : List (Effect H) :=
  ((List.range (env.callsMade pos)).flatMap fun j =>
      (waitBefore j).map .sleep ++ [.call pos h data (env.handler pos j)])
    ++ if env.exhausts pos then [.dlq pos (env.handler pos 2).error (env.dlq pos)] else []

/-- The turns of the handlers from position `pos` on. -/
def Env.turns (env : Env) (data : List (Text × Json)) : (pos : Nat) → List H → List (Effect H)
  | _, [] => []
  | pos, h :: hs => env.turn data pos h ++ env.turns data (pos + 1) hs

/-- **The retry loop is exact**: the handlers' turns, then the commit, then `return`. -/
structure RetriesExactly (env : Env) (data : List (Text × Json)) (hs : List H)
    (run : List (Effect H) × ProcessResult) : Prop where
  effects : run.1 = env.turns data 0 hs ++ [.commit]
  returned : run.2 = .returned
  /-- `RETRY_BACKOFF_S` is never indexed out of its range. -/
  backoff : ∀ seconds, .sleep seconds ∈ run.1 → ∃ k < 3, seconds = [1, 5, 15].getD k 0

/-- The number of calls, call by call. -/
theorem callsMade_eq (env : Env) (pos : Nat) :
    env.callsMade pos
      = if env.handler pos 0 = .returns then 1
        else if env.handler pos 1 = .returns then 2 else 3 := by
  unfold Env.callsMade
  show ((([0, 1, 2] : List Nat).find? fun j => decide (env.handler pos j = .returns)).map
    (· + 1)).getD maxRetries = _
  by_cases h0 : env.handler pos 0 = .returns
  · simp [h0]
  · by_cases h1 : env.handler pos 1 = .returns
    · simp [h0, h1]
    · by_cases h2 : env.handler pos 2 = .returns
      · simp [h0, h1, h2]
      · simp [h0, h1, h2, maxRetries]

/-- A handler that returns at some call is called up to it. -/
theorem callsMade_of_first {env : Env} {pos k : Nat} (hk : env.handler pos k = .returns)
    (hbefore : ∀ j < k, env.handler pos j ≠ .returns) :
    env.callsMade pos = min (k + 1) maxRetries := by
  rw [callsMade_eq]
  unfold maxRetries
  match k, hk, hbefore with
  | 0, hk, _ =>
      rw [if_pos hk]
      omega
  | 1, hk, hbefore =>
      rw [if_neg (hbefore 0 (by omega)), if_pos hk]
      omega
  | k + 2, _, hbefore =>
      rw [if_neg (hbefore 0 (by omega)), if_neg (hbefore 1 (by omega))]
      omega

/-- A handler that never returns is called `MAX_RETRIES` times. -/
theorem callsMade_of_never {env : Env} {pos : Nat} (h : ∀ j, env.handler pos j ≠ .returns) :
    env.callsMade pos = maxRetries := by
  rw [callsMade_eq, if_neg (h 0), if_neg (h 1)]
  rfl

/-! ## §2. The loops. -/

theorem exhausts_iff (env : Env) (pos : Nat) :
    env.exhausts pos ↔ env.handler pos 0 ≠ .returns ∧ env.handler pos 1 ≠ .returns
      ∧ env.handler pos 2 ≠ .returns := by
  unfold Env.exhausts maxRetries
  constructor
  · intro h
    exact ⟨h 0 (by omega), h 1 (by omega), h 2 (by omega)⟩
  · intro h j hj
    obtain ⟨h0, h1, h2⟩ := h
    match j, hj with
    | 0, _ => exact h0
    | 1, _ => exact h1
    | 2, _ => exact h2

/-- **One handler gets its turn.** -/
theorem runHandler_eq_turn (env : Env) (data : List (Text × Json)) (pos : Nat) (h : H) :
    (runHandler env pos h data).1 = env.turn data pos h := by
  have hcalls := callsMade_eq env pos
  have hexhausts := exhausts_iff env pos
  unfold runHandler Env.turn
  rw [hcalls]
  -- the outcomes of the three calls, each looked at only if the ones before raised
  cases h0 : env.handler pos 0 with
  | returns =>
      have hnot : ¬ env.exhausts pos := fun hex => (hexhausts.mp hex).1 h0
      simp [retryLoop, maxRetries, h0, hnot, List.range_succ, waitBefore]
  | raises e0 =>
      cases h1 : env.handler pos 1 with
      | returns =>
          have hnot : ¬ env.exhausts pos := fun hex => (hexhausts.mp hex).2.1 h1
          simp [retryLoop, maxRetries, retryBackoffS, h0, h1, hnot, List.range_succ, waitBefore]
      | raises e1 =>
          cases h2 : env.handler pos 2 with
          | returns =>
              have hnot : ¬ env.exhausts pos := fun hex => (hexhausts.mp hex).2.2 h2
              simp [retryLoop, maxRetries, retryBackoffS, h0, h1, h2, hnot, List.range_succ,
                waitBefore]
          | raises e2 =>
              have hex : env.exhausts pos := hexhausts.mpr (by simp [h0, h1, h2])
              simp [retryLoop, maxRetries, retryBackoffS, h0, h1, h2, hex, List.range_succ,
                waitBefore, HandlerResult.error]

/-- **Every handler gets its turn**, as long as no publish raises. -/
theorem runHandlers_eq_turns (env : Env) (data : List (Text × Json)) (pos : Nat) (hs : List H)
    (h : (runHandlers env data pos hs).2 = .returned) :
    (runHandlers env data pos hs).1 = env.turns data pos hs := by
  induction hs generalizing pos with
  | nil => rfl
  | cons handler hs ih =>
      unfold runHandlers at h ⊢
      unfold Env.turns
      simp only at h ⊢
      cases hfirst : (runHandler env pos handler data).2 with
      | raised =>
          rw [hfirst] at h
          exact absurd (hfirst.symm.trans h) (by simp)
      | returned =>
          rw [hfirst] at h
          simp only [runHandler_eq_turn] at h ⊢
          rw [ih (pos + 1) h]

/-- The waits are 1 and 5 seconds. -/
theorem sleep_mem_turns {env : Env} {data : List (Text × Json)} {seconds : Nat} {hs : List H}
    {pos : Nat} (h : .sleep seconds ∈ env.turns data pos hs) : seconds = 1 ∨ seconds = 5 := by
  induction hs generalizing pos with
  | nil => exact absurd h List.not_mem_nil
  | cons handler hs ih =>
      unfold Env.turns at h
      rcases List.mem_append.mp h with h | h
      · unfold Env.turn at h
        rcases List.mem_append.mp h with h | h
        · obtain ⟨j, _, h⟩ := List.mem_flatMap.mp h
          rcases List.mem_append.mp h with h | h
          · obtain ⟨n, hn, heq⟩ := List.mem_map.mp h
            injection heq with heq
            subst heq
            unfold waitBefore at hn
            split at hn
            · exact .inl (List.mem_singleton.mp hn)
            · exact .inr (List.mem_singleton.mp hn)
            · exact absurd hn List.not_mem_nil
          · exact absurd (List.mem_singleton.mp h) (by simp)
        · split at h
          · exact absurd (List.mem_singleton.mp h) (by simp)
          · exact absurd h List.not_mem_nil
      · exact ih h

/-- **The exact behaviour of the retry loop**, for every message with handlers and every
way their calls turn out: it has it exactly if no dead letter's publish raises. -/
theorem retriesExactly_iff (py : Python) (reg : Registry H) (env : Env) (msg : KafkaMessage)
    {data : List (Text × Json)} {hs : List H} (hl : lookup py reg msg.value = .found data hs) :
    RetriesExactly env data hs (processMessage py reg env msg) ↔ ¬ env.dlqRaises hs.length := by
  rw [processMessage_of_found hl]
  constructor
  · intro h hraises
    have hreturned := h.returned
    rw [if_pos hraises] at hreturned
    exact absurd hreturned (by simp)
  · intro hraises
    have hreturned : (runHandlers env data 0 hs).2 = .returned := by
      cases hcase : (runHandlers env data 0 hs).2 with
      | returned => rfl
      | raised =>
          have hex := (runHandlers_raised_iff env data 0 hs).mp hcase
          simp only [Nat.zero_add] at hex
          exact absurd hex hraises
    rw [if_neg hraises, runHandlers_eq_turns env data 0 hs hreturned]
    refine ⟨rfl, rfl, fun seconds hmem => ?_⟩
    rcases List.mem_append.mp hmem with hmem | hmem
    · rcases sleep_mem_turns hmem with rfl | rfl
      · exact ⟨0, by omega, rfl⟩
      · exact ⟨1, by omega, rfl⟩
    · exact absurd (List.mem_singleton.mp hmem) (by simp)

/-- The one message of `oneEventLog`. -/
def oneEventMessage : KafkaMessage :=
  ⟨oneEventLog.topic, oneEventLog.partition, 0, oneEventLog.values.getD 0 none⟩

/-- The first handler returns at its third call, the second never. -/
def flakyEnv (dlq : DlqResult) : Env where
  handler := fun pos j =>
    if pos = 0 ∧ j = 2 then .returns else .raises (txt "boom" ++ natText j)
  dlq := fun _ => dlq

theorem retries_of_flaky_handlers :
    lookup plainPython [(txt "t", [true, false])] oneEventMessage.value
        = .found [(txt "event_type", .str (txt "t"))] [true, false]
      ∧ RetriesExactly (flakyEnv .accepted) [(txt "event_type", .str (txt "t"))] [true, false]
        (processMessage plainPython [(txt "t", [true, false])] (flakyEnv .accepted)
          oneEventMessage) :=
  ⟨rfl, (retriesExactly_iff plainPython [(txt "t", [true, false])] (flakyEnv .accepted)
    oneEventMessage rfl).mpr (by decide)⟩

/-- The handler fails three times, and the queue of the producer is full: no commit. -/
theorem full_queue_leaves_message_uncommitted :
    ¬ ∀ (py : Python) (reg : Registry Bool) (env : Env) (msg : KafkaMessage)
      (data : List (Text × Json)) (hs : List Bool), lookup py reg msg.value = .found data hs →
        RetriesExactly env data hs (processMessage py reg env msg) := by
  intro h
  have hexact := h plainPython [(txt "t", [true, false])] (flakyEnv .raises) oneEventMessage
    [(txt "event_type", .str (txt "t"))] [true, false] rfl
  exact absurd hexact.returned (by decide)

end HotelAgent
