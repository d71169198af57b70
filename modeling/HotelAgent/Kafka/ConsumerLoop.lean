/-
  HotelAgent.Kafka.ConsumerLoop — the process around `_process_message`.

  `start` polls the partitions that are assigned to it, in whatever order the
  messages come, until somebody calls `stop`, an interrupt arrives or a pass
  raises.  A commit is asynchronous: the process goes on from the offset that it
  has committed, the next process from the one that the broker has stored.

      start ─▶ poll ─▶ nothing, an error      ─▶ poll
                 │  ─▶ a message ─▶ pass      ─▶ poll, or out where it raises
                 └──▶ an interrupt, or stopped ─▶ out

  On each partition this is the consumer of one partition.

  Main results:
    * `progress_run` — on every partition a run of the process is a run of that
      consumer.
    * `loop_loses_nothing_iff` — nothing is lost on any partition exactly if no
      pass of the run that commits gives up a handler whose dead letter is not
      accepted, unless an earlier pass has settled that handler for the message.
    * `handed_once_iff` — every message is handed to `_process_message` once and in
      order, exactly if no pass breaks off and no process starts behind its
      predecessor.
-/
import HotelAgent.Kafka.Delivery

namespace HotelAgent

open Lib

variable {H : Type}

/-! ## §1. The process. -/

structure TopicPartition where
  topic : Text
  partition : Nat
  deriving DecidableEq

/-- What `self._consumer.poll(timeout=1.0)` comes back with. -/
inductive PollResult where
  /-- `None`. -/
  | nothing
  /-- A message with an error; the end of a partition is one. -/
  | error (partitionEof : Bool)
  /-- A KeyboardInterrupt. -/
  | interrupt
  /-- The next message of a partition, if there is one; `stored` tells whether the broker gets
  the commit. -/
  | message (p : TopicPartition) (env : Env) (stored : Bool)

/-- What can happen to a consumer service. -/
inductive LoopStep where
  /-- A process calls `start`. -/
  | start
  /-- `stop`, from the handler of a signal. -/
  | stop
  /-- The body of the loop, once. -/
  | poll (result : PollResult)
  /-- The process dies within a pass, after `effects` effects and before the commit; so does a
  KeyboardInterrupt there. -/
  | die (p : TopicPartition) (env : Env) (effects : Nat)
  /-- The partition is taken away and assigned again. -/
  | rebalance (p : TopicPartition)

/-- A consumer service, with the history of its passes. -/
structure ConsumerService where
  /-- `self._running`. -/
  running : Bool
  /-- A process is in `start`. -/
  inLoop : Bool
  /-- What the process has committed, and what has been done for whom. -/
  progress : TopicPartition → Progress
  /-- The offset that the broker has stored. -/
  stored : TopicPartition → Nat
  /-- The offsets handed to `_process_message`. -/
  handed : TopicPartition → List Nat

namespace ConsumerService

/-- The process goes on from the stored offset. -/
def resumed (s : ConsumerService) (p : TopicPartition) : Progress :=
  { s.progress p with committed := s.stored p }

section
variable (py : Python) (reg : Registry H) (logs : TopicPartition → PartitionLog)

/-- The message that `poll` has next for a partition. -/
def next (s : ConsumerService) (p : TopicPartition) : Option KafkaMessage :=
  (logs p).message? (s.progress p).committed

/-- `self._process_message(msg)`. -/
def pass (s : ConsumerService) (p : TopicPartition) (env : Env) (stored : Bool)
    (msg : KafkaMessage) : ConsumerService :=
  let offset := (s.progress p).committed
  let (effects, result) := processMessage py reg env msg
  { s with
    progress := Function.update s.progress p (effects.foldl (applyEffect offset) (s.progress p))
    stored :=
      if result = .returned ∧ stored = true then Function.update s.stored p (offset + 1)
      else s.stored
    handed := Function.update s.handed p (s.handed p ++ [offset])
    -- an exception leaves the loop
    inLoop := result = .returned }

/-- A pass that the process does not survive. -/
def brokenPass (s : ConsumerService) (p : TopicPartition) (env : Env) (effects : Nat)
    (msg : KafkaMessage) : ConsumerService :=
  let offset := (s.progress p).committed
  let done := ((processMessage py reg env msg).1.takeWhile fun e => !e.isCommit).take effects
  { s with
    progress := Function.update s.progress p (done.foldl (applyEffect offset) (s.progress p))
    handed := Function.update s.handed p (s.handed p ++ [offset])
    inLoop := false }

/-- The body of `while self._running`, after `poll`. -/
def polled (s : ConsumerService) : PollResult → ConsumerService
  | .nothing => s
  -- `_handle_error` writes to the log at most
  | .error _ => s
  | .interrupt => { s with inLoop := false }
  | .message p env stored =>
    match s.next logs p with
    | none => s
    | some msg => s.pass py reg p env stored msg

/-- One step. -/
def step (s : ConsumerService) : LoopStep → ConsumerService
  | .start =>
    if s.inLoop then s
    -- a `stop` before is forgotten
    else { s with running := true, inLoop := true, progress := s.resumed }
  | .stop => { s with running := false }
  | .poll result =>
    if s.inLoop = false then s
    else if s.running = false then { s with inLoop := false }
    else s.polled py reg logs result
  | .die p env effects =>
    if s.inLoop = true ∧ s.running = true then
      match s.next logs p with
      | none => { s with inLoop := false }
      | some msg => s.brokenPass py reg p env effects msg
    else s
  | .rebalance p => { s with progress := Function.update s.progress p (s.resumed p) }

/-- A group that has consumed nothing, and no process. -/
def fresh : ConsumerService where
  running := false
  inLoop := false
  progress := fun _ => freshProgress
  stored := fun _ => 0
  handed := fun _ => []

/-! ## §2. What a pass commits. -/

/-- `_process_message` commits its message exactly if it returns. -/
theorem committed_processMessage (env : Env) (msg : KafkaMessage) (t : Progress) :
    ((processMessage py reg env msg).1.foldl (applyEffect t.committed) t).committed
      = if (processMessage py reg env msg).2 = .returned then t.committed + 1
        else t.committed := by
  cases hl : lookup py reg msg.value with
  | uncaught =>
      rw [processMessage_of_uncaught hl]
      rfl
  | malformed =>
      rw [processMessage_of_malformed hl]
      rfl
  | found data hs =>
      have hno := runHandlers_no_commit env data 0 hs
      rw [processMessage_of_found hl]
      by_cases hr : env.dlqRaises hs.length
      · rw [if_pos hr]
        exact committed_foldl t.committed t hno
      · rw [if_neg hr, List.foldl_append]
        rfl

/-- The broker is never ahead of the processes. -/
def StoredBehind (s : ConsumerService) : Prop :=
  ∀ p, s.stored p ≤ (s.progress p).committed

theorem storedBehind_fresh : StoredBehind fresh := fun _ => Nat.le_refl 0

theorem storedBehind_pass {s : ConsumerService} (h : s.StoredBehind) (p : TopicPartition)
    (env : Env) (stored : Bool) (msg : KafkaMessage) :
    (s.pass py reg p env stored msg).StoredBehind := by
  intro q
  have hcommitted := committed_processMessage py reg env msg (s.progress p)
  unfold pass
  simp only
  by_cases hq : q = p
  · subst hq
    rw [Function.update_self, hcommitted]
    have hq := h q
    by_cases hret : (processMessage py reg env msg).2 = .returned
    · rw [if_pos hret]
      split
      · rw [Function.update_self]
      · omega
    · rw [if_neg hret, if_neg fun hboth => hret hboth.1]
      exact hq
  · rw [Function.update_of_ne hq]
    split
    · rw [Function.update_of_ne hq]
      exact h q
    · exact h q

theorem storedBehind_step (s : ConsumerService) (i : LoopStep) (h : s.StoredBehind) :
    (s.step py reg logs i).StoredBehind := by
  cases i with
  | start =>
      unfold step
      simp only
      split
      · exact h
      · intro p
        exact Nat.le_refl (s.stored p)
  | stop => exact h
  | poll result =>
      unfold step
      simp only
      split
      · exact h
      · split
        · exact h
        · cases result with
          | nothing => exact h
          | error eof => exact h
          | interrupt => exact h
          | message p env stored =>
              unfold polled
              simp only
              split
              · exact h
              next msg _ => exact storedBehind_pass py reg h p env stored msg
  | die p env effects =>
      unfold step
      simp only
      split
      · split
        · exact h
        next msg _ =>
          intro q
          unfold brokenPass
          simp only
          by_cases hq : q = p
          · subst hq
            rw [Function.update_self, committed_foldl _ _ (crash_no_commit _ effects)]
            exact h q
          · rw [Function.update_of_ne hq]
            exact h q
      · exact h
  | rebalance p =>
      intro q
      unfold step
      simp only
      by_cases hq : q = p
      · subst hq
        rw [Function.update_self]
        exact Nat.le_refl (s.stored q)
      · rw [Function.update_of_ne hq]
        exact h q

/-! ## §3. One partition of it. -/

/-- A step that leaves the consumer of a partition alone. -/
def idle (s : ConsumerService) (p : TopicPartition) : ConsumerStep :=
  .restart (s.progress p).committed

/-- What a step is to the consumer of the partition `p`. -/
def onPartition (p : TopicPartition) (s : ConsumerService) : LoopStep → ConsumerStep
  | .start => if s.inLoop then s.idle p else .restart (s.stored p)
  | .poll (.message q env _) =>
    if s.inLoop = true ∧ s.running = true ∧ q = p then .process env else s.idle p
  | .die q env effects =>
    if s.inLoop = true ∧ s.running = true ∧ q = p then .crash env effects else s.idle p
  | .rebalance q => if q = p then .restart (s.stored p) else s.idle p
  | _ => s.idle p

theorem consumerStep_idle (s : ConsumerService) (p : TopicPartition) :
    consumerStep py reg (logs p) (s.progress p) (s.idle p) = s.progress p := by
  show (if (s.progress p).committed ≤ (s.progress p).committed then _ else _) = _
  rw [if_pos (Nat.le_refl _)]

theorem consumerStep_resumed {s : ConsumerService} (h : s.StoredBehind) (p : TopicPartition) :
    consumerStep py reg (logs p) (s.progress p) (.restart (s.stored p)) = s.resumed p := by
  show (if s.stored p ≤ (s.progress p).committed then _ else _) = _
  rw [if_pos (h p)]
  rfl

/-- A message of a partition, as the consumer of each partition meets it. -/
theorem progress_polled (s : ConsumerService) (p q : TopicPartition) (env : Env)
    (stored : Bool) :
    (s.polled py reg logs (.message q env stored)).progress p
      = if q = p then consumerStep py reg (logs p) (s.progress p) (.process env)
        else s.progress p := by
  unfold polled
  simp only
  by_cases hq : q = p
  · subst hq
    rw [if_pos rfl]
    unfold consumerStep
    cases hnext : s.next logs q with
    | none =>
        simp only
        rw [show (logs q).message? (s.progress q).committed = none from hnext]
    | some msg =>
        simp only
        rw [show (logs q).message? (s.progress q).committed = some msg from hnext]
        exact Function.update_self ..
  · rw [if_neg hq]
    cases s.next logs q with
    | none => rfl
    | some msg => exact Function.update_of_ne (Ne.symm hq) ..

/-- A death within a pass. -/
theorem progress_died (s : ConsumerService) (p q : TopicPartition) (env : Env) (effects : Nat)
    (hon : s.inLoop = true ∧ s.running = true) :
    (s.step py reg logs (.die q env effects)).progress p
      = if q = p then consumerStep py reg (logs p) (s.progress p) (.crash env effects)
        else s.progress p := by
  unfold step
  simp only
  rw [if_pos hon]
  by_cases hq : q = p
  · subst hq
    rw [if_pos rfl]
    unfold consumerStep
    cases hnext : s.next logs q with
    | none =>
        simp only
        rw [show (logs q).message? (s.progress q).committed = none from hnext]
    | some msg =>
        simp only
        rw [show (logs q).message? (s.progress q).committed = some msg from hnext]
        exact Function.update_self ..
  · rw [if_neg hq]
    cases s.next logs q with
    | none => rfl
    | some msg => exact Function.update_of_ne (Ne.symm hq) ..

/-- **One step**, on one partition. -/
theorem progress_step (p : TopicPartition) (s : ConsumerService) (i : LoopStep)
    (h : s.StoredBehind) :
    (s.step py reg logs i).progress p
      = consumerStep py reg (logs p) (s.progress p) (onPartition p s i) := by
  have hidle := (consumerStep_idle py reg logs s p).symm
  cases i with
  | start =>
      unfold step onPartition
      simp only
      split
      · exact hidle
      · exact (consumerStep_resumed py reg logs h p).symm
  | stop => exact hidle
  | poll result =>
      unfold step
      simp only
      cases result with
      | nothing =>
          split
          · exact hidle
          · split <;> exact hidle
      | error eof =>
          split
          · exact hidle
          · split <;> exact hidle
      | interrupt =>
          split
          · exact hidle
          · split <;> exact hidle
      | message q env stored =>
          unfold onPartition
          simp only
          split
          next hout =>
            rw [if_neg fun hon => absurd hon.1 (by rw [hout]; decide)]
            exact hidle
          next hin =>
            split
            next hstopped =>
              rw [if_neg fun hon => absurd hon.2.1 (by rw [hstopped]; decide)]
              exact hidle
            next hrunning =>
              rw [progress_polled]
              have hon : s.inLoop = true ∧ s.running = true :=
                ⟨Bool.eq_true_of_not_eq_false hin, Bool.eq_true_of_not_eq_false hrunning⟩
              by_cases hq : q = p
              · rw [if_pos hq, if_pos ⟨hon.1, hon.2, hq⟩]
              · rw [if_neg hq, if_neg fun hall => hq hall.2.2]
                exact hidle
  | die q env effects =>
      by_cases hon : s.inLoop = true ∧ s.running = true
      · rw [progress_died py reg logs s p q env effects hon]
        unfold onPartition
        simp only
        by_cases hq : q = p
        · rw [if_pos hq, if_pos ⟨hon.1, hon.2, hq⟩]
        · rw [if_neg hq, if_neg fun hall => hq hall.2.2]
          exact hidle
      · unfold step onPartition
        simp only
        rw [if_neg hon, if_neg fun hall => hon ⟨hall.1, hall.2.1⟩]
        exact hidle
  | rebalance q =>
      unfold step onPartition
      simp only
      by_cases hq : q = p
      · subst hq
        rw [if_pos rfl, Function.update_self]
        exact (consumerStep_resumed py reg logs h q).symm
      · rw [if_neg hq, Function.update_of_ne (Ne.symm hq)]
        exact hidle

/-- **On each partition a run of the process is a run of the consumer of that partition.** -/
theorem progress_run (p : TopicPartition) (is : List LoopStep) :
    (run (step py reg logs) fresh is).progress p
      = run (consumerStep py reg (logs p)) freshProgress
        (mapInputs (step py reg logs) (onPartition p) fresh is) := by
  let view : ConsumerService → Progress := fun s => s.progress p
  have hview : ∀ s i, s.StoredBehind → view (s.step py reg logs i)
      = consumerStep py reg (logs p) (view s) (onPartition p s i) :=
    progress_step py reg logs p
  exact view_run (storedBehind_step py reg logs) hview storedBehind_fresh is

/-- **At least once, for the whole process.**  However the messages of the partitions mix, and
wherever processes stop, die and start: nothing is lost on any partition exactly if no pass that
commits gives up a handler whose dead letter is not accepted.  A handler that has returned for the
message in an earlier pass, or whose dead letter was accepted there, may be given up. -/
theorem loop_loses_nothing_iff (is : List LoopStep) :
    AllStates (step py reg logs) (fun s => ∀ p, NothingLost py reg (logs p) (s.progress p))
        fresh is
      ↔ AllSteps (step py reg logs)
        (fun s i => ∀ p, GivesUpNone py reg (logs p) (s.progress p) (onPartition p s i))
        fresh is := by
  refine allStates_iff_allSteps (K := StoredBehind) (storedBehind_step py reg logs)
    (fun s i hbehind h => forall_congr' fun p => ?_) storedBehind_fresh
    (fun p _ ho => absurd ho (Nat.not_lt_zero _)) is
  rw [progress_step py reg logs p s i hbehind]
  exact nothingLost_step_iff py reg (logs p) (h p) (onPartition p s i)

/-! ## §4. Once and in order. -/

/-- **Each message below the committed offset has been handed to `_process_message` once, in order,
and no other message at all.**  A malformed one and one without handlers count like all others. -/
def HandedOnce (s : ConsumerService) : Prop :=
  ∀ p, s.handed p = List.range (s.progress p).committed

/-- Nothing that has been handed over is handed over again for this step: a process starts where
the one before it has ended, and a pass that begins returns. -/
def Smooth (s : ConsumerService) : LoopStep → Prop
  | .start => s.inLoop = true ∨ ∀ p, s.stored p = (s.progress p).committed
  | .stop => True
  | .poll (.message p env _) =>
    s.inLoop = true → s.running = true → ∀ msg, s.next logs p = some msg →
      (processMessage py reg env msg).2 = .returned
  | .poll _ => True
  | .die p _ _ => s.inLoop = true → s.running = true → s.next logs p = none
  | .rebalance p => s.stored p = (s.progress p).committed

/-- A list of offsets is not complete if the last one is handed over and not committed. -/
theorem range_append_ne (n : Nat) : List.range n ++ [n] ≠ List.range n := by
  intro h
  have hlength := congrArg List.length h
  rw [List.length_append, List.length_range] at hlength
  exact absurd hlength (by simp)

theorem range_eq_range_iff {m n : Nat} : List.range m = List.range n ↔ m = n := by
  constructor
  · intro h
    have hlength := congrArg List.length h
    rwa [List.length_range, List.length_range] at hlength
  · intro h
    rw [h]

/-- A pass keeps the order exactly if it returns. -/
theorem handedOnce_pass_iff {s : ConsumerService} (h : s.HandedOnce) (p : TopicPartition)
    (env : Env) (stored : Bool) (msg : KafkaMessage) :
    (s.pass py reg p env stored msg).HandedOnce
      ↔ (processMessage py reg env msg).2 = .returned := by
  have hcommitted := committed_processMessage py reg env msg (s.progress p)
  constructor
  · intro hafter
    by_contra hraised
    have hp := hafter p
    unfold pass at hp
    simp only [Function.update_self] at hp
    rw [hcommitted, if_neg hraised, h p] at hp
    exact range_append_ne _ hp
  · intro hret q
    unfold pass
    simp only
    by_cases hq : q = p
    · subst hq
      rw [Function.update_self, Function.update_self, hcommitted, if_pos hret, h q,
        List.range_succ]
    · rw [Function.update_of_ne hq, Function.update_of_ne hq]
      exact h q

/-- A pass that breaks off leaves a message that is handed over again. -/
theorem not_handedOnce_brokenPass {s : ConsumerService} (h : s.HandedOnce) (p : TopicPartition)
    (env : Env) (effects : Nat) (msg : KafkaMessage) :
    ¬ (s.brokenPass py reg p env effects msg).HandedOnce := by
  intro hafter
  have hp := hafter p
  unfold brokenPass at hp
  simp only [Function.update_self] at hp
  rw [committed_foldl _ _ (crash_no_commit _ effects), h p] at hp
  exact range_append_ne _ hp

/-- A process that starts keeps the order exactly if it goes on where the one before has ended. -/
theorem handedOnce_start_iff {s : ConsumerService} (h : s.HandedOnce) :
    (s.step py reg logs .start).HandedOnce ↔ Smooth py reg logs s .start := by
  unfold step Smooth
  simp only
  by_cases hin : s.inLoop = true
  · rw [if_pos hin]
    exact iff_of_true h (.inl hin)
  · rw [if_neg hin]
    constructor
    · intro hafter
      refine .inr fun p => ?_
      exact (range_eq_range_iff.mp ((h p).symm.trans (hafter p))).symm
    · intro hsmooth p
      have hp := hsmooth.resolve_left hin p
      show s.handed p = List.range (s.stored p)
      rw [hp]
      exact h p

theorem handedOnce_message_iff {s : ConsumerService} (h : s.HandedOnce) (p : TopicPartition)
    (env : Env) (stored : Bool) :
    (s.polled py reg logs (.message p env stored)).HandedOnce
      ↔ ∀ msg, s.next logs p = some msg → (processMessage py reg env msg).2 = .returned := by
  unfold polled
  simp only
  cases hnext : s.next logs p with
  | none => exact iff_of_true h fun msg hmsg => absurd hmsg (by simp)
  | some msg =>
      refine (handedOnce_pass_iff py reg h p env stored msg).trans ?_
      constructor
      · intro hret msg' hmsg
        injection hmsg with hmsg
        rw [← hmsg]
        exact hret
      · intro hall
        exact hall msg rfl

/-- A turn of the loop keeps the order exactly if its message's pass, if there is one, returns. -/
theorem handedOnce_poll_iff {s : ConsumerService} (h : s.HandedOnce) (result : PollResult) :
    (s.step py reg logs (.poll result)).HandedOnce ↔ Smooth py reg logs s (.poll result) := by
  unfold step
  simp only
  by_cases hon : s.inLoop = true ∧ s.running = true
  · rw [if_neg (by rw [hon.1]; decide), if_neg (by rw [hon.2]; decide)]
    cases result with
    | nothing => exact iff_of_true h trivial
    | error eof => exact iff_of_true h trivial
    | interrupt => exact iff_of_true h trivial
    | message p env stored =>
        rw [handedOnce_message_iff py reg logs h]
        exact ⟨fun hall _ _ => hall, fun hsmooth => hsmooth hon.1 hon.2⟩
  · -- out of the loop, or leaving it
    have hsame : (if s.inLoop = false then s
        else if s.running = false then { s with inLoop := false }
        else s.polled py reg logs result).HandedOnce := by
      split
      · exact h
      next hin =>
        split
        · exact h
        next hrunning =>
          exact absurd ⟨Bool.eq_true_of_not_eq_false hin,
            Bool.eq_true_of_not_eq_false hrunning⟩ hon
    refine iff_of_true hsame ?_
    cases result with
    | nothing => trivial
    | error eof => trivial
    | interrupt => trivial
    | message p env stored => exact fun hin hrunning => absurd ⟨hin, hrunning⟩ hon

theorem handedOnce_die_iff {s : ConsumerService} (h : s.HandedOnce) (p : TopicPartition)
    (env : Env) (effects : Nat) :
    (s.step py reg logs (.die p env effects)).HandedOnce
      ↔ Smooth py reg logs s (.die p env effects) := by
  unfold step Smooth
  simp only
  by_cases hon : s.inLoop = true ∧ s.running = true
  · rw [if_pos hon]
    cases hnext : s.next logs p with
    | none => exact iff_of_true h fun _ _ => rfl
    | some msg =>
        refine iff_of_false (not_handedOnce_brokenPass py reg h p env effects msg) ?_
        intro hsmooth
        exact absurd (hsmooth hon.1 hon.2) (by simp)
  · rw [if_neg hon]
    exact iff_of_true h fun hin hrunning => absurd ⟨hin, hrunning⟩ hon

/-- A partition that comes back keeps the order exactly if the broker has every commit of it. -/
theorem handedOnce_rebalance_iff {s : ConsumerService} (h : s.HandedOnce) (p : TopicPartition) :
    (s.step py reg logs (.rebalance p)).HandedOnce ↔ Smooth py reg logs s (.rebalance p) := by
  unfold step Smooth
  simp only
  constructor
  · intro hafter
    have hp := hafter p
    simp only [Function.update_self] at hp
    exact (range_eq_range_iff.mp ((h p).symm.trans hp)).symm
  · intro hstored q
    show s.handed q = List.range (Function.update s.progress p (s.resumed p) q).committed
    by_cases hq : q = p
    · subst hq
      rw [Function.update_self]
      show s.handed q = List.range (s.stored q)
      rw [hstored]
      exact h q
    · rw [Function.update_of_ne hq]
      exact h q

theorem handedOnce_step_iff {s : ConsumerService} (h : s.HandedOnce) (i : LoopStep) :
    (s.step py reg logs i).HandedOnce ↔ Smooth py reg logs s i := by
  cases i with
  | start => exact handedOnce_start_iff py reg logs h
  | stop => exact iff_of_true h trivial
  | poll result => exact handedOnce_poll_iff py reg logs h result
  | die p env effects => exact handedOnce_die_iff py reg logs h p env effects
  | rebalance p => exact handedOnce_rebalance_iff py reg logs h p

/-- **Exactly once**, as far as the process can help it: the messages of every
partition are handed to `_process_message` once and in order, exactly if no pass breaks off or
raises, and no process goes on behind what its predecessor has committed.  To stop is not among
it. -/
theorem handed_once_iff (is : List LoopStep) :
    AllStates (step py reg logs) HandedOnce fresh is
      ↔ AllSteps (step py reg logs) (Smooth py reg logs) fresh is :=
  allStates_iff_allSteps (K := fun _ => True) (fun _ _ _ => trivial)
    (fun _ i _ h => handedOnce_step_iff py reg logs h i) trivial (fun _ => rfl) is

end

end ConsumerService

end HotelAgent
