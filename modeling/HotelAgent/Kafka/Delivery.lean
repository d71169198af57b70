/-
  HotelAgent.Kafka.Delivery — what one partition's consumer loses.

  §1 asks which messages `_process_message` digests: returns from, and commits
  exactly once.  §2 and §3 put it into the loop of one partition, where the
  process may crash before any effect and restarts at the committed offset, and
  ask when every handler of every committed message has either returned or left
  an accepted dead letter.

  Main results:

      processMessage_digests_iff   — exactly the `Digestible` values
      nothingLost_iff_settled      — exactly the runs in which every handler that
                                     a committing pass gives up has its dead
                                     letter accepted, or was settled before
      stuck_at_poison              — a value that is not digestible is never passed
-/
import HotelAgent.Kafka.Consumer
import HotelAgent.Lib.Run
import Mathlib.Data.List.TakeWhile

namespace HotelAgent

open Lib

variable {H : Type}

/-! ## §1. One message. -/

/-- A value that can be a key of a `dict`. -/
def Hashable : Json → Prop
  | .arr _ => False
  | .obj _ => False
  | _ => True

/-- The values that end in a commit: malformed text, or an object whose
`event_type` is missing or can be looked up. -/
def Digestible (py : Python) : Option (List UInt8) → Prop
  | none => False
  | some bytes =>
    match decodeUtf8 bytes with
    | none => True
    | some text =>
      match loads py text with
      | .error e => e = .decodeError
      | .ok (.obj data) => Hashable (eventTypeOf data)
      | .ok _ => False

/-- How often the trace commits. -/
def commits (fx : List (Effect H)) : Nat := fx.countP Effect.isCommit

theorem commits_eq_zero {fx : List (Effect H)} (h : ∀ e ∈ fx, e.isCommit = false) :
    commits fx = 0 := by
  unfold commits
  rw [List.countP_eq_zero]
  intro e he
  simp [h e he]

theorem commits_append_commit {fx : List (Effect H)} (h : ∀ e ∈ fx, e.isCommit = false) :
    commits (fx ++ [.commit]) = 1 := by
  have hfx := commits_eq_zero h
  unfold commits at hfx ⊢
  rw [List.countP_append, hfx]
  rfl

/-- Looking up the handlers raises exactly on the values that are not digestible. -/
theorem lookup_uncaught_iff (py : Python) (reg : Registry H) (value : Option (List UInt8)) :
    lookup py reg value = .uncaught ↔ ¬ Digestible py value := by
  unfold lookup Digestible
  cases value with
  | none => simp
  | some bytes =>
      simp only
      cases decodeUtf8 bytes with
      | none => simp
      | some text =>
          simp only
          cases loads py text with
          | error e => cases e <;> simp
          | ok v =>
              cases v with
              | obj data =>
                  simp only
                  unfold handlersFor
                  cases eventTypeOf data <;> simp [Hashable]
              | _ => simp

/-- An error that the lookup does not catch ends the pass. -/
theorem processMessage_of_uncaught {py : Python} {reg : Registry H} {env : Env}
    {msg : KafkaMessage} (hl : lookup py reg msg.value = .uncaught) :
    processMessage py reg env msg = ([], .raised) := by
  unfold processMessage
  rw [hl]

/-- A value that is not JSON is committed unread. -/
theorem processMessage_of_malformed {py : Python} {reg : Registry H} {env : Env}
    {msg : KafkaMessage} (hl : lookup py reg msg.value = .malformed) :
    processMessage py reg env msg = ([.commit], .returned) := by
  unfold processMessage
  rw [hl]

/-- **What a pass does, by the outcome of the lookup.** -/
theorem processMessage_of_found {py : Python} {reg : Registry H} {env : Env} {msg : KafkaMessage}
    {data : List (Text × Json)} {hs : List H} (h : lookup py reg msg.value = .found data hs) :
    processMessage py reg env msg
      = if env.dlqRaises hs.length then ((runHandlers env data 0 hs).1, .raised)
        else ((runHandlers env data 0 hs).1 ++ [.commit], .returned) := by
  have hraised := runHandlers_raised_iff env data 0 hs
  simp only [Nat.zero_add] at hraised
  unfold processMessage
  rw [h]
  cases hs with
  | nil =>
      have : ¬ env.dlqRaises ([] : List H).length := fun ⟨_, hlt, _⟩ => absurd hlt (by simp)
      rw [if_neg this]
      rfl
  | cons x hs =>
      by_cases hr : env.dlqRaises (x :: hs).length
      · rw [if_pos hr]
        simp only [hraised.mpr hr]
      · have hres : (runHandlers env data 0 (x :: hs)).2 = .returned := by
          cases hcase : (runHandlers env data 0 (x :: hs)).2 with
          | returned => rfl
          | raised => exact absurd (hraised.mp hcase) hr
        rw [if_neg hr]
        simp only [hres]

/-- **Poison messages.**  While publishing does not raise, `_process_message`
returns and commits exactly once for the digestible values, and for no other. -/
theorem processMessage_digests_iff (py : Python) (reg : Registry H) (env : Env)
    (msg : KafkaMessage) (hdlq : ∀ pos, env.dlq pos ≠ .raises) :
    ((processMessage py reg env msg).2 = .returned
        ∧ commits (processMessage py reg env msg).1 = 1)
      ↔ Digestible py msg.value := by
  have hun := lookup_uncaught_iff py reg msg.value
  cases hl : lookup py reg msg.value with
  | uncaught =>
      have hnot := hun.mp hl
      rw [processMessage_of_uncaught hl]
      simp [hnot]
  | malformed =>
      have hdig : Digestible py msg.value := by
        by_contra hnot
        rw [hun.mpr hnot] at hl
        exact absurd hl (by simp)
      rw [processMessage_of_malformed hl]
      simp [hdig, commits, Effect.isCommit]
  | found data hs =>
      have hdig : Digestible py msg.value := by
        by_contra hnot
        rw [hun.mpr hnot] at hl
        exact absurd hl (by simp)
      have hr : ¬ env.dlqRaises hs.length := by
        rintro ⟨pos, _, _, hraise⟩
        exact hdlq pos hraise
      rw [processMessage_of_found hl, if_neg hr]
      simp [hdig, commits_append_commit (runHandlers_no_commit env data 0 hs)]

/-- A pass in which every handler returns at once. -/
def calmEnv : Env where
  handler := fun _ _ => .returns
  dlq := fun _ => .accepted

theorem calmEnv_dlq (pos : Nat) : calmEnv.dlq pos ≠ .raises := by
  simp [calmEnv]

theorem processMessage_digests_malformed :
    (∀ pos, calmEnv.dlq pos ≠ .raises)
      ∧ (processMessage plainPython ([] : Registry Unit) calmEnv
          { topic := txt "hotel.notifications", partition := 0, offset := 0,
            value := some [0xFF] }).2 = .returned :=
  ⟨calmEnv_dlq, ((processMessage_digests_iff plainPython [] calmEnv
    { topic := txt "hotel.notifications", partition := 0, offset := 0, value := some [0xFF] }
    calmEnv_dlq).mpr trivial).1⟩

/-- The body `[]` is JSON, but not an object: `_process_message` raises. -/
theorem processMessage_raises_on_array :
    ¬ ∀ (py : Python) (reg : Registry Unit) (env : Env) (msg : KafkaMessage),
      (∀ pos, env.dlq pos ≠ .raises) →
      (processMessage py reg env msg).2 = .returned
        ∧ commits (processMessage py reg env msg).1 = 1 := by
  intro h
  have hrun := (h plainPython [] calmEnv
    { topic := txt "hotel.notifications", partition := 0, offset := 0,
      value := some [0x5B, 0x5D] } calmEnv_dlq).1
  exact absurd hrun (by decide)

/-! ## §2. What a pass settles. -/

/-- The pass leaves the handler at `pos` either returned or dead-lettered. -/
def Env.settles (env : Env) (pos : Nat) : Prop := ¬ env.exhausts pos ∨ env.dlq pos = .accepted

instance (env : Env) (pos : Nat) : Decidable (env.settles pos) :=
  inferInstanceAs (Decidable (_ ∨ _))

/-- The effect is a normal return of the handler at `pos`. -/
def Effect.returnsAt (pos : Nat) : Effect H → Bool
  | .call p _ _ .returns => pos = p
  | _ => false

/-- The effect is an accepted dead letter for the handler at `pos`. -/
def Effect.deadLettersAt (pos : Nat) : Effect H → Bool
  | .dlq p _ .accepted => pos = p
  | _ => false

/-- The retries contain a normal return exactly when they report no error. -/
theorem retryLoop_returns_iff (pos p : Nat) (h : H) (data : List (Text × Json))
    (result : Nat → HandlerResult) (left : Nat) (hpos : 0 < left) :
    (∃ e ∈ (retryLoop pos h data result left).1, e.returnsAt p = true)
      ↔ p = pos ∧ (retryLoop pos h data result left).2 = none := by
  induction left with
  | zero => exact absurd hpos (Nat.lt_irrefl 0)
  | succ left ih =>
      unfold retryLoop
      simp only
      split
      · simp [Effect.returnsAt]
      · split
        · simp [Effect.returnsAt]
        · have ih := ih (by omega)
          simpa [Effect.returnsAt] using ih

/-- The retries send no dead letter. -/
theorem retryLoop_no_deadLetter (pos p : Nat) (h : H) (data : List (Text × Json))
    (result : Nat → HandlerResult) (left : Nat) :
    ∀ e ∈ (retryLoop pos h data result left).1, e.deadLettersAt p = false := by
  induction left with
  | zero => simp [retryLoop]
  | succ left ih =>
      unfold retryLoop
      simp only
      split
      · simp [Effect.deadLettersAt]
      · split
        · simp [Effect.deadLettersAt]
        · simpa [Effect.deadLettersAt] using ih

theorem runHandler_returns_iff (env : Env) (pos p : Nat) (h : H) (data : List (Text × Json)) :
    (∃ e ∈ (runHandler env pos h data).1, e.returnsAt p = true)
      ↔ p = pos ∧ ¬ env.exhausts pos := by
  have hloop := retryLoop_returns_iff pos p h data (env.handler pos) maxRetries
    (by decide)
  have hex := retryLoop_max_isSome_iff env pos h data
  unfold runHandler
  simp only
  split
  next hnone =>
    rw [hnone] at hloop hex
    simp only [Option.isSome_none, Bool.false_eq_true, false_iff] at hex
    simpa [hex] using hloop
  next e hsome =>
    rw [hsome] at hloop hex
    simp only [Option.isSome_some, true_iff] at hex
    simpa [hex, or_and_right, exists_or, Effect.returnsAt] using hloop

theorem runHandler_deadLetters_iff (env : Env) (pos p : Nat) (h : H)
    (data : List (Text × Json)) :
    (∃ e ∈ (runHandler env pos h data).1, e.deadLettersAt p = true)
      ↔ p = pos ∧ env.exhausts pos ∧ env.dlq pos = .accepted := by
  have hloop := retryLoop_no_deadLetter pos p h data (env.handler pos) maxRetries
  have hex := retryLoop_max_isSome_iff env pos h data
  have hnone' : ¬ ∃ e ∈ (retryLoop pos h data (env.handler pos) maxRetries).1,
      e.deadLettersAt p = true := by
    intro hsome
    obtain ⟨e, he, hp⟩ := hsome
    rw [hloop e he] at hp
    exact absurd hp (by simp)
  unfold runHandler
  simp only
  split
  next hnone =>
    rw [hnone] at hex
    simp only [Option.isSome_none, Bool.false_eq_true, false_iff] at hex
    simp [hex, hnone']
  next e hsome =>
    rw [hsome] at hex
    simp only [Option.isSome_some, true_iff] at hex
    cases hd : env.dlq pos <;>
      simp_all [or_and_right, exists_or, Effect.deadLettersAt]

/-- A loop that is not left early passes over every handler once. -/
theorem runHandlers_exists_iff (env : Env) (data : List (Text × Json)) (f : Effect H → Bool)
    (p : Nat) (c : Nat → Prop)
    (hone : ∀ q h, (∃ e ∈ (runHandler env q h data).1, f e = true) ↔ p = q ∧ c q) :
    ∀ (hs : List H) (pos : Nat), (runHandlers env data pos hs).2 = .returned →
      ((∃ e ∈ (runHandlers env data pos hs).1, f e = true)
        ↔ pos ≤ p ∧ p < pos + hs.length ∧ c p)
  | [], pos, _ => by
      simp only [runHandlers, List.not_mem_nil, false_and, exists_false, List.length_nil,
        false_iff]
      omega
  | h :: hs, pos, hret => by
      have hfirst := hone pos h
      unfold runHandlers at hret ⊢
      simp only at hret ⊢
      split at hret
      next hr =>
        rw [hr] at hret
        exact absurd hret (by simp)
      next hr =>
        have ih := runHandlers_exists_iff env data f p c hone hs (pos + 1) hret
        simp only [List.mem_append, or_and_right, exists_or, hfirst, ih, List.length_cons]
        constructor
        · intro hor
          rcases hor with ⟨heq, hc⟩ | ⟨hle, hlt, hc⟩
          · rw [heq]
            exact ⟨Nat.le_refl _, by omega, hc⟩
          · exact ⟨by omega, by omega, hc⟩
        · intro hand
          obtain ⟨hle, hlt, hc⟩ := hand
          by_cases heq : p = pos
          · exact .inl ⟨heq, heq ▸ hc⟩
          · exact .inr ⟨by omega, by omega, hc⟩

/-! ## §3. One partition. -/

/-- A partition: the values of its messages in order. -/
structure PartitionLog where
  topic : Text
  partition : Nat
  values : List (Option (List UInt8))

/-- The message at an offset. -/
def PartitionLog.message? (log : PartitionLog) (offset : Nat) : Option KafkaMessage :=
  (log.values[offset]?).map fun value =>
    { topic := log.topic, partition := log.partition, offset := offset, value := value }

/-- The consumer group's progress on a partition, with the history of what was
done for whom: pairs of an offset and a handler's position.  A pass always takes
the message at the committed offset, because a pass that ends without a commit
ends the process. -/
structure Progress where
  committed : Nat
  returned : List (Nat × Nat)
  deadLettered : List (Nat × Nat)

/-- One effect of the pass over the message at `offset`. -/
def applyEffect (offset : Nat) (s : Progress) : Effect H → Progress
  | .call pos _ _ .returns => { s with returned := (offset, pos) :: s.returned }
  | .call _ _ _ (.raises _) => s
  | .sleep _ => s
  | .dlq pos _ .accepted => { s with deadLettered := (offset, pos) :: s.deadLettered }
  | .dlq _ _ .refused => s
  | .dlq _ _ .raises => s
  | .commit => { s with committed := offset + 1 }

/-- What can happen to the consumer of a partition. -/
inductive ConsumerStep where
  /-- `_process_message` runs to its end. -/
  | process (env : Env)
  /-- The process dies after `effects` effects, before the commit. -/
  | crash (env : Env) (effects : Nat)
  /-- A restart at a committed offset; it may be an earlier one, since a commit
  is asynchronous and may be lost. -/
  | restart (offset : Nat)

/-- One step of the consumer. -/
def consumerStep (py : Python) (reg : Registry H) (log : PartitionLog) (s : Progress) :
    ConsumerStep → Progress
  | .process env =>
    match log.message? s.committed with
    -- the end of the partition: `poll` returns `None`
    | none => s
    | some msg => (processMessage py reg env msg).1.foldl (applyEffect s.committed) s
  | .crash env effects =>
    match log.message? s.committed with
    | none => s
    | some msg =>
      -- calls and dead letters made before the crash are not undone
      (((processMessage py reg env msg).1.takeWhile (fun e => !e.isCommit)).take effects).foldl
        (applyEffect s.committed) s
  | .restart offset => if offset ≤ s.committed then { s with committed := offset } else s

/-- The handler at `pos` has returned on the message at `offset`, or an accepted
dead letter stands for it. -/
def Progress.Settled (s : Progress) (offset pos : Nat) : Prop :=
  (offset, pos) ∈ s.returned ∨ (offset, pos) ∈ s.deadLettered

instance (s : Progress) (offset pos : Nat) : Decidable (s.Settled offset pos) :=
  inferInstanceAs (Decidable (_ ∨ _))

/-- **Nothing is lost**: below the committed offset every registered handler of
every well-formed message is settled. -/
def NothingLost (py : Python) (reg : Registry H) (log : PartitionLog) (s : Progress) : Prop :=
  ∀ offset < s.committed, ∀ msg, log.message? offset = some msg →
    ∀ data hs, lookup py reg msg.value = .found data hs →
      ∀ pos < hs.length, s.Settled offset pos

/-- The condition on one step: a pass that commits gives up no handler whose
dead letter is not accepted, except one that was settled before. -/
def GivesUpNone (py : Python) (reg : Registry H) (log : PartitionLog) (s : Progress) :
    ConsumerStep → Prop
  | .process env =>
    ∀ msg, log.message? s.committed = some msg →
      ∀ data hs, lookup py reg msg.value = .found data hs → ¬ env.dlqRaises hs.length →
        ∀ pos < hs.length, env.settles pos ∨ s.Settled s.committed pos
  | .crash _ _ => True
  | .restart _ => True

/-! ## §4. Effects and progress. -/

section
variable (offset : Nat) (s : Progress)

/-- What the effects add to the set of normal returns. -/
theorem returned_foldl (fx : List (Effect H)) (o p : Nat) :
    (o, p) ∈ (fx.foldl (applyEffect offset) s).returned
      ↔ (o, p) ∈ s.returned ∨ (o = offset ∧ ∃ e ∈ fx, e.returnsAt p = true) := by
  induction fx generalizing s with
  | nil => simp
  | cons e fx ih =>
      rw [List.foldl_cons, ih]
      cases e with
      | call pos h data result =>
          cases result with
          | returns =>
              simp [applyEffect, Effect.returnsAt, or_and_right, exists_or, and_or_left]
              tauto
          | raises error => simp [applyEffect, Effect.returnsAt]
      | dlq pos error result => cases result <;> simp [applyEffect, Effect.returnsAt]
      | _ => simp [applyEffect, Effect.returnsAt]

/-- What the effects add to the set of accepted dead letters. -/
theorem deadLettered_foldl (fx : List (Effect H)) (o p : Nat) :
    (o, p) ∈ (fx.foldl (applyEffect offset) s).deadLettered
      ↔ (o, p) ∈ s.deadLettered ∨ (o = offset ∧ ∃ e ∈ fx, e.deadLettersAt p = true) := by
  induction fx generalizing s with
  | nil => simp
  | cons e fx ih =>
      rw [List.foldl_cons, ih]
      cases e with
      | call pos h data result => cases result <;> simp [applyEffect, Effect.deadLettersAt]
      | dlq pos error result =>
          cases result with
          | accepted =>
              simp [applyEffect, Effect.deadLettersAt, or_and_right, exists_or, and_or_left]
              tauto
          | _ => simp [applyEffect, Effect.deadLettersAt]
      | _ => simp [applyEffect, Effect.deadLettersAt]

/-- Effects without a commit leave the committed offset. -/
theorem committed_foldl {fx : List (Effect H)} (h : ∀ e ∈ fx, e.isCommit = false) :
    (fx.foldl (applyEffect offset) s).committed = s.committed := by
  induction fx generalizing s with
  | nil => rfl
  | cons e fx ih =>
      have he := h e List.mem_cons_self
      rw [List.foldl_cons, ih _ fun x hx => h x (List.mem_cons_of_mem e hx)]
      cases e with
      | call pos h data result => cases result <;> rfl
      | dlq pos error result => cases result <;> rfl
      | sleep n => rfl
      | commit => exact absurd he (by simp [Effect.isCommit])

/-- A pass commits its own message at most. -/
theorem committed_foldl_le (fx : List (Effect H)) (h : s.committed ≤ offset) :
    (fx.foldl (applyEffect offset) s).committed ≤ offset + 1 := by
  have key : ∀ (fx : List (Effect H)) (s : Progress), s.committed ≤ offset + 1 →
      (fx.foldl (applyEffect offset) s).committed ≤ offset + 1 := by
    intro fx
    induction fx with
    | nil => intro s hs; exact hs
    | cons e fx ih =>
        intro s hs
        rw [List.foldl_cons]
        apply ih
        cases e with
        | call pos h data result => cases result <;> exact hs
        | dlq pos error result => cases result <;> exact hs
        | sleep n => exact hs
        | commit => exact Nat.le_refl _
  exact key fx s (Nat.le_succ_of_le h)

/-- A process that dies before the commit does not commit. -/
theorem crash_no_commit (fx : List (Effect H)) (effects : Nat) :
    ∀ e ∈ (fx.takeWhile (fun e => !e.isCommit)).take effects, e.isCommit = false := by
  intro e he
  have h := List.mem_takeWhile_imp (List.mem_of_mem_take he)
  simpa using h

/-- What was settled stays settled. -/
theorem settled_foldl {fx : List (Effect H)} {o p : Nat} (h : s.Settled o p) :
    (fx.foldl (applyEffect offset) s).Settled o p := by
  rcases h with h | h
  · exact .inl ((returned_foldl offset s fx o p).mpr (.inl h))
  · exact .inr ((deadLettered_foldl offset s fx o p).mpr (.inl h))

/-- **A complete pass settles what `settles` says.** -/
theorem settled_runHandlers (env : Env) (data : List (Text × Json)) (hs : List H) {pos : Nat}
    (hr : ¬ env.dlqRaises hs.length) (hpos : pos < hs.length) :
    ((runHandlers env data 0 hs).1.foldl (applyEffect offset) s).Settled offset pos
      ↔ env.settles pos ∨ s.Settled offset pos := by
  -- no dead letter raises, so every handler gets its turn
  have hret : (runHandlers env data 0 hs).2 = .returned := by
    cases hcase : (runHandlers env data 0 hs).2 with
    | returned => rfl
    | raised =>
        have := (runHandlers_raised_iff env data 0 hs).mp hcase
        simp only [Nat.zero_add] at this
        exact absurd this hr
  have hreturns := runHandlers_exists_iff env data (Effect.returnsAt pos) pos
    (fun q => ¬ env.exhausts q) (fun q h => runHandler_returns_iff env q pos h data) hs 0 hret
  have hletters := runHandlers_exists_iff env data (Effect.deadLettersAt pos) pos
    (fun q => env.exhausts q ∧ env.dlq q = .accepted)
    (fun q h => runHandler_deadLetters_iff env q pos h data) hs 0 hret
  unfold Progress.Settled Env.settles
  rw [returned_foldl, deadLettered_foldl, hreturns, hletters]
  simp only [Nat.zero_le, Nat.zero_add, hpos, true_and]
  by_cases hex : env.exhausts pos
  · simp only [hex, not_true_eq_false, or_false, true_and, false_or]
    tauto
  · simp only [hex, not_false_eq_true, or_true, false_and, or_false, true_or]

end

/-! ## §5. Runs of one partition. -/

section
variable (py : Python) (reg : Registry H) (log : PartitionLog)

/-- What a pass without a commit settles can only help. -/
theorem nothingLost_foldl {s : Progress} {fx : List (Effect H)}
    (hfx : ∀ e ∈ fx, e.isCommit = false) (h : NothingLost py reg log s) (offset : Nat) :
    NothingLost py reg log (fx.foldl (applyEffect offset) s) := by
  intro o ho msg hmsg data hs hl pos hpos
  rw [committed_foldl offset s hfx] at ho
  exact settled_foldl offset s (h o ho msg hmsg data hs hl pos hpos)

/-- Committing one more message: what was not lost below the offset stays so, and
the message at the offset has to be settled. -/
theorem nothingLost_commit_iff {s : Progress} (h : NothingLost py reg log s) :
    NothingLost py reg log { s with committed := s.committed + 1 }
      ↔ ∀ msg, log.message? s.committed = some msg →
          ∀ data hs, lookup py reg msg.value = .found data hs →
            ∀ pos < hs.length, s.Settled s.committed pos := by
  constructor
  · intro hafter msg hmsg data hs hl pos hpos
    exact hafter s.committed (Nat.lt_succ_self _) msg hmsg data hs hl pos hpos
  · intro hat o ho msg hmsg data hs hl pos hpos
    rcases Nat.lt_succ_iff_lt_or_eq.mp ho with hlt | heq
    · exact h o hlt msg hmsg data hs hl pos hpos
    · subst heq
      exact hat msg hmsg data hs hl pos hpos

/-- A restart goes back at most. -/
theorem nothingLost_restart {s : Progress} (h : NothingLost py reg log s) (offset : Nat) :
    NothingLost py reg log (consumerStep py reg log s (.restart offset)) := by
  unfold consumerStep
  simp only
  split
  next hle =>
    intro o ho msg hmsg data hs hl pos hpos
    exact h o (Nat.lt_of_lt_of_le ho hle) msg hmsg data hs hl pos hpos
  next => exact h

/-- A crash commits nothing. -/
theorem nothingLost_crash {s : Progress} (h : NothingLost py reg log s) (env : Env)
    (effects : Nat) :
    NothingLost py reg log (consumerStep py reg log s (.crash env effects)) := by
  unfold consumerStep
  simp only
  split
  next => exact h
  next msg hmsg =>
    exact nothingLost_foldl py reg log (crash_no_commit _ effects) h s.committed

/-- **A pass over a well-formed message** that has handlers. -/
theorem nothingLost_pass_iff {s : Progress} (h : NothingLost py reg log s) (env : Env)
    {msg : KafkaMessage} (hmsg : log.message? s.committed = some msg)
    {data : List (Text × Json)} {hs : List H} (hl : lookup py reg msg.value = .found data hs) :
    NothingLost py reg log ((processMessage py reg env msg).1.foldl (applyEffect s.committed) s)
      ↔ (¬ env.dlqRaises hs.length →
          ∀ pos < hs.length, env.settles pos ∨ s.Settled s.committed pos) := by
  have hno := runHandlers_no_commit env data 0 hs
  have hbelow := nothingLost_foldl py reg log hno h s.committed
  have hat := committed_foldl s.committed s hno
  rw [processMessage_of_found hl]
  by_cases hr : env.dlqRaises hs.length
  · -- the error leaves the pass before the commit
    rw [if_pos hr]
    exact ⟨fun _ hnr => absurd hr hnr, fun _ => hbelow⟩
  · rw [if_neg hr, List.foldl_append]
    have hcommit : [(Effect.commit : Effect H)].foldl (applyEffect s.committed)
          ((runHandlers env data 0 hs).1.foldl (applyEffect s.committed) s)
        = { (runHandlers env data 0 hs).1.foldl (applyEffect s.committed) s with
            committed := ((runHandlers env data 0 hs).1.foldl
              (applyEffect s.committed) s).committed + 1 } := by
      rw [hat]
      rfl
    rw [hcommit, nothingLost_commit_iff py reg log hbelow, hat]
    constructor
    · intro hafter _ pos hpos
      exact (settled_runHandlers s.committed s env data hs hr hpos).mp
        (hafter msg hmsg data hs hl pos hpos)
    · intro hguard msg' hmsg' data' hs' hl' pos hpos
      -- the offset holds one message, with one list of handlers
      rw [hmsg] at hmsg'
      injection hmsg' with hmsg'
      rw [← hmsg', hl] at hl'
      injection hl' with _ hhs
      subst hhs
      exact (settled_runHandlers s.committed s env data hs hr hpos).mpr (hguard hr pos hpos)

/-- **`_process_message` run to its end.** -/
theorem nothingLost_process_iff {s : Progress} (h : NothingLost py reg log s) (env : Env) :
    NothingLost py reg log (consumerStep py reg log s (.process env))
      ↔ GivesUpNone py reg log s (.process env) := by
  unfold consumerStep GivesUpNone
  simp only
  cases hmsg : log.message? s.committed with
  | none =>
      simp only
      exact ⟨fun _ msg' hmsg' => absurd hmsg' (by simp), fun _ => h⟩
  | some msg =>
      simp only [Option.some.injEq, forall_eq']
      cases hl : lookup py reg msg.value with
      | uncaught =>
          rw [processMessage_of_uncaught hl]
          exact ⟨fun _ _ _ hf => absurd hf (by simp), fun _ => h⟩
      | malformed =>
          rw [processMessage_of_malformed hl]
          refine ⟨fun _ _ _ hf => absurd hf (by simp), fun _ => ?_⟩
          -- the skipped message has no handlers to settle
          refine (nothingLost_commit_iff py reg log h).mpr fun msg' hmsg' data hs hl' => ?_
          rw [hmsg] at hmsg'
          injection hmsg' with hmsg'
          rw [← hmsg', hl] at hl'
          exact absurd hl' (by simp)
      | found data hs =>
          rw [nothingLost_pass_iff py reg log h env hmsg hl]
          constructor
          · intro hguard data' hs' hf
            injection hf with _ hhs
            subst hhs
            exact hguard
          · intro hguard
            exact hguard data hs rfl

/-- **One step.** -/
theorem nothingLost_step_iff {s : Progress} (h : NothingLost py reg log s) (i : ConsumerStep) :
    NothingLost py reg log (consumerStep py reg log s i) ↔ GivesUpNone py reg log s i := by
  cases i with
  | process env => exact nothingLost_process_iff py reg log h env
  | crash env effects =>
      exact ⟨fun _ => trivial, fun _ => nothingLost_crash py reg log h env effects⟩
  | restart offset => exact ⟨fun _ => trivial, fun _ => nothingLost_restart py reg log h offset⟩

/-- The consumer group before its first message. -/
def freshProgress : Progress where
  committed := 0
  returned := []
  deadLettered := []

/-- **At-least-once with dead letters.**  Along a run nothing is ever lost
exactly when every committing pass of it gives up no handler whose dead letter
is not accepted. -/
theorem nothingLost_iff_settled (is : List ConsumerStep) :
    AllStates (consumerStep py reg log) (NothingLost py reg log) freshProgress is
      ↔ AllSteps (consumerStep py reg log) (GivesUpNone py reg log) freshProgress is :=
  allStates_iff_allSteps (K := fun _ => True) (fun _ _ _ => trivial)
    (fun _ i _ h => nothingLost_step_iff py reg log h i) trivial
    (fun _ ho => absurd ho (Nat.not_lt_zero _)) is

/-- The log of the single message `{"event_type":"t"}`. -/
def oneEventLog : PartitionLog where
  topic := txt "hotel.notifications"
  partition := 0
  values := [some [0x7B, 0x22, 0x65, 0x76, 0x65, 0x6E, 0x74, 0x5F, 0x74, 0x79, 0x70, 0x65, 0x22,
    0x3A, 0x22, 0x74, 0x22, 0x7D]]

/-- The handler raises on every attempt and the dead letter is refused. -/
def refusingEnv : Env where
  handler := fun _ _ => .raises (txt "boom")
  dlq := fun _ => .refused

/-- A refused dead letter: the message is committed all the same. -/
theorem refused_dead_letter_is_lost :
    ¬ ∀ (py : Python) (reg : Registry Unit) (log : PartitionLog) (is : List ConsumerStep),
      AllStates (consumerStep py reg log) (NothingLost py reg log) freshProgress is := by
  intro h
  have hlast := (h plainPython [(txt "t", [()])] oneEventLog [.process refusingEnv]).last
  have hset := hlast 0 (by decide) _ rfl [(txt "event_type", .str (txt "t"))] [()] rfl 0
    (by decide)
  exact absurd hset (by decide)

/-- **A value that is not digestible is never passed**: the group stays at it or
behind it, whatever the handlers do. -/
theorem stuck_at_poison {s : Progress} {msg : KafkaMessage} {offset : Nat}
    (hmsg : log.message? offset = some msg) (hpoison : ¬ Digestible py msg.value)
    (hs : s.committed ≤ offset) (is : List ConsumerStep) :
    AllStates (consumerStep py reg log) (fun s => s.committed ≤ offset) s is := by
  refine allStates_of_step (P := fun s : Progress => s.committed ≤ offset) (fun s i hle => ?_) hs is
  cases i with
  | restart k =>
      unfold consumerStep
      simp only
      split
      next hk => exact Nat.le_trans hk hle
      next => exact hle
  | crash env effects =>
      unfold consumerStep
      simp only
      split
      next => exact hle
      next =>
        rw [committed_foldl _ _ (crash_no_commit _ effects)]
        exact hle
  | process env =>
      unfold consumerStep
      simp only
      split
      next => exact hle
      next m hm =>
        rcases Nat.lt_or_eq_of_le hle with hlt | heq
        · -- an earlier message commits itself at most
          exact Nat.le_trans (committed_foldl_le s.committed s _ (Nat.le_refl _)) hlt
        · -- at the poison message the pass ends with no effect at all
          rw [heq, hmsg] at hm
          injection hm with hm
          have hl : lookup py reg m.value = .uncaught := by
            rw [← hm]
            exact (lookup_uncaught_iff py reg msg.value).mpr hpoison
          rw [processMessage_of_uncaught hl]
          exact hle

end

end HotelAgent
