/-
  HotelAgent.Kafka.Backlog — what the consumer has still to do.

  The consumer adds to its own work: a message whose handlers fail leaves dead
  letters in a topic that it reads as well.  Each message is charged for all of
  that in advance:

      1  the pass over it
      2  for each handler: the way of a dead letter, and the pass over that

  A dead letter has no handlers, so nothing is charged for what comes after it.

  Main results:
    * `backlog_run` — in every run the work is paid for by what has come in.
    * `dead_letters_die_out` — a service that is left to its work has an end to it,
      and gets there unless some value is in its way.
-/
import HotelAgent.Lib.Potential
import HotelAgent.Kafka.Feedback

namespace HotelAgent

open Lib

namespace KafkaSystem

section
variable (py : Python) (subs : Subscription)

/-! ## §1. Work. -/

/-- The number of handlers that are called for a message. -/
def handlersOf (value : Option (List UInt8)) : Nat :=
  match lookup py (registerAllHandlers []) value with
  | .found _ hs => hs.length
  | _ => 0

/-- What a message may cost: its pass, and a dead letter for each handler, which has to be
delivered and read. -/
def cost (value : Option (List UInt8)) : Nat := 1 + 2 * handlersOf py value

/-- The offset that the service goes on from. -/
def cursor (s : KafkaSystem) (p : TopicPartition) : Nat := (s.service.progress p).committed

/-- What is still to be done. -/
def stock (s : KafkaSystem) : Nat :=
  -- a queued letter has its delivery and its pass ahead
  unreadAll (cost py) subs.partitions s.values s.cursor + 2 * s.queue.length

/-- Whether a step does something about it: a pass that returns, or the end of a dead letter's
way. -/
def work (s : KafkaSystem) : KafkaStep → Nat
  | .deliver k _ => if k < s.queue.length then 1 else 0
  | .drop k => if k < s.queue.length then 1 else 0
  | .message p o _ =>
    match s.message? subs p with
    | none => 0
    | some msg => if (passOf py o msg).2 = .returned then 1 else 0
  -- a pass that raises has everything to do again
  | _ => 0

/-- What a step adds to it: what arrives, what is read once more, and the dead letters of a pass
that is not committed. -/
def gain (s : KafkaSystem) : KafkaStep → Nat
  | .arrive p value => if p ∈ subs.partitions then cost py value else 0
  -- a second process is not started
  | .start =>
    if s.service.inLoop = true then 0
    else broughtBack (cost py) subs.partitions s.values s.cursor s.service.stored
  | .rebalance p =>
    broughtBack (cost py) subs.partitions s.values s.cursor
      (Function.update s.cursor p (s.service.stored p))
  | .message p o _ =>
    match s.message? subs p with
    | none => 0
    | some msg =>
      if (passOf py o msg).2 = .returned then 0
      else 2 * (o.letters py msg (passOf py o msg).1).length
  | .die p o effects =>
    match s.message? subs p with
    | none => 0
    | some msg => 2 * (o.letters py msg (cutTrace (passOf py o msg).1 effects)).length
  | _ => 0

theorem cost_pos (value : Option (List UInt8)) : 0 < cost py value := by
  unfold cost
  omega

/-- Every partition is read to its end, and every dead letter is on its place. -/
def CaughtUp (s : KafkaSystem) : Prop :=
  (∀ p ∈ subs.partitions, (s.values p).length ≤ s.cursor p) ∧ s.queue = []

theorem stock_eq_zero_iff (s : KafkaSystem) : stock py subs s = 0 ↔ s.CaughtUp subs := by
  unfold stock CaughtUp
  rw [Nat.add_eq_zero_iff, unreadAll_eq_zero_iff _ _ (cost_pos py)]
  apply and_congr_right
  intro _
  rw [Nat.mul_eq_zero, List.length_eq_zero_iff]
  exact or_iff_right (by decide)

/-- A handler leaves one dead letter at most. -/
theorem length_letters_runHandler (o : Outcomes) (msg : KafkaMessage) (env : Env)
    (data : List (Text × Json)) (pos : Nat) (h : Handler) :
    (o.letters py msg (runHandler env pos h data).1).length ≤ 1 := by
  have hrecords : ∀ pub : Published, pub.records.length ≤ 1 := by
    intro pub
    cases pub with
    | accepted rec => exact Nat.le_refl 1
    | refused => exact Nat.zero_le 1
    | raised => exact Nat.zero_le 1
  rw [runHandler_eq_turn]
  unfold Env.turn Outcomes.letters
  rw [List.flatMap_append, List.flatMap_eq_nil_iff.mpr, List.nil_append]
  · split
    · rw [List.flatMap_singleton]
      exact hrecords _
    · exact Nat.zero_le 1
  · -- sleeps and calls leave none
    intro e he
    obtain ⟨j, _, hj⟩ := List.mem_flatMap.mp he
    rcases List.mem_append.mp hj with hj | hj
    · obtain ⟨n, _, rfl⟩ := List.mem_map.mp hj
      rfl
    · rw [List.mem_singleton.mp hj]

theorem length_letters_runHandlers (o : Outcomes) (msg : KafkaMessage) (env : Env)
    (data : List (Text × Json)) (pos : Nat) (hs : List Handler) :
    (o.letters py msg (runHandlers env data pos hs).1).length ≤ hs.length := by
  induction hs generalizing pos with
  | nil => exact Nat.le_refl 0
  | cons h hs ih =>
      have hfirst := length_letters_runHandler py o msg env data pos h
      have hrest := ih (pos + 1)
      unfold runHandlers
      simp only
      -- the loop ends at a handler that raises
      split
      · show _ ≤ hs.length + 1
        omega
      · unfold Outcomes.letters at hfirst hrest ⊢
        rw [List.flatMap_append, List.length_append]
        show _ ≤ hs.length + 1
        omega

/-- **A pass leaves one dead letter for each handler** at most. -/
theorem length_letters_pass (o : Outcomes) (msg : KafkaMessage) :
    (o.letters py msg (passOf py o msg).1).length ≤ handlersOf py msg.value := by
  unfold passOf handlersOf
  -- the last effect of a pass that returns is its commit
  cases hl : lookup py (registerAllHandlers []) msg.value with
  | uncaught =>
      rw [processMessage_of_uncaught hl]
      exact Nat.le_refl 0
  | malformed =>
      rw [processMessage_of_malformed hl]
      exact Nat.le_refl 0
  | found data hs =>
      have hrun := length_letters_runHandlers py o msg (o.env py msg) data 0 hs
      rw [processMessage_of_found hl]
      split
      · exact hrun
      · unfold Outcomes.letters at hrun ⊢
        rw [List.flatMap_append, List.length_append]
        exact hrun

/-- A message in hand, and the service at work. -/
theorem message?_eq_some {s : KafkaSystem} {p : TopicPartition} {msg : KafkaMessage}
    (h : s.message? subs p = some msg) :
    (s.service.inLoop = true ∧ s.service.running = true) ∧ s.service.next s.logs p = some msg := by
  unfold message? at h
  split at h
  next hon => exact ⟨⟨hon.1, hon.2.1⟩, h⟩
  next => exact absurd h (by simp)

/-- The service over a message. -/
theorem serve_message {s : KafkaSystem} {p : TopicPartition} {msg : KafkaMessage}
    (h : s.message? subs p = some msg) (o : Outcomes) (stored : Bool) :
    (s.serve py (.poll (.message p (o.env py msg) stored))).service
      = s.service.pass py (registerAllHandlers []) p (o.env py msg) stored msg := by
  obtain ⟨⟨hin, hrunning⟩, hnext⟩ := message?_eq_some subs h
  unfold serve ConsumerService.step
  simp only
  rw [hin, hrunning, if_neg (by decide), if_neg (by decide)]
  unfold ConsumerService.polled
  simp only [hnext]

/-- A message is passed over exactly if its pass returns. -/
theorem cursor_message {s : KafkaSystem} {p : TopicPartition} {msg : KafkaMessage}
    (h : s.message? subs p = some msg) (o : Outcomes) (stored : Bool) (q : TopicPartition) :
    (s.serve py (.poll (.message p (o.env py msg) stored))).cursor q
      = if q = p ∧ (passOf py o msg).2 = .returned then s.cursor p + 1 else s.cursor q := by
  unfold cursor
  rw [serve_message py subs h]
  unfold ConsumerService.pass
  simp only
  -- other partitions keep their offsets
  by_cases hq : q = p
  · subst hq
    rw [Function.update_self, ConsumerService.committed_processMessage]
    show (if (passOf py o msg).2 = .returned then _ else _) = _
    by_cases hret : (passOf py o msg).2 = .returned
    · rw [if_pos hret, if_pos ⟨rfl, hret⟩]
    · rw [if_neg hret, if_neg fun hboth => hret hboth.2]
  · rw [Function.update_of_ne hq, if_neg fun hboth => hq hboth.1]

/-- A process that dies has committed nothing. -/
theorem cursor_die {s : KafkaSystem} {p : TopicPartition} {msg : KafkaMessage}
    (h : s.message? subs p = some msg) (o : Outcomes) (effects : Nat) :
    (s.serve py (.die p (o.env py msg) effects)).cursor = s.cursor := by
  obtain ⟨hon, hnext⟩ := message?_eq_some subs h
  funext q
  unfold cursor serve ConsumerService.step
  simp only
  rw [if_pos hon]
  simp only [hnext]
  unfold ConsumerService.brokenPass
  simp only
  by_cases hq : q = p
  · subst hq
    rw [Function.update_self, committed_foldl _ _ (crash_no_commit _ effects)]
  · rw [Function.update_of_ne hq]

/-- A value more in a partition. -/
theorem stock_append (s : KafkaSystem) (p : TopicPartition) (value : Option (List UInt8)) :
    stock py subs (s.append p value)
      ≤ stock py subs s + if p ∈ subs.partitions then cost py value else 0 := by
  -- the queue is as it was
  have hmore := unreadAll_append_le (cost py) subs.partitions s.values s.cursor p value
  unfold stock
  show unreadAll (cost py) subs.partitions (Function.update s.values p (s.values p ++ [value]))
    s.cursor + 2 * s.queue.length ≤ _
  omega

/-- One record less in the queue. -/
theorem stock_eraseIdx (s : KafkaSystem) {k : Nat} (h : k < s.queue.length) :
    stock py subs { s with queue := s.queue.eraseIdx k } + 2 = stock py subs s := by
  unfold stock
  show unreadAll (cost py) subs.partitions s.values s.cursor + 2 * (s.queue.eraseIdx k).length + 2
    = unreadAll (cost py) subs.partitions s.values s.cursor + 2 * s.queue.length
  rw [List.length_eraseIdx_of_lt h]
  omega

/-- More of them. -/
theorem stock_queued (s : KafkaSystem) (more : List Record) :
    stock py subs { s with queue := s.queue ++ more } = stock py subs s + 2 * more.length := by
  unfold stock
  rw [List.length_append]
  show unreadAll (cost py) subs.partitions s.values s.cursor + _ = _
  omega

/-- The service goes on from other offsets. -/
theorem stock_moved {s : KafkaSystem} {i : LoopStep} {cursor' : TopicPartition → Nat}
    (h : (s.serve py i).cursor = cursor') :
    stock py subs (s.serve py i)
      ≤ stock py subs s + broughtBack (cost py) subs.partitions s.values s.cursor cursor' := by
  have hback := unreadAll_moved_le (cost py) subs.partitions s.values s.cursor cursor'
  unfold stock
  rw [h]
  show unreadAll (cost py) subs.partitions s.values cursor' + 2 * s.queue.length ≤ _
  omega

/-- It goes on from the same ones. -/
theorem stock_serve {s : KafkaSystem} {i : LoopStep} (h : (s.serve py i).cursor = s.cursor) :
    stock py subs (s.serve py i) = stock py subs s := by
  unfold stock
  rw [h]
  rfl

/-- **A pass that returns** takes its message off. -/
theorem stock_passed {s : KafkaSystem} {p : TopicPartition} {msg : KafkaMessage}
    (h : s.message? subs p = some msg) {o : Outcomes} (hret : (passOf py o msg).2 = .returned)
    (stored : Bool) :
    stock py subs (s.serve py (.poll (.message p (o.env py msg) stored))) + cost py msg.value
      = stock py subs s := by
  obtain ⟨hp, _, hplace, hoffset⟩ := place_of_message? subs h
  have hcursor := cursor_message py subs h o stored
  rw [hoffset] at hplace
  -- the cursor of this partition moves over the message, all others stay
  have hself := hcursor p
  rw [if_pos ⟨rfl, hret⟩] at hself
  have hother : ∀ q ≠ p, (s.serve py (.poll (.message p (o.env py msg) stored))).cursor q
      = s.cursor q := by
    intro q hq
    rw [hcursor q, if_neg fun hboth => hq hboth.1]
  have hpassed := unreadAll_succ (cost py) subs.partitions _ hp hplace hself hother
  unfold stock
  show unreadAll (cost py) subs.partitions s.values _ + 2 * s.queue.length + _
    = unreadAll (cost py) subs.partitions s.values s.cursor + 2 * s.queue.length
  omega

/-- `poll` without a message moves no offset. -/
theorem cursor_idle (s : KafkaSystem) : (s.serve py (.poll .nothing)).cursor = s.cursor := by
  unfold serve cursor ConsumerService.step
  funext p
  simp only
  split
  · rfl
  · split <;> rfl

theorem cursor_interrupt (s : KafkaSystem) :
    (s.serve py (.poll .interrupt)).cursor = s.cursor := by
  unfold serve cursor ConsumerService.step
  funext p
  simp only
  split
  · rfl
  · split <;> rfl

/-- A process that begins goes on from what is stored. -/
theorem cursor_start (s : KafkaSystem) :
    (s.serve py .start).cursor
      = if s.service.inLoop = true then s.cursor else s.service.stored := by
  unfold serve cursor ConsumerService.step
  simp only
  by_cases hin : s.service.inLoop = true
  · rw [if_pos hin, if_pos hin]
  · rw [if_neg hin, if_neg hin]
    rfl

theorem cursor_rebalance (s : KafkaSystem) (p : TopicPartition) :
    (s.serve py (.rebalance p)).cursor = Function.update s.cursor p (s.service.stored p) := by
  funext q
  unfold serve cursor ConsumerService.step
  simp only
  by_cases hq : q = p
  · subst hq
    rw [Function.update_self, Function.update_self]
    rfl
  · rw [Function.update_of_ne hq, Function.update_of_ne hq]

/-- What is queued is for no handler. -/
def QueueUnhandled (s : KafkaSystem) : Prop :=
  ∀ rec ∈ s.queue, handlersOf py (some rec.value) = 0

/-- A pass over a message. -/
theorem stock_message {s : KafkaSystem} {p : TopicPartition} {msg : KafkaMessage}
    (h : s.message? subs p = some msg) (o : Outcomes) (stored : Bool) :
    stock py subs (s.step py subs (.message p o stored))
        + work py subs s (.message p o stored)
      ≤ stock py subs s + gain py subs s (.message p o stored) := by
  have hletters := length_letters_pass py o msg
  have hqueued := stock_queued py subs (s.serve py (.poll (.message p (o.env py msg) stored)))
    (o.letters py msg (passOf py o msg).1)
  unfold step work gain
  simp only [h]
  refine Nat.le_trans (Nat.add_le_add_right (Nat.le_of_eq hqueued) _) ?_
  by_cases hret : (passOf py o msg).2 = .returned
  · have hpassed := stock_passed py subs h hret stored
    unfold cost at hpassed
    rw [if_pos hret, if_pos hret]
    -- the message has been charged for its pass and for its dead letters
    omega
  · have hsame : (s.serve py (.poll (.message p (o.env py msg) stored))).cursor = s.cursor := by
      funext q
      rw [cursor_message py subs h, if_neg fun hboth => hret hboth.2]
    rw [if_neg hret, if_neg hret, stock_serve py subs hsame]
    exact Nat.le_refl _

/-- **One step**: the work it does was in the stock, or is brought in by it. -/
theorem stock_step (s : KafkaSystem) (i : KafkaStep) (h : QueueUnhandled py s) :
    stock py subs (s.step py subs i) + work py subs s i ≤ stock py subs s + gain py subs s i := by
  cases i with
  | arrive p value => exact stock_append py subs s p value
  | deliver k partition =>
      unfold step work gain
      simp only
      cases hk : s.queue[k]? with
      | none =>
          rw [if_neg (Nat.not_lt.mpr (List.getElem?_eq_none_iff.mp hk))]
      | some rec =>
          obtain ⟨hlt, _⟩ := List.getElem?_eq_some_iff.mp hk
          have hless : stock py subs { s.append ⟨rec.topic, partition⟩ (some rec.value) with
              queue := s.queue.eraseIdx k } + 2
                = stock py subs (s.append ⟨rec.topic, partition⟩ (some rec.value)) :=
            stock_eraseIdx py subs (s.append ⟨rec.topic, partition⟩ (some rec.value)) hlt
          have hmore := stock_append py subs s ⟨rec.topic, partition⟩ (some rec.value)
          -- where it lands it costs one pass, and only if somebody reads the topic
          have hone : (if (⟨rec.topic, partition⟩ : TopicPartition) ∈ subs.partitions
              then cost py (some rec.value) else 0) ≤ 1 := by
            unfold cost
            rw [h rec (List.mem_of_getElem? hk)]
            split <;> omega
          rw [if_pos hlt]
          show stock py subs { s.append ⟨rec.topic, partition⟩ (some rec.value) with
            queue := s.queue.eraseIdx k } + 1 ≤ stock py subs s + 0
          omega
  | drop k =>
      unfold step work gain
      simp only
      by_cases hlt : k < s.queue.length
      · have hless := stock_eraseIdx py subs s hlt
        rw [if_pos hlt]
        omega
      -- there is no such record
      · rw [if_neg hlt, List.eraseIdx_of_length_le (Nat.le_of_not_lt hlt)]
  | start =>
      have hmoved := cursor_start py s
      unfold gain
      simp only
      by_cases hin : s.service.inLoop = true
      · rw [if_pos hin] at hmoved ⊢
        exact Nat.le_of_eq (stock_serve py subs hmoved)
      · rw [if_neg hin] at hmoved ⊢
        exact stock_moved py subs hmoved
  | stop => exact Nat.le_of_eq (stock_serve py subs rfl)
  | idle => exact Nat.le_of_eq (stock_serve py subs (cursor_idle py s))
  | interrupt => exact Nat.le_of_eq (stock_serve py subs (cursor_interrupt py s))
  | message p o stored =>
      cases hmsg : s.message? subs p with
      | none =>
          unfold step work gain
          simp only [hmsg]
          exact Nat.le_of_eq (stock_serve py subs (cursor_idle py s))
      | some msg => exact stock_message py subs hmsg o stored
  | die p o effects =>
      unfold step work gain
      simp only
      cases hmsg : s.message? subs p with
      | none => exact Nat.le_of_eq (stock_serve py subs (cursor_interrupt py s))
      | some msg =>
          have hqueued := stock_queued py subs (s.serve py (.die p (o.env py msg) effects))
            (o.letters py msg (cutTrace (passOf py o msg).1 effects))
          -- no offset has moved, so only the letters count
          rw [stock_serve py subs (cursor_die py subs hmsg o effects)] at hqueued
          exact Nat.le_of_eq hqueued
  | rebalance p => exact stock_moved py subs (cursor_rebalance py s p)

/-! ## §2. Runs. -/

theorem queueUnhandled_of_told {arrived : TopicPartition → Option (List UInt8) → Prop}
    {s : KafkaSystem} (h : Told py arrived s) : QueueUnhandled py s := by
  intro rec hrec
  obtain ⟨_, bytes, msg, hbytes, htells⟩ := h.queue rec hrec
  obtain ⟨data, hfound⟩ := htells.unhandled
  unfold handlersOf
  rw [hbytes, hfound]
  rfl

/-- What arrives does not matter for the dead letters. -/
theorem told_reached (is : List KafkaStep) :
    Told py (fun _ _ => True) (run (step py subs) empty is) :=
  told_run py subs (fun _ _ _ => trivial) (told_empty py)

/-- **The balance of every run**, with all its deaths, restarts and losses: the passes and the
deliveries in it are paid for by what has arrived, by what is read once more, and by the dead
letters of passes that were not committed.  A dead letter brings nothing in. -/
theorem backlog_run (is : List KafkaStep) :
    stock py subs (run (step py subs) empty is)
        + total (step py subs) (work py subs) empty is
      ≤ total (step py subs) (gain py subs) empty is := by
  have hnothing : stock py subs empty = 0 :=
    (stock_eq_zero_iff py subs empty).mpr ⟨fun _ _ => Nat.le_refl 0, rfl⟩
  -- what is queued is a dead letter in every state, and that is all a step needs
  have hbalance := stock_run (K := Told py fun _ _ => True)
    (fun s i h => told_step py subs s i h fun _ _ _ => trivial)
    (fun s i h => stock_step py subs s i (queueUnhandled_of_told py h)) (told_empty py) is
  rw [hnothing, Nat.zero_add] at hbalance
  exact hbalance

/-- A process is in the loop, and nobody has stopped it. -/
def On (s : KafkaSystem) : Prop := s.service.inLoop = true ∧ s.service.running = true

/-- Every value that is still to be read can be digested. -/
def Digests (s : KafkaSystem) : Prop :=
  ∀ p ∈ subs.partitions, ∀ n, s.cursor p ≤ n → ∀ value, (s.values p)[n]? = some value →
    Digestible py value

/-- What works is a pass that returns, or the end of a dead letter's way. -/
theorem work_cases {s : KafkaSystem} {i : KafkaStep} (h : 0 < work py subs s i) :
    (∃ k partition, i = .deliver k partition ∧ k < s.queue.length)
      ∨ (∃ k, i = .drop k ∧ k < s.queue.length)
      ∨ ∃ p o stored msg, i = .message p o stored ∧ s.message? subs p = some msg
        ∧ (passOf py o msg).2 = .returned := by
  unfold work at h
  -- all other steps are no work
  cases i with
  | deliver k partition =>
      simp only at h
      split at h
      next hlt => exact .inl ⟨k, partition, rfl, hlt⟩
      next => exact absurd h (Nat.lt_irrefl 0)
  | drop k =>
      simp only at h
      split at h
      next hlt => exact .inr (.inl ⟨k, rfl, hlt⟩)
      next => exact absurd h (Nat.lt_irrefl 0)
  | message p o stored =>
      cases hmsg : s.message? subs p with
      | none =>
          simp only [hmsg] at h
          exact absurd h (Nat.lt_irrefl 0)
      | some msg =>
          simp only [hmsg] at h
          by_cases hret : (passOf py o msg).2 = .returned
          · exact .inr (.inr ⟨p, o, stored, msg, rfl, hmsg, hret⟩)
          · rw [if_neg hret] at h
            exact absurd h (Nat.lt_irrefl 0)
  | arrive p value => exact absurd h (Nat.lt_irrefl 0)
  | start => exact absurd h (Nat.lt_irrefl 0)
  | stop => exact absurd h (Nat.lt_irrefl 0)
  | idle => exact absurd h (Nat.lt_irrefl 0)
  | interrupt => exact absurd h (Nat.lt_irrefl 0)
  | die p o effects => exact absurd h (Nat.lt_irrefl 0)
  | rebalance p => exact absurd h (Nat.lt_irrefl 0)

/-- Work brings nothing in. -/
theorem gain_of_work {s : KafkaSystem} {i : KafkaStep} (h : 0 < work py subs s i) :
    gain py subs s i = 0 := by
  rcases work_cases py subs h with ⟨k, partition, rfl, _⟩ | ⟨k, rfl, _⟩
    | ⟨p, o, stored, msg, rfl, hmsg, hret⟩
  · rfl
  · rfl
  · unfold gain
    simp only [hmsg]
    rw [if_pos hret]

/-- The service stays at work. -/
theorem on_step {s : KafkaSystem} {i : KafkaStep} (hon : s.On) (h : 0 < work py subs s i) :
    (s.step py subs i).On := by
  rcases work_cases py subs h with ⟨k, partition, rfl, _⟩ | ⟨k, rfl, _⟩
    | ⟨p, o, stored, msg, rfl, hmsg, hret⟩
  · unfold step
    simp only
    split <;> exact hon
  · exact hon
  · have hservice := serve_message py subs hmsg o stored
    unfold step On
    simp only [hmsg]
    rw [hservice]
    -- the loop goes on exactly after a pass that returns
    exact ⟨decide_eq_true hret, hon.2⟩

/-- A dead letter can be digested. -/
theorem digestible_letter {s : KafkaSystem} {topic : Text} {value : Option (List UInt8)}
    (h : IsLetter py s topic value) : Digestible py value := by
  obtain ⟨_, bytes, msg, rfl, htells⟩ := h
  obtain ⟨data, hfound⟩ := htells.unhandled
  by_contra hnot
  rw [(lookup_uncaught_iff py _ _).mpr hnot] at hfound
  exact absurd hfound (by simp)

/-- Whatever is delivered or read, the rest can be digested. -/
theorem digests_step {s : KafkaSystem} {i : KafkaStep} (htold : Told py (fun _ _ => True) s)
    (h : Digests py subs s) (hwork : 0 < work py subs s i) :
    Digests py subs (s.step py subs i) := by
  rcases work_cases py subs hwork with ⟨k, partition, rfl, hlt⟩ | ⟨k, rfl, _⟩
    | ⟨p, o, stored, msg, rfl, hmsg, hret⟩
  · have hletter := htold.queue _ (List.getElem_mem hlt)
    unfold step
    simp only [List.getElem?_eq_getElem hlt]
    intro q hq n hn value hvalue
    -- what is delivered is a dead letter
    rcases getElem?_append hvalue with hold | ⟨_, hnew⟩
    · exact h q hq n hn value hold
    · rw [hnew]
      exact digestible_letter py hletter
  · exact h
  · intro q hq n hn value hvalue
    unfold step at hn hvalue
    simp only [hmsg] at hn hvalue
    have hcursor := cursor_message py subs hmsg o stored q
    refine h q hq n (Nat.le_trans ?_ hn) value hvalue
    -- the cursor only moves forward, so no value is to be read anew
    show s.cursor q ≤ (s.serve py (.poll (.message p (o.env py msg) stored))).cursor q
    rw [hcursor]
    split
    next hboth =>
      rw [hboth.1]
      omega
    next => exact Nat.le_refl _

/-- Every handler returns at once. -/
def calmOutcomes : Outcomes := ⟨fun _ _ => .returns, fun _ => ⟨0, []⟩, fun _ => .accepted⟩

/-- A pass over a value that can be digested returns, if the handlers do. -/
theorem passOf_calm {msg : KafkaMessage} (h : Digestible py msg.value) :
    (passOf py calmOutcomes msg).2 = .returned := by
  unfold passOf
  cases hl : lookup py (registerAllHandlers []) msg.value with
  | uncaught => exact absurd h ((lookup_uncaught_iff py _ _).mp hl)
  | malformed => rw [processMessage_of_malformed hl]
  | found data hs =>
      -- no handler exhausts its three calls
      rw [processMessage_of_found hl, if_neg]
      intro hraises
      obtain ⟨pos, _, hexhausts, _⟩ := hraises
      exact hexhausts 0 (by decide) rfl

/-- **There is something to do** as long as something is left. -/
theorem exists_work {s : KafkaSystem} (hon : s.On) (h : Digests py subs s)
    (hstock : 0 < stock py subs s) : ∃ i, 0 < work py subs s i ∧ ¬ i.Loses := by
  have hbehind : ¬ s.CaughtUp subs :=
    fun hdone => absurd ((stock_eq_zero_iff py subs s).mpr hdone) (Nat.ne_of_gt hstock)
  by_cases hqueue : s.queue = []
  · -- some partition is not read to its end
    have hpartition : ∃ p ∈ subs.partitions, s.cursor p < (s.values p).length := by
      by_contra hnone
      apply hbehind
      refine ⟨fun p hp => Nat.le_of_not_lt fun hlt => hnone ⟨p, hp, hlt⟩, hqueue⟩
    obtain ⟨p, hp, hlt⟩ := hpartition
    have hvalue : (s.values p)[s.cursor p]? = some ((s.values p).get ⟨s.cursor p, hlt⟩) :=
      List.getElem?_eq_getElem hlt
    have hmsg : s.message? subs p = some ⟨p.topic, p.partition, s.cursor p,
        (s.values p).get ⟨s.cursor p, hlt⟩⟩ := by
      unfold message?
      rw [if_pos ⟨hon.1, hon.2, hp⟩]
      show ((s.values p)[s.cursor p]?).map _ = _
      rw [hvalue]
      rfl
    refine ⟨.message p calmOutcomes true, ?_, fun hloses => hloses⟩
    unfold work
    simp only [hmsg]
    rw [if_pos (passOf_calm py (h p hp (s.cursor p) (Nat.le_refl _) _ hvalue))]
    exact Nat.one_pos
  -- the first dead letter can be delivered
  · refine ⟨.deliver 0 0, ?_, fun hloses => hloses⟩
    unfold work
    simp only
    rw [if_pos (List.length_pos_of_ne_nil hqueue)]
    exact Nat.one_pos

/-- A value that cannot be digested is never passed over. -/
theorem stuck_step {s : KafkaSystem} {i : KafkaStep} {p : TopicPartition} {n : Nat}
    {value : Option (List UInt8)} (hcursor : s.cursor p ≤ n)
    (hvalue : (s.values p)[n]? = some value) (hpoison : ¬ Digestible py value)
    (hwork : 0 < work py subs s i) :
    (s.step py subs i).cursor p ≤ n ∧ ((s.step py subs i).values p)[n]? = some value := by
  rcases work_cases py subs hwork with ⟨k, partition, rfl, hlt⟩ | ⟨k, rfl, _⟩
    | ⟨q, o, stored, msg, rfl, hmsg, hret⟩
  · have hgrown := grown_append s ⟨s.queue[k].topic, partition⟩ (some s.queue[k].value) p
    obtain ⟨more, hmore⟩ := hgrown
    unfold step
    simp only [List.getElem?_eq_getElem hlt]
    refine ⟨hcursor, ?_⟩
    show ((s.append ⟨s.queue[k].topic, partition⟩ (some s.queue[k].value)).values p)[n]? = _
    rw [← hmore, List.getElem?_append_left (List.getElem?_eq_some_iff.mp hvalue).1]
    exact hvalue
  · exact ⟨hcursor, hvalue⟩
  · unfold step
    simp only [hmsg]
    refine ⟨?_, hvalue⟩
    have hmoved := cursor_message py subs hmsg o stored p
    show (s.serve py (.poll (.message q (o.env py msg) stored))).cursor p ≤ n
    rw [hmoved]
    split
    next hboth =>
      -- the pass has returned, so its message is another one
      have hne : s.cursor p ≠ n := by
        intro heq
        obtain ⟨_, _, hplace, hoffset⟩ := place_of_message? subs hmsg
        have hsame : (s.values p)[s.cursor p]? = some msg.value := by
          rw [hboth.1]
          show (s.values q)[(s.service.progress q).committed]? = _
          rw [← hoffset]
          exact hplace
        rw [heq, hvalue] at hsame
        injection hsame with hsame
        have huncaught : lookup py (registerAllHandlers []) msg.value = .uncaught :=
          (lookup_uncaught_iff py _ _).mpr (hsame ▸ hpoison)
        unfold passOf at hret
        rw [processMessage_of_uncaught huncaught] at hret
        exact absurd hret (by simp)
      rw [← hboth.1]
      omega
    next => exact hcursor

theorem stuck_run {p : TopicPartition} {n : Nat} {value : Option (List UInt8)}
    (hpoison : ¬ Digestible py value) {s : KafkaSystem} (hcursor : s.cursor p ≤ n)
    (hvalue : (s.values p)[n]? = some value) {is : List KafkaStep}
    (h : AllSteps (step py subs) (fun s i => 0 < work py subs s i ∧ ¬ i.Loses) s is) :
    (run (step py subs) s is).cursor p ≤ n
      ∧ ((run (step py subs) s is).values p)[n]? = some value :=
  (allStates_of_allSteps (P := fun s => s.cursor p ≤ n ∧ (s.values p)[n]? = some value)
    (fun _ _ hs hi => stuck_step py subs hs.1 hs.2 hpoison hi.1) ⟨hcursor, hvalue⟩ h).last

/-- **The consumer comes to an end of its own dead letters.**  Wherever a run has come to with a
process at work: as long as it only passes over messages and dead letters end their way, it has
no more than `stock` steps to do.  In such steps, and without losing a dead letter, everything is
read to the end exactly if every value that is still to be read can be digested. -/
theorem dead_letters_die_out (before : List KafkaStep)
    (hon : (run (step py subs) empty before).On) :
    (∀ is, AllSteps (step py subs) (fun s i => 0 < work py subs s i)
        (run (step py subs) empty before) is →
      is.length ≤ stock py subs (run (step py subs) empty before))
    ∧ ((∃ is, AllSteps (step py subs) (fun s i => 0 < work py subs s i ∧ ¬ i.Loses)
          (run (step py subs) empty before) is
        ∧ (run (step py subs) empty (before ++ is)).CaughtUp subs)
      ↔ Digests py subs (run (step py subs) empty before)) := by
  have htold := told_reached py subs before
  have hkeep : ∀ s i, Told py (fun _ _ => True) s → Told py (fun _ _ => True) (s.step py subs i) :=
    fun s i h => told_step py subs s i h fun _ _ _ => trivial
  have hbalance : ∀ s i, Told py (fun _ _ => True) s →
      stock py subs (s.step py subs i) + work py subs s i
        ≤ stock py subs s + gain py subs s i :=
    fun s i h => stock_step py subs s i (queueUnhandled_of_told py h)
  refine ⟨fun is his => ?_, ?_, ?_⟩
  · have hlength := length_le_stock hkeep hbalance htold
      (his.imp fun s i hi => ⟨hi, gain_of_work py subs hi⟩)
    omega
  · intro hend
    obtain ⟨is, his, hdone⟩ := hend
    intro p hp n hn value hvalue
    -- a value that cannot be digested is still unread at the end
    by_contra hpoison
    rw [run_append] at hdone
    obtain ⟨hcursor, hstands⟩ := stuck_run py subs hpoison hn hvalue his
    have hlength := hdone.1 p hp
    have hlt := (List.getElem?_eq_some_iff.mp hstands).1
    omega
  · intro hdigests
    -- as long as a stock is left, some step without a loss makes it smaller
    have hrest : ∃ is, AllSteps (step py subs) (fun s i => 0 < work py subs s i ∧ ¬ i.Loses)
          (run (step py subs) empty before) is
        ∧ stock py subs (run (step py subs) (run (step py subs) empty before) is) = 0 := by
      refine exists_run_to_rest (K := fun s => Told py (fun _ _ => True) s ∧ s.On
        ∧ Digests py subs s) (fun s i h hi => ?_) (fun s i h hi => ?_) (fun s h hstock => ?_)
        ⟨htold, hon, hdigests⟩
      · exact ⟨hkeep s i h.1, on_step py subs h.2.1 hi.1, digests_step py subs h.1 h.2.2 hi.1⟩
      · have hstep := hbalance s i h.1
        have hwork := hi.1
        rw [gain_of_work py subs hi.1] at hstep
        omega
      · exact exists_work py subs h.2.1 h.2.2 hstock
    obtain ⟨is, his, hend⟩ := hrest
    refine ⟨is, his, ?_⟩
    rw [run_append]
    exact (stock_eq_zero_iff py subs _).mp hend

end

/-- One dead letter is left to be read. -/
theorem dead_letter_of_notification_dies_out :
    (run (step plainPython hotelSubscription) empty demoFailure).On
      ∧ stock plainPython hotelSubscription
          (run (step plainPython hotelSubscription) empty demoFailure) = 1
      ∧ (∀ is, AllSteps (step plainPython hotelSubscription)
          (fun s i => 0 < work plainPython hotelSubscription s i)
          (run (step plainPython hotelSubscription) empty demoFailure) is →
        is.length ≤ stock plainPython hotelSubscription
          (run (step plainPython hotelSubscription) empty demoFailure))
      ∧ ((∃ is, AllSteps (step plainPython hotelSubscription)
          (fun s i => 0 < work plainPython hotelSubscription s i ∧ ¬ i.Loses)
          (run (step plainPython hotelSubscription) empty demoFailure) is
          ∧ (run (step plainPython hotelSubscription) empty (demoFailure ++ is)).CaughtUp
            hotelSubscription)
        ↔ Digests plainPython hotelSubscription
          (run (step plainPython hotelSubscription) empty demoFailure)) := by
  have hon : (run (step plainPython hotelSubscription) empty demoFailure).On := by
    unfold On
    decide +kernel
  exact ⟨hon, by decide +kernel,
    dead_letters_die_out plainPython hotelSubscription demoFailure hon⟩

end KafkaSystem

end HotelAgent
