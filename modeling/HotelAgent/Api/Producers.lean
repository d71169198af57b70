/-
  HotelAgent.Api.Producers — the producers and what is left in their queues.

  `produce` puts an event into the local queue of its producer; a background
  thread hands it to the broker, at the earliest after `linger.ms`, or reports
  it to `_delivery_callback`.  Three kinds of producer live in a process:

      the views      one for the module, until the process exits
      the signals    a new one for every `post_save` of a service request or a
                     booking, until the handler returns
      a consumer     one for its dead letters, until the command ends

  `KafkaProducerService` has `flush` and `close`, and nobody calls them.

  Main result, `acceptedKept_iff`: no accepted event is dropped if and only if
  the background thread is always faster than the end of the producer.
-/
import HotelAgent.Api.Publishes
import HotelAgent.Kafka.DeadLetters
import HotelAgent.Lib.Outbox

namespace HotelAgent

open Lib

variable {py : Python}

/-! ## §1. A process and its producers. -/

/-- A `post_save` signal that has a producer. -/
inductive PostSave where
  | serviceRequest (d : RequestDraft) (fresh : SessionFresh) (created : Bool)
  | booking (b : Booking) (fresh : Fresh) (created : Bool)

/-- What the handler publishes: the event of a new row. -/
def PostSave.call : PostSave → Option PublishCall
  | .serviceRequest d fresh created => if created then some (d.signalCall fresh) else none
  | .booking b fresh created => if created then some (bookedCall b fresh) else none

/-- The record that the handler's `publish` accepts. -/
def PostSave.accepted (py : Python) (signal : PostSave) : Option Record :=
  match signal.call.map (PublishCall.published py) with
  | some (.accepted rec) => some rec
  | _ => none

/-- What can happen to the producers of a process.  The queue of the views is the first, that
of consumer `k` the `k + 1`-st. -/
inductive ProducerStep where
  /-- A handler runs; `taken` says whether the background thread of its producer takes the event
  before the handler returns. -/
  | postSave (signal : PostSave) (taken : Bool)
  /-- A view publishes. -/
  | view (p : PublishCall)
  /-- `KafkaConsumerService(...)`. -/
  | startConsumer
  | sendToDlq (k : Nat) (stamp : Stamp) (produce : ProduceOutcome) (msg : KafkaMessage)
      (error : Text)
  /-- `start` returns, and the command ends: only the `Consumer` has been closed. -/
  | stopConsumer (k : Nat)
  /-- The background thread hands the first event of a queue over, or reports it. -/
  | handsOver (k : Nat)
  /-- The process exits, and is started again. -/
  | exit

/-- What the step does to the queues. -/
def ProducerStep.ops (py : Python) (s : Outbox Record) : ProducerStep → List (BufferOp Record)
  | .postSave signal taken =>
    let own := s.buffers.length
    match signal.accepted py with
    | some rec =>
      [.opens, .put own rec] ++ (if taken then [.settle own] else []) ++ [.close own]
    | none => [.opens, .close own]
  | .view p =>
    match p.published py with
    | .accepted rec => [.put 0 rec]
    | _ => []
  | .startConsumer => [.opens]
  | .sendToDlq k stamp produce msg error =>
    match HotelAgent.sendToDlq py stamp produce msg error with
    | .accepted rec => [.put (k + 1) rec]
    | _ => []
  | .stopConsumer k => [.close (k + 1)]
  | .handsOver k => [.settle k]
  | .exit => [.closeAll, .opens]

def producerStep (py : Python) (s : Outbox Record) (i : ProducerStep) : Outbox Record :=
  run bufferStep s (i.ops py s)

/-- A process that has imported the views. -/
def freshProcess : Outbox Record := ⟨[], [], [[]]⟩

/-- The condition on a step: a producer that comes to its end has nothing left to send. -/
def OutlivesQueue (py : Python) (s : Outbox Record) : ProducerStep → Prop
  | .postSave signal taken => (signal.accepted py).isSome → taken = true
  | .stopConsumer k => ∀ queue ∈ s.buffers[k + 1]?, queue = []
  | .exit => ∀ queue ∈ s.buffers, queue = []
  | _ => True

/-! ## §2. One step. -/

/-- **A handler's own producer**: the event is taken before the handler returns, or lost. -/
theorem closesEmpty_postSave_iff (s : Outbox Record) (signal : PostSave) (taken : Bool) :
    AllSteps bufferStep ClosesEmpty s ((ProducerStep.postSave signal taken).ops py s)
      ↔ OutlivesQueue py s (.postSave signal taken) := by
  unfold ProducerStep.ops OutlivesQueue
  cases haccepted : signal.accepted py with
  | none => simp [haccepted, AllSteps, bufferStep, ClosesEmpty, closing]
  | some rec =>
      cases taken with
      | true => simp [haccepted, AllSteps, bufferStep, ClosesEmpty, closing]
      | false => simp [haccepted, AllSteps, bufferStep, ClosesEmpty, closing]

theorem closesEmpty_ops_iff (s : Outbox Record) (i : ProducerStep) :
    AllSteps bufferStep ClosesEmpty s (i.ops py s) ↔ OutlivesQueue py s i := by
  cases i with
  | postSave signal taken => exact closesEmpty_postSave_iff s signal taken
  | view p =>
      unfold ProducerStep.ops
      simp only
      split
      · exact iff_of_true ⟨rfl, trivial⟩ trivial
      · exact iff_of_true trivial trivial
  | startConsumer => exact iff_of_true ⟨rfl, trivial⟩ trivial
  | sendToDlq k stamp produce msg error =>
      unfold ProducerStep.ops
      simp only
      split
      · exact iff_of_true ⟨rfl, trivial⟩ trivial
      · exact iff_of_true trivial trivial
  | stopConsumer k =>
      show (s.buffers[k + 1]?.getD [] = [] ∧ True) ↔ ∀ queue ∈ s.buffers[k + 1]?, queue = []
      rw [and_true]
      cases s.buffers[k + 1]? with
      | none => simp
      | some queue => simp
  | handsOver k => exact iff_of_true ⟨rfl, trivial⟩ trivial
  | exit =>
      show (s.buffers.flatten = [] ∧ [] = [] ∧ True) ↔ ∀ queue ∈ s.buffers, queue = []
      rw [List.flatten_eq_nil_iff]
      simp

/-- **One step.** -/
theorem kept_producerStep_iff (s : Outbox Record) (i : ProducerStep) (hs : Conserved s)
    (h : Kept s) : Kept (producerStep py s i) ↔ OutlivesQueue py s i := by
  unfold producerStep
  rw [kept_run_iff s hs, closesEmpty_ops_iff]
  exact and_iff_right h

/-! ## §3. Runs. -/

/-- **Accepted events are not dropped**, in every state of a run, if and only if every handler
returns after its event is taken, and no consumer stops and no process exits with events in a
queue. -/
theorem acceptedKept_iff (py : Python) (steps : List ProducerStep) :
    AllStates (producerStep py) Kept freshProcess steps
      ↔ AllSteps (producerStep py) (OutlivesQueue py) freshProcess steps := by
  have hstart : Kept freshProcess := List.Perm.refl _
  exact allStates_iff_allSteps (K := Conserved) (fun s i h => conserved_run s h (i.ops py s))
    kept_producerStep_iff hstart.conserved hstart steps

/-- The demo guest's booking, just inserted. -/
def demoPostSave : PostSave :=
  .booking demoStay { demoFresh 7 with produce := .accepted } true

/-- The handler returns within the five milliseconds in which the event waits for company. -/
theorem signal_drops_event :
    ¬ ∀ (py : Python) (steps : List ProducerStep),
      AllStates (producerStep py) Kept freshProcess steps := by
  intro h
  have hkept := (h plainPython [.postSave demoPostSave false]).last
  have hlen := List.Perm.length_eq hkept
  exact absurd hlen (by decide +kernel)

end HotelAgent
