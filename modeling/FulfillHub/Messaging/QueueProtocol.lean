import FulfillHub.Library.Pool
import FulfillHub.Messaging.Consumer

/-!
# A queue and its consumers

One queue with its retry queue and dead-letter queue, the inbox, and any number of processes: workers
that process one delivery under the consumer's name, and operators' replays of the dead-letter queue.
A process answers for the delivery it holds until it acknowledges or rejects it; when it crashes or
loses its connection the broker puts that delivery back where it came from. After a lost connection
the process goes on, holding nothing.

Every call may fail, and one that fails may have taken effect nevertheless: the row may be in the inbox
or gone from it, the publication, acknowledgement or rejection may have reached the broker.
-/

namespace FulfillHub

open Interaction

/-! ### Processes -/

inductive MessagingJob
  | consume (delivery : Delivery)
  | replay (config : DLQReplayConfig)

namespace MessagingJob

def program (c : Consumer) : MessagingJob → Messaging (Except Error Unit)
  | .consume delivery => c.processDelivery delivery
  | .replay config => replayDLQ config >>= fun result => pure result.2

def contract (c : Consumer) : MessagingJob → Contract MessagingCall.Answer (Except Error Unit)
  | .consume delivery => c.contract delivery
  | .replay config => ⟨ReplayPermits config, fun _ _ => True⟩

theorem program_follows (c : Consumer) (job : MessagingJob) : (job.contract c).Follows [] (job.program c) := by
  cases job with
  | consume delivery => exact c.processDelivery_follows delivery
  | replay config => exact .bind (replayDLQ_follows rfl fun _ _ => .ret trivial)

end MessagingJob

structure Process extends Thread MessagingJob MessagingCall.Answer (Except Error Unit) where
  held : Option Delivery
  crashed : Bool

def Process.start (c : Consumer) (job : MessagingJob) (held : Option Delivery) : Process :=
  { job, trace := [], prog := job.program c, held, crashed := false }

/-- The call a process makes next. -/
def Process.pending (p : Process) : Option MessagingCall :=
  match p.prog with
  | .ret _ => none
  | .call call _ => some call

/-- The process after an answer, and the delivery it holds then. -/
def Process.advance (p : Process) (call : MessagingCall) (r : call.Answer)
    (next : call.Answer → Messaging (Except Error Unit)) (held : Option Delivery) : Process :=
  { p with trace := p.trace ++ [⟨call, r⟩], prog := next r, held }

/-- The process without its delivery. -/
def Process.letGo (p : Process) (crashed : Bool) : Process := { p with held := none, crashed }

/-! ### The system -/

/-- The broker's queues, the inbox rows, and the processes ever started. `sent` and `handled` are the
history: what was published to the queue, and the messages the handler returned nil for. -/
structure Net where
  queue : List Delivery
  retryQueue : List Delivery
  dlq : List Delivery
  inbox : List (String × String)
  processes : List Process
  sent : List Delivery
  handled : List String

namespace Net

/-- How the environment answers a call. `late` tells whether a failing call took effect. -/
inductive Response
  | succeeds
  | fails (err : Error) (late : Bool)

inductive Action
  | publish (delivery : Delivery)
  | deliver (k : Nat)
  | expire (k : Nat)
  | replay (config : DLQReplayConfig)
  | answer (i : Nat) (reply : Response)
  | crash (i : Nat)
  | disconnect (i : Nat)

/-- The broker takes an unacknowledged delivery back. -/
def giveBack (net : Net) (held : Option Delivery) : MessagingJob → Net
  | .consume _ => { net with queue := held.toList ++ net.queue }
  | .replay _ => { net with dlq := held.toList ++ net.dlq }

/-- The broker dead-letters a rejected delivery. A dead-letter queue has no dead-letter exchange. -/
def deadLetter (net : Net) (held : Option Delivery) : MessagingJob → Net
  | .consume _ => { net with dlq := net.dlq ++ held.toList }
  | .replay _ => net

def reject (net : Net) (held : Option Delivery) (job : MessagingJob) (requeue : Bool) : Net :=
  if requeue then net.giveBack held job else net.deadLetter held job

/-- The answer to a call of a process, the delivery it holds afterwards, and the system afterwards. -/
def answer (net : Net) (job : MessagingJob) (held : Option Delivery) :
    (call : MessagingCall) → Response → call.Answer × Option Delivery × Net
  | .record name event, .succeeds =>
    if (name, event.messageID) ∈ net.inbox then (.ok false, held, net)
    else (.ok true, held, { net with inbox := (name, event.messageID) :: net.inbox })
  | .record name event, .fails err late =>
    (.error err, held, if late then
      { net with inbox := net.inbox.insert (name, event.messageID) } else net)
  | .handle event, .succeeds => (.ok (), held, { net with handled := event.messageID :: net.handled })
  | .handle _, .fails err _ => (.error err, held, net)
  | .release name event, .succeeds =>
    (.ok (), held, { net with inbox := net.inbox.filter (· ≠ (name, event.messageID)) })
  | .release name event, .fails err late =>
    (.error err, held, if late then
      { net with inbox := net.inbox.filter (· ≠ (name, event.messageID)) } else net)
  | .publishRetry delivery event attempt, .succeeds =>
    (.ok (), held, { net with retryQueue := net.retryQueue ++ [retryDelivery delivery event attempt] })
  | .publishRetry delivery event attempt, .fails err late =>
    (.error err, held, if late then
      { net with retryQueue := net.retryQueue ++ [retryDelivery delivery event attempt] } else net)
  | .confirmSelect, .succeeds => (.ok (), held, net)
  | .confirmSelect, .fails err _ => (.error err, held, net)
  | .get, .succeeds =>
    match net.dlq with
    | [] => (.ok none, held, net)
    | delivery :: rest => (.ok (some delivery), some delivery, { net with dlq := rest })
  | .get, .fails err _ => (.error err, held, net)
  | .publish delivery, .succeeds => (.ok (), held, { net with queue := net.queue ++ [delivery] })
  | .publish delivery, .fails err late =>
    (.error err, held, if late then { net with queue := net.queue ++ [delivery] } else net)
  | .ack, .succeeds => (.ok (), none, net)
  | .ack, .fails err late => (.error err, if late then none else held, net)
  | .nack requeue, .succeeds => (.ok (), none, net.reject held job requeue)
  | .nack requeue, .fails err late =>
    (.error err, if late then none else held, if late then net.reject held job requeue else net)

def setProcess (net : Net) (i : Nat) (p : Process) : Net :=
  { net with processes := net.processes.set i p }

def addProcess (net : Net) (p : Process) : Net := { net with processes := net.processes ++ [p] }

def step (c : Consumer) (net : Net) : Action → Option Net
  | .publish delivery => some { net with queue := net.queue ++ [delivery], sent := delivery :: net.sent }
  | .deliver k => do
      let delivery ← net.queue[k]?
      some ({ net with queue := net.queue.eraseIdx k }.addProcess
        (.start c (.consume delivery) (some delivery)))
  | .expire k => do
      let delivery ← net.retryQueue[k]?
      some { net with retryQueue := net.retryQueue.eraseIdx k, queue := net.queue ++ [delivery] }
  | .replay config => some (net.addProcess (.start c (.replay config) none))
  | .answer i reply => do
      let p ← net.processes[i]?
      match p.prog, p.crashed with
      | .call call next, false =>
        let (r, held, net') := net.answer p.job p.held call reply
        some (net'.setProcess i (p.advance call r next held))
      | _, _ => none
  | .crash i => do
      let p ← net.processes[i]?
      if p.crashed then none
      else some ((net.giveBack p.held p.job).setProcess i (p.letGo true))
  | .disconnect i => do
      let p ← net.processes[i]?
      if p.crashed then none
      else some ((net.giveBack p.held p.job).setProcess i (p.letGo false))

end Net

/-- The system starts empty. -/
def queueProtocol (c : Consumer) : Lts Net Net.Action where
  init net := net = ⟨[], [], [], [], [], [], []⟩
  step net a net' := net.step c a = some net'

end FulfillHub
