import FulfillHub.Messaging.QueueProtocol

/-!
# Runs of the queue protocol

What every step does to the processes and what it leaves alone. Each process is where its program
allows it to be, and it holds nothing but the delivery it was started with or has taken.
-/

namespace FulfillHub

open Interaction Net

variable {c : Consumer} {net net' : Net} {a : Action} {p q : Process} {m : String}

/-! ### Steps -/

/-- Everything a step can do. -/
inductive Net.Effect (c : Consumer) (net : Net) : Action → Net → Prop
  | publish (delivery : Delivery) : Effect c net (.publish delivery)
      { net with queue := net.queue ++ [delivery], sent := delivery :: net.sent }
  | deliver {k : Nat} {delivery : Delivery} (h : net.queue[k]? = some delivery) :
      Effect c net (.deliver k) ({ net with queue := net.queue.eraseIdx k }.addProcess
        (.start c (.consume delivery) (some delivery)))
  | expire {k : Nat} {delivery : Delivery} (h : net.retryQueue[k]? = some delivery) :
      Effect c net (.expire k)
        { net with retryQueue := net.retryQueue.eraseIdx k, queue := net.queue ++ [delivery] }
  | replay (config : DLQReplayConfig) :
      Effect c net (.replay config) (net.addProcess (.start c (.replay config) none))
  | answer {i : Nat} {reply : Response} {p : Process} {call : MessagingCall}
      {next : call.Answer → Messaging (Except Error Unit)} (hp : net.processes[i]? = some p)
      (hprog : p.prog = .call call next) (hlive : p.crashed = false) :
      Effect c net (.answer i reply)
        ((net.answer p.job p.held call reply).2.2.setProcess i
          (p.advance call (net.answer p.job p.held call reply).1 next (net.answer p.job p.held call reply).2.1))
  | crash {i : Nat} {p : Process} (hp : net.processes[i]? = some p) (hlive : p.crashed = false) :
      Effect c net (.crash i) ((net.giveBack p.held p.job).setProcess i (p.letGo true))
  | disconnect {i : Nat} {p : Process} (hp : net.processes[i]? = some p) (hlive : p.crashed = false) :
      Effect c net (.disconnect i) ((net.giveBack p.held p.job).setProcess i (p.letGo false))

theorem effect_of_step (h : net.step c a = some net') : net.Effect c a net' := by
  cases a with
  | publish delivery =>
    cases h
    exact .publish delivery
  | deliver k =>
    obtain ⟨delivery, hk, h⟩ := Option.bind_eq_some_iff.mp h
    cases h
    exact .deliver hk
  | expire k =>
    obtain ⟨delivery, hk, h⟩ := Option.bind_eq_some_iff.mp h
    cases h
    exact .expire hk
  | replay config =>
    cases h
    exact .replay config
  | answer i reply =>
    obtain ⟨p, hp, h⟩ := Option.bind_eq_some_iff.mp h
    cases hprog : p.prog with
    | ret r => simp [hprog] at h
    | call call next =>
      cases hlive : p.crashed with
      | true => simp [hprog, hlive] at h
      | false =>
        simp only [hprog, hlive, Option.some.injEq] at h
        rw [← h]
        exact .answer hp hprog hlive
  | crash i =>
    obtain ⟨p, hp, h⟩ := Option.bind_eq_some_iff.mp h
    cases hlive : p.crashed with
    | true => simp [hlive] at h
    | false =>
      simp only [hlive, Bool.false_eq_true, if_false, Option.some.injEq] at h
      exact h ▸ .crash hp hlive
  | disconnect i =>
    obtain ⟨p, hp, h⟩ := Option.bind_eq_some_iff.mp h
    cases hlive : p.crashed with
    | true => simp [hlive] at h
    | false =>
      simp only [hlive, Bool.false_eq_true, if_false, Option.some.injEq] at h
      exact h ▸ .disconnect hp hlive

/-! ### What a step leaves alone -/

section Frame

variable (net) (job : MessagingJob) (held : Option Delivery) (call : MessagingCall) (reply : Response)

@[simp] theorem Net.processes_giveBack : (net.giveBack held job).processes = net.processes := by
  cases job <;> rfl

@[simp] theorem Net.inbox_giveBack : (net.giveBack held job).inbox = net.inbox := by cases job <;> rfl

@[simp] theorem Net.sent_giveBack : (net.giveBack held job).sent = net.sent := by cases job <;> rfl

@[simp] theorem Net.handled_giveBack : (net.giveBack held job).handled = net.handled := by
  cases job <;> rfl

@[simp] theorem Net.processes_reject (requeue : Bool) : (net.reject held job requeue).processes = net.processes := by
  cases requeue <;> cases job <;> rfl

@[simp] theorem Net.inbox_reject (requeue : Bool) : (net.reject held job requeue).inbox = net.inbox := by
  cases requeue <;> cases job <;> rfl

@[simp] theorem Net.sent_reject (requeue : Bool) : (net.reject held job requeue).sent = net.sent := by
  cases requeue <;> cases job <;> rfl

@[simp] theorem Net.handled_reject (requeue : Bool) : (net.reject held job requeue).handled = net.handled := by
  cases requeue <;> cases job <;> rfl

@[simp] theorem Net.processes_answer : (net.answer job held call reply).2.2.processes = net.processes := by
  cases call <;> cases reply <;> simp only [answer] <;> (try split) <;> simp

@[simp] theorem Net.sent_answer : (net.answer job held call reply).2.2.sent = net.sent := by
  cases call <;> cases reply <;> simp only [answer] <;> (try split) <;> simp

theorem Net.handled_answer (h : m ∈ net.handled) : m ∈ (net.answer job held call reply).2.2.handled := by
  cases call <;> cases reply <;> simp only [answer] <;> (try split) <;> simp [h]

end Frame

/-! ### The processes after a step -/

/-- A process after a step was there before, has just been started, has had its call answered, or has
lost its delivery. -/
theorem Net.Effect.process_cases (h : net.Effect c a net') {j : Nat} (hq : net'.processes[j]? = some q) :
    net.processes[j]? = some q ∨
      (∃ delivery, q = .start c (.consume delivery) (some delivery)) ∨
      (∃ config, q = .start c (.replay config) none) ∨
      (∃ (p : Process) (reply : Response) (call : MessagingCall)
        (next : call.Answer → Messaging (Except Error Unit)), a = .answer j reply ∧
        net.processes[j]? = some p ∧ p.prog = .call call next ∧ p.crashed = false ∧
        q = p.advance call (net.answer p.job p.held call reply).1 next
          (net.answer p.job p.held call reply).2.1) ∨
      ∃ (p : Process) (crashed : Bool), a = (if crashed then .crash j else .disconnect j) ∧
        net.processes[j]? = some p ∧ q = p.letGo crashed := by
  cases h with
  | publish delivery => exact .inl hq
  | @deliver k delivery hk =>
    rcases PoolSpec.getElem?_spawn.mp hq with hold | ⟨_, rfl⟩
    · exact .inl hold
    · exact .inr (.inl ⟨delivery, rfl⟩)
  | expire hk => exact .inl hq
  | replay config =>
    rcases PoolSpec.getElem?_spawn.mp hq with hold | ⟨_, rfl⟩
    · exact .inl hold
    · exact .inr (.inr (.inl ⟨config, rfl⟩))
  | answer hp hprog hlive =>
    rw [setProcess, processes_answer] at hq
    rcases (PoolSpec.getElem?_answer hp).mp hq with ⟨rfl, rfl⟩ | ⟨_, hold⟩
    · exact .inr (.inr (.inr (.inl ⟨_, _, _, _, rfl, hp, hprog, hlive, rfl⟩)))
    · exact .inl hold
  | crash hp hlive =>
    rw [setProcess, processes_giveBack] at hq
    rcases (PoolSpec.getElem?_answer hp).mp hq with ⟨rfl, rfl⟩ | ⟨_, hold⟩
    · exact .inr (.inr (.inr (.inr ⟨_, true, rfl, hp, rfl⟩)))
    · exact .inl hold
  | disconnect hp hlive =>
    rw [setProcess, processes_giveBack] at hq
    rcases (PoolSpec.getElem?_answer hp).mp hq with ⟨rfl, rfl⟩ | ⟨_, hold⟩
    · exact .inr (.inr (.inr (.inr ⟨_, false, rfl, hp, rfl⟩)))
    · exact .inl hold

variable {cond : Net → Action → Prop}

/-- A property of single processes that holds when they start and is kept by answers and by losing the
delivery holds of every process. -/
theorem process_invariant {Φ : Process → Prop}
    (hconsume : ∀ delivery, Φ (.start c (.consume delivery) (some delivery)))
    (hreplay : ∀ config, Φ (.start c (.replay config) none))
    (hanswer : ∀ (net : Net) (i : Nat) (p : Process) (reply : Response) (call : MessagingCall)
      (next : call.Answer → Messaging (Except Error Unit)), (queueProtocol c).Reachable cond net →
      net.processes[i]? = some p → p.prog = .call call next → Φ p →
      Φ (p.advance call (net.answer p.job p.held call reply).1 next (net.answer p.job p.held call reply).2.1))
    (hletGo : ∀ (net : Net) (i : Nat) (p : Process) (crashed : Bool),
      (queueProtocol c).Reachable cond net → cond net (if crashed then .crash i else .disconnect i) →
      net.processes[i]? = some p → Φ p → Φ (p.letGo crashed))
    (hnet : (queueProtocol c).Reachable cond net) (hp : p ∈ net.processes) : Φ p := by
  refine Lts.Reachable.invariant (P := fun net => ∀ p ∈ net.processes, Φ p) ?_ ?_ hnet p hp
  · intro net hinit p hp
    rw [show net = _ from hinit] at hp
    cases hp
  · intro net a net' hreach ih hstep hcond q hq
    obtain ⟨j, hj⟩ := List.mem_iff_getElem?.mp hq
    have hmem : ∀ {p}, net.processes[j]? = some p → Φ p := fun h => ih _ (List.mem_iff_getElem?.mpr ⟨j, h⟩)
    rcases (effect_of_step hstep).process_cases hj with hold | ⟨delivery, rfl⟩ | ⟨config, rfl⟩ |
      ⟨p, reply, call, next, rfl, hold, hprog, _, rfl⟩ | ⟨p, crashed, rfl, hold, rfl⟩
    · exact hmem hold
    · exact hconsume delivery
    · exact hreplay config
    · exact hanswer net j p reply call next hreach hold hprog (hmem hold)
    · exact hletGo net j p crashed hreach hcond hold (hmem hold)

theorem process_follows (hnet : (queueProtocol c).Reachable cond net) (hp : p ∈ net.processes) :
    (p.job.contract c).Follows p.trace p.prog := by
  refine process_invariant (Φ := fun p => (p.job.contract c).Follows p.trace p.prog) ?_ ?_ ?_ ?_ hnet hp
  · exact fun delivery => MessagingJob.program_follows c _
  · exact fun config => MessagingJob.program_follows c _
  · intro net i p reply call next _ _ hprog hfollows
    rw [hprog] at hfollows
    exact hfollows.next _
  · exact fun net i p crashed _ _ _ hfollows => hfollows

theorem process_allowed (hnet : (queueProtocol c).Reachable cond net) {i : Nat}
    (hp : net.processes[i]? = some p) {call : MessagingCall}
    {next : call.Answer → Messaging (Except Error Unit)} (hprog : p.prog = .call call next) :
    (p.job.contract c).allowed p.trace call := by
  have hfollows := process_follows hnet (List.mem_iff_getElem?.mpr ⟨i, hp⟩)
  rw [hprog] at hfollows
  exact hfollows.allowed

/-! ### What a process may hold -/

/-- The delivery a replay may hold after its last exchange. -/
def ReplayHolds (delivery : Delivery) : Option (Exchange MessagingCall.Answer) → Prop
  | some ⟨.get, .ok (some taken)⟩ => taken = delivery
  | some ⟨.publish published, _⟩ => published.message = delivery.message
  | some ⟨.ack, .error _⟩ | some ⟨.nack _, _⟩ => True
  | _ => False

def Process.MayHold (p : Process) (delivery : Delivery) : Prop :=
  match p.job with
  | .consume own => own = delivery
  | .replay _ => ReplayHolds delivery p.trace.getLast?

theorem Consumer.Permits.ne_get {delivery : Delivery} {event : OutboxEvent} {trace : MessagingTrace}
    {call : MessagingCall} (h : c.Permits delivery event trace call) : call ≠ .get := by
  cases h <;> exact MessagingCall.noConfusion

theorem Net.held_answer {job : MessagingJob} {held : Option Delivery} {call : MessagingCall} {reply : Response}
    {delivery : Delivery} (hcall : call ≠ .get)
    (h : (net.answer job held call reply).2.1 = some delivery) : held = some delivery := by
  cases call <;> cases reply <;> simp only [answer] at h <;> (try split at h) <;>
    first | exact h | exact absurd rfl hcall | cases h

theorem process_mayHold (hnet : (queueProtocol c).Reachable cond net) (hp : p ∈ net.processes)
    {delivery : Delivery} (hheld : p.held = some delivery) : p.MayHold delivery := by
  refine process_invariant (Φ := fun p => ∀ delivery, p.held = some delivery → p.MayHold delivery)
    ?_ ?_ ?_ ?_ hnet hp delivery hheld
  · intro own delivery h
    exact Option.some.inj h
  · intro config delivery h
    cases h
  · intro net i p reply call next hreach hp hprog ih delivery hheld
    have hallowed := process_allowed hreach hp hprog
    cases hjob : p.job with
    | consume own =>
      rw [hjob] at hallowed
      have hcall : call ≠ .get := by
        rcases Consumer.allowed_cases hallowed with ⟨_, rfl⟩ | ⟨event, _, hpermits⟩
        · exact MessagingCall.noConfusion
        · exact hpermits.ne_get
      have hbefore := ih delivery (held_answer hcall hheld)
      simpa [Process.MayHold, Process.advance, hjob] using hbefore
    | replay config =>
      rw [hjob] at hallowed
      have hbefore : p.held = some delivery → ReplayHolds delivery p.trace.getLast? := fun h => by
        simpa [Process.MayHold, hjob] using ih delivery h
      simp only [Process.MayHold, Process.advance, hjob, List.getLast?_concat] at hheld ⊢
      cases call with
      | record _ _ | handle _ | release _ _ | publishRetry _ _ _ => exact hallowed.elim
      | confirmSelect =>
        have hempty := hbefore (held_answer MessagingCall.noConfusion hheld)
        simp [show p.trace = [] from hallowed, ReplayHolds] at hempty
      | get =>
        have hnone : p.held ≠ some delivery := by
          intro h
          have hlast := hbefore h
          rcases hallowed with h | h <;> simp [h, ReplayHolds] at hlast
        cases reply with
        | fails err late => exact absurd hheld hnone
        | succeeds =>
          cases hdlq : net.dlq with
          | nil => simp [answer, hdlq, hnone] at hheld
          | cons taken rest => simpa [answer, hdlq, ReplayHolds] using hheld
      | publish published =>
        obtain ⟨taken, hlast, rfl⟩ := hallowed
        have htaken := hbefore (held_answer MessagingCall.noConfusion hheld)
        simp only [hlast, ReplayHolds] at htaken
        exact htaken ▸ rfl
      | ack =>
        cases reply with
        | succeeds => cases hheld
        | fails err late => trivial
      | nack requeue => trivial
  · intro net i p crashed _ _ _ _ delivery h
    cases h

/-! ### The calls of a worker -/

/-- The calls of a worker that owns the row of its message. -/
def MessagingCall.isClaimed : MessagingCall → Bool
  | .handle _ | .release _ _ => true
  | _ => false

/-- The calls before which a worker must not be left without its delivery. -/
def MessagingCall.isGuarded : MessagingCall → Bool
  | .record _ _ => true
  | call => call.isClaimed

theorem permits_of_guarded {call : MessagingCall} (hallowed : (p.job.contract c).allowed p.trace call)
    (hguarded : call.isGuarded = true) :
    ∃ delivery event, p.job = .consume delivery ∧ decodeDelivery delivery = .ok event ∧
      c.Permits delivery event p.trace call := by
  cases hjob : p.job with
  | replay config =>
    rw [hjob] at hallowed
    cases call <;> first | exact hallowed.elim | cases hguarded
  | consume delivery =>
    rw [hjob] at hallowed
    rcases Consumer.allowed_cases hallowed with ⟨_, rfl⟩ | ⟨event, hdecode, hpermits⟩
    · cases hguarded
    · exact ⟨delivery, event, rfl, hdecode, hpermits⟩

theorem pending_of_prog {call : MessagingCall} {next : call.Answer → Messaging (Except Error Unit)}
    (h : p.prog = .call call next) : p.pending = some call := by
  simp [Process.pending, h]

theorem allowed_of_pending {call : MessagingCall} (hfollows : (p.job.contract c).Follows p.trace p.prog)
    (h : p.pending = some call) : (p.job.contract c).allowed p.trace call := by
  cases hprog : p.prog with
  | ret r => simp [Process.pending, hprog] at h
  | call call' next =>
    have hcall : call' = call := by simpa [Process.pending, hprog] using h
    subst hcall
    rw [hprog] at hfollows
    exact hfollows.allowed

end FulfillHub
