import FulfillHub.Library.Simulator
import FulfillHub.Messaging.QueueRuns

/-!
# No message is lost

A message that was published is handled or still has a copy: in one of the queues, or with a process
that has not yet earned the right to acknowledge it. The delicate point is a duplicate, which a worker
acknowledges because the inbox has a row for it. That is safe as long as the row has an owner: a
worker which holds a copy of its own and will either handle the message or remove the row.

`hazard` names the steps that leave a row behind without such an owner: a worker that dies between
`Record` and the end of `HandleEvent` or `Release`, a worker that loses its delivery while it goes on
to own the row, a `Release` that fails and leaves the row, and a `Record` that fails and has inserted
it. Along runs without them nothing is lost.
-/

namespace FulfillHub

open Interaction Net

variable {c : Consumer} {net net' : Net} {a : Action} {p q : Process} {m : String}
  {cond : Net → Action → Prop} {delivery : Delivery} {event : OutboxEvent} {call : MessagingCall} {job : MessagingJob}
  {held : Option Delivery} {reply : Response} {i : Nat}

/-! ### Hazards -/

/-- The failing calls that leave an inbox row behind: a `Record` that inserted it, and a `Release` that
did not delete it. -/
def Net.leavesRow (net : Net) (late : Bool) : MessagingCall → Bool
  | .record name event => late && decide ((name, event.messageID) ∉ net.inbox)
  | .release _ _ => !late
  | _ => false

/-- The steps that can strand an inbox row: a worker crashes before `HandleEvent` or `Release`, loses
its connection before `Record`, `HandleEvent` or `Release`, or gets an error for a call that leaves its
row behind. -/
def Net.hazard (net : Net) : Action → Bool
  | .crash i => ((net.processes[i]?).bind Process.pending).any MessagingCall.isClaimed
  | .disconnect i => ((net.processes[i]?).bind Process.pending).any MessagingCall.isGuarded
  | .answer i (.fails _ late) => ((net.processes[i]?).bind Process.pending).any (net.leavesRow late)
  | _ => false

def CarefulRun (net : Net) (a : Action) : Prop := net.hazard a = false

theorem Consumer.Permits.guarded_before {trace : MessagingTrace} (h : c.Permits delivery event trace call)
    (hcall : call.isGuarded = true) {x : Exchange MessagingCall.Answer} (hx : trace.getLast? = some x) :
    x.1.isGuarded = true := by
  cases h with
  | record => cases hx
  | handle => cases hx; rfl
  | release err => cases hx; rfl
  | _ => cases hcall

theorem Net.held_answer_of_guarded (h : call.isGuarded = true) : (net.answer job held call reply).2.1 = held := by
  cases call with
  | record name event =>
    cases reply with
    | fails err late => rfl
    | succeeds =>
      simp only [answer]
      split <;> rfl
  | handle _ | release _ _ => cases reply <;> rfl
  | _ => cases h

theorem held_of_guarded (hnet : (queueProtocol c).Reachable CarefulRun net) (hp : p ∈ net.processes)
    (hlive : p.crashed = false) (hcall : p.pending = some call) (hguarded : call.isGuarded = true) :
    ∃ delivery, p.job = .consume delivery ∧ p.held = some delivery := by
  refine process_invariant (Φ := fun p => p.crashed = false → ∀ call, p.pending = some call →
    call.isGuarded = true → ∃ delivery, p.job = .consume delivery ∧ p.held = some delivery)
    ?_ ?_ ?_ ?_ hnet hp hlive call hcall hguarded
  · exact fun delivery _ call _ _ => ⟨delivery, rfl, rfl⟩
  · intro config _ call hcall hguarded
    obtain ⟨_, _, hjob, _⟩ := permits_of_guarded
      (allowed_of_pending (MessagingJob.program_follows c _) hcall) hguarded
    cases hjob
  · intro net i p reply call next hreach hp hprog ih hlive call' hcall' hguarded
    have hfollows := process_follows hreach (List.mem_iff_getElem?.mpr ⟨i, hp⟩)
    rw [hprog] at hfollows
    obtain ⟨_, _, _, _, hpermits⟩ :=
      permits_of_guarded (allowed_of_pending (hfollows.next _) hcall') hguarded
    have hbefore : call.isGuarded = true := hpermits.guarded_before hguarded List.getLast?_concat
    obtain ⟨delivery, hjob, hheld⟩ := ih hlive call (pending_of_prog hprog) hbefore
    exact ⟨delivery, hjob, (held_answer_of_guarded hbefore).trans hheld⟩
  · intro net i p crashed hreach hcareful hp ih hlive call hcall hguarded
    cases crashed with
    | true => cases hlive
    | false =>
      have hpending : p.pending = some call := hcall
      simp [CarefulRun, hazard, hp, hpending, hguarded] at hcareful

/-! ### Owners of inbox rows -/

/-- The worker has recorded the message, and the handler has not returned nil nor the row been
released. -/
def Consumer.Owns (c : Consumer) (event : OutboxEvent) (trace : MessagingTrace) : Prop :=
  trace = [⟨.record c.consumerName event, .ok true⟩] ∨
    ∃ err, trace = [⟨.record c.consumerName event, .ok true⟩, ⟨.handle event, .error err⟩]

def Process.Owner (c : Consumer) (p : Process) (m : String) : Prop :=
  ∃ delivery event, p.job = .consume delivery ∧ decodeDelivery delivery = .ok event ∧
    event.messageID = m ∧ c.Owns event p.trace

theorem Consumer.Owns.next {trace : MessagingTrace} {prog : Messaging (Except Error Unit)} (h : c.Owns event trace)
    (hdecode : decodeDelivery delivery = .ok event) (hfollows : (c.contract delivery).Follows trace prog) :
    ∃ call next, prog = .call call next ∧ (call = .handle event ∨ call = .release c.consumerName event) := by
  cases prog with
  | ret r =>
    rcases hfollows.returns with ⟨hnil, _⟩ | ⟨before, r, htrace⟩ | ⟨before, r, htrace⟩
    · rcases h with h | ⟨err, h⟩ <;> simp [h] at hnil
    all_goals
      have hlast := congrArg List.getLast? htrace
      rcases h with h | ⟨err, h⟩ <;> simp [h] at hlast
  | call call next =>
    rcases Consumer.allowed_cases hfollows.allowed with ⟨hnil, _⟩ | ⟨event', hdecode', hpermits⟩
    · rcases h with h | ⟨err, h⟩ <;> simp [h] at hnil
    · cases hdecode.symm.trans hdecode'
      refine ⟨call, next, rfl, ?_⟩
      rcases h with h | ⟨err, h⟩
      · rw [h] at hpermits
        cases hpermits with
        | handle => exact .inl rfl
      · rw [h] at hpermits
        cases hpermits with
        | release => exact .inr rfl

theorem Process.Owner.pending (h : p.Owner c m) (hfollows : (p.job.contract c).Follows p.trace p.prog) :
    ∃ event, event.messageID = m ∧
      (p.pending = some (.handle event) ∨ p.pending = some (.release c.consumerName event)) := by
  obtain ⟨delivery, event, hjob, hdecode, hm, howns⟩ := h
  rw [hjob] at hfollows
  obtain ⟨call, next, hprog, hcall⟩ := howns.next hdecode hfollows
  rw [pending_of_prog hprog]
  exact ⟨event, hm, hcall.imp (congrArg some) (congrArg some)⟩

/-- Every inbox row belongs to a handled message or to a live worker. -/
def RowsOwned (c : Consumer) (net : Net) : Prop :=
  ∀ m, (c.consumerName, m) ∈ net.inbox →
    m ∈ net.handled ∨ ∃ p ∈ net.processes, p.crashed = false ∧ p.Owner c m

/-- Rows stay owned when no row is added, nothing handled is forgotten, and live owners of remaining
rows stay live owners. -/
theorem RowsOwned.of_owners (h : RowsOwned c net)
    (hinbox : ∀ m, (c.consumerName, m) ∈ net'.inbox → (c.consumerName, m) ∈ net.inbox)
    (hhandled : ∀ m, m ∈ net.handled → m ∈ net'.handled)
    (howner : ∀ (j : Nat) (p : Process) (m : String), net.processes[j]? = some p → p.crashed = false →
      p.Owner c m → (c.consumerName, m) ∈ net'.inbox →
      m ∈ net'.handled ∨ ∃ q ∈ net'.processes, q.crashed = false ∧ q.Owner c m) :
    RowsOwned c net' := by
  intro m hm
  rcases h m (hinbox m hm) with hdone | ⟨p, hp, hlive, hown⟩
  · exact .inl (hhandled m hdone)
  · obtain ⟨j, hj⟩ := List.mem_iff_getElem?.mp hp
    exact howner j p m hj hlive hown hm

theorem Net.inbox_answer {key : String × String}
    (hrow : ∀ err late, reply = .fails err late → net.leavesRow late call = false)
    (h : key ∈ (net.answer job held call reply).2.2.inbox) :
    key ∈ net.inbox ∨ ∃ event, key.2 = event.messageID ∧
      (⟨call, (net.answer job held call reply).1⟩ : Exchange MessagingCall.Answer) =
        ⟨.record key.1 event, .ok true⟩ := by
  cases call with
  | record name event =>
    cases reply with
    | fails err late =>
      have hleaves := hrow err late rfl
      cases late with
      | false => exact .inl h
      | true =>
        simp only [leavesRow, Bool.true_and, decide_eq_false_iff_not, not_not] at hleaves
        simp only [answer, if_true, List.insert_of_mem hleaves] at h
        exact .inl h
    | succeeds =>
      by_cases hrow : (name, event.messageID) ∈ net.inbox
      · simp only [answer, if_pos hrow] at h
        exact .inl h
      · simp only [answer, if_neg hrow, List.mem_cons] at h ⊢
        rcases h with rfl | h
        · exact .inr ⟨event, rfl, rfl⟩
        · exact .inl h
  | release name event =>
    cases reply with
    | fails err late =>
      cases late with
      | false => exact .inl h
      | true => exact .inl (List.mem_filter.mp h).1
    | succeeds => exact .inl (List.mem_filter.mp h).1
  | handle _ | publishRetry _ _ _ | confirmSelect | get | publish _ | ack | nack _ =>
    refine .inl ?_
    revert h
    cases reply <;> simp only [answer] <;> (try split) <;> simp

theorem Process.owner_of_recorded {r : call.Answer} {next : call.Answer → Messaging (Except Error Unit)}
    (hallowed : (p.job.contract c).allowed p.trace call)
    (hx : (⟨call, r⟩ : Exchange MessagingCall.Answer) = ⟨.record c.consumerName event, .ok true⟩) :
    (p.advance call r next held).Owner c event.messageID := by
  have hcall : call = .record c.consumerName event := congrArg Sigma.fst hx
  obtain ⟨delivery, event', hjob, hdecode, hpermits⟩ :=
    permits_of_guarded hallowed (by rw [hcall]; rfl)
  rw [hcall] at hpermits
  generalize htrace : p.trace = trace at hpermits
  cases hpermits
  refine ⟨delivery, event, hjob, hdecode, rfl, .inl ?_⟩
  rw [Process.advance, htrace, hx]
  rfl

theorem Process.owner_of_failed {err : Error} {next : Except Error Unit → Messaging (Except Error Unit)}
    (hallowed : (p.job.contract c).allowed p.trace (.handle event)) :
    (p.advance (.handle event) (.error err) next held).Owner c event.messageID := by
  obtain ⟨delivery, event', hjob, hdecode, hpermits⟩ := permits_of_guarded hallowed rfl
  generalize htrace : p.trace = trace at hpermits
  cases hpermits
  refine ⟨delivery, event, hjob, hdecode, rfl, .inr ⟨err, ?_⟩⟩
  rw [Process.advance, htrace]
  rfl

theorem mem_setProcess (hp : net.processes[i]? = some p) : q ∈ (net.setProcess i q).processes :=
  List.mem_iff_getElem?.mpr ⟨i, (PoolSpec.getElem?_answer hp).mpr (.inl ⟨rfl, rfl⟩)⟩

theorem mem_setProcess_of_ne {j : Nat} {p' : Process} (hp : net.processes[i]? = some p)
    (hq : net.processes[j]? = some q) (hij : j ≠ i) : q ∈ (net.setProcess i p').processes :=
  List.mem_iff_getElem?.mpr ⟨j, (PoolSpec.getElem?_answer hp).mpr (.inr ⟨hij, hq⟩)⟩

theorem rowsOwned_answer {next : call.Answer → Messaging (Except Error Unit)}
    (hnet : (queueProtocol c).Reachable CarefulRun net) (h : RowsOwned c net)
    (hcareful : CarefulRun net (.answer i reply)) (hp : net.processes[i]? = some p) (hprog : p.prog = .call call next)
    (hlive : p.crashed = false) :
    RowsOwned c ((net.answer p.job p.held call reply).2.2.setProcess i
      (p.advance call (net.answer p.job p.held call reply).1 next
        (net.answer p.job p.held call reply).2.1)) := by
  have hp' : (net.answer p.job p.held call reply).2.2.processes[i]? = some p := by
    rw [processes_answer, hp]
  intro m hm
  have hrow : ∀ err late, reply = .fails err late → net.leavesRow late call = false := by
    rintro err late rfl
    simpa [CarefulRun, hazard, hp, pending_of_prog hprog] using hcareful
  rcases inbox_answer hrow hm with hold | ⟨event, hkey, hx⟩
  · rcases h m hold with hdone | ⟨q, hq, hqlive, hown⟩
    · exact .inl (handled_answer _ _ _ _ _ hdone)
    · obtain ⟨j, hj⟩ := List.mem_iff_getElem?.mp hq
      by_cases hji : j = i
      · subst hji
        cases hj.symm.trans hp
        obtain ⟨event, rfl, hpending | hpending⟩ := hown.pending (process_follows hnet hq)
        · cases (pending_of_prog hprog).symm.trans hpending
          cases reply with
          | succeeds => exact .inl List.mem_cons_self
          | fails err late =>
            exact .inr ⟨_, mem_setProcess hp', hlive,
              Process.owner_of_failed (process_allowed hnet hp hprog)⟩
        · cases (pending_of_prog hprog).symm.trans hpending
          cases reply with
          | succeeds => simp [setProcess, answer] at hm
          | fails err late =>
            cases late with
            | true => simp [setProcess, answer] at hm
            | false => simp [CarefulRun, hazard, hp, hpending, leavesRow] at hcareful
      · exact .inr ⟨q, mem_setProcess_of_ne hp' (by rw [processes_answer, hj]) hji, hqlive, hown⟩
  · subst hkey
    exact .inr ⟨_, mem_setProcess hp', hlive, Process.owner_of_recorded (process_allowed hnet hp hprog) hx⟩

theorem rowsOwned (hnet : (queueProtocol c).Reachable CarefulRun net) : RowsOwned c net := by
  refine Lts.Reachable.invariant (P := RowsOwned c) ?_ ?_ hnet
  · intro net hinit m hm
    rw [show net = _ from hinit] at hm
    cases hm
  · intro net a net' hreach ih hstep hcareful
    cases effect_of_step hstep with
    | publish delivery => exact ih
    | expire hk => exact ih
    | deliver hk =>
      exact ih.of_owners (fun _ h => h) (fun _ h => h) fun j p m hj hlive hown _ =>
        .inr ⟨p, List.mem_append_left _ (List.mem_iff_getElem?.mpr ⟨j, hj⟩), hlive, hown⟩
    | replay config =>
      exact ih.of_owners (fun _ h => h) (fun _ h => h) fun j p m hj hlive hown _ =>
        .inr ⟨p, List.mem_append_left _ (List.mem_iff_getElem?.mpr ⟨j, hj⟩), hlive, hown⟩
    | answer hp hprog hlive => exact rowsOwned_answer hreach ih hcareful hp hprog hlive
    | @crash i p hp hlive =>
      refine ih.of_owners (by simp [setProcess]) (by simp [setProcess]) fun j q m hj hlive hown _ => ?_
      have hji : j ≠ i := by
        rintro rfl
        cases hj.symm.trans hp
        obtain ⟨event, _, hpending | hpending⟩ :=
          hown.pending (process_follows hreach (List.mem_iff_getElem?.mpr ⟨j, hp⟩)) <;>
        simp [CarefulRun, hazard, hp, hpending, MessagingCall.isClaimed] at hcareful
      exact .inr ⟨q, mem_setProcess_of_ne (by rwa [processes_giveBack]) (by rwa [processes_giveBack]) hji,
        hlive, hown⟩
    | @disconnect i p hp hlive =>
      refine ih.of_owners (by simp [setProcess]) (by simp [setProcess]) fun j q m hj hlive hown _ => ?_
      have hp' : (net.giveBack p.held p.job).processes[i]? = some p := by rwa [processes_giveBack]
      by_cases hji : j = i
      · subst hji
        cases hj.symm.trans hp
        exact .inr ⟨_, mem_setProcess hp', rfl, hown⟩
      · exact .inr ⟨q, mem_setProcess_of_ne hp' (by rwa [processes_giveBack]) hji, hlive, hown⟩

/-! ### Safe copies -/

/-- Some queue has a copy. -/
def Net.Stored (net : Net) (m : String) : Prop :=
  ∃ delivery : Delivery, delivery.message = m ∧
    (delivery ∈ net.queue ∨ delivery ∈ net.retryQueue ∨ delivery ∈ net.dlq)

/-- The exchanges after which a process acknowledges its delivery. -/
def mayAck : Option (Exchange MessagingCall.Answer) → Bool
  | some ⟨.record _ _, .ok false⟩ | some ⟨.handle _, .ok _⟩ | some ⟨.publishRetry _ _ _, .ok _⟩
  | some ⟨.publish _, .ok _⟩ => true
  | _ => false

/-- The process holds a copy which it is not about to acknowledge. -/
def Process.Secures (p : Process) (m : String) : Prop :=
  ∃ delivery, p.held = some delivery ∧ delivery.message = m ∧ mayAck p.trace.getLast? = false

def Net.Safe (net : Net) (m : String) : Prop := net.Stored m ∨ ∃ p ∈ net.processes, p.Secures m

theorem mayAck_of_allowed (hallowed : (p.job.contract c).allowed p.trace .ack) : mayAck p.trace.getLast? = true := by
  cases hjob : p.job with
  | replay config =>
    rw [hjob] at hallowed
    obtain ⟨delivery, hlast⟩ := hallowed
    rw [hlast]
    rfl
  | consume delivery =>
    rw [hjob] at hallowed
    rcases Consumer.allowed_cases hallowed with ⟨_, h⟩ | ⟨event, _, hpermits⟩
    · cases h
    · generalize p.trace = trace at hpermits
      cases hpermits <;> rfl

theorem Process.Owner.secures (h : p.Owner c m) (hjob : p.job = .consume delivery) (hheld : p.held = some delivery) :
    p.Secures m := by
  obtain ⟨own, event, hjob', hdecode, rfl, howns⟩ := h
  cases hjob.symm.trans hjob'
  refine ⟨delivery, hheld, message_of_decodeDelivery hdecode, ?_⟩
  rcases howns with h | ⟨err, h⟩ <;> rw [h] <;> rfl

theorem Net.Stored.mono (h : net.Stored m) (hqueue : net.queue ⊆ net'.queue)
    (hretry : net.retryQueue ⊆ net'.retryQueue) (hdlq : net.dlq ⊆ net'.dlq) : net'.Stored m := by
  obtain ⟨delivery, hm, hmem⟩ := h
  exact ⟨delivery, hm, hmem.imp (fun h => hqueue h) (Or.imp (fun h => hretry h) (fun h => hdlq h))⟩

theorem Net.Stored.giveBack (h : net.Stored m) : (net.giveBack held job).Stored m := by
  cases job <;> exact h.mono (by simp [Net.giveBack]) (by simp [Net.giveBack]) (by simp [Net.giveBack])

theorem Net.stored_giveBack (net : Net) (delivery : Delivery) (job : MessagingJob) :
    (net.giveBack (some delivery) job).Stored delivery.message := by
  refine ⟨delivery, rfl, ?_⟩
  cases job <;> simp [Net.giveBack]

theorem Net.Stored.reject {requeue : Bool} (h : net.Stored m) : (net.reject held job requeue).Stored m := by
  cases requeue with
  | true => exact h.giveBack
  | false => cases job <;> exact h.mono (List.Subset.refl _) (List.Subset.refl _) (by simp [Net.reject, deadLetter])

theorem Net.Stored.answer {job : MessagingJob} {held : Option Delivery} {call : MessagingCall}
    {reply : Response} (h : net.Stored m) (hcall : call ≠ .get) :
    (net.answer job held call reply).2.2.Stored m := by
  have hretry : ∀ delivery,
      Net.Stored { net with retryQueue := net.retryQueue ++ [delivery] } m := fun delivery =>
    h.mono (List.Subset.refl _) (List.subset_append_left _ _) (List.Subset.refl _)
  have hqueue : ∀ delivery, Net.Stored { net with queue := net.queue ++ [delivery] } m := fun delivery =>
    h.mono (List.subset_append_left _ _) (List.Subset.refl _) (List.Subset.refl _)
  cases call with
  | get => exact absurd rfl hcall
  | record name event =>
    cases reply with
    | fails err late => cases late <;> exact h
    | succeeds =>
      simp only [Net.answer]
      split <;> exact h
  | release name event =>
    cases reply with
    | succeeds => exact h
    | fails err late => cases late <;> exact h
  | handle _ | confirmSelect | ack => cases reply <;> exact h
  | publishRetry delivery event attempt =>
    cases reply with
    | succeeds => exact hretry _
    | fails err late => cases late <;> first | exact h | exact hretry _
  | publish delivery =>
    cases reply with
    | succeeds => exact hqueue _
    | fails err late => cases late <;> first | exact h | exact hqueue _
  | nack requeue =>
    cases reply with
    | succeeds => exact h.reject
    | fails err late => cases late <;> first | exact h | exact h.reject

theorem Net.stored_reject {requeue : Bool} (hallowed : (p.job.contract c).allowed p.trace (.nack requeue)) :
    (net.reject (some delivery) p.job requeue).Stored delivery.message := by
  cases hjob : p.job with
  | replay config =>
    rw [hjob] at hallowed
    obtain ⟨rfl, _⟩ := hallowed
    exact stored_giveBack net delivery (.replay config)
  | consume own =>
    cases requeue with
    | true => exact stored_giveBack net delivery (.consume own)
    | false => exact ⟨delivery, rfl, by simp [reject, deadLetter]⟩

/-- The process goes on holding its copy when the call neither settles it nor earns the right to. -/
theorem Process.Secures.advance {r : call.Answer} {next : call.Answer → Messaging (Except Error Unit)}
    (h : p.Secures m) (hr : mayAck (some ⟨call, r⟩) = false) : (p.advance call r next p.held).Secures m := by
  obtain ⟨delivery, hheld, hm, _⟩ := h
  exact ⟨delivery, hheld, hm, by rw [Process.advance, List.getLast?_concat, hr]⟩

theorem message_of_permits (hnet : (queueProtocol c).Reachable cond net) (hp : p ∈ net.processes) {own : Delivery}
    (hjob : p.job = .consume own) (hdecode : decodeDelivery own = .ok event) (h : p.Secures m) :
    event.messageID = m := by
  obtain ⟨delivery, hheld, rfl, _⟩ := h
  have hown : own = delivery := by
    simpa [Process.MayHold, hjob] using process_mayHold hnet hp hheld
  rw [← hown, message_of_decodeDelivery hdecode]

/-- A duplicate is acknowledged only when its message is handled or another process secures it. -/
theorem secured_of_row (hnet : (queueProtocol c).Reachable CarefulRun net)
    (hrow : (c.consumerName, m) ∈ net.inbox) : m ∈ net.handled ∨ ∃ q ∈ net.processes, q.Owner c m ∧ q.Secures m := by
  rcases rowsOwned hnet m hrow with hdone | ⟨q, hq, hlive, hown⟩
  · exact .inl hdone
  · obtain ⟨event, _, hpending | hpending⟩ := hown.pending (process_follows hnet hq)
    all_goals
      obtain ⟨delivery, hjob, hheld⟩ := held_of_guarded hnet hq hlive hpending rfl
      exact .inr ⟨q, hq, hown, hown.secures hjob hheld⟩

theorem secured_elsewhere (hnet : (queueProtocol c).Reachable CarefulRun net) (hp : net.processes[i]? = some p)
    (htrace : p.trace = []) (hrow : (c.consumerName, m) ∈ net.inbox) :
    m ∈ net.handled ∨ ∃ j q, j ≠ i ∧ net.processes[j]? = some q ∧ q.Secures m := by
  rcases secured_of_row hnet hrow with hdone | ⟨q, hq, hown, hsec⟩
  · exact .inl hdone
  · obtain ⟨j, hj⟩ := List.mem_iff_getElem?.mp hq
    refine .inr ⟨j, q, ?_, hj, hsec⟩
    rintro rfl
    cases hj.symm.trans hp
    obtain ⟨_, _, _, _, _, h | ⟨err, h⟩⟩ := hown <;> simp [htrace] at h

theorem stored_of_publishRetry (hnet : (queueProtocol c).Reachable CarefulRun net) (hp : p ∈ net.processes)
    {attempt : Int} (hallowed : (p.job.contract c).allowed p.trace (.publishRetry delivery event attempt))
    (h : p.Secures m) :
    Net.Stored { net with retryQueue := net.retryQueue ++ [retryDelivery delivery event attempt] } m := by
  cases hjob : p.job with
  | replay config =>
    rw [hjob] at hallowed
    exact hallowed.elim
  | consume own =>
    rw [hjob] at hallowed
    rcases Consumer.allowed_cases hallowed with ⟨_, hcall⟩ | ⟨event', hdecode, hpermits⟩
    · cases hcall
    · have hm := message_of_permits hnet hp hjob hdecode h
      generalize htrace : p.trace = trace at hpermits
      cases hpermits
      refine ⟨_, ?_, .inr (.inl (List.mem_append_right _ List.mem_cons_self))⟩
      rw [message_retryDelivery hdecode, message_of_decodeDelivery hdecode, hm]

theorem stored_of_publish (hnet : (queueProtocol c).Reachable CarefulRun net) (hp : p ∈ net.processes)
    {published : Delivery} (hallowed : (p.job.contract c).allowed p.trace (.publish published)) (h : p.Secures m) :
    Net.Stored { net with queue := net.queue ++ [published] } m := by
  obtain ⟨delivery, hheld, rfl, _⟩ := h
  have hmay := process_mayHold hnet hp hheld
  cases hjob : p.job with
  | consume own =>
    rw [hjob] at hallowed
    rcases Consumer.allowed_cases hallowed with ⟨_, hcall⟩ | ⟨event', _, hpermits⟩
    · cases hcall
    · generalize p.trace = trace at hpermits
      cases hpermits
  | replay config =>
    rw [hjob] at hallowed
    obtain ⟨taken, hlast, rfl⟩ := hallowed
    simp only [Process.MayHold, hjob, hlast, ReplayHolds] at hmay
    exact ⟨_, hmay ▸ rfl, .inl (List.mem_append_right _ List.mem_cons_self)⟩

theorem not_get_of_secures (hnet : (queueProtocol c).Reachable CarefulRun net) (hp : p ∈ net.processes)
    (h : p.Secures m) : ¬ (p.job.contract c).allowed p.trace .get := by
  intro hallowed
  obtain ⟨delivery, hheld, _⟩ := h
  have hmay := process_mayHold hnet hp hheld
  cases hjob : p.job with
  | consume own =>
    rw [hjob] at hallowed
    rcases Consumer.allowed_cases hallowed with ⟨_, hcall⟩ | ⟨event', _, hpermits⟩
    · cases hcall
    · exact absurd rfl hpermits.ne_get
  | replay config =>
    rw [hjob] at hallowed
    simp only [Process.MayHold, hjob] at hmay
    rcases hallowed with hlast | hlast <;> simp [hlast, ReplayHolds] at hmay

theorem secures_answer {next : call.Answer → Messaging (Except Error Unit)}
    (hnet : (queueProtocol c).Reachable CarefulRun net) (hp : net.processes[i]? = some p)
    (hprog : p.prog = .call call next) (h : p.Secures m) :
    m ∈ (net.answer p.job p.held call reply).2.2.handled ∨
      (net.answer p.job p.held call reply).2.2.Stored m ∨
      (p.advance call (net.answer p.job p.held call reply).1 next
        (net.answer p.job p.held call reply).2.1).Secures m ∨
      ∃ j q, j ≠ i ∧ net.processes[j]? = some q ∧ q.Secures m := by
  have hmem : p ∈ net.processes := List.mem_iff_getElem?.mpr ⟨i, hp⟩
  have hallowed := process_allowed hnet hp hprog
  cases call with
  | record name event =>
    obtain ⟨own, event', hjob, hdecode, hpermits⟩ := permits_of_guarded hallowed rfl
    have hm := message_of_permits hnet hmem hjob hdecode h
    generalize htrace : p.trace = trace at hpermits
    cases hpermits
    cases reply with
    | fails err late => exact .inr (.inr (.inl (h.advance rfl)))
    | succeeds =>
      by_cases hrow : (c.consumerName, event.messageID) ∈ net.inbox
      · simp only [answer, if_pos hrow]
        rw [hm] at hrow
        exact (secured_elsewhere hnet hp htrace hrow).imp id fun hother => .inr (.inr hother)
      · simp only [answer, if_neg hrow]
        exact .inr (.inr (.inl (h.advance rfl)))
  | handle event =>
    obtain ⟨own, event', hjob, hdecode, hpermits⟩ := permits_of_guarded hallowed rfl
    have hm := message_of_permits hnet hmem hjob hdecode h
    cases reply with
    | fails err late => exact .inr (.inr (.inl (h.advance rfl)))
    | succeeds =>
      generalize htrace : p.trace = trace at hpermits
      cases hpermits
      exact .inl (List.mem_cons.mpr (.inl hm.symm))
  | release name event => cases reply <;> exact .inr (.inr (.inl (h.advance rfl)))
  | confirmSelect => cases reply <;> exact .inr (.inr (.inl (h.advance rfl)))
  | publishRetry delivery event attempt =>
    cases reply with
    | fails err late => exact .inr (.inr (.inl (h.advance rfl)))
    | succeeds => exact .inr (.inl (stored_of_publishRetry hnet hmem hallowed h))
  | get => exact absurd hallowed (not_get_of_secures hnet hmem h)
  | publish published =>
    cases reply with
    | fails err late => exact .inr (.inr (.inl (h.advance rfl)))
    | succeeds => exact .inr (.inl (stored_of_publish hnet hmem hallowed h))
  | ack =>
    obtain ⟨_, _, _, hnot⟩ := h
    rw [mayAck_of_allowed hallowed] at hnot
    cases hnot
  | nack requeue =>
    have hstored : (net.reject p.held p.job requeue).Stored m := by
      obtain ⟨delivery, hheld, rfl, _⟩ := h
      rw [hheld]
      exact stored_reject hallowed
    cases reply with
    | succeeds => exact .inr (.inl hstored)
    | fails err late =>
      cases late with
      | true => exact .inr (.inl hstored)
      | false => exact .inr (.inr (.inl (h.advance rfl)))

theorem mem_eraseIdx_or {α : Type} {xs : List α} {k : Nat} {x y : α} (hk : xs[k]? = some y) (hx : x ∈ xs) :
    x = y ∨ x ∈ xs.eraseIdx k := by
  obtain ⟨i, hi⟩ := List.mem_iff_getElem?.mp hx
  by_cases hik : i = k
  · subst hik
    exact .inl (Option.some.inj (hi.symm.trans hk))
  · exact .inr (List.mem_eraseIdx_iff_getElem?.mpr ⟨i, hik, hi⟩)

theorem stored_answer {next : call.Answer → Messaging (Except Error Unit)} (h : net.Stored m) :
    (net.answer p.job p.held call reply).2.2.Stored m ∨
      (p.advance call (net.answer p.job p.held call reply).1 next
        (net.answer p.job p.held call reply).2.1).Secures m := by
  by_cases hcall : call = .get
  · subst hcall
    cases reply with
    | fails err late => exact .inl h
    | succeeds =>
      cases hdlq : net.dlq with
      | nil =>
        simp only [answer, hdlq]
        exact .inl h
      | cons taken rest =>
        simp only [answer, hdlq]
        obtain ⟨delivery, hm, hqueue | hretry | hmem⟩ := h
        · exact .inl ⟨delivery, hm, .inl hqueue⟩
        · exact .inl ⟨delivery, hm, .inr (.inl hretry)⟩
        · rw [hdlq] at hmem
          rcases List.mem_cons.mp hmem with rfl | hrest
          · exact .inr ⟨delivery, rfl, hm, by rw [Process.advance, List.getLast?_concat]; rfl⟩
          · exact .inl ⟨delivery, hm, .inr (.inr hrest)⟩
  · exact .inl (h.answer hcall)

theorem safe_letGo {crashed : Bool} (hp : net.processes[i]? = some p) (h : net.Safe m) :
    ((net.giveBack p.held p.job).setProcess i (p.letGo crashed)).Safe m := by
  have hp' : (net.giveBack p.held p.job).processes[i]? = some p := by rwa [processes_giveBack]
  rcases h with hstored | ⟨q, hq, hsec⟩
  · exact .inl hstored.giveBack
  · obtain ⟨j, hj⟩ := List.mem_iff_getElem?.mp hq
    by_cases hji : j = i
    · subst hji
      cases hj.symm.trans hp
      obtain ⟨delivery, hheld, rfl, _⟩ := hsec
      rw [hheld]
      exact .inl (stored_giveBack net delivery p.job)
    · exact .inr ⟨q, mem_setProcess_of_ne hp' (by rwa [processes_giveBack]) hji, hsec⟩

theorem safe_step (hnet : (queueProtocol c).Reachable CarefulRun net)
    (hstep : net.step c a = some net') (h : m ∈ net.handled ∨ net.Safe m) :
    m ∈ net'.handled ∨ net'.Safe m := by
  cases effect_of_step hstep with
  | publish delivery =>
    refine h.imp id (Or.imp (fun h => ?_) id)
    exact h.mono (List.subset_append_left _ _) (List.Subset.refl _) (List.Subset.refl _)
  | @deliver k delivery hk =>
    refine h.imp id fun h => ?_
    rcases h with ⟨copy, hm, hqueue | hother⟩ | ⟨q, hq, hsec⟩
    · rcases mem_eraseIdx_or hk hqueue with rfl | hrest
      · exact .inr ⟨_, List.mem_append_right _ List.mem_cons_self, copy, rfl, hm, rfl⟩
      · exact .inl ⟨copy, hm, .inl hrest⟩
    · exact .inl ⟨copy, hm, .inr hother⟩
    · exact .inr ⟨q, List.mem_append_left _ hq, hsec⟩
  | @expire k delivery hk =>
    refine h.imp id (Or.imp (fun h => ?_) id)
    obtain ⟨copy, hm, hqueue | hretry | hdlq⟩ := h
    · exact ⟨copy, hm, .inl (List.mem_append_left _ hqueue)⟩
    · rcases mem_eraseIdx_or hk hretry with rfl | hrest
      · exact ⟨copy, hm, .inl (List.mem_append_right _ List.mem_cons_self)⟩
      · exact ⟨copy, hm, .inr (.inl hrest)⟩
    · exact ⟨copy, hm, .inr (.inr hdlq)⟩
  | replay config =>
    exact h.imp id (Or.imp id fun ⟨q, hq, hsec⟩ => ⟨q, List.mem_append_left _ hq, hsec⟩)
  | crash hp hlive => exact h.imp (by simp [setProcess]) (safe_letGo hp)
  | disconnect hp hlive => exact h.imp (by simp [setProcess]) (safe_letGo hp)
  | @answer i reply p call next hp hprog hlive =>
    have hp' : (net.answer p.job p.held call reply).2.2.processes[i]? = some p := by
      rw [processes_answer, hp]
    rcases h with hdone | hstored | ⟨q, hq, hsec⟩
    · exact .inl (handled_answer _ _ _ _ _ hdone)
    · rcases stored_answer hstored with hstored | hsec
      · exact .inr (.inl hstored)
      · exact .inr (.inr ⟨_, mem_setProcess hp', hsec⟩)
    · obtain ⟨j, hj⟩ := List.mem_iff_getElem?.mp hq
      by_cases hji : j = i
      · subst hji
        cases hj.symm.trans hp
        rcases secures_answer hnet hp hprog hsec with hdone | hstored | hsec | ⟨k, q, hkj, hk, hsec⟩
        · exact .inl hdone
        · exact .inr (.inl hstored)
        · exact .inr (.inr ⟨_, mem_setProcess hp', hsec⟩)
        · exact .inr (.inr ⟨q, mem_setProcess_of_ne hp' (by rw [processes_answer, hk]) hkj, hsec⟩)
      · exact .inr (.inr ⟨q, mem_setProcess_of_ne hp' (by rw [processes_answer, hj]) hji, hsec⟩)

theorem sent_of_step (hstep : net.step c a = some net') (h : delivery ∈ net'.sent) :
    delivery ∈ net.sent ∨ a = .publish delivery := by
  cases effect_of_step hstep with
  | publish published =>
    rcases List.mem_cons.mp h with rfl | h
    · exact .inr rfl
    · exact .inl h
  | deliver hk | expire hk | replay config => exact .inl h
  | answer hp hprog hlive => exact .inl (by simpa [setProcess] using h)
  | crash hp hlive | disconnect hp hlive => exact .inl (by simpa [setProcess] using h)

theorem safe_of_sent (hnet : (queueProtocol c).Reachable CarefulRun net) (hsent : delivery ∈ net.sent) :
    delivery.message ∈ net.handled ∨ net.Safe delivery.message := by
  refine Lts.Reachable.invariant
    (P := fun net => ∀ delivery ∈ net.sent, delivery.message ∈ net.handled ∨ net.Safe delivery.message)
    ?_ ?_ hnet delivery hsent
  · intro net hinit delivery hsent
    rw [show net = _ from hinit] at hsent
    cases hsent
  · intro net a net' hreach ih hstep _ delivery hsent
    rcases sent_of_step hstep hsent with hold | rfl
    · exact safe_step hreach hstep (ih delivery hold)
    · cases effect_of_step hstep
      exact .inr (.inl ⟨delivery, rfl, .inl (List.mem_append_right _ List.mem_cons_self)⟩)

/-- Every copy of a message there is: in a queue, or unacknowledged. -/
def Net.copies (net : Net) : List Delivery :=
  net.queue ++ net.retryQueue ++ net.dlq ++ net.processes.flatMap fun p => p.held.toList

def Net.Gone (net : Net) (m : String) : Prop := ∀ delivery ∈ net.copies, delivery.message ≠ m

instance (net : Net) (m : String) : Decidable (net.Gone m) :=
  inferInstanceAs (Decidable (∀ delivery ∈ net.copies, delivery.message ≠ m))

theorem Net.Safe.not_gone (h : net.Safe m) : ¬ net.Gone m := by
  intro hgone
  rcases h with ⟨copy, hm, hmem⟩ | ⟨p, hp, copy, hheld, hm, _⟩
  · refine hgone copy (List.mem_append_left _ ?_) hm
    rw [List.mem_append, List.mem_append]
    tauto
  · refine hgone copy (List.mem_append_right _ (List.mem_flatMap.mpr ⟨p, hp, ?_⟩)) hm
    rw [hheld]
    exact List.mem_cons_self

/-- **No message is lost** along runs without hazards: when no copy of a published message is left in
the queue, the retry queue, the dead-letter queue or with a process, the handler has returned nil
for it. -/
theorem no_message_lost (c : Consumer) {net : Net} (hnet : (queueProtocol c).Reachable CarefulRun net)
    {delivery : Delivery} (hsent : delivery ∈ net.sent) (hgone : net.Gone delivery.message) :
    delivery.message ∈ net.handled :=
  (safe_of_sent hnet hsent).resolve_right fun hsafe => hsafe.not_gone hgone

/-! ### Runs -/

def netSimulator (c : Consumer) : Simulator (queueProtocol c) Action := .ofStep (Net.step c) id

def emptyNet : Net := ⟨[], [], [], [], [], [], []⟩

instance (net : Net) (a : Action) : Decidable (CarefulRun net a) := inferInstanceAs (Decidable (_ = _))

def sampleConsumer : Consumer where
  queue := "inventory.reserve"
  name := ""
  hasInbox := true
  hasHandler := true
  hasRetry := true
  maxRetries := 3

def sampleDelivery : Delivery where
  routingKey := "order.created"
  messageID := "msg_1"
  correlationID := "corr-1"
  type := .orderCreated
  retryHeader := none
  causationHeader := ""
  body := .ok
    { messageID := "msg_1", eventType := .orderCreated, schemaVersion := 1, occurredAt := 0,
      producer := "orders-api", merchantID := "mrc_1", orderID := "ord_1", correlationID := "corr-1",
      causationID := "", payload := [] }

/-- A handler that fails once: the message goes through the retry queue and is handled. -/
theorem no_message_lost_after_retry : ∃ net, (queueProtocol sampleConsumer).Reachable CarefulRun net ∧
    net.Gone "msg_1" ∧ "msg_1" ∈ net.handled := by
  obtain ⟨net, hnet, hsent, hgone⟩ := (netSimulator sampleConsumer).exists_reachable
    (Q := fun net => "msg_1" ∈ net.sent.map Delivery.message ∧ net.Gone "msg_1")
    (decides_decide CarefulRun) (s := emptyNet) (.start rfl)
    [.publish sampleDelivery, .deliver 0, .answer 0 .succeeds, .answer 0 (.fails (.plain "timeout") false),
      .answer 0 .succeeds, .answer 0 .succeeds, .answer 0 .succeeds, .expire 0, .deliver 0,
      .answer 1 .succeeds, .answer 1 .succeeds, .answer 1 .succeeds] (by decide)
  obtain ⟨delivery, hmem, hm⟩ := List.mem_map.mp hsent
  refine ⟨net, hnet, hgone, ?_⟩
  rw [← hm] at hgone ⊢
  exact no_message_lost sampleConsumer hnet hmem hgone

/-- A worker crashes between `Record` and `HandleEvent`: the redelivered message is acknowledged as a
duplicate, and no copy is left of a message that was never handled. -/
theorem recorded_message_lost_in_crash : ∃ net, (queueProtocol sampleConsumer).Reachable Lts.anyStep net ∧
    "msg_1" ∈ net.sent.map Delivery.message ∧ net.Gone "msg_1" ∧ net.handled = [] :=
  (netSimulator sampleConsumer).exists_reachable decides_anyStep (s := emptyNet) (.start rfl)
    [.publish sampleDelivery, .deliver 0, .answer 0 .succeeds, .crash 0, .deliver 0, .answer 1 .succeeds,
      .answer 1 .succeeds] (by decide)

end FulfillHub
