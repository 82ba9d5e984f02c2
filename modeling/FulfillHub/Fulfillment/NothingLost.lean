import FulfillHub.Fulfillment.EndToEnd
import FulfillHub.Fulfillment.Clients

/-!
# Nothing is lost on the way

An event that a relay has marked as published is accounted for at every queue bound with its routing key: a copy
that leads to the queue is in the broker, or the handler of the queue has returned nil for it.

A copy counts as long as its holder is not about to acknowledge it. Whoever acknowledges has seen to it before
that something else accounts for the message: the handler has returned nil, a copy was published, or the inbox has
a row for the message. In the last case the row has an owner, a worker that recorded the message, still has its
own delivery and goes on to handle the message or to release the row; or it was handled before.

The runs considered are those in which a publication that was confirmed has reached the broker, rows of the inbox
do not lose their owners, and operators replay a message to an exchange and under a key that lead it back to where
it was going.
-/

namespace FulfillHub

open Interaction

variable {S M : Type} {store : RelayedStore S M} {svc : Service} {names : Queue → String} {p p' : Pipeline S M}
  {l : PipelineLabel} {cond : Pipeline S M → PipelineLabel → Prop} {queue : Queue} {messageID : String} {c : Consumer}
  {delivery d : Delivery} {event : OutboxEvent}

/-! ### Messages that are accounted for -/

namespace Pipeline

/-- What the client was last told. -/
def lastExchange (p : Pipeline S M) : Client → Option (Exchange MessagingCall.Answer)
  | .worker i => (p.stages.workers[i]?).bind fun w => w.trace.getLast?
  | .replay j => (p.replays[j]?).bind fun t => t.trace.getLast?

/-- The client does not acknowledge its delivery next. -/
def Secure (p : Pipeline S M) (client : Client) : Prop := mayAck (p.lastExchange client) = false

/-- A worker of the queue got nil from the handler for the message. -/
def Handled (p : Pipeline S M) (queue : Queue) (messageID : String) : Prop :=
  ∃ w ∈ p.stages.workers, w.job.queue = queue ∧
    ∃ event, event.messageID = messageID ∧ ⟨.handle event, .ok ()⟩ ∈ w.trace

/-- A copy of the message leads to the queue, or the handler of the queue has returned nil for it. -/
def AccountsFor (p : Pipeline S M) (queue : Queue) (messageID : String) : Prop :=
  p.broker.Keeps p.Secure queue messageID ∨ p.Handled queue messageID

/-- The replay's exchange and key lead the message it holds back to where it was going. -/
def LeadsBack (p : Pipeline S M) (j : Nat) : Prop :=
  ∀ t, p.replays[j]? = some t → ∀ place delivery, p.broker.unsettled (.replay j) = some (place, delivery) →
    (BrokerExchange.ofName t.job.exchange).isSome ∧
      ∀ queue, place.LeadsTo delivery queue → queue ∈ boundQueues t.job.routingKey

end Pipeline

/-- The call a worker makes next. -/
def StageWorker.pending (w : StageWorker) : Option MessagingCall :=
  match w.prog with
  | .ret _ => none
  | .call call _ => some call

/-- Confirmed publications have reached the broker, and replays lead messages back. A worker that records a message
still has its delivery, and keeps it until it has called `HandleEvent` and `Release`. A `Record` that fails has
not inserted a row, and a `Release` that fails has not left one. -/
def CarefulPipeline (p : Pipeline S M) : PipelineLabel → Prop
  | .relay _ (.publish _) (.ok _) reached => reached = true
  | .stage (.reply _ (.publishRetry _ _ _) (.ok _) _) reached => reached = true
  | .stage (.reply i (.record _ _) (.ok recorded) _) _ => recorded = true → (p.broker.unsettled (.worker i)).isSome
  | .stage (.reply _ (.record name event) (.error _) late) _ =>
    late = true → (name, event.messageID) ∈ p.stages.inbox
  | .stage (.reply _ (.release _ _) (.error _) late) _ => late = true
  | .replay j (.publish _) (.ok _) reached => reached = true ∧ p.LeadsBack j
  | .redeliver (.worker i) =>
    ((p.stages.workers[i]?).bind StageWorker.pending).any MessagingCall.isClaimed = false
  | _ => True

/-! ### Clients that are answered -/

theorem Consumer.Permits.mayAck {trace : MessagingTrace} (h : c.Permits delivery event trace .ack) :
    FulfillHub.mayAck trace.getLast? = true := by
  cases h <;> rfl

theorem Consumer.Permits.of_record {e : OutboxEvent} {name : String} {trace : MessagingTrace}
    (h : c.Permits delivery event trace (.record name e)) :
    name = c.consumerName ∧ e = event ∧ trace = [] := by
  cases h
  exact ⟨rfl, rfl, rfl⟩

theorem Consumer.Permits.of_nack {trace : MessagingTrace} {requeue : Bool}
    (h : c.Permits delivery event trace (.nack requeue)) : requeue = false := by
  cases h <;> rfl

/-- A client was answered: it was told this, nothing else changed for the others, and the broker has carried out its
call if the call has reached it. -/
structure Pipeline.Answered (p p' : Pipeline S M) (client : Client) (exchange : Option BrokerExchange)
    (call : MessagingCall) (r : call.Answer) (reached : Bool) : Prop where
  told : p'.lastExchange client = some ⟨call, r⟩
  others : ∀ other, other ≠ client → p'.lastExchange other = p.lastExchange other
  broker : p'.broker = if reached then p.broker.serve client exchange call else p.broker

namespace Pipeline.Answered

variable {client : Client} {exchange : Option BrokerExchange} {call : MessagingCall} {r : call.Answer} {reached : Bool}
  (h : p.Answered p' client exchange call r reached)

include h

theorem unsettled_other {other : Client} (hne : other ≠ client) :
    p'.broker.unsettled other = p.broker.unsettled other := by
  rw [h.broker]
  split_ifs
  · exact Broker.unsettled_serve_of_ne hne
  · rfl

theorem unsettled_own (hopen : call.settles = false ∨ reached = false) :
    p'.broker.unsettled client = p.broker.unsettled client := by
  rw [h.broker]
  rcases hopen with hsettles | rfl
  · split_ifs
    · rw [Broker.unsettled_serve, if_neg (by rw [hsettles]; decide)]
    · rfl
  · rfl

theorem secure (hlast : mayAck (some ⟨call, r⟩) = false) : p'.Secure client := by
  rw [Pipeline.Secure, h.told]
  exact hlast

/-- Copies in queues, and copies of other clients, are where they were. -/
theorem keeps (hkeeps : p.broker.Keeps (fun other => p.Secure other ∧ other ≠ client) queue messageID) :
    p'.broker.Keeps p'.Secure queue messageID := by
  obtain ⟨place, d, hmessage, hleads, hmem | ⟨other, hheld, hsecure, hne⟩⟩ := hkeeps
  · refine ⟨place, d, hmessage, hleads, .inl ?_⟩
    rw [h.broker]
    split_ifs
    · exact Broker.mem_contents_serve hmem
    · exact hmem
  · refine ⟨place, d, hmessage, hleads, .inr ⟨other, (h.unsettled_other hne).trans hheld, ?_⟩⟩
    rw [Pipeline.Secure, h.others other hne]
    exact hsecure

/-- A client that still holds its delivery, and does not acknowledge it next, keeps the message. -/
theorem keeps_own {place : Place} (hheld : p.broker.unsettled client = some (place, d))
    (hopen : call.settles = false ∨ reached = false) (hleads : place.LeadsTo d queue)
    (hlast : mayAck (some ⟨call, r⟩) = false) : p'.broker.Keeps p'.Secure queue d.message :=
  ⟨place, d, rfl, hleads, .inr ⟨client, (h.unsettled_own hopen).trans hheld, h.secure hlast⟩⟩

end Pipeline.Answered

section Reply

variable {i : Nat} {w : StageWorker} {call : MessagingCall} {r : call.Answer}
  {next : call.Answer → Messaging (Except Error Unit)} {inbox : List (String × String)} {late reached : Bool}

/-- The pipeline after a worker was answered. -/
def Pipeline.replied (p : Pipeline S M) (i : Nat) (w : StageWorker) (call : MessagingCall) (r : call.Answer)
    (next : call.Answer → Messaging (Except Error Unit)) (inbox : List (String × String)) (reached : Bool) :
    Pipeline S M :=
  { p with
    stages := { p.stages with inbox := inbox, workers := p.stages.workers.set i (w.advance call r next) }
    broker := if reached then p.broker.serve (.worker i) none call else p.broker }

theorem answered_replied (hw : p.stages.workers[i]? = some w) :
    p.Answered (p.replied i w call r next inbox reached) (.worker i) none call r reached where
  told := by
    change ((p.stages.workers.set i _)[i]?).bind _ = _
    rw [(PoolSpec.getElem?_answer (u := w.advance call r next) hw).mpr (.inl ⟨rfl, rfl⟩)]
    exact List.getLast?_concat
  others client h := by
    cases client with
    | replay j => rfl
    | worker j =>
      have hji : i ≠ j := fun heq => h (heq ▸ rfl)
      change ((p.stages.workers.set i _)[j]?).bind _ = _
      rw [List.getElem?_set_ne hji]
      rfl
  broker := rfl

theorem step_replied (store : RelayedStore S M) (svc : Service) (names : Queue → String)
    (hw : p.stages.workers[i]? = some w) (hprog : w.prog = .call call next)
    (hreply : p.stages.Replies w inbox late call r) :
    Pipeline.Step store svc names p (.stage (.reply i call r late) reached)
      (p.replied i w call r next inbox reached) :=
  .stage reached rfl (.reply hw hprog hreply)

theorem getElem?_replied (hw : p.stages.workers[i]? = some w) :
    (p.replied i w call r next inbox reached).stages.workers[i]? = some (w.advance call r next) :=
  (PoolSpec.getElem?_answer hw).mpr (.inl ⟨rfl, rfl⟩)

theorem getElem?_replied_of_ne {j : Nat} {v : StageWorker} (hij : j ≠ i) (hw : p.stages.workers[i]? = some w)
    (hv : p.stages.workers[j]? = some v) :
    (p.replied i w call r next inbox reached).stages.workers[j]? = some v :=
  (PoolSpec.getElem?_answer hw).mpr (.inr ⟨hij, hv⟩)

end Reply

/-! ### Rows of the inbox and their owners -/

/-- The worker has recorded the message, calls `HandleEvent` or `Release` next, and still has its delivery. -/
def Pipeline.OwnedBy (p : Pipeline S M) (i : Nat) (queue : Queue) (messageID : String) : Prop :=
  ∃ w event, p.stages.workers[i]? = some w ∧ w.job.queue = queue ∧ decodeDelivery w.job.delivery = .ok event ∧
    event.messageID = messageID ∧ w.job.consumer.Owns event w.trace ∧
    p.broker.unsettled (.worker i) = some (.worker queue, w.job.delivery)

/-- Every row of the inbox is of a message that was handled, or has an owner. -/
def Pipeline.RowsOwned (names : Queue → String) (p : Pipeline S M) : Prop :=
  ∀ queue messageID, (names queue, messageID) ∈ p.stages.inbox →
    p.Handled queue messageID ∨ ∃ i, p.OwnedBy i queue messageID

theorem Pipeline.Handled.step (h : p.Handled queue messageID) (hstep : Pipeline.Step store svc names p l p') :
    p'.Handled queue messageID := by
  obtain ⟨w, hw, hqueue, event, hid, hmem⟩ := h
  obtain ⟨i, hi⟩ := List.mem_iff_getElem?.mp hw
  obtain ⟨w', hw', hjob, hsubset⟩ := worker_of_step hstep hi
  exact ⟨w', List.mem_of_getElem? hw', by rw [hjob, hqueue], event, hid, hsubset hmem⟩

theorem Pipeline.OwnedBy.keeps {i : Nat} (h : p.OwnedBy i queue messageID) {secure : Client → Prop}
    (hsecure : p.Secure (.worker i) → secure (.worker i)) : p.broker.Keeps secure queue messageID := by
  obtain ⟨w, event, hw, rfl, hdecode, rfl, howns, hheld⟩ := h
  refine ⟨.worker w.job.queue, w.job.delivery, message_of_decodeDelivery hdecode, rfl,
    .inr ⟨.worker i, hheld, hsecure ?_⟩⟩
  rw [Pipeline.Secure, Pipeline.lastExchange, hw]
  rcases howns with htrace | ⟨err, htrace⟩
  · simp [htrace, mayAck]
  · simp [htrace, mayAck]

theorem Pipeline.OwnedBy.next (hp : (pipeline store svc names).Reachable cond p) {i : Nat}
    (h : p.OwnedBy i queue messageID) : ∃ w event call next, p.stages.workers[i]? = some w ∧
      w.prog = .call call next ∧ event.messageID = messageID ∧
      (call = .handle event ∨ call = .release (names queue) event) := by
  obtain ⟨w, event, hw, rfl, hdecode, hid, howns, _⟩ := h
  have hmem := List.mem_of_getElem? hw
  obtain ⟨call, next, hprog, hcall⟩ := howns.next hdecode (worker_follows (sound_of_reachable hp).stages hmem)
  rw [(worker_origin (sound_of_reachable hp).stages hmem).1] at hcall
  exact ⟨w, event, call, next, hw, hprog, hid, hcall⟩

/-- An owner stays an owner as long as it is told nothing and has its delivery. -/
theorem Pipeline.OwnedBy.of_same {i : Nat} (h : p.OwnedBy i queue messageID)
    (hworker : ∀ w, p.stages.workers[i]? = some w →
      ∃ w', p'.stages.workers[i]? = some w' ∧ w'.job = w.job ∧ w'.trace = w.trace)
    (hbroker : p'.broker.unsettled (.worker i) = p.broker.unsettled (.worker i)) :
    p'.OwnedBy i queue messageID := by
  obtain ⟨w, event, hw, hqueue, hdecode, hid, howns, hheld⟩ := h
  obtain ⟨w', hw', hjob, htrace⟩ := hworker w hw
  refine ⟨w', event, hw', ?_⟩
  rw [hjob, htrace, hbroker]
  exact ⟨hqueue, hdecode, hid, howns, hheld⟩

theorem Pipeline.RowsOwned.of_owners (h : p.RowsOwned names) (hstep : Pipeline.Step store svc names p l p')
    (hinbox : p'.stages.inbox ⊆ p.stages.inbox)
    (howner : ∀ i queue messageID, p.OwnedBy i queue messageID → p'.OwnedBy i queue messageID) :
    p'.RowsOwned names := by
  intro queue messageID hrow
  rcases h queue messageID (hinbox hrow) with hdone | ⟨i, hi⟩
  · exact .inl (hdone.step hstep)
  · exact .inr ⟨i, howner i queue messageID hi⟩

section Reply

variable {i : Nat} {w : StageWorker} {call : MessagingCall} {r : call.Answer}
  {next : call.Answer → Messaging (Except Error Unit)} {inbox : List (String × String)} {late reached : Bool}

/-- A row is only added by a worker that has recorded its message and has its delivery. -/
theorem row_of_reply (hcareful : CarefulPipeline p (.stage (.reply i call r late) reached))
    (hreply : p.stages.Replies w inbox late call r) {key : String × String} (hkey : key ∈ inbox) :
    key ∈ p.stages.inbox ∨ ∃ event, key.2 = event.messageID ∧ (p.broker.unsettled (.worker i)).isSome ∧
      (⟨call, r⟩ : Exchange MessagingCall.Answer) = ⟨.record key.1 event, .ok true⟩ := by
  cases call with
  | record name event =>
    cases r with
    | ok recorded =>
      obtain ⟨_, rfl⟩ := hreply
      cases recorded with
      | false => exact .inl hkey
      | true =>
        rcases List.mem_cons.mp hkey with rfl | hold
        · exact .inr ⟨event, rfl, hcareful rfl, rfl⟩
        · exact .inl hold
    | error err =>
      rw [show inbox = _ from hreply] at hkey
      split_ifs at hkey with hlate
      · rw [List.insert_of_mem (hcareful hlate)] at hkey
        exact .inl hkey
      · exact .inl hkey
  | release name event =>
    cases r with
    | ok _ =>
      rw [show inbox = _ from hreply] at hkey
      exact .inl (List.mem_filter.mp hkey).1
    | error err =>
      rw [show inbox = _ from hreply] at hkey
      split_ifs at hkey
      · exact .inl (List.mem_filter.mp hkey).1
      · exact .inl hkey
  | handle event => exact .inl (hreply.1 ▸ hkey)
  | publishRetry _ _ _ | confirmSelect | get | publish _ | ack | nack _ =>
    exact .inl ((show inbox = p.stages.inbox from hreply) ▸ hkey)

/-- An owner that is answered has handled its message, or has failed to, or has removed its row. -/
theorem owned_of_reply (hp : (pipeline store svc names).Reachable cond p) (hw : p.stages.workers[i]? = some w)
    (hprog : w.prog = .call call next) (hreply : p.stages.Replies w inbox late call r)
    (hcareful : CarefulPipeline p (.stage (.reply i call r late) reached)) (h : p.OwnedBy i queue messageID)
    (hrow : (names queue, messageID) ∈ inbox) :
    (p.replied i w call r next inbox reached).Handled queue messageID ∨
      (p.replied i w call r next inbox reached).OwnedBy i queue messageID := by
  obtain ⟨v, event, call', next', hv, hprog', hid, hcall⟩ := h.next hp
  cases hv.symm.trans hw
  cases hprog'.symm.trans hprog
  subst hid
  obtain ⟨v, event', hv, hqueue, hdecode, hid, howns, hheld⟩ := h
  cases hv.symm.trans hw
  obtain ⟨_, hdecode', hpermits⟩ := worker_permits
    (worker_follows (sound_of_reachable hp).stages (List.mem_of_getElem? hw)) hprog
    (by rintro rfl; rcases hcall with hcall | hcall <;> cases hcall)
  cases hdecode.symm.trans hdecode'
  rcases hcall with rfl | rfl
  · obtain ⟨rfl, htrace⟩ := hpermits.of_handle
    cases r with
    | ok _ =>
      refine .inl ⟨_, List.mem_of_getElem? (getElem?_replied hw), hqueue, event, rfl, ?_⟩
      exact List.mem_append_right _ (List.mem_singleton_self _)
    | error err =>
      refine .inr ⟨_, event, getElem?_replied hw, hqueue, hdecode, rfl, .inr ⟨err, ?_⟩,
        ((answered_replied hw).unsettled_own (.inl rfl)).trans hheld⟩
      simp [StageWorker.advance, htrace]
  · cases r with
    | ok _ =>
      rw [show inbox = _ from hreply] at hrow
      simp at hrow
    | error err =>
      rw [show inbox = _ from hreply, if_pos (show late = true from hcareful)] at hrow
      simp at hrow

theorem rowsOwned_of_reply (hnames : Function.Injective names) (hp : (pipeline store svc names).Reachable cond p)
    (h : p.RowsOwned names) (hw : p.stages.workers[i]? = some w) (hprog : w.prog = .call call next)
    (hreply : p.stages.Replies w inbox late call r)
    (hcareful : CarefulPipeline p (.stage (.reply i call r late) reached)) :
    (p.replied i w call r next inbox reached).RowsOwned names := by
  have hmem := List.mem_of_getElem? hw
  intro queue messageID hrow
  rcases row_of_reply hcareful hreply hrow with hold | ⟨event, rfl, hsome, hx⟩
  · rcases h queue messageID hold with hdone | ⟨j, hj⟩
    · exact .inl (hdone.step (step_replied store svc names hw hprog hreply))
    · by_cases hji : j = i
      · subst hji
        exact (owned_of_reply hp hw hprog hreply hcareful hj hrow).imp_right fun hi => ⟨j, hi⟩
      · refine .inr ⟨j, hj.of_same (fun v hv => ⟨v, getElem?_replied_of_ne hji hw hv, rfl, rfl⟩) ?_⟩
        exact (answered_replied hw).unsettled_other fun heq => hji (Client.worker.inj heq)
  · cases hx
    obtain ⟨_, hdecode, hpermits⟩ := worker_permits
      (worker_follows (sound_of_reachable hp).stages hmem) hprog MessagingCall.noConfusion
    obtain ⟨hname, rfl, htrace⟩ := hpermits.of_record
    have hqueue : w.job.queue = queue :=
      hnames ((worker_origin (sound_of_reachable hp).stages hmem).1.symm.trans hname.symm)
    obtain ⟨⟨place, d⟩, hheld⟩ := Option.isSome_iff_exists.mp hsome
    obtain ⟨v, hv, rfl, rfl⟩ := (clients_of_reachable hp).worker i place d hheld
    cases hv.symm.trans hw
    refine .inr ⟨i, _, event, getElem?_replied hw, hqueue, hdecode, rfl, .inl ?_, ?_⟩
    · rw [StageWorker.advance, htrace, hname]
      rfl
    · rw [(answered_replied hw).unsettled_own (.inl rfl), hheld, hqueue]
      rfl

end Reply

theorem rowsOwned_of_step (hnames : Function.Injective names) (hp : (pipeline store svc names).Reachable cond p)
    (h : p.RowsOwned names) (hstep : Pipeline.Step store svc names p l p') (hcareful : CarefulPipeline p l) :
    p'.RowsOwned names := by
  have hsame : ∀ (i : Nat) w, p.stages.workers[i]? = some w →
      ∃ w', p.stages.workers[i]? = some w' ∧ w'.job = w.job ∧ w'.trace = w.trace := fun i w hw => ⟨w, hw, rfl, rfl⟩
  have howned := h.of_owners hstep
  cases hstep with
  | @stage k t reached hl hstep =>
    cases hstep with
    | deliver hname hgenuine => cases hl
    | reply hw hprog hreply => exact rowsOwned_of_reply hnames hp h hw hprog hreply hcareful
    | saga hown hstep =>
      refine howned (List.Subset.refl _) fun i _ _ hi => ?_
      exact hi.of_same (hsame i) (by cases reached <;> rfl)
    | @handle j w event next hw hprog hnone =>
      refine howned (List.Subset.refl _) fun i _ _ hi => ?_
      refine hi.of_same (fun v hv => ?_) (by cases reached <;> rfl)
      by_cases hij : i = j
      · subst hij
        cases hv.symm.trans hw
        exact ⟨_, (PoolSpec.getElem?_answer hw).mpr (.inl ⟨rfl, rfl⟩), rfl, rfl⟩
      · exact ⟨v, (PoolSpec.getElem?_answer hw).mpr (.inr ⟨hij, hv⟩), rfl, rfl⟩
  | @deliver job k broker hname htake =>
    refine howned (List.Subset.refl _) fun i _ _ hi => ?_
    have hbefore : i ≠ p.stages.workers.length := by
      obtain ⟨w, _, hw, _⟩ := hi
      exact (List.getElem?_eq_some_iff.mp hw).1.ne
    refine hi.of_same (fun w hw => ⟨w, PoolSpec.getElem?_spawn.mpr (.inl hw), rfl, rfl⟩) ?_
    exact Broker.unsettled_take_of_ne htake fun heq => hbefore (Client.worker.inj heq)
  | startRelay limit =>
    exact howned (List.Subset.refl _) fun i _ _ hi => hi.of_same (hsame i) rfl
  | @relay j limit trace c r next marks reached hthread hanswer =>
    refine howned (List.Subset.refl _) fun i _ _ hi => ?_
    exact hi.of_same (hsame i) (by cases reached <;> cases c <;> rfl)
  | startReplay config =>
    exact howned (List.Subset.refl _) fun i _ _ hi => hi.of_same (hsame i) rfl
  | @replay j config trace call r next broker reached hthread hreply =>
    refine howned (List.Subset.refl _) fun i _ _ hi => ?_
    have hne : Client.worker i ≠ .replay j := Client.noConfusion
    refine hi.of_same (hsame i) ?_
    rcases hreply.cases with ⟨delivery, place, k, _, htake⟩ | ⟨_, rfl⟩
    · exact Broker.unsettled_take_of_ne htake hne
    · dsimp only
      split_ifs
      · exact Broker.unsettled_serve_of_ne hne
      · rfl
  | redeliver client =>
    refine howned (List.Subset.refl _) fun i _ _ hi => ?_
    have hne : Client.worker i ≠ client := by
      rintro rfl
      obtain ⟨w, event, call, next, hw, hprog, _, hcall⟩ := hi.next hp
      have hclaimed : call.isClaimed = true := by rcases hcall with rfl | rfl <;> rfl
      simp [CarefulPipeline, hw, StageWorker.pending, hprog, hclaimed] at hcareful
    refine hi.of_same (hsame i) ?_
    change (p.broker.giveBack client).unsettled _ = _
    rw [Broker.unsettled_giveBack]
    exact Function.update_of_ne hne _ _
  | expire hexpire =>
    refine howned (List.Subset.refl _) fun i _ _ hi => hi.of_same (hsame i) ?_
    obtain ⟨delivery, _, rfl⟩ := Broker.expire_eq_some hexpire
    rfl

theorem rowsOwned_of_reachable (hnames : Function.Injective names)
    (hp : (pipeline store svc names).Reachable CarefulPipeline p) : p.RowsOwned names := by
  refine Lts.Reachable.invariant (P := fun p => p.RowsOwned names) ?_ ?_ hp
  · rintro p ⟨⟨hinbox, _⟩, _⟩ queue messageID hrow
    rw [hinbox] at hrow
    cases hrow
  · exact fun p l p' hreach ih hstep hcareful => rowsOwned_of_step hnames hreach ih hstep hcareful

/-! ### Workers account for their messages -/

section Reply

variable {i : Nat} {w : StageWorker} {call : MessagingCall} {r : call.Answer}
  {next : call.Answer → Messaging (Except Error Unit)} {inbox : List (String × String)} {late reached : Bool}

theorem keeps_retry {attempt : Int} {b : Broker} {secure : Client → Prop} (hdecode : decodeDelivery d = .ok event)
    (hbound : queue ∈ boundQueues d.routingKey) :
    (b.publish .retry (retryDelivery d event attempt)).Keeps secure queue d.message := by
  have hkey : (retryDelivery d event attempt).routingKey = d.routingKey := by
    have hne : d.routingKey ≠ "" := by
      intro hempty
      rw [hempty] at hbound
      cases hbound
    simp [retryDelivery, hne]
  rw [← message_retryDelivery hdecode attempt]
  exact Broker.keeps_publish (hkey ▸ hbound)

/-- A message that turns out to be a duplicate was handled, or the owner of its row keeps a copy. -/
theorem accounted_of_duplicate {name : String} {again : Except Error Bool → Messaging (Except Error Unit)}
    (hrows : p.RowsOwned names) (hp : (pipeline store svc names).Reachable cond p)
    (hw : p.stages.workers[i]? = some w) (hprog : w.prog = .call (.record name event) again)
    (hreply : p.stages.Replies w inbox late (.record name event) (.ok false)) :
    (p.replied i w (.record name event) (.ok false) again inbox reached).AccountsFor w.job.queue
      w.job.delivery.message := by
  have hsound := sound_of_reachable hp
  have hmem : w ∈ p.stages.workers := List.mem_of_getElem? hw
  obtain ⟨event', hdecode, hpermits⟩ :=
    worker_permits (worker_follows hsound.stages hmem) hprog MessagingCall.noConfusion
  obtain ⟨rfl, rfl, htrace⟩ := hpermits.of_record
  have hrow : (names w.job.queue, w.job.delivery.message) ∈ p.stages.inbox := by
    rw [message_of_decodeDelivery hdecode, ← (worker_origin hsound.stages hmem).1]
    by_contra hfree
    exact absurd hreply.1 (by simp [hfree])
  rcases hrows _ _ hrow with hdone | ⟨j, hj⟩
  · exact .inr (hdone.step (step_replied store svc names hw hprog hreply))
  · -- the owner has recorded the message, this worker has only decoded it
    have hji : Client.worker j ≠ .worker i := by
      rintro ⟨⟩
      obtain ⟨v, _, hv, _, _, _, howns, _⟩ := hj
      cases hv.symm.trans hw
      rcases howns with h | ⟨err, h⟩ <;> simp [htrace] at h
    exact .inl ((answered_replied hw).keeps (hj.keeps fun hsecure => ⟨hsecure, hji⟩))

theorem accounted_own (hrows : p.RowsOwned names) (hp : (pipeline store svc names).Reachable cond p)
    (hw : p.stages.workers[i]? = some w) (hprog : w.prog = .call call next)
    (hreply : p.stages.Replies w inbox late call r)
    (hcareful : CarefulPipeline p (.stage (.reply i call r late) reached))
    (hheld : p.broker.unsettled (.worker i) = some (.worker w.job.queue, w.job.delivery))
    (hsecure : p.Secure (.worker i)) :
    (p.replied i w call r next inbox reached).AccountsFor w.job.queue w.job.delivery.message := by
  have hsound := sound_of_reachable hp
  have hbound := bound_of_reachable hp
  have hmem : w ∈ p.stages.workers := List.mem_of_getElem? hw
  have hfollows := worker_follows hsound.stages hmem
  have hlast : p.lastExchange (.worker i) = w.trace.getLast? := by rw [Pipeline.lastExchange, hw]; rfl
  have hanswered : p.Answered (p.replied i w call r next inbox reached) _ _ _ _ _ := answered_replied hw
  have hstays : call.settles = false ∨ reached = false → mayAck (some ⟨call, r⟩) = false →
      (p.replied i w call r next inbox reached).AccountsFor w.job.queue w.job.delivery.message :=
    fun hopen hmay => .inl (hanswered.keeps_own hheld hopen rfl hmay)
  cases call with
  | record name event =>
    rcases r with err | fresh
    · exact hstays (.inl rfl) rfl
    · cases fresh with
      | true => exact hstays (.inl rfl) rfl
      | false => exact accounted_of_duplicate hrows hp hw hprog hreply
  | handle event =>
    rcases r with err | _
    · exact hstays (.inl rfl) rfl
    · obtain ⟨event', hdecode, hpermits⟩ := worker_permits hfollows hprog MessagingCall.noConfusion
      obtain ⟨rfl, _⟩ := hpermits.of_handle
      refine .inr ⟨_, List.mem_of_getElem? (getElem?_replied hw), rfl, event,
        (message_of_decodeDelivery hdecode).symm, ?_⟩
      exact List.mem_append_right _ (List.mem_singleton_self _)
  | publishRetry d event attempt =>
    rcases r with err | _
    · exact hstays (.inl rfl) rfl
    · obtain ⟨event', hdecode, hpermits⟩ := worker_permits hfollows hprog MessagingCall.noConfusion
      obtain ⟨rfl, rfl⟩ := hpermits.of_publishRetry
      rw [show reached = true from hcareful]
      exact .inl (keeps_retry hdecode (hbound _ _ (.inr ⟨_, hheld⟩)))
  | publish d =>
    obtain ⟨_, _, hpermits⟩ := worker_permits hfollows hprog MessagingCall.noConfusion
    exact absurd hpermits Consumer.Permits.not_publish
  | ack =>
    obtain ⟨_, _, hpermits⟩ := worker_permits hfollows hprog MessagingCall.noConfusion
    rw [Pipeline.Secure, hlast, hpermits.mayAck] at hsecure
    cases hsecure
  | nack requeue =>
    cases reached with
    | false => exact hstays (.inr rfl) (by cases r <;> rfl)
    | true =>
      rw [hprog] at hfollows
      have hrequeue : requeue = false := by
        rcases Consumer.allowed_cases hfollows.allowed with ⟨_, hcall⟩ | ⟨event, _, hpermits⟩
        · cases hcall
          rfl
        · exact hpermits.of_nack
      subst hrequeue
      exact .inl (Broker.keeps_reject hheld hbound)
  | release name event => exact hstays (.inl rfl) (by cases r <;> rfl)
  | confirmSelect => exact hstays (.inl rfl) (by cases r <;> rfl)
  | get => exact hstays (.inl rfl) (by cases r <;> rfl)

theorem accounted_of_reply (hrows : p.RowsOwned names) (hp : (pipeline store svc names).Reachable cond p)
    (hw : p.stages.workers[i]? = some w) (hprog : w.prog = .call call next)
    (hreply : p.stages.Replies w inbox late call r)
    (hcareful : CarefulPipeline p (.stage (.reply i call r late) reached)) (h : p.AccountsFor queue messageID) :
    (p.replied i w call r next inbox reached).AccountsFor queue messageID := by
  have hanswered : p.Answered (p.replied i w call r next inbox reached) _ _ _ _ _ := answered_replied hw
  rcases h with ⟨place, d, hmessage, hleads, hmem | ⟨client, hheld, hsecure⟩⟩ | hdone
  · exact .inl (hanswered.keeps ⟨place, d, hmessage, hleads, .inl hmem⟩)
  · by_cases hne : client = .worker i
    · subst hne
      obtain ⟨v, hv, rfl, rfl⟩ := (clients_of_reachable hp).worker i place d hheld
      cases hv.symm.trans hw
      rw [← hmessage, ← (hleads : w.job.queue = queue)]
      exact accounted_own hrows hp hw hprog hreply hcareful hheld hsecure
    · exact .inl (hanswered.keeps ⟨place, d, hmessage, hleads, .inr ⟨client, hheld, hsecure, hne⟩⟩)
  · exact .inr (hdone.step (step_replied store svc names hw hprog hreply))

end Reply

/-! ### Replays account for their messages -/

section Replay

variable {j : Nat} {config : DLQReplayConfig} {trace : MessagingTrace} {call : MessagingCall} {r : call.Answer}
  {next : call.Answer → Messaging (Nat × Except Error Unit)} {broker : Broker} {reached : Bool}

/-- The pipeline after a replay was answered. -/
def Pipeline.replayed (p : Pipeline S M) (j : Nat) (t : ReplayThread) (broker : Broker) : Pipeline S M :=
  { p with replays := p.replays.set j t, broker := broker }

theorem lastExchange_replayed {t u : ReplayThread} (ht : p.replays[j]? = some t) :
    (p.replayed j u broker).lastExchange (.replay j) = u.trace.getLast? := by
  change ((p.replays.set j u)[j]?).bind _ = _
  rw [(PoolSpec.getElem?_answer (u := u) ht).mpr (.inl ⟨rfl, rfl⟩)]
  rfl

theorem lastExchange_replayed_of_ne {t : ReplayThread} {client : Client} (h : client ≠ .replay j) :
    (p.replayed j t broker).lastExchange client = p.lastExchange client := by
  cases client with
  | worker i => rfl
  | replay k =>
    have hjk : j ≠ k := fun heq => h (heq ▸ rfl)
    change ((p.replays.set j t)[k]?).bind _ = _
    rw [List.getElem?_set_ne hjk]
    rfl

theorem keeps_own_replay (hp : (pipeline store svc names).Reachable cond p) {place : Place}
    (hthread : p.replays[j]? = some ⟨config, trace, .call call next⟩)
    (hanswered : p.Answered p' (.replay j) (BrokerExchange.ofName config.exchange) call r reached)
    (hcareful : CarefulPipeline p (.replay j call r reached))
    (hheld : p.broker.unsettled (.replay j) = some (place, d)) (hsecure : p.Secure (.replay j))
    (hleads : place.LeadsTo d queue) : p'.broker.Keeps p'.Secure queue d.message := by
  have hpermits : ReplayPermits config trace call :=
    ((sound_of_reachable hp).replays _ (List.mem_of_getElem? hthread)).1.allowed
  have hlast : p.lastExchange (.replay j) = trace.getLast? := by rw [Pipeline.lastExchange, hthread]; rfl
  cases call with
  | publish delivery =>
    rcases r with err | _
    · exact hanswered.keeps_own hheld (.inl rfl) hleads rfl
    · obtain ⟨rfl, hback⟩ := hcareful
      obtain ⟨hexchange, hqueues⟩ := hback _ hthread place d hheld
      obtain ⟨exchange, hexchange⟩ := Option.isSome_iff_exists.mp hexchange
      obtain ⟨taken, hget, rfl⟩ := hpermits
      obtain ⟨t, ht, htaken⟩ := (clients_of_reachable hp).replay j place d hheld
      cases ht.symm.trans hthread
      cases htaken taken hget
      rw [hanswered.broker, if_pos rfl, hexchange]
      exact Broker.keeps_publish (hqueues queue hleads)
  | ack =>
    obtain ⟨delivery, hpublished⟩ := hpermits
    rw [Pipeline.Secure, hlast, hpublished] at hsecure
    cases hsecure
  | nack requeue =>
    obtain ⟨rfl, _⟩ := hpermits
    cases reached with
    | false => exact hanswered.keeps_own hheld (.inr rfl) hleads (by cases r <;> rfl)
    | true =>
      rw [hanswered.broker]
      exact ⟨place, d, rfl, hleads, .inl (Broker.contents_giveBack hheld)⟩
  | get => exact hanswered.keeps_own hheld (.inl rfl) hleads (by cases r <;> rfl)
  | confirmSelect => exact hanswered.keeps_own hheld (.inl rfl) hleads (by cases r <;> rfl)
  | _ => exact hpermits.elim

theorem accounted_of_replay (hp : (pipeline store svc names).Reachable cond p)
    (hthread : p.replays[j]? = some ⟨config, trace, .call call next⟩)
    (hreply : p.broker.Replies (.replay j) config reached call r broker)
    (hcareful : CarefulPipeline p (.replay j call r reached)) (h : p.AccountsFor queue messageID) :
    (p.replayed j ⟨config, trace ++ [⟨call, r⟩], next r⟩ broker).AccountsFor queue messageID := by
  have hstep : Pipeline.Step store svc names p (.replay j call r reached)
      (p.replayed j ⟨config, trace ++ [⟨call, r⟩], next r⟩ broker) := .replay reached hthread hreply
  refine h.imp (fun hkeeps => ?_) fun hdone => hdone.step hstep
  have htold : (p.replayed j ⟨config, trace ++ [⟨call, r⟩], next r⟩ broker).lastExchange (.replay j) =
      some ⟨call, r⟩ := by
    rw [lastExchange_replayed hthread]
    exact List.getLast?_concat
  rcases hreply.cases with ⟨delivery, place, k, hx, htake⟩ | ⟨_, hbroker⟩
  · cases hx
    have hkept : broker.Keeps (fun client => p.Secure client ∨ client = .replay j) queue messageID :=
      (hkeeps.mono fun client hclient => .inl hclient).take htake (.inr rfl)
    refine hkept.mono fun client hclient => ?_
    by_cases hne : client = .replay j
    · rw [hne, Pipeline.Secure, htold]
      rfl
    · rw [Pipeline.Secure, lastExchange_replayed_of_ne hne]
      exact hclient.resolve_right hne
  · have hanswered : p.Answered (p.replayed j ⟨config, trace ++ [⟨call, r⟩], next r⟩ broker) (.replay j)
        (BrokerExchange.ofName config.exchange) call r reached :=
      ⟨htold, fun _ hne => lastExchange_replayed_of_ne hne, hbroker⟩
    obtain ⟨place, d, hmessage, hleads, hmem | ⟨client, hheld, hsecure⟩⟩ := hkeeps
    · exact hanswered.keeps ⟨place, d, hmessage, hleads, .inl hmem⟩
    · by_cases hne : client = .replay j
      · subst hne
        rw [← hmessage]
        exact keeps_own_replay hp hthread hanswered hcareful hheld hsecure hleads
      · exact hanswered.keeps ⟨place, d, hmessage, hleads, .inr ⟨client, hheld, hsecure, hne⟩⟩

end Replay

/-! ### Every step accounts for every message -/

theorem getElem?_concat_bind {α β : Type} {xs : List α} {x : α} {f : α → Option β} (hx : f x = none) (i : Nat) :
    ((xs ++ [x])[i]?).bind f = (xs[i]?).bind f := by
  rcases Nat.lt_trichotomy i xs.length with h | h | h
  · rw [List.getElem?_append_left h]
  · subst h
    simp [hx]
  · rw [List.getElem?_eq_none (by simp; omega), List.getElem?_eq_none (by omega)]

theorem getElem?_set_bind {α β : Type} {xs : List α} {x y : α} {f : α → Option β} {i : Nat} (hx : xs[i]? = some x)
    (hf : f y = f x) (j : Nat) : ((xs.set i y)[j]?).bind f = (xs[j]?).bind f := by
  by_cases hij : i = j
  · subst hij
    rw [(PoolSpec.getElem?_answer hx).mpr (.inl ⟨rfl, rfl⟩), hx]
    exact hf
  · rw [List.getElem?_set_ne hij]

theorem Pipeline.AccountsFor.of_same (h : p.AccountsFor queue messageID)
    (hstep : Pipeline.Step store svc names p l p') (hlast : ∀ client, p'.lastExchange client = p.lastExchange client)
    (hbroker : ∀ secure, p.broker.Keeps secure queue messageID → p'.broker.Keeps secure queue messageID) :
    p'.AccountsFor queue messageID := by
  refine h.imp (fun hkeeps => ?_) fun hdone => hdone.step hstep
  exact (hbroker _ hkeeps).mono fun client hclient => by rw [Pipeline.Secure, hlast]; exact hclient

theorem accounted_of_step (hrows : p.RowsOwned names) (hp : (pipeline store svc names).Reachable cond p)
    (hstep : Pipeline.Step store svc names p l p') (hcareful : CarefulPipeline p l)
    (h : p.AccountsFor queue messageID) : p'.AccountsFor queue messageID := by
  have hsame := h.of_same hstep
  have hdone := fun hdone : p.Handled queue messageID => hdone.step hstep
  cases hstep with
  | @stage k t reached hl hstep =>
    cases hstep with
    | deliver hname hgenuine => cases hl
    | reply hw hprog hreply => exact accounted_of_reply hrows hp hw hprog hreply hcareful h
    | saga hown hstep =>
      refine hsame (fun client => by cases client <;> rfl) fun _ hkeeps => ?_
      cases reached <;> exact hkeeps
    | handle hw hprog hnone =>
      refine hsame (fun client => ?_) fun _ hkeeps => ?_
      · cases client with
        | replay j => rfl
        | worker j =>
          refine getElem?_set_bind (f := fun w => w.trace.getLast?) hw ?_ j
          rfl
      · cases reached <;> exact hkeeps
  | @deliver job k broker hname htake =>
    have hfresh : p.Secure (.worker p.stages.workers.length) := by
      simp [Pipeline.Secure, Pipeline.lastExchange, mayAck]
    have hlast : ∀ client, Pipeline.lastExchange { p with
        stages := { p.stages with workers := p.stages.workers ++ [.start job] }, broker := broker } client =
        p.lastExchange client := by
      intro client
      cases client with
      | replay j => rfl
      | worker j => exact getElem?_concat_bind rfl j
    refine h.imp (fun hkeeps => ?_) hdone
    refine (hkeeps.take htake hfresh).mono fun client hclient => ?_
    rw [Pipeline.Secure, hlast]
    exact hclient
  | startRelay limit => exact hsame (fun client => by cases client <;> rfl) fun _ hkeeps => hkeeps
  | @relay i limit trace c r next marks reached hthread hanswer =>
    refine hsame (fun client => by cases client <;> rfl) fun _ hkeeps => ?_
    cases reached with
    | false => exact hkeeps
    | true =>
      cases c with
      | publish event => exact hkeeps.publish
      | _ => exact hkeeps
  | startReplay config =>
    refine hsame (fun client => ?_) fun _ hkeeps => hkeeps
    cases client with
    | worker j => rfl
    | replay j => exact getElem?_concat_bind rfl j
  | replay reached hthread hreply => exact accounted_of_replay hp hthread hreply hcareful h
  | redeliver client => exact hsame (fun client => by cases client <;> rfl) fun _ hkeeps => hkeeps.giveBack
  | expire hexpire => exact hsame (fun client => by cases client <;> rfl) fun _ hkeeps => hkeeps.expire hexpire

/-! ### Published events -/

theorem message_publication (event : OutboxEvent) : (publication event).message = event.messageID := by
  cases hdecode : decodeDelivery (publication event) with
  | error err =>
    rw [Delivery.message, hdecode]
    exact congrArg Envelope.messageID event.envelope_withEnvelopeDefaults
  | ok decoded =>
    rw [message_of_decodeDelivery hdecode]
    exact congrArg Envelope.messageID (envelope_of_publication hdecode)

/-- What a relay has published is an event of the outbox, and accounted for wherever its key is bound. -/
def Pipeline.Delivers (store : RelayedStore S M) (p : Pipeline S M) : Prop :=
  ∀ t ∈ p.relays, ∀ event, (⟨.publish event, .ok ()⟩ : Exchange RelayCall.Answer) ∈ t.trace →
    event.envelope ∈ store.envelopes p.stages.saga ∧
      ∀ queue ∈ boundQueues (routingKey event.eventType), p.AccountsFor queue event.messageID

theorem delivers_of_reachable (hnames : Function.Injective names)
    (hp : (pipeline store svc names).Reachable CarefulPipeline p) : p.Delivers store := by
  refine Lts.Reachable.invariant (P := fun p => p.Delivers store) ?_ ?_ hp
  · rintro p ⟨_, _, hrelays, _⟩ t ht
    rw [hrelays] at ht
    cases ht
  · intro p l p' hreach ih hstep hcareful t ht event hmem
    have hold : ∀ u ∈ p.relays, (⟨.publish event, .ok ()⟩ : Exchange RelayCall.Answer) ∈ u.trace →
        event.envelope ∈ store.envelopes p'.stages.saga ∧
          ∀ queue ∈ boundQueues (routingKey event.eventType), p'.AccountsFor queue event.messageID := by
      intro u hu hevent
      obtain ⟨henvelope, haccounted⟩ := ih u hu event hevent
      exact ⟨envelopes_of_pipeline_step hstep henvelope, fun queue hqueue =>
        accounted_of_step (rowsOwned_of_reachable hnames hreach) hreach hstep hcareful (haccounted queue hqueue)⟩
    cases hstep with
    | startRelay limit =>
      rcases List.mem_append.mp ht with ht | ht
      · exact hold t ht hmem
      · rw [List.mem_singleton.mp ht] at hmem
        cases hmem
    | @relay i limit trace c r next marks reached hthread hanswer =>
      have hrelay := List.mem_of_getElem? hthread
      rcases List.mem_or_eq_of_mem_set ht with ht | rfl
      · exact hold t ht hmem
      · rcases List.mem_append.mp hmem with hmem | hmem
        · exact hold _ hrelay hmem
        · cases List.mem_singleton.mp hmem
          obtain ⟨hfollows, hclaimed⟩ := (sound_of_reachable hreach).relays _ hrelay
          refine ⟨hclaimed event hfollows.allowed, fun queue hqueue => .inl ?_⟩
          rw [← message_publication event]
          change Broker.Keeps (if reached then _ else _) _ _ _
          rw [show reached = true from hcareful, if_pos rfl]
          refine Broker.keeps_publish ?_
          change queue ∈ boundQueues (routingKey event.withEnvelopeDefaults.eventType)
          rw [OutboxEvent.withEnvelopeDefaults_eventType]
          exact hqueue
    | _ => exact hold t ht hmem

theorem published_of_mark (hp : (pipeline store svc names).Reachable cond p)
    (h : store.published p.marks messageID = true) : ∃ t ∈ p.relays, Published t.trace messageID := by
  refine Lts.Reachable.invariant (P := fun p => ∀ messageID, store.published p.marks messageID = true →
    ∃ t ∈ p.relays, Published t.trace messageID) ?_ ?_ hp messageID h
  · rintro p ⟨_, hmarks, _⟩ id hid
    rw [hmarks, store.published_unmarked] at hid
    cases hid
  · intro p l p' hreach ih hstep _ id hid
    cases hstep with
    | startRelay limit =>
      obtain ⟨t, ht, hpublished⟩ := ih id hid
      exact ⟨t, List.mem_append_left _ ht, hpublished⟩
    | @relay i limit trace c r next marks reached hthread hanswer =>
      have hnew := (PoolSpec.getElem?_answer (u := (⟨limit, trace ++ [⟨c, r⟩], next r⟩ : RelayThread))
        hthread).mpr (.inl ⟨rfl, rfl⟩)
      have hkeep : store.published p.marks id = true → ∃ t ∈ p.relays.set i ⟨limit, trace ++ [⟨c, r⟩], next r⟩,
          Published t.trace id := by
        intro hold
        obtain ⟨t, ht, event, hmem, hevent⟩ := ih id hold
        obtain ⟨k, hk⟩ := List.mem_iff_getElem?.mp ht
        by_cases hki : k = i
        · subst hki
          cases hk.symm.trans hthread
          exact ⟨_, List.mem_of_getElem? hnew, event, List.mem_append_left _ hmem, hevent⟩
        · exact ⟨t, List.mem_of_getElem? ((PoolSpec.getElem?_answer hthread).mpr (.inr ⟨hki, hk⟩)),
            event, hmem, hevent⟩
      cases c with
      | append event => exact hanswer.elim
      | pendingOutboxEvents limit =>
        obtain ⟨now, hpending⟩ := hanswer
        exact hkeep (store.published_pending _ _ _ _ _ _ hpending id hid)
      | publish event =>
        rw [show marks = p.marks from hanswer] at hid
        exact hkeep hid
      | clock =>
        rw [show marks = p.marks from hanswer] at hid
        exact hkeep hid
      | markOutboxPublished marked publishedAt =>
        rcases store.published_mark _ _ _ _ _ _ hanswer id hid with hold | rfl
        · exact hkeep hold
        · obtain ⟨event, hmem, hevent⟩ : Published trace id :=
            ((sound_of_reachable hreach).relays _ (List.mem_of_getElem? hthread)).1.allowed
          exact ⟨_, List.mem_of_getElem? hnew, event, List.mem_append_left _ hmem, hevent⟩
    | _ => exact ih id hid

/-- **Nothing is lost on the way.** Every event of the outbox is still to be published, or it is accounted for at
each of the queues bound with its routing key. -/
theorem committed_events_accounted (store : RelayedStore S M) (svc : Service) {names : Queue → String}
    (hnames : Function.Injective names) {p : Pipeline S M}
    (hp : (pipeline store svc names).Reachable CarefulPipeline p) {event : OutboxEvent}
    (hevent : event ∈ store.outbox p.stages.saga.shared.store) :
    store.published p.marks event.messageID = false ∨
      ∀ queue ∈ boundQueues (routingKey event.eventType), p.AccountsFor queue event.messageID := by
  cases hpublished : store.published p.marks event.messageID with
  | false => exact .inl rfl
  | true =>
    obtain ⟨t, ht, sent, hmem, hid⟩ := published_of_mark hp hpublished
    obtain ⟨henvelope, haccounted⟩ := delivers_of_reachable hnames hp t ht sent hmem
    have hsaga := saga_of_pipeline (fun _ _ _ => trivial) (onStages_of_anyStep (hp.mono fun _ _ _ => trivial))
    have hsame : sent.envelope = event.envelope :=
      envelope_eq_of_messageID_eq hsaga henvelope (List.mem_map_of_mem hevent) hid
    have htype : sent.eventType = event.eventType := congrArg Envelope.eventType hsame
    rw [← htype, ← hid]
    exact .inr haccounted

theorem Queue.name_injective : Function.Injective Queue.name := by
  intro a b h
  revert h
  cases a <;> cases b <;> decide

/-- Runs without replays can be checked to be careful. -/
def PipelineLabel.carefulIn (p : Pipeline S M) : PipelineLabel → Bool
  | .relay _ (.publish _) (.ok _) reached => reached
  | .stage (.reply _ (.publishRetry _ _ _) (.ok _) _) reached => reached
  | .stage (.reply i (.record _ _) (.ok recorded) _) _ => !recorded || (p.broker.unsettled (.worker i)).isSome
  | .stage (.reply _ (.record _ _) (.error _) late) _ => !late
  | .stage (.reply _ (.release _ _) (.error _) late) _ => late
  | .replay _ _ _ _ => false
  | .redeliver (.worker i) => !((p.stages.workers[i]?).bind StageWorker.pending).any MessagingCall.isClaimed
  | _ => true

theorem decides_carefulIn :
    Decides (pipeline store svc names) (fun p l _ => l.carefulIn p) (CarefulPipeline (S := S) (M := M)) := by
  intro p l p' _ hcheck
  unfold CarefulPipeline
  split
  · exact hcheck
  · exact hcheck
  · intro hrecorded
    simpa [PipelineLabel.carefulIn, hrecorded] using hcheck
  · intro hlate
    simp [PipelineLabel.carefulIn, hlate] at hcheck
  · exact hcheck
  · cases hcheck
  · simpa [PipelineLabel.carefulIn] using hcheck
  · trivial

/-- The first worker has handled the message and settled its delivery; the second has acknowledged a duplicate. -/
theorem committed_events_accounted_twice : ∃ p : Pipeline MemoryStore OutboxMarks,
    (pipeline memoryRelayed sampleService Queue.name).Reachable CarefulPipeline p ∧
    p.broker.contents (.worker .inventoryReserve) = [] ∧ p.broker.unsettled (.worker 0) = none ∧
    p.broker.unsettled (.worker 1) = none ∧ p.AccountsFor .inventoryReserve "msg_1" := by
  obtain ⟨p, hp, ⟨event, hevent, hid, htype⟩, hmarked, hempty, hfirst, hsecond⟩ :=
    (pipelineSimulator memoryScript sampleService).exists_reachable
      (Q := fun p => (∃ event ∈ memoryRelayed.outbox p.stages.saga.shared.store,
          event.messageID = "msg_1" ∧ event.eventType = .orderCreated) ∧
        memoryRelayed.published p.marks "msg_1" = true ∧ p.broker.contents (.worker .inventoryReserve) = [] ∧
        p.broker.unsettled (.worker 0) = none ∧ p.broker.unsettled (.worker 1) = none)
      decides_carefulIn reachable_emptyMemory memoryTwice (by decide +kernel)
  refine ⟨p, hp, hempty, hfirst, hsecond, ?_⟩
  have haccounted := committed_events_accounted memoryRelayed sampleService Queue.name_injective hp hevent
  rw [hid, hmarked, htype] at haccounted
  exact (haccounted.resolve_left (by decide)) .inventoryReserve (by decide)

end FulfillHub
