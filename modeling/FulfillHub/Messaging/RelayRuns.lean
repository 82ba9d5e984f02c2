import FulfillHub.Library.Completion
import FulfillHub.Messaging.Routing
import FulfillHub.Messaging.Relay

/-!
# A run of the relay commits a batch up to its first failure

The complete runs of `Relay.RunOnce`, for any results of `Publish` and of `MarkOutboxPublished`. The claimed events are
taken in their order, and each is published and then marked before the next one is touched; the first failure ends the
run, and the number returned is the number of events before it.
-/

namespace FulfillHub

open Interaction

namespace Relay

/-- The exchanges by which an event is published and marked as published. -/
def commitment (event : OutboxEvent) (now : Time) : RelayTrace :=
  [⟨.publish event, .ok ()⟩, ⟨.clock, now⟩, ⟨.markOutboxPublished event.messageID now, .ok ()⟩]

/-- The end of the loop: no event is left, the next one could not be published, or it could not be marked. -/
inductive Ends : List OutboxEvent → Option Error → RelayTrace → Prop
  | finished : Ends [] none []
  | unpublished (event : OutboxEvent) (later : List OutboxEvent) (cause : Error) :
      Ends (event :: later) (some (cause.within ("publish " ++ event.messageID))) [⟨.publish event, .error cause⟩]
  | unmarked (event : OutboxEvent) (later : List OutboxEvent) (now : Time) (cause : Error) :
      Ends (event :: later) (some (cause.within ("mark " ++ event.messageID ++ " published")))
        [⟨.publish event, .ok ()⟩, ⟨.clock, now⟩, ⟨.markOutboxPublished event.messageID now, .error cause⟩]

/-- The first events of a batch are published and marked, each once and in their order, and then the loop ends. -/
def CommitsFirst (events : List OutboxEvent) (published : Nat) (err : Option Error) (trace : RelayTrace) : Prop :=
  ∃ (done : List (OutboxEvent × Time)) (later : List OutboxEvent) (tail : RelayTrace),
    events = done.map Prod.fst ++ later ∧ published = done.length ∧
      trace = done.flatMap (fun d => commitment d.1 d.2) ++ tail ∧ Ends later err tail

variable {events : List OutboxEvent} {published : Nat} {err : Option Error} {trace : RelayTrace}

theorem CommitsFirst.cons (h : CommitsFirst events published err trace) (event : OutboxEvent) (now : Time) :
    CommitsFirst (event :: events) (published + 1) err (commitment event now ++ trace) := by
  obtain ⟨done, later, tail, rfl, rfl, rfl, hends⟩ := h
  exact ⟨(event, now) :: done, later, tail, rfl, rfl, rfl, hends⟩

theorem CommitsFirst.of_ends (h : Ends events err trace) : CommitsFirst events 0 err trace :=
  ⟨[], events, trace, rfl, rfl, rfl, h⟩

theorem publishEach_commits (before : Nat) (h : (publishEach events before).Returns trace (published, err)) :
    ∃ committed, published = before + committed ∧ CommitsFirst events committed err trace := by
  induction events generalizing before trace with
  | nil =>
    obtain ⟨rfl, hresult⟩ := h.of_ret
    obtain ⟨rfl, rfl⟩ := Prod.mk.inj hresult
    exact ⟨0, rfl, .of_ends .finished⟩
  | cons event rest ih =>
    obtain ⟨publication, afterPublish, rfl, hpublish⟩ := h.of_perform_bind
    cases publication with
    | error cause =>
      obtain ⟨rfl, hresult⟩ := hpublish.of_ret
      obtain ⟨rfl, rfl⟩ := Prod.mk.inj hresult
      exact ⟨0, rfl, .of_ends (.unpublished event rest cause)⟩
    | ok _ =>
      obtain ⟨now, afterClock, rfl, hclock⟩ := hpublish.of_perform_bind
      obtain ⟨marking, afterMark, rfl, hmark⟩ := hclock.of_perform_bind
      cases marking with
      | error cause =>
        obtain ⟨rfl, hresult⟩ := hmark.of_ret
        obtain ⟨rfl, rfl⟩ := Prod.mk.inj hresult
        exact ⟨0, rfl, .of_ends (.unmarked event rest now cause)⟩
      | ok _ =>
        obtain ⟨committed, rfl, hcommits⟩ := ih (before + 1) hmark
        exact ⟨committed + 1, by omega, hcommits.cons event now⟩

/-! ### A run for every pattern of results -/

/-- What publishing an event and marking it result in. -/
structure Outcome where
  publish : Except Error Unit
  now : Time
  mark : Except Error Unit

namespace Outcome

/-- The exchanges of the loop about an event. -/
def exchanges (event : OutboxEvent) (o : Outcome) : RelayTrace :=
  ⟨.publish event, o.publish⟩ ::
    if o.publish.isOk then [⟨.clock, o.now⟩, ⟨.markOutboxPublished event.messageID o.now, o.mark⟩] else []

def commits (o : Outcome) : Bool := o.publish.isOk && o.mark.isOk

end Outcome

/-- The number of events before the first one that fails. -/
def commitCount (batch : List (OutboxEvent × Outcome)) : Nat := (batch.takeWhile fun x => x.2.commits).length

/-- The exchanges about the events up to the first one that fails. -/
def attempts (batch : List (OutboxEvent × Outcome)) : RelayTrace :=
  (batch.take (commitCount batch + 1)).flatMap fun x => x.2.exchanges x.1

theorem publishEach_returns (batch : List (OutboxEvent × Outcome)) (before : Nat) :
    ∃ err, (publishEach (batch.map Prod.fst) before).Returns (attempts batch) (before + commitCount batch, err) := by
  induction batch generalizing before with
  | nil => exact ⟨none, .ret _⟩
  | cons first rest ih =>
    obtain ⟨event, publish, now, mark⟩ := first
    cases publish with
    | error cause => exact ⟨_, .perform_bind (c := RelayCall.publish event) _ (.ret _)⟩
    | ok =>
      cases mark with
      | error cause =>
        refine ⟨some (cause.within ("mark " ++ event.messageID ++ " published")), ?_⟩
        refine .perform_bind (c := RelayCall.publish event) _ (.perform_bind (c := RelayCall.clock) _ ?_)
        exact .perform_bind (c := RelayCall.markOutboxPublished event.messageID now) _ (.ret _)
      | ok =>
        obtain ⟨err, hrest⟩ := ih (before + 1)
        have hcount : before + 1 + commitCount rest =
            before + commitCount ((event, ⟨.ok (), now, .ok ()⟩) :: rest) := by
          change before + 1 + commitCount rest = before + (commitCount rest + 1)
          omega
        rw [hcount] at hrest
        refine ⟨err, .perform_bind (c := RelayCall.publish event) _ (.perform_bind (c := RelayCall.clock) _ ?_)⟩
        exact .perform_bind (c := RelayCall.markOutboxPublished event.messageID now) _ hrest

end Relay

/-- A complete run of the relay begins with the claim of a batch. Then it has published and marked exactly as many
events of the batch as it returns, from the first one on, and when it returns an error it has tried the next one without
marking it and has not touched the others. There is such a run for every batch and every pattern of results. -/
theorem runOnce_commits_first (limit : Int) :
    (∀ outcome : (call : RelayCall) → call.Answer, ∃ trace result, (Relay.runOnce limit).Returns trace result ∧
      ∀ exchange ∈ trace, exchange.2 = outcome exchange.1) ∧
    (∀ trace published err, (Relay.runOnce limit).Returns trace (published, err) →
      (∃ cause, trace = [⟨.pendingOutboxEvents limit, .error cause⟩] ∧ published = 0 ∧
        err = some (cause.within "load pending outbox events")) ∨
      ∃ events rest, trace = ⟨.pendingOutboxEvents limit, .ok events⟩ :: rest ∧
        Relay.CommitsFirst events published err rest) ∧
    ∀ batch : List (OutboxEvent × Relay.Outcome), ∃ err,
      (Relay.runOnce limit).Returns (⟨.pendingOutboxEvents limit, .ok (batch.map Prod.fst)⟩ :: Relay.attempts batch)
        (Relay.commitCount batch, err) ∧
      Relay.CommitsFirst (batch.map Prod.fst) (Relay.commitCount batch) err (Relay.attempts batch) := by
  refine ⟨fun outcome => Prog.exists_returns_with outcome _, ?_, ?_⟩
  · intro trace published err h
    obtain ⟨claim, rest, rfl, hclaimed⟩ := h.of_perform_bind
    cases claim with
    | error cause =>
      obtain ⟨rfl, hresult⟩ := hclaimed.of_ret
      obtain ⟨rfl, rfl⟩ := Prod.mk.inj hresult
      exact .inl ⟨cause, rfl, rfl, rfl⟩
    | ok events =>
      obtain ⟨committed, rfl, hcommits⟩ := Relay.publishEach_commits 0 hclaimed
      exact .inr ⟨events, rest, rfl, by rwa [Nat.zero_add]⟩
  · intro batch
    obtain ⟨err, hreturns⟩ := Relay.publishEach_returns batch 0
    obtain ⟨committed, hcommitted, hcommits⟩ := Relay.publishEach_commits 0 hreturns
    rw [Nat.zero_add] at hreturns
    obtain rfl : Relay.commitCount batch = committed := by omega
    exact ⟨err, .perform_bind (c := RelayCall.pendingOutboxEvents limit) _ hreturns, hcommits⟩

/-- The broker refuses the second of two events. -/
theorem runOnce_commits_first_of_two : ∃ trace,
    (Relay.runOnce 2).Returns
      (⟨.pendingOutboxEvents 2, .ok [sampleEvent .orderCreated, sampleEvent .paymentFailed]⟩ :: trace)
      (1, some ((Error.plain "unroutable").within "publish msg_1")) ∧
    trace = Relay.commitment (sampleEvent .orderCreated) 5 ++
      [⟨.publish (sampleEvent .paymentFailed), .error (.plain "unroutable")⟩] ∧
    Relay.CommitsFirst [sampleEvent .orderCreated, sampleEvent .paymentFailed] 1
      (some ((Error.plain "unroutable").within "publish msg_1")) trace := by
  have hreturns : (Relay.runOnce 2).Returns
      (⟨.pendingOutboxEvents 2, .ok [sampleEvent .orderCreated, sampleEvent .paymentFailed]⟩ ::
        (Relay.commitment (sampleEvent .orderCreated) 5 ++
          [⟨.publish (sampleEvent .paymentFailed), .error (.plain "unroutable")⟩]))
      (1, some ((Error.plain "unroutable").within "publish msg_1")) := by
    refine Prog.Returns.perform_bind (c := RelayCall.pendingOutboxEvents 2) _ ?_
    refine Prog.Returns.perform_bind (c := RelayCall.publish (sampleEvent .orderCreated)) _ ?_
    refine Prog.Returns.perform_bind (c := RelayCall.clock) _ ?_
    refine Prog.Returns.perform_bind (c := RelayCall.markOutboxPublished "msg_1" 5) _ ?_
    exact Prog.Returns.perform_bind (c := RelayCall.publish (sampleEvent .paymentFailed)) _ (.ret _)
  refine ⟨_, hreturns, rfl, ?_⟩
  rcases (runOnce_commits_first 2).2.1 _ _ _ hreturns with ⟨cause, htrace, -⟩ | ⟨events, rest, htrace, hcommits⟩
  · cases htrace
  · cases htrace
    exact hcommits

end FulfillHub
