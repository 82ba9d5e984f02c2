import FulfillHub.Library.Simulator
import FulfillHub.Messaging.Consumer

/-!
# Publisher confirms

An AMQP channel in confirm mode with mandatory publishing. For each message the broker emits at most one
return and then one confirmation, on two streams that are read in order. `Publish` and `PublishRetry`
hold the channel's mutex from sending a message to the end of `waitForAMQPPublishOutcome`, which takes
whatever `select` finds on the streams. It recognises returns by the message id and does not look at the
delivery tag of a confirmation.

Therefore a wait that ends early, by a return or by its context, leaves the confirmation of its message
to the next wait, and a confirmation that is taken before the return of the same message hides it.
Without these two, a confirmation is always the one of the message that is waited for.
-/

namespace FulfillHub

open Interaction

/-! ### Waiting for the outcome -/

structure Return where
  messageID : String
  replyText : String

structure Confirmation where
  deliveryTag : Nat
  ack : Bool

/-- What a turn of `select` receives: from a stream, `none` if it is closed, or from the context. -/
inductive Selected
  | returned (received : Option Return)
  | confirmed (received : Option Confirmation)
  | done (err : Error)

/-- A turn of the loop in `waitForAMQPPublishOutcome`: its result, unless the loop goes on. -/
def waitTurn (messageID : String) : Selected → Option (Except Error Unit)
  | .returned none => some (.error (.plain "rabbitmq return channel closed"))
  | .returned (some returned) =>
    if returned.messageID = messageID then
      some (.error (.plain ("rabbitmq message " ++ messageID ++ " was returned as unroutable: " ++
        returned.replyText)))
    else none
  | .confirmed none => some (.error (.plain "rabbitmq confirm channel closed"))
  | .confirmed (some confirmation) =>
    if confirmation.ack then some (.ok ())
    else some (.error (.plain ("rabbitmq negatively acknowledged message " ++ messageID)))
  | .done err => some (.error (err.within "wait for rabbitmq publish confirmation"))

/-- The loop, over what `select` receives turn by turn; `none` as long as it has not returned. -/
def waitForAMQPPublishOutcome (messageID : String) : List Selected → Option (Except Error Unit)
  | [] => none
  | selected :: rest =>
    match waitTurn messageID selected with
    | some outcome => some outcome
    | none => waitForAMQPPublishOutcome messageID rest

theorem waitForAMQPPublishOutcome_concat {messageID : String} {earlier : List Selected} (selected : Selected)
    (h : waitForAMQPPublishOutcome messageID earlier = none) :
    waitForAMQPPublishOutcome messageID (earlier ++ [selected]) = waitTurn messageID selected := by
  induction earlier with
  | nil =>
    simp only [List.nil_append, waitForAMQPPublishOutcome]
    cases waitTurn messageID selected <;> rfl
  | cons first rest ih =>
    simp only [waitForAMQPPublishOutcome, List.cons_append] at h ⊢
    cases hfirst : waitTurn messageID first with
    | some outcome => simp [hfirst] at h
    | none =>
      rw [hfirst] at h
      exact ih h

/-! ### The channel -/

/-- A call of `RabbitPublisher.Publish` or of `RabbitConsumer.PublishRetry`. -/
inductive PublishCall
  | publish (event : OutboxEvent)
  | publishRetry (delivery : Delivery) (event : OutboxEvent) (attempt : Int)

namespace PublishCall

def delivery : PublishCall → Delivery
  | .publish event => publication event
  | .publishRetry delivery event attempt => retryDelivery delivery event attempt

/-- The id that is sent and waited for. -/
def messageID (call : PublishCall) : String := call.delivery.messageID

/-- The call's error when the message cannot be sent. -/
def sendFailed : PublishCall → Error → Error
  | .publish _, err => err
  | .publishRetry _ _ _, err => err.within "publish retry message"

/-- The call's result, from the outcome of the wait. -/
def confirmed : PublishCall → Except Error Unit → Except Error Unit
  | .publish _, outcome => outcome
  | .publishRetry _ _ _, outcome => outcome.mapError (Error.within "confirm retry message")

theorem confirmed_eq_ok {call : PublishCall} {outcome : Except Error Unit}
    (h : call.confirmed outcome = .ok ()) : outcome = .ok () := by
  cases call with
  | publish event => exact h
  | publishRetry delivery event attempt =>
    cases outcome with
    | ok _ => rfl
    | error err => cases h

end PublishCall

/-- The call that holds the mutex, the position of its message, and what its wait has received. -/
structure Wait where
  call : PublishCall
  index : Nat
  selected : List Selected

/-- A channel in confirm mode. `published`, `returned` and `verdicts` are the broker's: the ids of the
messages it got, the positions of those it returned, and its acks and nacks in the order of the messages.
`results` are what the calls returned, with the position of the message that was sent. -/
structure ConfirmChannel where
  published : List String
  returned : List Nat
  verdicts : List Bool
  returns : List Return
  confirms : List Confirmation
  closed : Bool
  current : Option Wait
  results : List (Option Nat × Except Error Unit)

inductive SelectCase
  | returns
  | confirms
  | done (err : Error)

inductive ChannelAction
  | publish (call : PublishCall) (sent : Except Error Unit)
  | emitReturn (replyText : String)
  | emitConfirmation (ack : Bool)
  | select (choice : SelectCase)
  | close

namespace ConfirmChannel

variable (ch : ConfirmChannel)

/-- What a case of `select` receives, if it is ready. -/
def receive : SelectCase → Option (Selected × ConfirmChannel)
  | .returns =>
    match ch.returns with
    | returned :: rest => some (.returned (some returned), { ch with returns := rest })
    | [] => if ch.closed then some (.returned none, ch) else none
  | .confirms =>
    match ch.confirms with
    | confirmation :: rest => some (.confirmed (some confirmation), { ch with confirms := rest })
    | [] => if ch.closed then some (.confirmed none, ch) else none
  | .done err => some (.done err, ch)

/-- The current wait goes on with what it received, or its call returns. -/
def resume (w : Wait) (selected : Selected) : ConfirmChannel :=
  match waitForAMQPPublishOutcome w.call.messageID (w.selected ++ [selected]) with
  | none => { ch with current := some { w with selected := w.selected ++ [selected] } }
  | some outcome =>
    { ch with current := none, results := (some w.index, w.call.confirmed outcome) :: ch.results }

def step : ChannelAction → Option ConfirmChannel
  | .publish call sent =>
    if ch.current.isSome then none
    else match sent with
      | .ok () =>
        if ch.closed then none
        else some { ch with
          published := ch.published ++ [call.messageID]
          current := some ⟨call, ch.published.length, []⟩ }
      | .error err => some { ch with results := (none, .error (call.sendFailed err)) :: ch.results }
  | .emitReturn replyText =>
    match ch.published[ch.verdicts.length]? with
    | some messageID =>
      if ch.closed ∨ ch.verdicts.length ∈ ch.returned then none
      else some { ch with
        returned := ch.verdicts.length :: ch.returned
        returns := ch.returns ++ [⟨messageID, replyText⟩] }
    | none => none
  | .emitConfirmation ack =>
    if ch.closed ∨ ch.published.length ≤ ch.verdicts.length then none
    else some { ch with
      verdicts := ch.verdicts ++ [ack]
      confirms := ch.confirms ++ [⟨ch.verdicts.length + 1, ack⟩] }
  | .select choice =>
    match ch.current, ch.receive choice with
    | some w, some (selected, ch') => some (ch'.resume w selected)
    | _, _ => none
  | .close => some { ch with closed := true }

end ConfirmChannel

/-- A channel that has just been put into confirm mode. -/
def ConfirmChannel.opened : ConfirmChannel := ⟨[], [], [], [], [], false, none, []⟩

def confirmProtocol : Lts ConfirmChannel ChannelAction where
  init ch := ch = .opened
  step ch a ch' := ch.step a = some ch'

/-! ### Attribution -/

/-- A message is published only when all confirmations of earlier messages have been read, and a
confirmation is read only when no return of the message that is waited for is there to be read. -/
def Attributable (ch : ConfirmChannel) : ChannelAction → Prop
  | .publish _ (.ok _) => ch.verdicts.length = ch.published.length ∧ ch.confirms = []
  | .select .confirms => ∀ w, ch.current = some w → ∀ r ∈ ch.returns, r.messageID ≠ w.call.messageID
  | _ => True

variable {ch ch' : ConfirmChannel} {w : Wait}

/-- The broker acknowledged the message at a position and did not return it. -/
def ConfirmChannel.Acked (ch : ConfirmChannel) (i : Nat) : Prop :=
  ch.verdicts[i]? = some true ∧ i ∉ ch.returned

/-- The wait is for the last message, the only confirmation it can receive is that of its message, and
a return of its message is still to be read. -/
structure ConfirmChannel.Awaits (ch : ConfirmChannel) (w : Wait) : Prop where
  last : w.index + 1 = ch.published.length
  messageID : ch.published[w.index]? = some w.call.messageID
  unfinished : waitForAMQPPublishOutcome w.call.messageID w.selected = none
  confirms : ch.verdicts.length = w.index ∧ ch.confirms = [] ∨
    ∃ c, ch.confirms = [c] ∧ ch.verdicts.length = w.index + 1 ∧ ch.verdicts[w.index]? = some c.ack
  returned : w.index ∈ ch.returned → ∃ r ∈ ch.returns, r.messageID = w.call.messageID

structure ConfirmChannel.Attributed (ch : ConfirmChannel) : Prop where
  verdicts : ch.verdicts.length ≤ ch.published.length
  returned : ∀ i ∈ ch.returned, i < ch.published.length
  current : ∀ w, ch.current = some w → ch.Awaits w
  results : ∀ i, (some i, .ok ()) ∈ ch.results → ch.Acked i

namespace ConfirmChannel

theorem attributed_publish {call : PublishCall} {sent : Except Error Unit} (h : ch.Attributed)
    (hstep : ch.step (.publish call sent) = some ch') (hcond : Attributable ch (.publish call sent)) :
    ch'.Attributed := by
  simp only [step] at hstep
  split at hstep
  · cases hstep
  · cases sent with
    | error err =>
      cases hstep
      refine ⟨h.verdicts, h.returned, fun w hw => { h.current w hw with }, ?_⟩
      intro i hi
      rcases List.mem_cons.mp hi with heq | hi
      · cases heq
      · exact h.results i hi
    | ok _ =>
      obtain ⟨hlength, hread⟩ := hcond
      dsimp only at hstep
      split at hstep
      · cases hstep
      · cases hstep
        refine ⟨?_, ?_, ?_, h.results⟩
        · simpa using Nat.le_succ_of_le h.verdicts
        · intro i hi
          simpa using Nat.lt_succ_of_lt (h.returned i hi)
        · intro w hw
          cases hw
          refine ⟨by simp, by simp, rfl, .inl ⟨hlength, hread⟩, ?_⟩
          intro hreturned
          exact absurd (h.returned _ hreturned) (Nat.lt_irrefl _)

theorem attributed_emitReturn {replyText : String} (h : ch.Attributed)
    (hstep : ch.step (.emitReturn replyText) = some ch') : ch'.Attributed := by
  simp only [step] at hstep
  split at hstep
  · rename_i messageID hnext
    split at hstep
    · cases hstep
    · cases hstep
      have hlt : ch.verdicts.length < ch.published.length := (List.getElem?_eq_some_iff.mp hnext).1
      refine ⟨h.verdicts, ?_, ?_, ?_⟩
      · intro i hi
        rcases List.mem_cons.mp hi with rfl | hi
        · exact hlt
        · exact h.returned i hi
      · intro w hw
        have hawaits := h.current w hw
        refine ⟨hawaits.last, hawaits.messageID, hawaits.unfinished, hawaits.confirms, ?_⟩
        intro hi
        rcases List.mem_cons.mp hi with heq | hi
        · have hid := hawaits.messageID
          rw [heq, hnext] at hid
          exact ⟨⟨messageID, replyText⟩, by simp, Option.some.inj hid⟩
        · obtain ⟨r, hr, hid⟩ := hawaits.returned hi
          exact ⟨r, List.mem_append_left _ hr, hid⟩
      · intro i hi
        obtain ⟨hverdict, hnot⟩ := h.results i hi
        have hi' : i < ch.verdicts.length := (List.getElem?_eq_some_iff.mp hverdict).1
        refine ⟨hverdict, ?_⟩
        intro hmem
        rcases List.mem_cons.mp hmem with heq | hmem
        · omega
        · exact hnot hmem
  · cases hstep

theorem attributed_emitConfirmation {ack : Bool} (h : ch.Attributed)
    (hstep : ch.step (.emitConfirmation ack) = some ch') : ch'.Attributed := by
  simp only [step] at hstep
  split at hstep
  · cases hstep
  · rename_i hopen
    cases hstep
    have hlt : ch.verdicts.length < ch.published.length := by
      simp only [not_or, Nat.not_le] at hopen
      exact hopen.2
    refine ⟨?_, h.returned, ?_, ?_⟩
    · rw [List.length_append]
      exact hlt
    · intro w hw
      have hawaits := h.current w hw
      have hlast := hawaits.last
      refine ⟨hlast, hawaits.messageID, hawaits.unfinished, .inr ?_, hawaits.returned⟩
      rcases hawaits.confirms with ⟨hlength, hnone⟩ | ⟨_, _, hlength, _⟩
      · exact ⟨⟨ch.verdicts.length + 1, ack⟩, by simp [hnone], by simp [hlength], by simp [← hlength]⟩
      · omega
    · intro i hi
      obtain ⟨hverdict, hnot⟩ := h.results i hi
      have hi' : i < ch.verdicts.length := (List.getElem?_eq_some_iff.mp hverdict).1
      exact ⟨(List.getElem?_append_left hi').trans hverdict, hnot⟩

/-- A wait goes on only if it received nothing of its own message, and succeeds only if the message it
waits for is acknowledged. -/
theorem attributed_resume {selected : Selected} (hverdicts : ch.verdicts.length ≤ ch.published.length)
    (hreturned : ∀ i ∈ ch.returned, i < ch.published.length)
    (hresults : ∀ i, (some i, .ok ()) ∈ ch.results → ch.Acked i)
    (hunfinished : waitForAMQPPublishOutcome w.call.messageID w.selected = none)
    (hgoes : waitTurn w.call.messageID selected = none → ch.Awaits w)
    (hends : waitTurn w.call.messageID selected = some (.ok ()) → ch.Acked w.index) :
    (ch.resume w selected).Attributed := by
  have hconcat := waitForAMQPPublishOutcome_concat selected hunfinished
  rw [resume, hconcat]
  cases hturn : waitTurn w.call.messageID selected with
  | none =>
    refine ⟨hverdicts, hreturned, ?_, hresults⟩
    intro w' hw'
    cases hw'
    exact { hgoes hturn with unfinished := hconcat.trans hturn }
  | some outcome =>
    refine ⟨hverdicts, hreturned, fun _ hw => absurd hw (Option.some_ne_none _).symm, ?_⟩
    intro i hi
    rcases List.mem_cons.mp hi with heq | hi
    · obtain ⟨hindex, hok⟩ := Prod.mk.inj heq
      cases hindex
      exact hends (hturn.trans (congrArg some (PublishCall.confirmed_eq_ok hok.symm)))
    · exact hresults i hi

theorem attributed_select {choice : SelectCase} (h : ch.Attributed)
    (hstep : ch.step (.select choice) = some ch') (hcond : Attributable ch (.select choice)) :
    ch'.Attributed := by
  simp only [step] at hstep
  split at hstep
  · rename_i w selected ch₁ hw hreceive
    cases hstep
    have hawaits := h.current w hw
    cases choice with
    | returns =>
      simp only [receive] at hreceive
      split at hreceive
      · rename_i r rest hreturns
        cases hreceive
        refine attributed_resume h.verdicts h.returned h.results hawaits.unfinished ?_ ?_
        · intro hturn
          refine { hawaits with returned := ?_ }
          intro hi
          obtain ⟨r', hr', hid⟩ := hawaits.returned hi
          rw [hreturns] at hr'
          rcases List.mem_cons.mp hr' with rfl | hr'
          · simp [waitTurn, hid] at hturn
          · exact ⟨r', hr', hid⟩
        · intro hturn
          simp [waitTurn] at hturn
      · split at hreceive
        · cases hreceive
          exact attributed_resume h.verdicts h.returned h.results hawaits.unfinished (fun _ => hawaits) nofun
        · cases hreceive
    | confirms =>
      simp only [receive] at hreceive
      split at hreceive
      · rename_i c rest hconfirms
        cases hreceive
        refine attributed_resume h.verdicts h.returned h.results hawaits.unfinished ?_ ?_
        · intro hturn
          simp only [waitTurn] at hturn
          split at hturn <;> cases hturn
        · intro hturn
          have hack : c.ack = true := by
            by_contra hnack
            simp [waitTurn, hnack] at hturn
          rcases hawaits.confirms with ⟨_, hnone⟩ | ⟨c', hone, _, hverdict⟩
          · simp [hnone] at hconfirms
          · rw [hone] at hconfirms
            cases hconfirms
            refine ⟨hverdict.trans (congrArg some hack), ?_⟩
            intro hi
            obtain ⟨r, hr, hid⟩ := hawaits.returned hi
            exact hcond w hw r hr hid
      · split at hreceive
        · cases hreceive
          exact attributed_resume h.verdicts h.returned h.results hawaits.unfinished (fun _ => hawaits) nofun
        · cases hreceive
    | done err =>
      cases hreceive
      exact attributed_resume h.verdicts h.returned h.results hawaits.unfinished (fun _ => hawaits) nofun
  · cases hstep

theorem attributed_of_reachable (hch : confirmProtocol.Reachable Attributable ch) : ch.Attributed := by
  refine hch.invariant (P := Attributed) ?_ ?_
  · intro ch hopened
    rw [show ch = opened from hopened]
    exact ⟨Nat.le_refl _, List.forall_mem_nil _, fun _ hw => absurd hw (Option.some_ne_none _).symm,
      fun _ hresult => absurd hresult List.not_mem_nil⟩
  · intro ch a ch' _ h hstep hcond
    cases a with
    | publish call sent => exact attributed_publish h hstep hcond
    | emitReturn replyText => exact attributed_emitReturn h hstep
    | emitConfirmation ack => exact attributed_emitConfirmation h hstep
    | select choice => exact attributed_select h hstep hcond
    | close =>
      cases hstep
      exact { h with current := fun w hw => { h.current w hw with } }

end ConfirmChannel

/-- **Confirms are attributed to their messages**, as long as a channel on which confirmations are left
unread is not published to any more and a return is read before the confirmation that follows it: a
call succeeds only if the broker acknowledged its message and did not return it. -/
theorem confirms_attributed {ch : ConfirmChannel} (hch : confirmProtocol.Reachable Attributable ch) {i : Nat}
    (hresult : (some i, .ok ()) ∈ ch.results) : ch.verdicts[i]? = some true ∧ i ∉ ch.returned :=
  (ConfirmChannel.attributed_of_reachable hch).results i hresult

/-! ### Runs -/

instance (ch : ConfirmChannel) : (a : ChannelAction) → Decidable (Attributable ch a)
  | .publish _ (.ok _) => inferInstanceAs (Decidable (_ ∧ _))
  | .publish _ (.error _) | .emitReturn _ | .emitConfirmation _ | .select .returns | .select (.done _) | .close =>
    inferInstanceAs (Decidable True)
  | .select .confirms => decidable_of_iff
      (∀ w ∈ ch.current, ∀ r ∈ ch.returns, r.messageID ≠ w.call.messageID) (by simp [Attributable])

def channelSimulator : Simulator confirmProtocol ChannelAction := .ofStep ConfirmChannel.step id

def sampleCall (messageID : String) : PublishCall :=
  .publish
    { messageID := messageID, eventType := .orderCreated, schemaVersion := 1, occurredAt := 0,
      producer := "orders-api", merchantID := "mrc_1", orderID := "ord_1", correlationID := "corr-1",
      causationID := "", payload := [] }

/-- One message is acknowledged, the next one is returned and acknowledged: the second call fails. -/
theorem confirms_attributed_before_return : ∃ ch, confirmProtocol.Reachable Attributable ch ∧
    1 ∈ ch.returned ∧ ch.results.length = 2 ∧ ch.verdicts[0]? = some true := by
  obtain ⟨ch, hch, hreturned, hlength, hresult⟩ := channelSimulator.exists_reachable
    (Q := fun ch => 1 ∈ ch.returned ∧ ch.results.length = 2 ∧ (some 0, .ok ()) ∈ ch.results)
    (decides_decide Attributable) (s := .opened) (.start rfl)
    [.publish (sampleCall "msg_1") (.ok ()), .emitConfirmation true, .select .confirms,
      .publish (sampleCall "msg_2") (.ok ()), .emitReturn "NO_ROUTE", .emitConfirmation true, .select .returns]
    (by decide)
  exact ⟨ch, hch, hreturned, hlength, (confirms_attributed hch hresult).1⟩

/-- Two calls that succeed wrongly. The broker returns a message and acknowledges it, and the
acknowledgement is read first. A wait is cancelled, and the next one reads the confirmation it left
behind, for a message the broker then refuses. -/
theorem confirms_misattributed :
    (∃ ch, confirmProtocol.Reachable Lts.anyStep ch ∧ 0 ∈ ch.returned ∧ (some 0, .ok ()) ∈ ch.results) ∧
    ∃ ch, confirmProtocol.Reachable Lts.anyStep ch ∧ ch.verdicts[1]? = some false ∧
      (some 1, .ok ()) ∈ ch.results := by
  constructor
  · exact channelSimulator.exists_reachable decides_anyStep (s := .opened) (.start rfl)
      [.publish (sampleCall "msg_1") (.ok ()), .emitReturn "NO_ROUTE", .emitConfirmation true,
        .select .confirms] (by decide)
  · exact channelSimulator.exists_reachable decides_anyStep (s := .opened) (.start rfl)
      [.publish (sampleCall "msg_1") (.ok ()), .select (.done (.plain "context canceled")),
        .emitConfirmation true, .publish (sampleCall "msg_2") (.ok ()), .select .confirms,
        .emitConfirmation false] (by decide)

end FulfillHub
