import FulfillHub.Library.Completion
import FulfillHub.Messaging.Hops

/-!
# Replaying the dead-letter queue, message by message

`ReplayDLQ` of `internal/messaging/dlq.go` over whole messages, with sending a message and waiting for its outcome as
two calls. Forgetting the properties a consumer does not read and joining the two calls gives the replay of the
consumer model. The dead-letter queue may get further messages at any time, those of this replay included. A message
that was taken from it counts as in it until it is acknowledged.
-/

namespace FulfillHub

open Interaction

variable {replayed : Nat}

/-! ### The program -/

/-- What a replay asks of its channel; `waitForPublishOutcome` is about the message that was sent last, `ack` and `nack`
are about the delivery that was taken last. -/
inductive ReplayCall (Body : Type)
  | confirm
  | get (queue : String)
  | publish (exchange : String) (message : Message Body)
  | waitForPublishOutcome (messageID : String)
  | ack
  | nack (requeue : Bool)

abbrev ReplayCall.Answer {Body : Type} : ReplayCall Body → Type
  | .get _ => Except Error (Option (Message Body))
  | _ => Except Error Unit

abbrev ReplayProg (Body α : Type) := Prog (ReplayCall Body) ReplayCall.Answer α

abbrev ReplayTrace (Body : Type) := Trace (C := ReplayCall Body) ReplayCall.Answer

namespace Replay

variable {Body : Type}

def confirm : ReplayProg Body (Except Error Unit) := Prog.perform ReplayCall.confirm

def get (queue : String) : ReplayProg Body (Except Error (Option (Message Body))) :=
  Prog.perform (ReplayCall.get queue)

def publish (exchange : String) (message : Message Body) : ReplayProg Body (Except Error Unit) :=
  Prog.perform (ReplayCall.publish exchange message)

def waitForPublishOutcome (messageID : String) : ReplayProg Body (Except Error Unit) :=
  Prog.perform (ReplayCall.waitForPublishOutcome messageID)

def ack : ReplayProg Body (Except Error Unit) := Prog.perform ReplayCall.ack

def nack (requeue : Bool) : ReplayProg Body (Except Error Unit) := Prog.perform (ReplayCall.nack requeue)

/-- The loop of `ReplayDLQ`: what is left of the limit, and the messages replayed so far. -/
def replayMessages (config : DLQReplayConfig) : Nat → Nat → ReplayProg Body (Nat × Except Error Unit)
  | 0, replayed => pure (replayed, .ok ())
  | left + 1, replayed => do
      match ← get config.queue with
      | .error err => pure (replayed, .error (err.within "get dlq message"))
      | .ok none => pure (replayed, .ok ())
      | .ok (some delivery) =>
        match ← publish config.exchange (delivery.replayed config) with
        | .error err => do
            let _ ← nack true
            pure (replayed, .error (err.within "republish dlq message"))
        | .ok () =>
          match ← waitForPublishOutcome delivery.messageID with
          | .error err => do
              let _ ← nack true
              pure (replayed, .error (err.within "confirm dlq replay message"))
          | .ok () =>
            match ← ack with
            | .error err => pure (replayed, .error (err.within "ack dlq message"))
            | .ok () => replayMessages config left (replayed + 1)

/-- The limit in force. -/
def effectiveLimit (config : DLQReplayConfig) : Nat := if config.limit ≤ 0 then 100 else config.limit.toNat

def replayDLQ (config : DLQReplayConfig) : ReplayProg Body (Nat × Except Error Unit) :=
  if config.queue = "" ∨ config.exchange = "" ∨ config.routingKey = "" then
    pure (0, .error (.plain "queue, exchange, and routing key are required"))
  else do
    match ← confirm with
    | .error err => pure (0, .error (err.within "enable dlq replay publisher confirms"))
    | .ok () => replayMessages config (effectiveLimit config) 0

/-! ### The replay of the consumer model -/

/-- The exchanges as the consumer model has them: messages as a consumer reads them, and sending and waiting as one
publication. -/
def coarsen (unmarshal : Body → Except Error OutboxEvent) : ReplayTrace Body → MessagingTrace
  | [] => []
  | ⟨.confirm, r⟩ :: rest => ⟨.confirmSelect, r⟩ :: coarsen unmarshal rest
  | ⟨.get _, r⟩ :: rest => ⟨.get, r.map (Option.map (Message.delivery unmarshal))⟩ :: coarsen unmarshal rest
  | ⟨.publish _ m, .error err⟩ :: rest =>
    ⟨.publish (m.delivery unmarshal), .error (err.within "republish dlq message")⟩ :: coarsen unmarshal rest
  | ⟨.publish _ m, .ok ()⟩ :: ⟨.waitForPublishOutcome _, r⟩ :: rest =>
    ⟨.publish (m.delivery unmarshal), r.mapError (Error.within "confirm dlq replay message")⟩ ::
      coarsen unmarshal rest
  | ⟨.publish _ _, .ok ()⟩ :: rest => coarsen unmarshal rest
  | ⟨.waitForPublishOutcome _, _⟩ :: rest => coarsen unmarshal rest
  | ⟨.ack, r⟩ :: rest => ⟨.ack, r⟩ :: coarsen unmarshal rest
  | ⟨.nack requeue, r⟩ :: rest => ⟨.nack requeue, r⟩ :: coarsen unmarshal rest

variable {config : DLQReplayConfig} {trace : ReplayTrace Body} {result : Nat × Except Error Unit}

theorem replayMessages_coarsen (unmarshal : Body → Except Error OutboxEvent) {left : Nat}
    (h : (replayMessages config left replayed).Returns trace result) :
    (FulfillHub.replayLoop config left replayed).Returns (coarsen unmarshal trace) result := by
  induction left generalizing replayed trace with
  | zero =>
    obtain ⟨rfl, rfl⟩ := h.of_ret
    exact .ret _
  | succ left ih =>
    obtain ⟨taken, afterGet, rfl, hget⟩ := h.of_perform_bind
    rcases taken with err | _ | delivery
    · obtain ⟨rfl, rfl⟩ := hget.of_ret
      exact .call _ (.ret _)
    · obtain ⟨rfl, rfl⟩ := hget.of_ret
      exact .call _ (.ret _)
    obtain ⟨sent, afterSend, rfl, hsend⟩ := hget.of_perform_bind
    cases sent with
    | error err =>
      obtain ⟨r, afterNack, rfl, hnack⟩ := hsend.of_perform_bind
      obtain ⟨rfl, rfl⟩ := hnack.of_ret
      refine .call _ (.call _ ?_)
      exact Prog.Returns.perform_bind (c := MessagingCall.nack true) (R := MessagingCall.Answer) r (.ret _)
    | ok _ =>
      obtain ⟨outcome, afterWait, rfl, hwait⟩ := hsend.of_perform_bind
      cases outcome with
      | error err =>
        obtain ⟨r, afterNack, rfl, hnack⟩ := hwait.of_perform_bind
        obtain ⟨rfl, rfl⟩ := hnack.of_ret
        refine .call _ (.call _ ?_)
        exact Prog.Returns.perform_bind (c := MessagingCall.nack true) (R := MessagingCall.Answer) r (.ret _)
      | ok _ =>
        obtain ⟨acked, afterAck, rfl, hack⟩ := hwait.of_perform_bind
        cases acked with
        | error err =>
          obtain ⟨rfl, rfl⟩ := hack.of_ret
          exact .call _ (.call _ (.call _ (.ret _)))
        | ok _ => exact .call _ (.call _ (.call _ (ih hack)))

theorem replayDLQ_coarsen (unmarshal : Body → Except Error OutboxEvent) (h : (replayDLQ config).Returns trace result) :
    (FulfillHub.replayDLQ config).Returns (coarsen unmarshal trace) result := by
  unfold replayDLQ at h
  unfold FulfillHub.replayDLQ
  split at h
  case isTrue hconfig =>
    rw [if_pos hconfig]
    obtain ⟨rfl, rfl⟩ := h.of_ret
    exact .ret _
  case isFalse hconfig =>
    rw [if_neg hconfig]
    obtain ⟨confirmed, afterConfirm, rfl, hconfirm⟩ := h.of_perform_bind
    cases confirmed with
    | error err =>
      obtain ⟨rfl, rfl⟩ := hconfirm.of_ret
      exact .call _ (.ret _)
    | ok _ => exact .call _ (replayMessages_coarsen unmarshal hconfirm)

end Replay

/-! ### The dead-letter queue -/

/-- What happens at the broker during a replay. -/
inductive ReplayEvent (Body : Type)
  | republished (exchange : String) (message : Message Body)
  | removed (message : Message Body)

/-- The dead-letter queue with the delivery that was taken from it, the message that was sent and not confirmed yet,
what has happened so far, and the messages that have come to the queue since the start. -/
structure DeadLetters (Body : Type) where
  ready : List (Message Body)
  held : Option (Message Body)
  sent : Option (String × Message Body)
  log : List (ReplayEvent Body)
  arrived : List (Message Body)

namespace DeadLetters

variable {Body : Type}

/-- The messages in the queue; a delivery that was not acknowledged is one of them. -/
def contents (q : DeadLetters Body) : Multiset (Message Body) := q.ready + q.held.toList

def arrive (q : DeadLetters Body) (late : List (Message Body)) : DeadLetters Body :=
  { q with ready := q.ready ++ late, arrived := q.arrived ++ late }

def republish (q : DeadLetters Body) (exchange : String) (message : Message Body) : DeadLetters Body :=
  { q with log := q.log ++ [.republished exchange message] }

/-- How the broker serves a call. A publication that fails, or is not confirmed, may have reached the broker; one that is
confirmed has. A delivery stays in the queue unless it is acknowledged without an error. -/
inductive Serves (q : DeadLetters Body) : (c : ReplayCall Body) → c.Answer → DeadLetters Body → Prop
  | confirm (r : Except Error Unit) : Serves q .confirm r q
  | getFails (queue : String) (err : Error) : Serves q (.get queue) (.error err) q
  | empty (queue : String) (h : q.ready = []) : Serves q (.get queue) (.ok none) q
  | taken (queue : String) (first later : List (Message Body)) (m : Message Body) (h : q.ready = first ++ m :: later) :
      Serves q (.get queue) (.ok (some m)) { q with ready := first ++ later, held := some m }
  | sent (exchange : String) (m : Message Body) :
      Serves q (.publish exchange m) (.ok ()) { q with sent := some (exchange, m) }
  | unsent (exchange : String) (m : Message Body) (err : Error) : Serves q (.publish exchange m) (.error err) q
  | sentNevertheless (exchange : String) (m : Message Body) (err : Error) :
      Serves q (.publish exchange m) (.error err) (q.republish exchange m)
  | confirmed (messageID exchange : String) (m : Message Body) (h : q.sent = some (exchange, m)) :
      Serves q (.waitForPublishOutcome messageID) (.ok ()) (q.republish exchange m)
  | unconfirmed (messageID : String) (err : Error) : Serves q (.waitForPublishOutcome messageID) (.error err) q
  | confirmedNevertheless (messageID exchange : String) (m : Message Body) (err : Error)
      (h : q.sent = some (exchange, m)) :
      Serves q (.waitForPublishOutcome messageID) (.error err) (q.republish exchange m)
  | acked (m : Message Body) (h : q.held = some m) :
      Serves q .ack (.ok ()) { q with held := none, log := q.log ++ [.removed m] }
  | ackFails (err : Error) : Serves q .ack (.error err) q
  | requeued (m : Message Body) (h : q.held = some m) :
      Serves q (.nack true) (.ok ()) { q with ready := m :: q.ready, held := none }
  | nackFails (requeue : Bool) (err : Error) : Serves q (.nack requeue) (.error err) q

/-- Messages may come to the queue before a call is served. -/
def Answers (q : DeadLetters Body) (c : ReplayCall Body) (r : c.Answer) (q' : DeadLetters Body) : Prop :=
  ∃ late, Serves (q.arrive late) c r q'

theorem exists_answers (q : DeadLetters Body) (c : ReplayCall Body) : ∃ r q', q.Answers c r q' := by
  cases c with
  | confirm => exact ⟨.ok (), _, [], .confirm _⟩
  | get queue => exact ⟨_, _, [], .getFails queue (.plain "")⟩
  | publish exchange m => exact ⟨_, _, [], .unsent exchange m (.plain "")⟩
  | waitForPublishOutcome messageID => exact ⟨_, _, [], .unconfirmed messageID (.plain "")⟩
  | ack => exact ⟨_, _, [], .ackFails (.plain "")⟩
  | nack requeue => exact ⟨_, _, [], .nackFails requeue (.plain "")⟩

/-- No message has left the queue. -/
def Kept (q q' : DeadLetters Body) : Prop :=
  ∃ late : List (Message Body), q'.arrived = q.arrived ++ late ∧ q'.contents = q.contents + late

theorem Kept.refl (q : DeadLetters Body) : Kept q q := ⟨[], by simp, by simp⟩

theorem Kept.arrive (q : DeadLetters Body) (late : List (Message Body)) : Kept q (q.arrive late) := by
  refine ⟨late, rfl, ?_⟩
  simp only [contents, DeadLetters.arrive, ← Multiset.coe_add]
  abel

theorem Kept.trans {q q' q'' : DeadLetters Body} (h : Kept q q') (h' : Kept q' q'') : Kept q q'' := by
  obtain ⟨late, harrived, hcontents⟩ := h
  obtain ⟨later, harrived', hcontents'⟩ := h'
  refine ⟨late ++ later, ?_, ?_⟩
  · rw [harrived', harrived, List.append_assoc]
  · rw [hcontents', hcontents, ← Multiset.coe_add, add_assoc]

variable {q q' : DeadLetters Body}

/-- Nothing has been published or removed. -/
structure Quiet (q q' : DeadLetters Body) : Prop where
  kept : Kept q q'
  held : q'.held = q.held
  log : q'.log = q.log

/-- The message has been published, or it has not. -/
structure MaybeRepublished (exchange : String) (m : Message Body) (q q' : DeadLetters Body) : Prop where
  kept : Kept q q'
  held : q'.held = q.held
  log : q'.log = q.log ∨ q'.log = q.log ++ [.republished exchange m]

theorem Quiet.arrive (q : DeadLetters Body) (late : List (Message Body)) : Quiet q (q.arrive late) :=
  ⟨.arrive q late, rfl, rfl⟩

variable {r : Except Error Unit}

theorem answers_confirm (h : q.Answers .confirm r q') : Quiet q q' := by
  obtain ⟨late, h⟩ := h
  cases h
  exact .arrive q late

variable {queue : String}

theorem answers_get_error {err : Error} (h : q.Answers (.get queue) (.error err) q') : Quiet q q' := by
  obtain ⟨late, h⟩ := h
  cases h
  exact .arrive q late

theorem answers_get_none (h : q.Answers (.get queue) (.ok none) q') : Quiet q q' ∧ q'.ready = [] := by
  obtain ⟨late, h⟩ := h
  cases h with
  | empty _ hempty => exact ⟨.arrive q late, hempty⟩

variable {m : Message Body}

theorem answers_get_some (h : q.Answers (.get queue) (.ok (some m)) q') (hheld : q.held = none) :
    Kept q q' ∧ q'.held = some m ∧ q'.log = q.log := by
  obtain ⟨late, h⟩ := h
  cases h with
  | taken _ first later _ hready =>
    refine ⟨?_, rfl, rfl⟩
    obtain ⟨late', harrived, hcontents⟩ := Kept.arrive q late
    refine ⟨late', harrived, ?_⟩
    rw [← hcontents]
    simp only [contents, hready, show (q.arrive late).held = none from hheld, Option.toList_some, Option.toList_none,
      Multiset.coe_add, List.append_nil]
    exact Multiset.coe_eq_coe.mpr ((List.perm_append_singleton m _).trans List.perm_middle.symm)

variable {exchange : String}

theorem answers_publish_ok (h : q.Answers (.publish exchange m) (.ok ()) q') :
    Quiet q q' ∧ q'.sent = some (exchange, m) := by
  obtain ⟨late, h⟩ := h
  cases h
  exact ⟨⟨.arrive q late, rfl, rfl⟩, rfl⟩

theorem answers_publish_error {err : Error} (h : q.Answers (.publish exchange m) (.error err) q') :
    MaybeRepublished exchange m q q' := by
  obtain ⟨late, h⟩ := h
  cases h with
  | unsent => exact ⟨.arrive q late, rfl, .inl rfl⟩
  | sentNevertheless => exact ⟨.arrive q late, rfl, .inr rfl⟩

theorem answers_outcome_ok {messageID : String} (h : q.Answers (.waitForPublishOutcome messageID) (.ok ()) q')
    (hsent : q.sent = some (exchange, m)) :
    Kept q q' ∧ q'.held = q.held ∧ q'.log = q.log ++ [.republished exchange m] := by
  obtain ⟨late, h⟩ := h
  cases h with
  | confirmed _ exchange' m' hsent' =>
    obtain ⟨rfl, rfl⟩ := Prod.mk.inj (Option.some.inj (hsent'.symm.trans hsent))
    exact ⟨.arrive q late, rfl, rfl⟩

theorem answers_outcome_error {messageID : String} {err : Error}
    (h : q.Answers (.waitForPublishOutcome messageID) (.error err) q') (hsent : q.sent = some (exchange, m)) :
    MaybeRepublished exchange m q q' := by
  obtain ⟨late, h⟩ := h
  cases h with
  | unconfirmed => exact ⟨.arrive q late, rfl, .inl rfl⟩
  | confirmedNevertheless _ exchange' m' _ hsent' =>
    obtain ⟨rfl, rfl⟩ := Prod.mk.inj (Option.some.inj (hsent'.symm.trans hsent))
    exact ⟨.arrive q late, rfl, .inr rfl⟩

theorem answers_ack_error {err : Error} (h : q.Answers .ack (.error err) q') : Quiet q q' := by
  obtain ⟨late, h⟩ := h
  cases h
  exact .arrive q late

theorem answers_ack_ok (h : q.Answers .ack (.ok ()) q') (hheld : q.held = some m) :
    (∃ late : List (Message Body), q'.arrived = q.arrived ++ late ∧ q.contents + late = q'.contents + {m}) ∧
      q'.held = none ∧ q'.log = q.log ++ [.removed m] := by
  obtain ⟨late, h⟩ := h
  cases h with
  | acked m' hheld' =>
    obtain rfl := Option.some.inj (hheld'.symm.trans hheld)
    refine ⟨⟨late, rfl, ?_⟩, rfl, rfl⟩
    simp only [contents, DeadLetters.arrive, hheld, Option.toList_some, Option.toList_none, ← Multiset.coe_add,
      Multiset.coe_singleton, Multiset.coe_nil, add_zero]
    abel

theorem answers_nack (h : q.Answers (.nack true) r q') : Kept q q' ∧ q'.log = q.log := by
  obtain ⟨late, h⟩ := h
  cases h with
  | requeued m' hheld' =>
    obtain ⟨late', harrived, hcontents⟩ := Kept.arrive q late
    refine ⟨⟨late', harrived, ?_⟩, rfl⟩
    rw [← hcontents]
    simp only [contents, hheld', Option.toList_some, Option.toList_none, Multiset.coe_add, List.append_nil]
    exact Multiset.coe_eq_coe.mpr (List.perm_append_singleton m' _).symm
  | nackFails => exact ⟨.arrive q late, rfl⟩

/-! ### What a replay has done -/

/-- What passing a message on leaves in the log. -/
def passage (config : DLQReplayConfig) (m : Message Body) : List (ReplayEvent Body) :=
  [.republished config.exchange (m.replayed config), .removed m]

/-- Messages have been removed, each republished right before; one more may have been republished and is still in the
queue. No other message has left the queue. -/
structure Replayed (config : DLQReplayConfig) (q q' : DeadLetters Body) (removed : List (Message Body))
    (extra : Option (Message Body)) : Prop where
  log : q'.log = q.log ++ (removed.flatMap (passage config) ++
    extra.toList.map fun m => .republished config.exchange (m.replayed config))
  kept : ∃ late : List (Message Body), q'.arrived = q.arrived ++ late ∧ q.contents + late = q'.contents + removed
  remaining : ∀ m ∈ extra, m ∈ q'.contents

variable {config : DLQReplayConfig} {removed : List (Message Body)} {extra : Option (Message Body)}

theorem Replayed.of_kept (hkept : Kept q q') (hlog : q'.log = q.log) : Replayed config q q' [] none := by
  obtain ⟨late, harrived, hcontents⟩ := hkept
  exact ⟨by simp [hlog], ⟨late, harrived, by simp [hcontents]⟩, by simp⟩

theorem Replayed.of_maybe (hkept : Kept q q') (hmem : m ∈ q'.contents)
    (hlog : q'.log = q.log ∨ q'.log = q.log ++ [.republished config.exchange (m.replayed config)]) :
    ∃ extra, Replayed config q q' [] extra := by
  rcases hlog with hlog | hlog
  · exact ⟨none, .of_kept hkept hlog⟩
  · obtain ⟨late, harrived, hcontents⟩ := hkept
    exact ⟨some m, by simp [hlog], ⟨late, harrived, by simp [hcontents]⟩, by simpa using hmem⟩

theorem Replayed.cons {m : Message Body} {t : DeadLetters Body} (hlog : t.log = q.log ++ passage config m)
    (hkept : ∃ late : List (Message Body), t.arrived = q.arrived ++ late ∧ q.contents + late = t.contents + {m})
    (h : Replayed config t q' removed extra) : Replayed config q q' (m :: removed) extra := by
  obtain ⟨late, harrived, hcontents⟩ := hkept
  obtain ⟨later, harrived', hcontents'⟩ := h.kept
  refine ⟨?_, ⟨late ++ later, ?_, ?_⟩, h.remaining⟩
  · rw [h.log, hlog, List.flatMap_cons, List.append_assoc, List.append_assoc]
  · rw [harrived', harrived, List.append_assoc]
  · rw [← Multiset.coe_add, ← add_assoc, hcontents, ← Multiset.cons_coe, ← Multiset.singleton_add,
      add_right_comm, hcontents']
    abel

theorem mem_contents_of_held (h : q.held = some m) : m ∈ q.contents := by
  simp [contents, h]

theorem Kept.mem (h : Kept q q') (hmem : m ∈ q.contents) : m ∈ q'.contents := by
  obtain ⟨late, -, hcontents⟩ := h
  rw [hcontents]
  exact Multiset.mem_add.mpr (.inl hmem)

variable {t : DeadLetters Body}

theorem removed_of_kept (hkept : Kept q t)
    (h : ∃ late : List (Message Body), q'.arrived = t.arrived ++ late ∧ t.contents + late = q'.contents + {m}) :
    ∃ late : List (Message Body), q'.arrived = q.arrived ++ late ∧ q.contents + late = q'.contents + {m} := by
  obtain ⟨earlier, harrived₀, hcontents₀⟩ := hkept
  obtain ⟨late, harrived, hcontents⟩ := h
  refine ⟨earlier ++ late, ?_, ?_⟩
  · rw [harrived, harrived₀, List.append_assoc]
  · rw [← Multiset.coe_add, ← add_assoc, ← hcontents₀, hcontents]

/-- A failed publication ends with a rejection, which leaves the message in the queue. -/
theorem Replayed.of_nack (hkept : Kept q t) (hheld : t.held = some m)
    (hlog : t.log = q.log ∨ t.log = q.log ++ [.republished config.exchange (m.replayed config)])
    (hnack : t.Answers (.nack true) r q') : ∃ extra, Replayed config q q' [] extra := by
  obtain ⟨hkept', hlog'⟩ := answers_nack hnack
  rw [← hlog'] at hlog
  exact Replayed.of_maybe (hkept.trans hkept') (hkept'.mem (mem_contents_of_held hheld)) hlog

variable {err : Except Error Unit}

theorem ended_of_ret {k : Nat} {outcome : Except Error Unit} {trace : ReplayTrace Body}
    (h : (pure (replayed, outcome) : ReplayProg Body (Nat × Except Error Unit)).Returns trace (k, err))
    (hthrough : Trace.Through Answers q trace q') : k = replayed ∧ err = outcome ∧ q' = q := by
  obtain ⟨rfl, hresult⟩ := h.of_ret
  obtain ⟨rfl, rfl⟩ := Prod.mk.inj hresult
  exact ⟨rfl, rfl, hthrough.of_nil⟩

theorem ended_of_nack {k : Nat} {outcome : Except Error Unit} {trace : ReplayTrace Body}
    (h : (Replay.nack true >>= fun _ => pure (replayed, outcome) : ReplayProg Body (Nat × Except Error Unit)).Returns
      trace (k, err))
    (hthrough : Trace.Through Answers q trace q') :
    k = replayed ∧ err = outcome ∧ ∃ r, q.Answers (.nack true) r q' := by
  obtain ⟨r, rest, rfl, hnext⟩ := h.of_perform_bind
  obtain ⟨t, hanswer, hrest⟩ := hthrough.of_cons
  obtain ⟨rfl, rfl, rfl⟩ := ended_of_ret hnext hrest
  exact ⟨rfl, rfl, r, hanswer⟩

/-- The messages passed on so far count, and without an error the limit is reached or the queue was found empty. -/
theorem replayMessages_replayed {left k : Nat} {trace : ReplayTrace Body}
    (h : (Replay.replayMessages config left replayed).Returns trace (k, err))
    (hthrough : Trace.Through Answers q trace q') (hheld : q.held = none) :
    ∃ removed extra, k = replayed + removed.length ∧ removed.length ≤ left ∧ Replayed config q q' removed extra ∧
      (err = .ok () → extra = none ∧ (removed.length = left ∨ q'.contents = 0)) := by
  induction left generalizing replayed trace q with
  | zero =>
    obtain ⟨rfl, rfl, rfl⟩ := ended_of_ret h hthrough
    exact ⟨[], none, rfl, le_refl _, .of_kept (.refl _) rfl, fun _ => ⟨rfl, .inl rfl⟩⟩
  | succ left ih =>
    obtain ⟨taken, afterGet, rfl, hget⟩ := h.of_perform_bind
    obtain ⟨q₁, hq₁, hthrough₁⟩ := hthrough.of_cons
    rcases taken with cause | _ | delivery
    · obtain ⟨rfl, rfl, rfl⟩ := ended_of_ret hget hthrough₁
      have hquiet := answers_get_error hq₁
      exact ⟨[], none, rfl, Nat.zero_le _, .of_kept hquiet.kept hquiet.log, nofun⟩
    · obtain ⟨rfl, rfl, rfl⟩ := ended_of_ret hget hthrough₁
      obtain ⟨hquiet, hready⟩ := answers_get_none hq₁
      refine ⟨[], none, rfl, Nat.zero_le _, .of_kept hquiet.kept hquiet.log, fun _ => ⟨rfl, .inr ?_⟩⟩
      simp [contents, hready, hquiet.held, hheld]
    obtain ⟨hkept₁, hheld₁, hlog₁⟩ := answers_get_some hq₁ hheld
    obtain ⟨sent, afterSend, rfl, hsend⟩ := hget.of_perform_bind
    obtain ⟨q₂, hq₂, hthrough₂⟩ := hthrough₁.of_cons
    cases sent with
    | error cause =>
      have hmaybe := answers_publish_error hq₂
      obtain ⟨rfl, rfl, r, hnack⟩ := ended_of_nack hsend hthrough₂
      obtain ⟨extra, hreplayed⟩ := Replayed.of_nack (hkept₁.trans hmaybe.kept) (hmaybe.held.trans hheld₁)
        (hlog₁ ▸ hmaybe.log) hnack
      exact ⟨[], extra, rfl, Nat.zero_le _, hreplayed, nofun⟩
    | ok _ =>
      obtain ⟨hquiet₂, hsent₂⟩ := answers_publish_ok hq₂
      obtain ⟨outcome, afterWait, rfl, hwait⟩ := hsend.of_perform_bind
      obtain ⟨q₃, hq₃, hthrough₃⟩ := hthrough₂.of_cons
      cases outcome with
      | error cause =>
        have hmaybe := answers_outcome_error hq₃ hsent₂
        obtain ⟨rfl, rfl, r, hnack⟩ := ended_of_nack hwait hthrough₃
        obtain ⟨extra, hreplayed⟩ := Replayed.of_nack ((hkept₁.trans hquiet₂.kept).trans hmaybe.kept)
          ((hmaybe.held.trans hquiet₂.held).trans hheld₁) ((hquiet₂.log.trans hlog₁) ▸ hmaybe.log) hnack
        exact ⟨[], extra, rfl, Nat.zero_le _, hreplayed, nofun⟩
      | ok _ =>
        obtain ⟨hkept₃, hheld₃, hlog₃⟩ := answers_outcome_ok hq₃ hsent₂
        obtain ⟨acked, afterAck, rfl, hack⟩ := hwait.of_perform_bind
        obtain ⟨q₄, hq₄, hthrough₄⟩ := hthrough₃.of_cons
        have hkept := (hkept₁.trans hquiet₂.kept).trans hkept₃
        have hheld' : q₃.held = some delivery := (hheld₃.trans hquiet₂.held).trans hheld₁
        rw [hquiet₂.log, hlog₁] at hlog₃
        cases acked with
        | error cause =>
          obtain ⟨rfl, rfl, rfl⟩ := ended_of_ret hack hthrough₄
          have hquiet₄ := answers_ack_error hq₄
          obtain ⟨extra, hreplayed⟩ := Replayed.of_maybe (hkept.trans hquiet₄.kept)
            (hquiet₄.kept.mem (mem_contents_of_held hheld')) (.inr (hquiet₄.log.trans hlog₃))
          exact ⟨[], extra, rfl, Nat.zero_le _, hreplayed, nofun⟩
        | ok _ =>
          obtain ⟨hremoved, hheld₄, hlog₄⟩ := answers_ack_ok hq₄ hheld'
          obtain ⟨removed, extra, rfl, hlength, hreplayed, hok⟩ := ih hack hthrough₄ hheld₄
          refine ⟨delivery :: removed, extra, by simp only [List.length_cons]; omega, by simpa using hlength,
            .cons ?_ (removed_of_kept hkept hremoved) hreplayed, ?_⟩
          · rw [hlog₄, hlog₃, List.append_assoc]
            rfl
          · simpa using hok

theorem Replayed.of_quiet (hquiet : Quiet q t) (h : Replayed config t q' removed extra) :
    Replayed config q q' removed extra := by
  obtain ⟨late, harrived, hcontents⟩ := hquiet.kept
  obtain ⟨later, harrived', hcontents'⟩ := h.kept
  refine ⟨by rw [h.log, hquiet.log], ⟨late ++ later, ?_, ?_⟩, h.remaining⟩
  · rw [harrived', harrived, List.append_assoc]
  · rw [← Multiset.coe_add, ← add_assoc, ← hcontents, hcontents']

end DeadLetters

open DeadLetters in
/-- A replay comes to its end, and whatever has failed, the number it returns is that of the messages removed from the
dead-letter queue, at most the limit in force. Each of them was republished right before to the configured exchange and
routing key and otherwise as it was, no other message has left the queue, and at most one that is still in it was
republished, only when an error is returned. Without an error the limit is reached or the queue was found empty. -/
theorem replay_never_drops {Body : Type} (config : DLQReplayConfig) (q : DeadLetters Body) (hheld : q.held = none) :
    (∃ trace result q', (Replay.replayDLQ config).Returns trace result ∧ Trace.Through DeadLetters.Answers q trace q') ∧
    ∀ trace k err q', (Replay.replayDLQ config).Returns trace (k, err) → Trace.Through DeadLetters.Answers q trace q' →
      k ≤ Replay.effectiveLimit config ∧ ∃ removed extra, removed.length = k ∧ Replayed config q q' removed extra ∧
        (err = .ok () → extra = none ∧ (k = Replay.effectiveLimit config ∨ q'.contents = 0)) := by
  refine ⟨Prog.exists_returns exists_answers _ q, ?_⟩
  intro trace k err q' h hthrough
  unfold Replay.replayDLQ at h
  split at h
  case isTrue =>
    obtain ⟨rfl, hresult⟩ := h.of_ret
    obtain ⟨rfl, rfl⟩ := Prod.mk.inj hresult
    obtain rfl := hthrough.of_nil
    exact ⟨Nat.zero_le _, [], none, rfl, .of_kept (.refl _) rfl, nofun⟩
  case isFalse =>
    obtain ⟨confirmed, afterConfirm, rfl, hconfirm⟩ := h.of_perform_bind
    obtain ⟨t, ht, hrest⟩ := hthrough.of_cons
    have hquiet := answers_confirm ht
    cases confirmed with
    | error cause =>
      obtain ⟨rfl, hresult⟩ := hconfirm.of_ret
      obtain ⟨rfl, rfl⟩ := Prod.mk.inj hresult
      obtain rfl := hrest.of_nil
      exact ⟨Nat.zero_le _, [], none, rfl, .of_kept hquiet.kept hquiet.log, nofun⟩
    | ok _ =>
      obtain ⟨removed, extra, rfl, hlength, hreplayed, hok⟩ :=
        replayMessages_replayed hconfirm hrest (hquiet.held.trans hheld)
      rw [Nat.zero_add]
      exact ⟨hlength, removed, extra, rfl, .of_quiet hquiet hreplayed, hok⟩

def replayConfig : DLQReplayConfig := ⟨"inventory.reserve.dlq", "fulfillhub.domain", "order.created", 0⟩

def oneLetter : DeadLetters OutboxEvent := ⟨[sparseMessage], none, none, [], []⟩

def oneReplayed : DeadLetters OutboxEvent where
  ready := []
  held := none
  sent := some ("fulfillhub.domain", sparseMessage.replayed replayConfig)
  log := [.republished "fulfillhub.domain" (sparseMessage.replayed replayConfig), .removed sparseMessage]
  arrived := []

def oneReplay : ReplayTrace OutboxEvent :=
  [⟨.confirm, .ok ()⟩, ⟨.get "inventory.reserve.dlq", .ok (some sparseMessage)⟩,
    ⟨.publish "fulfillhub.domain" (sparseMessage.replayed replayConfig), .ok ()⟩,
    ⟨.waitForPublishOutcome "msg_1", .ok ()⟩, ⟨.ack, .ok ()⟩, ⟨.get "inventory.reserve.dlq", .ok none⟩]

/-- With the default limit, the one message of a queue is republished and removed, and the queue is found empty. -/
theorem replay_never_drops_one : (Replay.replayDLQ replayConfig).Returns oneReplay (1, .ok ()) ∧
    Trace.Through DeadLetters.Answers oneLetter oneReplay oneReplayed ∧
    ∃ removed, DeadLetters.Replayed replayConfig oneLetter oneReplayed removed none ∧ removed.length = 1 := by
  have hreturns : (Replay.replayDLQ replayConfig).Returns oneReplay (1, .ok ()) := by
    rw [Replay.replayDLQ, if_neg (by decide)]
    exact .call _ (.call _ (.call _ (.call _ (.call _ (.call _ (.ret _))))))
  have hthrough : Trace.Through DeadLetters.Answers oneLetter oneReplay oneReplayed := by
    refine .cons ⟨[], .confirm _⟩ (.cons ⟨[], .taken _ [] [] _ rfl⟩ (.cons ⟨[], .sent _ _⟩ ?_))
    exact .cons ⟨[], .confirmed _ _ _ rfl⟩ (.cons ⟨[], .acked _ rfl⟩ (.cons ⟨[], .empty _ rfl⟩ (.nil _)))
  obtain ⟨-, removed, extra, hlength, hreplayed, hok⟩ :=
    (replay_never_drops replayConfig oneLetter rfl).2 oneReplay 1 (.ok ()) oneReplayed hreturns hthrough
  obtain ⟨rfl, -⟩ := hok rfl
  exact ⟨hreturns, hthrough, removed, hreplayed, hlength⟩

end FulfillHub
