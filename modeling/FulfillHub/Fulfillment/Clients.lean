import FulfillHub.Fulfillment.Pipeline
import FulfillHub.Messaging.Copies

/-!
# What the clients of the broker hold

A worker holds at most the delivery it works on, until it settles it, and a replay at most the delivery it was
handed.
-/

namespace FulfillHub

open Interaction

variable {S M : Type} {store : RelayedStore S M} {svc : Service} {names : Queue → String} {p p' : Pipeline S M}
  {l : PipelineLabel} {cond : Pipeline S M → PipelineLabel → Prop} {queue : Queue} {messageID : String}

/-- Clients hold what they were handed: a worker the delivery of its job, a replay what it got last. -/
structure Pipeline.Held (p : Pipeline S M) : Prop where
  worker : ∀ i place delivery, p.broker.unsettled (.worker i) = some (place, delivery) →
    ∃ w, p.stages.workers[i]? = some w ∧ place = .worker w.job.queue ∧ w.job.delivery = delivery
  replay : ∀ j place delivery, p.broker.unsettled (.replay j) = some (place, delivery) →
    ∃ t, p.replays[j]? = some t ∧
      ∀ taken, t.trace.getLast? = some ⟨.get, .ok (some taken)⟩ → taken = delivery

/-- Workers keep their job, and what they were told. -/
theorem worker_of_stage_step {store : OutboxStore S} {s s' : Stages S} {k : StageLabel}
    (h : Stages.Step store svc names s k s') {i : Nat} {w : StageWorker} (hw : s.workers[i]? = some w) :
    ∃ w', s'.workers[i]? = some w' ∧ w'.job = w.job ∧ w.trace ⊆ w'.trace := by
  have hset : ∀ (j : Nat) (v v' : StageWorker), s.workers[j]? = some v → v'.job = v.job → v.trace ⊆ v'.trace →
      ∃ w', (s.workers.set j v')[i]? = some w' ∧ w'.job = w.job ∧ w.trace ⊆ w'.trace := by
    intro j v v' hv hjob htrace
    by_cases hij : i = j
    · subst hij
      cases hw.symm.trans hv
      exact ⟨_, (PoolSpec.getElem?_answer hv).mpr (.inl ⟨rfl, rfl⟩), hjob, htrace⟩
    · exact ⟨w, (PoolSpec.getElem?_answer hv).mpr (.inr ⟨hij, hw⟩), rfl, List.Subset.refl _⟩
  cases h with
  | saga hown hstep => exact ⟨w, hw, rfl, List.Subset.refl _⟩
  | deliver hname hgenuine => exact ⟨w, PoolSpec.getElem?_spawn.mpr (.inl hw), rfl, List.Subset.refl _⟩
  | handle hv hprog hnone => exact hset _ _ _ hv rfl (List.Subset.refl _)
  | reply hv hprog hreply => exact hset _ _ _ hv rfl (List.subset_append_left _ _)

theorem worker_of_step (h : Pipeline.Step store svc names p l p') {i : Nat} {w : StageWorker}
    (hw : p.stages.workers[i]? = some w) :
    ∃ w', p'.stages.workers[i]? = some w' ∧ w'.job = w.job ∧ w.trace ⊆ w'.trace := by
  cases h with
  | stage reached hl hstep => exact worker_of_stage_step hstep hw
  | deliver hname htake => exact ⟨w, PoolSpec.getElem?_spawn.mpr (.inl hw), rfl, List.Subset.refl _⟩
  | _ => exact ⟨w, hw, rfl, List.Subset.refl _⟩

/-- Of the broker's steps only the handing out of a message gives a client something to hold. -/
theorem Pipeline.Held.of_unsettled (h : p.Held) {q : Pipeline S M}
    (hunsettled : ∀ client x, q.broker.unsettled client = some x → p.broker.unsettled client = some x)
    (hworkers : ∀ (i : Nat) w, p.stages.workers[i]? = some w →
      ∃ w', q.stages.workers[i]? = some w' ∧ w'.job = w.job ∧ w.trace ⊆ w'.trace)
    (hreplays : ∀ (j : Nat) t, p.replays[j]? = some t → ∃ t', q.replays[j]? = some t' ∧
      ∀ taken, t'.trace.getLast? = some ⟨.get, .ok (some taken)⟩ →
        t.trace.getLast? = some ⟨.get, .ok (some taken)⟩) : q.Held where
  worker i place delivery hheld := by
    obtain ⟨w, hw, hplace, hjob⟩ := h.worker i place delivery (hunsettled _ _ hheld)
    obtain ⟨w', hw', hsame, _⟩ := hworkers i w hw
    exact ⟨w', hw', by rw [hsame, hplace], by rw [hsame, hjob]⟩
  replay j place delivery hheld := by
    obtain ⟨t, ht, hlast⟩ := h.replay j place delivery (hunsettled _ _ hheld)
    obtain ⟨t', ht', hsame⟩ := hreplays j t ht
    exact ⟨t', ht', fun taken htaken => hlast taken (hsame taken htaken)⟩

theorem Broker.unsettled_of_reached {b : Broker} {reached : Bool} {client other : Client}
    {exchange : Option BrokerExchange} {call : MessagingCall} {x : Place × Delivery}
    (h : (if reached then b.serve client exchange call else b).unsettled other = some x) :
    b.unsettled other = some x := by
  split_ifs at h
  · exact unsettled_of_serve h
  · exact h

theorem clients_of_replay (h : p.Held) {j : Nat} {config : DLQReplayConfig} {trace : MessagingTrace}
    {call : MessagingCall} {r : call.Answer} {next : call.Answer → Messaging (Nat × Except Error Unit)}
    {broker : Broker} {reached : Bool} (hthread : p.replays[j]? = some ⟨config, trace, .call call next⟩)
    (hreply : p.broker.Replies (.replay j) config reached call r broker) :
    Pipeline.Held { p with
      replays := p.replays.set j ⟨config, trace ++ [⟨call, r⟩], next r⟩, broker := broker } := by
  have hset : ∀ (i : Nat) t, p.replays[i]? = some t → i ≠ j →
      (p.replays.set j ⟨config, trace ++ [⟨call, r⟩], next r⟩)[i]? = some t := fun i t ht hij =>
    (PoolSpec.getElem?_answer hthread).mpr (.inr ⟨hij, ht⟩)
  have hnew := (PoolSpec.getElem?_answer (u := (⟨config, trace ++ [⟨call, r⟩], next r⟩ : ReplayThread))
    hthread).mpr (.inl ⟨rfl, rfl⟩)
  rcases hreply.cases with ⟨delivery, place, k, hx, htake⟩ | ⟨hx, rfl⟩
  · cases hx
    refine ⟨fun i at' d hheld => ?_, fun i at' d hheld => ?_⟩
    · rcases Broker.unsettled_of_take htake hheld with hold | ⟨hclient, _⟩
      · exact h.worker i at' d hold
      · cases hclient
    · rcases Broker.unsettled_of_take htake hheld with hold | ⟨hclient, hd⟩
      · obtain ⟨t, ht, hlast⟩ := h.replay i at' d hold
        have hij : i ≠ j := by
          rintro rfl
          rw [(Broker.take_eq_some htake).2.1] at hold
          cases hold
        exact ⟨t, hset i t ht hij, hlast⟩
      · cases hclient
        cases hd
        refine ⟨_, hnew, fun taken htaken => ?_⟩
        rw [List.getLast?_concat] at htaken
        cases htaken
        rfl
  · refine h.of_unsettled (fun _ _ hheld => Broker.unsettled_of_reached hheld)
      (fun i w hw => ⟨w, hw, rfl, List.Subset.refl _⟩) fun i t ht => ?_
    by_cases hij : i = j
    · subst hij
      refine ⟨_, hnew, fun taken htaken => ?_⟩
      rw [List.getLast?_concat, Option.some.injEq] at htaken
      exact absurd htaken (hx taken)
    · exact ⟨t, hset i t ht hij, fun _ h => h⟩

theorem clients_of_step (h : p.Held) (hstep : Pipeline.Step store svc names p l p') : p'.Held := by
  have hworkers := fun (i : Nat) w (hw : p.stages.workers[i]? = some w) => worker_of_step hstep hw
  have hreplays : ∀ (j : Nat) t, p.replays[j]? = some t → ∃ t', p.replays[j]? = some t' ∧
      ∀ taken, t'.trace.getLast? = some ⟨.get, .ok (some taken)⟩ →
        t.trace.getLast? = some ⟨.get, .ok (some taken)⟩ := fun j t ht => ⟨t, ht, fun _ h => h⟩
  cases hstep with
  | @stage k t reached hl hstep =>
    refine h.of_unsettled (fun client x hx => ?_) hworkers hreplays
    cases k with
    | reply i call r late =>
      change (if reached then p.broker.serve (.worker i) none call else p.broker).unsettled client = some x at hx
      exact Broker.unsettled_of_reached hx
    | _ => cases reached <;> exact hx
  | @deliver job k broker hname htake =>
    refine ⟨fun i place d hheld => ?_, fun j place d hheld => ?_⟩
    · rcases Broker.unsettled_of_take htake hheld with hold | ⟨hclient, hd⟩
      · obtain ⟨w, hw, hjob⟩ := h.worker i place d hold
        exact ⟨w, PoolSpec.getElem?_spawn.mpr (.inl hw), hjob⟩
      · cases hclient
        cases hd
        exact ⟨_, PoolSpec.getElem?_spawn.mpr (.inr ⟨rfl, rfl⟩), rfl, rfl⟩
    · rcases Broker.unsettled_of_take htake hheld with hold | ⟨hclient, _⟩
      · exact h.replay j place d hold
      · cases hclient
  | startRelay limit => exact h.of_unsettled (fun _ _ hx => hx) hworkers hreplays
  | @relay i limit trace c r next marks reached hthread hanswer =>
    refine h.of_unsettled (fun client x hx => ?_) hworkers hreplays
    cases reached <;> cases c <;> exact hx
  | startReplay config =>
    exact h.of_unsettled (fun _ _ hx => hx) hworkers
      fun j t ht => ⟨t, PoolSpec.getElem?_spawn.mpr (.inl ht), fun _ h => h⟩
  | replay reached hthread hreply => exact clients_of_replay h hthread hreply
  | redeliver client =>
    refine h.of_unsettled (fun other x hx => ?_) hworkers hreplays
    change (p.broker.giveBack client).unsettled other = some x at hx
    rw [Broker.unsettled_giveBack] at hx
    exact Broker.unsettled_of_settle hx
  | expire hexpire =>
    refine h.of_unsettled (fun client x hx => ?_) hworkers hreplays
    obtain ⟨delivery, _, rfl⟩ := Broker.expire_eq_some hexpire
    exact hx

theorem clients_of_reachable (hp : (pipeline store svc names).Reachable cond p) : p.Held := by
  refine Lts.Reachable.invariant (P := Pipeline.Held) ?_ (fun _ _ _ _ ih hstep _ => clients_of_step ih hstep) hp
  rintro p ⟨_, _, _, _, hbroker⟩
  refine ⟨fun i place d hheld => ?_, fun j place d hheld => ?_⟩
  · rw [hbroker] at hheld
    cases hheld
  · rw [hbroker] at hheld
    cases hheld

theorem bound_of_reachable (hp : (pipeline store svc names).Reachable cond p) : p.broker.Bound := by
  refine Lts.Reachable.invariant (P := fun p => p.broker.Bound) ?_ ?_ hp
  · rintro p ⟨_, _, _, _, hbroker⟩ place d hd
    exact absurd (hbroker ▸ hd) Broker.not_has_empty
  · exact fun p l p' hreach ih hstep _ => (copies_of_step (sound_of_reachable hreach) hstep).bound ih

end FulfillHub
