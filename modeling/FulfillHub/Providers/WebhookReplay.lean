import FulfillHub.Providers.WebhookBinding

/-!
# Webhook replays

A sequence of verifications on one memory replay store. An accepted event id stays in the store until its time to
live is over, although every call drops the entries that have expired by then. The timestamp of a request passes for
at most twice the tolerance, so a time to live above that outlasts the request.
-/

namespace FulfillHub

variable {calls : List (Int × WebhookRequest)}

/-- A verification and its answer. -/
structure Verification where
  now : Int
  request : WebhookRequest
  answer : Except WebhookError VerifiedWebhook

def Verification.Accepted (a : Verification) : Prop := ∃ verified, a.answer = .ok verified

namespace WebhookVerifier

variable (hmac : Hmac) (v : WebhookVerifier)

/-- The requests are verified one after the other, each at its instant. -/
def verifyAll : ReplayStore → List (Int × WebhookRequest) → List Verification
  | _, [] => []
  | store, (now, request) :: rest =>
    ⟨now, request, (v.verify hmac now request store).1⟩ ::
      verifyAll (v.verify hmac now request store).2 rest

/-- The key a request is recorded under. -/
def replayKey (request : WebhookRequest) : Bytes :=
  Bytes.trimSpace v.provider ++ 0 :: Bytes.trimSpace request.eventID

variable {hmac v} {seen : Bytes → Option Int} {now deadline : Int} {key : Bytes} {request : WebhookRequest}

variable {store : ReplayStore} {a : Verification}

theorem call_of_mem (ha : a ∈ v.verifyAll hmac store calls) : (a.now, a.request) ∈ calls := by
  induction calls generalizing store with
  | nil => simp [verifyAll] at ha
  | cons call calls ih =>
    rcases List.mem_cons.mp ha with rfl | hlater
    · exact List.mem_cons_self
    · exact List.mem_cons_of_mem _ (ih hlater)

theorem verify_of_passed {timestampUnix : Int} (h : v.checkRequest hmac now request = .ok timestampUnix) :
    v.verify hmac now request (.memory seen) =
      (if (Expiring.record seen (v.replayKey request) now (now + v.effectiveReplayTTL)).1 then
          .ok ⟨Bytes.trimSpace v.provider, Bytes.trimSpace request.eventID, timestampUnix * second, now,
            now + v.effectiveReplayTTL⟩
        else .error .replay,
        .memory (Expiring.record seen (v.replayKey request) now (now + v.effectiveReplayTTL)).2) := by
  simp only [verify, h]
  rfl

theorem verify_of_failed {err : WebhookError} (h : v.checkRequest hmac now request = .error err) :
    v.verify hmac now request (.memory seen) = (.error err, .memory seen) := by
  simp [verify, h]

theorem exists_verify_memory (hmac : Hmac) (v : WebhookVerifier) (now : Int) (request : WebhookRequest)
    (seen : Bytes → Option Int) :
    ∃ seen', (v.verify hmac now request (.memory seen)).2 = .memory seen' ∧
      ∀ key deadline, now < deadline → Expiring.HeldTo seen key deadline → Expiring.HeldTo seen' key deadline := by
  cases hcheck : v.checkRequest hmac now request with
  | error err => exact ⟨seen, by rw [verify_of_failed hcheck], fun _ _ _ hheld => hheld⟩
  | ok timestampUnix =>
    rw [verify_of_passed hcheck]
    exact ⟨_, rfl, fun _ _ hnow hheld => hheld.record hnow⟩

theorem verify_accepted {verified : VerifiedWebhook}
    (h : (v.verify hmac now request (.memory seen)).1 = .ok verified) :
    (∀ deadline, Expiring.HeldTo seen (v.replayKey request) deadline → deadline ≤ now) ∧
      ∃ seen', (v.verify hmac now request (.memory seen)).2 = .memory seen' ∧
        Expiring.HeldTo seen' (v.replayKey request) (now + v.effectiveReplayTTL) := by
  cases hcheck : v.checkRequest hmac now request with
  | error err =>
    rw [verify_of_failed hcheck] at h
    cases h
  | ok timestampUnix =>
    rw [verify_of_passed hcheck] at h ⊢
    split_ifs at h with hrecord
    refine ⟨?_, _, rfl, Expiring.heldTo_of_record hrecord⟩
    intro deadline hheld
    by_contra hlater
    rw [hheld.refused (not_le.mp hlater)] at hrecord
    cases hrecord

theorem passed_of_ok {verified : VerifiedWebhook} (h : (v.verify hmac now request store).1 = .ok verified) :
    ∃ timestampUnix, Passed hmac v now request timestampUnix := by
  obtain ⟨timestampUnix, hpassed, -, -⟩ := verify_eq_ok.mp (Prod.ext h rfl)
  exact ⟨timestampUnix, hpassed⟩

theorem passed_of_accepted (ha : a ∈ v.verifyAll hmac store calls) (haccepted : a.Accepted) :
    ∃ timestampUnix, Passed hmac v a.now a.request timestampUnix := by
  induction calls generalizing store with
  | nil => simp [verifyAll] at ha
  | cons call calls ih =>
    rcases List.mem_cons.mp ha with rfl | hlater
    · obtain ⟨verified, hverified⟩ := haccepted
      exact passed_of_ok hverified
    · exact ih hlater

theorem le_now_of_accepted (hclock : calls.Pairwise fun a b => a.1 ≤ b.1) (hheld : Expiring.HeldTo seen key deadline)
    (ha : a ∈ v.verifyAll hmac (.memory seen) calls) (hkey : v.replayKey a.request = key) (haccepted : a.Accepted) :
    deadline ≤ a.now := by
  induction calls generalizing seen with
  | nil => simp [verifyAll] at ha
  | cons call calls ih =>
    obtain ⟨now, request⟩ := call
    obtain ⟨hfirst, hrest⟩ := List.pairwise_cons.mp hclock
    rcases List.mem_cons.mp ha with rfl | hlater
    · obtain ⟨verified, hverified⟩ := haccepted
      subst hkey
      exact (verify_accepted hverified).1 deadline hheld
    · by_cases hnow : now < deadline
      · obtain ⟨seen', hseen', hkept⟩ := exists_verify_memory hmac v now request seen
        rw [hseen'] at hlater
        exact ih hrest (hkept key deadline hnow hheld) hlater
      · have hle := hfirst _ (call_of_mem hlater)
        simp only at hle
        omega

theorem Passed.sub_le {later timestampUnix timestampUnix' : Int} (hfirst : Passed hmac v now request timestampUnix)
    (hlater : Passed hmac v later request timestampUnix') : later - now ≤ 2 * v.effectiveTolerance := by
  obtain rfl : timestampUnix = timestampUnix' := Option.some.inj (hfirst.timestamp.symm.trans hlater.timestamp)
  have hle := hfirst.notLate
  have hge := hlater.notEarly
  omega

end WebhookVerifier

open WebhookVerifier

/-- **No request is accepted twice, and one event id only after its time to live.** -/
theorem replay_refused (hmac : Hmac) (v : WebhookVerifier) (httl : 2 * v.effectiveTolerance < v.effectiveReplayTTL)
    (seen : Bytes → Option Int) (calls : List (Int × WebhookRequest))
    (hclock : calls.Pairwise fun a b => a.1 ≤ b.1) :
    (v.verifyAll hmac (.memory seen) calls).Pairwise fun first later =>
      first.Accepted → later.Accepted → first.request ≠ later.request ∧
        (Bytes.trimSpace first.request.eventID = Bytes.trimSpace later.request.eventID →
          first.now + v.effectiveReplayTTL ≤ later.now) := by
  induction calls generalizing seen with
  | nil => exact .nil
  | cons call calls ih =>
    obtain ⟨now, request⟩ := call
    obtain ⟨hfirst, hrest⟩ := List.pairwise_cons.mp hclock
    obtain ⟨seen', hseen', -⟩ := exists_verify_memory hmac v now request seen
    refine List.pairwise_cons.mpr ⟨?_, hseen' ▸ ih seen' hrest⟩
    intro later hlater haccepted hlaterAccepted
    obtain ⟨verified, hverified⟩ := haccepted
    obtain ⟨timestampUnix, hpassed⟩ := passed_of_ok hverified
    obtain ⟨timestampUnix', hpassed'⟩ := passed_of_accepted hlater hlaterAccepted
    obtain ⟨-, seen'', hseen'', hheld⟩ := verify_accepted hverified
    rw [hseen''] at hlater
    have hapart : Bytes.trimSpace request.eventID = Bytes.trimSpace later.request.eventID →
        now + v.effectiveReplayTTL ≤ later.now := by
      intro heventID
      apply le_now_of_accepted hrest hheld hlater _ hlaterAccepted
      rw [replayKey, replayKey, heventID]
    refine ⟨?_, hapart⟩
    rintro rfl
    have hlate := hapart rfl
    have hwindow := hpassed.sub_le hpassed'
    omega

/-- A request that is accepted on an empty store. -/
def signedRequest : WebhookRequest :=
  presented hexHmac (Bytes.ofText "evt_1") (Bytes.ofText "10") (Bytes.ofText "evt_1") (Bytes.ofText "10")

theorem replay_refused_signedRequest :
    (sampleVerifier.verify hexHmac 0 signedRequest (.memory fun _ => none)).1.isOk = true ∧
      (sampleVerifier.verifyAll hexHmac (.memory fun _ => none)
        [(0, signedRequest), (second, signedRequest)]).Pairwise fun first later =>
          first.Accepted → later.Accepted → first.request ≠ later.request ∧
            (Bytes.trimSpace first.request.eventID = Bytes.trimSpace later.request.eventID →
              first.now + sampleVerifier.effectiveReplayTTL ≤ later.now) :=
  ⟨by decide, replay_refused hexHmac sampleVerifier (by decide) (fun _ => none)
    [(0, signedRequest), (second, signedRequest)] (by decide)⟩

/-! ### Rejected calls -/

def Verification.accepted (a : Verification) : Bool := a.answer.isOk

/-- What was asked, without the answer. -/
def Verification.call (a : Verification) : Int × WebhookRequest := (a.now, a.request)

namespace WebhookVerifier

variable {hmac : Hmac} {v : WebhookVerifier} {seen seen' : Bytes → Option Int} {now : Int} {request : WebhookRequest}

/-- A verification does not see what has expired, and stores that agree on the rest agree on it afterwards. -/
theorem verify_congr (hmac : Hmac) (v : WebhookVerifier) (request : WebhookRequest)
    (h : Expiring.purge now seen = Expiring.purge now seen') :
    (v.verify hmac now request (.memory seen)).1 = (v.verify hmac now request (.memory seen')).1 ∧
      ∃ after after', (v.verify hmac now request (.memory seen)).2 = .memory after ∧
        (v.verify hmac now request (.memory seen')).2 = .memory after' ∧
        Expiring.purge now after = Expiring.purge now after' := by
  cases hcheck : v.checkRequest hmac now request with
  | error err =>
    rw [verify_of_failed hcheck, verify_of_failed hcheck]
    exact ⟨rfl, seen, seen', rfl, rfl, h⟩
  | ok timestampUnix =>
    rw [verify_of_passed hcheck, verify_of_passed hcheck, Expiring.record_congr h]
    exact ⟨rfl, _, _, rfl, rfl, rfl⟩

theorem verify_rejected (hrejected : (v.verify hmac now request (.memory seen)).1.isOk = false) :
    ∃ after, (v.verify hmac now request (.memory seen)).2 = .memory after ∧
      Expiring.purge now after = Expiring.purge now seen := by
  cases hcheck : v.checkRequest hmac now request with
  | error err =>
    rw [verify_of_failed hcheck]
    exact ⟨seen, rfl, rfl⟩
  | ok timestampUnix =>
    rw [verify_of_passed hcheck] at hrejected ⊢
    refine ⟨_, rfl, ?_⟩
    have hrefused : (Expiring.record seen (v.replayKey request) now (now + v.effectiveReplayTTL)).1 = false := by
      by_contra haccepted
      rw [if_pos (Bool.eq_true_of_not_eq_false haccepted)] at hrejected
      cases hrejected
    rw [Expiring.record_refused hrefused]
    exact Expiring.purge_purge le_rfl seen

/-- Leaving rejected calls out changes no other answer, from any store that agrees on what has not expired. -/
theorem verifyAll_kept (hclock : calls.Pairwise fun a b => a.1 ≤ b.1)
    (hagree : ∀ call ∈ calls, Expiring.purge call.1 seen = Expiring.purge call.1 seen') {kept : List Verification}
    (hkept : kept.Sublist (v.verifyAll hmac (.memory seen) calls))
    (haccepted : kept.filter Verification.accepted =
      (v.verifyAll hmac (.memory seen) calls).filter Verification.accepted) :
    v.verifyAll hmac (.memory seen') (kept.map Verification.call) = kept := by
  induction calls generalizing seen seen' kept with
  | nil =>
    obtain rfl := List.sublist_nil.mp hkept
    rfl
  | cons call calls ih =>
    obtain ⟨now, request⟩ := call
    obtain ⟨hfirst, hrest⟩ := List.pairwise_cons.mp hclock
    have hnow : Expiring.purge now seen = Expiring.purge now seen' := hagree _ List.mem_cons_self
    rw [verifyAll] at hkept haccepted
    rcases List.sublist_cons_iff.mp hkept with hdropped | ⟨rest, rfl, hsub⟩
    · by_cases hok :
          Verification.accepted ⟨now, request, (v.verify hmac now request (.memory seen)).1⟩ = true
      · -- an accepted call cannot be missing
        rw [List.filter_cons_of_pos hok] at haccepted
        have hlength := (hdropped.filter Verification.accepted).length_le
        rw [haccepted, List.length_cons] at hlength
        omega
      · rw [List.filter_cons_of_neg hok] at haccepted
        obtain ⟨after, hafter, hpurge⟩ := verify_rejected (Bool.eq_false_of_not_eq_true hok)
        rw [hafter] at hdropped haccepted
        refine ih hrest ?_ hdropped haccepted
        intro later hlater
        exact Expiring.purge_eq_of_le (hpurge.trans hnow) (hfirst later hlater)
    · obtain ⟨hanswer, after, after', hafter, hafter', hpurge⟩ := verify_congr hmac v request hnow
      rw [hafter] at hsub haccepted
      have hfilter : rest.filter Verification.accepted =
          (v.verifyAll hmac (.memory after) calls).filter Verification.accepted := by
        rw [List.filter_cons, List.filter_cons] at haccepted
        split_ifs at haccepted
        · exact (List.cons.inj haccepted).2
        · exact haccepted
      have htail : v.verifyAll hmac (.memory after') (rest.map Verification.call) = rest := by
        refine ih hrest ?_ hsub hfilter
        intro later hlater
        exact Expiring.purge_eq_of_le hpurge (hfirst later hlater)
      rw [List.map_cons, Verification.call, verifyAll, hafter', htail, ← hanswer]

end WebhookVerifier

/-- **Rejected webhooks have no effect on later ones.** All rejected requests can be left out, or any of them, such
as those of somebody without a secret: every other request gets the same answer. -/
theorem rejected_without_effect (hmac : Hmac) (v : WebhookVerifier) (seen : Bytes → Option Int)
    (calls : List (Int × WebhookRequest)) (hclock : calls.Pairwise fun a b => a.1 ≤ b.1) :
    v.verifyAll hmac (.memory seen)
        (((v.verifyAll hmac (.memory seen) calls).filter Verification.accepted).map Verification.call) =
      (v.verifyAll hmac (.memory seen) calls).filter Verification.accepted ∧
    ∀ kept : List Verification, kept.Sublist (v.verifyAll hmac (.memory seen) calls) →
      kept.filter Verification.accepted = (v.verifyAll hmac (.memory seen) calls).filter Verification.accepted →
      v.verifyAll hmac (.memory seen) (kept.map Verification.call) = kept := by
  have hagree : ∀ call ∈ calls, Expiring.purge call.1 seen = Expiring.purge call.1 seen := fun _ _ => rfl
  constructor
  · apply verifyAll_kept hclock hagree (List.filter_sublist ..)
    simp
  · intro kept hsub haccepted
    exact verifyAll_kept hclock hagree hsub haccepted

/-- A forged request under the event id of an honest one. -/
def forgedRequest : WebhookRequest := { signedRequest with signature := Bytes.ofText "v1=00" }

theorem rejected_without_effect_forged :
    ((sampleVerifier.verifyAll hexHmac (.memory fun _ => none)
      [(0, forgedRequest), (0, signedRequest), (second, signedRequest)]).map Verification.accepted) =
        [false, true, false] ∧
    sampleVerifier.verifyAll hexHmac (.memory fun _ => none)
      (((sampleVerifier.verifyAll hexHmac (.memory fun _ => none)
        [(0, forgedRequest), (0, signedRequest), (second, signedRequest)]).filter Verification.accepted).map
          Verification.call) =
      (sampleVerifier.verifyAll hexHmac (.memory fun _ => none)
        [(0, forgedRequest), (0, signedRequest), (second, signedRequest)]).filter Verification.accepted :=
  ⟨by decide, (rejected_without_effect hexHmac sampleVerifier (fun _ => none)
    [(0, forgedRequest), (0, signedRequest), (second, signedRequest)] (by decide)).1⟩

end FulfillHub
