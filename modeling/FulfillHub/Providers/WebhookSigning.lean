import FulfillHub.Providers.WebhookBinding

/-!
# Signing and verifying agree

`SignWebhook` computes with the secret and the event id as they are given; `Verify` trims both first. So what is
signed is accepted exactly for secrets and event ids without white space around them. Other parts of the header make
no difference, and a header without a signature under one of the secrets is refused.
-/

namespace FulfillHub

open WebhookVerifier

/-- The request with the decimal Unix seconds of its time in the timestamp header. -/
def requestAt (eventID : Bytes) (timestamp : Int) (header payload : Bytes) : WebhookRequest where
  eventID := eventID
  timestamp := Bytes.formatInt timestamp
  signature := header
  payload := payload

/-- The seconds of a Go time within the tolerance of the clock. -/
structure WebhookVerifier.Timely (v : WebhookVerifier) (now timestamp : Int) : Prop where
  min : -2 ^ 63 ≤ timestamp
  max : timestamp < 2 ^ 63
  notEarly : now - v.effectiveTolerance ≤ timestamp * second
  notLate : timestamp * second ≤ now + v.effectiveTolerance

/-- Every verifier that has the secret accepts what is signed with it, whatever else is in the header. -/
def AcceptsSigned (hmac : Hmac) (secret eventID : Bytes) : Prop :=
  ∀ (v : WebhookVerifier) (now timestamp : Int) (header part payload : Bytes),
    Bytes.trimSpace v.provider ≠ [] → secret ∈ v.currentSecret :: v.previousSecrets → v.Timely now timestamp →
    part ∈ header.splitOn 44 → Bytes.trimSpace part = hmac.signWebhook secret eventID timestamp payload →
    ∃ verified, v.verify hmac now (requestAt eventID timestamp header payload) .none = (.ok verified, .none)

/-- A part of a header that is a `v1` value for the digest, in any letter case and with any white space around it. -/
def IsSignature (part digest : Bytes) : Prop :=
  ∃ value, Bytes.trimSpace part = Bytes.ofText "v1=" ++ value ∧
    Bytes.hexDecode (Bytes.trimSpace value) = some digest

/-! ### Headers -/

theorem takeWhile_append_cons_tail {s : Bytes} {sep : UInt8} (hsep : sep ∈ s) :
    s.takeWhile (· ≠ sep) ++ sep :: (s.dropWhile (· ≠ sep)).tail = s := by
  induction s with
  | nil => contradiction
  | cons b s ih =>
    by_cases hb : b = sep
    · simp [hb]
    · have hrest : sep ∈ s := (List.mem_cons.mp hsep).resolve_left (Ne.symm hb)
      simpa [hb] using ih hrest

theorem Hmac.signatureOf_eq_some {hmac : Hmac} {part digest : Bytes} (hsized : hmac.sized digest = true) :
    hmac.signatureOf part = some digest ↔ IsSignature part digest := by
  have hv1 : Bytes.ofText "v1" = [118, 49] := by decide
  have hv1eq : Bytes.ofText "v1=" = [118, 49, 61] := by decide
  constructor
  · intro h
    simp only [signatureOf] at h
    split_ifs at h with hcut
    split at h
    · rename_i decoded hdecoded
      split_ifs at h
      refine ⟨_, ?_, hdecoded.trans h⟩
      have hparts := takeWhile_append_cons_tail hcut.1
      rw [hcut.2, hv1] at hparts
      rw [hv1eq]
      exact hparts.symm
    · contradiction
  · intro h
    obtain ⟨value, hpart, hdecode⟩ := h
    simp [signatureOf, hpart, hv1, hv1eq, hdecode, hsized]

theorem mem_of_mem_splitOn {sep b : UInt8} {header part : Bytes} (hpart : part ∈ header.splitOn sep)
    (hb : b ∈ part) : b ∈ header := by
  induction header generalizing part with
  | nil =>
    rw [List.splitOn_nil, List.mem_singleton] at hpart
    exact hpart ▸ hb
  | cons c header ih =>
    rw [List.splitOn, List.splitOnP_cons_eq_if_modifyHead, ← List.splitOn] at hpart
    split at hpart
    · rcases List.mem_cons.mp hpart with rfl | hpart
      · contradiction
      · exact List.mem_cons_of_mem c (ih hpart hb)
    · cases hparts : header.splitOn sep with
      | nil => simp [hparts] at hpart
      | cons first rest =>
        rw [hparts, List.modifyHead_cons, List.mem_cons] at hpart
        rcases hpart with rfl | hpart
        · rcases List.mem_cons.mp hb with rfl | hb
          · exact List.mem_cons_self
          · exact List.mem_cons_of_mem c (ih (hparts ▸ List.mem_cons_self) hb)
        · exact List.mem_cons_of_mem c (ih (hparts ▸ List.mem_cons_of_mem first hpart) hb)

theorem trimSpace_header_ne_nil {hmac : Hmac} {secret eventID header part payload : Bytes} {timestamp : Int}
    (hpart : part ∈ header.splitOn 44)
    (hsigned : Bytes.trimSpace part = hmac.signWebhook secret eventID timestamp payload) :
    Bytes.trimSpace header ≠ [] := by
  have hletter : (118 : UInt8) ∈ Bytes.trimSpace part := by
    rw [hsigned, Hmac.signWebhook_eq]
    exact List.mem_cons_self
  have hheader := mem_of_mem_splitOn hpart (Bytes.mem_of_mem_trimSpace hletter)
  exact List.ne_nil_of_mem (Bytes.mem_trimSpace (by decide) hheader)

theorem trimSpace_formatInt (n : Int) : Bytes.trimSpace (Bytes.formatInt n) = Bytes.formatInt n :=
  Bytes.trimSpace_of_visible fun _ => Bytes.visible_of_mem_formatInt

theorem parseInt_requestAt {v : WebhookVerifier} {now timestamp : Int} (h : v.Timely now timestamp)
    (eventID header payload : Bytes) :
    Bytes.parseInt (Bytes.trimSpace (requestAt eventID timestamp header payload).timestamp) = some timestamp := by
  rw [requestAt, trimSpace_formatInt]
  exact Bytes.parseInt_formatInt h.min h.max

/-! ### Accepted and refused requests -/

section Requests

variable {hmac : Hmac} {v : WebhookVerifier} {now timestamp : Int} {secret eventID header part payload : Bytes}

theorem mem_secrets (hsecret : secret ∈ v.currentSecret :: v.previousSecrets) (hne : Bytes.trimSpace secret ≠ []) :
    Bytes.trimSpace secret ∈ v.secrets :=
  List.mem_filter.mpr ⟨List.mem_map_of_mem hsecret, decide_eq_true hne⟩

theorem passed_requestAt (hprovider : Bytes.trimSpace v.provider ≠ []) (hsecret : secret ∈ v.secrets)
    (hevent : eventID ≠ []) (htrimmed : Bytes.trimSpace eventID = eventID) (htimely : v.Timely now timestamp)
    (hpart : part ∈ header.splitOn 44)
    (hsigned : Bytes.trimSpace part = hmac.signWebhook secret eventID timestamp payload) :
    Passed hmac v now (requestAt eventID timestamp header payload) timestamp where
  provider := hprovider
  eventID := by
    rw [requestAt, htrimmed]
    exact hevent
  timestamp := parseInt_requestAt htimely _ _ _
  notEarly := htimely.notEarly
  notLate := htimely.notLate
  signature := trimSpace_header_ne_nil hpart hsigned
  matched := by
    refine ⟨secret, hsecret, List.mem_filterMap.mpr ⟨part, hpart, ?_⟩⟩
    rw [requestAt, htrimmed]
    exact hmac.signatureOf_signWebhook secret eventID timestamp payload hsigned

theorem verify_requestAt (h : Passed hmac v now (requestAt eventID timestamp header payload) timestamp) :
    ∃ verified, v.verify hmac now (requestAt eventID timestamp header payload) .none = (.ok verified, .none) :=
  ⟨_, verify_eq_ok.mpr ⟨timestamp, h, rfl, rfl⟩⟩

/-- Without a signature under one of its secrets a verifier refuses the request. -/
theorem checkRequest_unsigned (hprovider : Bytes.trimSpace v.provider ≠ []) (hsecrets : v.secrets ≠ [])
    (hevent : Bytes.trimSpace eventID ≠ []) (htimely : v.Timely now timestamp)
    (hunsigned : ∀ part ∈ header.splitOn 44, ∀ secret ∈ v.secrets,
      ¬ IsSignature part (hmac.webhookDigest secret (Bytes.trimSpace eventID) timestamp payload)) :
    v.checkRequest hmac now (requestAt eventID timestamp header payload) =
      .error (if Bytes.trimSpace header = [] then .signatureMissing else .signatureInvalid) := by
  have hparse := parseInt_requestAt htimely eventID header payload
  have htimestamp : Bytes.trimSpace (requestAt eventID timestamp header payload).timestamp ≠ [] := by
    intro hempty
    rw [hempty] at hparse
    simp [Bytes.parseInt, Bytes.parseNat] at hparse
  have hwindow : ¬ (timestamp * second < now - v.effectiveTolerance ∨
      now + v.effectiveTolerance < timestamp * second) := by
    rw [not_or, not_lt, not_lt]
    exact ⟨htimely.notEarly, htimely.notLate⟩
  have hmatches : hmac.matchesSignature v.secrets (Bytes.trimSpace eventID) timestamp payload
      (hmac.parseWebhookSignatures header) = false := by
    apply Bool.eq_false_iff.mpr
    intro htrue
    obtain ⟨secret, hsecret, hmem⟩ := Hmac.matchesSignature_eq_true.mp htrue
    obtain ⟨part, hpart, hsignature⟩ := List.mem_filterMap.mp hmem
    exact hunsigned part hpart secret hsecret ((Hmac.signatureOf_eq_some (hmac.sized_sum _ _)).mp hsignature)
  unfold checkRequest
  simp only [hparse]
  rw [if_neg hprovider, if_neg hsecrets, if_neg (show ¬ Bytes.trimSpace (requestAt ..).eventID = [] from hevent),
    if_neg htimestamp, if_neg hwindow]
  change (if Bytes.trimSpace header = [] then Except.error WebhookError.signatureMissing else _) = _
  simp only [requestAt, hmatches, if_true, ite_self]
  split <;> rfl

theorem verify_unsigned_iff (hprovider : Bytes.trimSpace v.provider ≠ []) (hsecrets : v.secrets ≠ [])
    (hevent : Bytes.trimSpace eventID ≠ []) (htimely : v.Timely now timestamp)
    (hunsigned : ∀ part ∈ header.splitOn 44, ∀ secret ∈ v.secrets,
      ¬ IsSignature part (hmac.webhookDigest secret (Bytes.trimSpace eventID) timestamp payload)) :
    v.verify hmac now (requestAt eventID timestamp header payload) .none = (.error .signatureInvalid, .none) ↔
      Bytes.trimSpace header ≠ [] := by
  unfold verify
  rw [checkRequest_unsigned hprovider hsecrets hevent htimely hunsigned]
  by_cases hblank : Bytes.trimSpace header = []
  · simp [hblank]
  · simp [hblank]

end Requests

/-! ### Where they agree -/

theorem acceptsSigned_of_trimmed (hmac : Hmac) {secret eventID : Bytes} (hsecret : Bytes.trimSpace secret ≠ [])
    (hevent : Bytes.trimSpace eventID ≠ []) (hsecretTrimmed : Bytes.trimSpace secret = secret)
    (heventTrimmed : Bytes.trimSpace eventID = eventID) : AcceptsSigned hmac secret eventID := by
  intro v now timestamp header part payload hprovider hconfigured htimely hpart hsigned
  have hmem : secret ∈ v.secrets := hsecretTrimmed ▸ mem_secrets hconfigured hsecret
  have hne : eventID ≠ [] := heventTrimmed ▸ hevent
  exact verify_requestAt (passed_requestAt hprovider hmem hne heventTrimmed htimely hpart hsigned)

/-- A verifier with one secret. -/
def WebhookVerifier.ofSecret (secret : Bytes) : WebhookVerifier := { sampleVerifier with currentSecret := secret }

/-- A verifier with one secret recomputes the signature from the trimmed secret and the trimmed event id. -/
theorem trimmed_of_acceptsSigned {hmac : Hmac} (hinjective : Function.Injective2 hmac.sum) {secret eventID : Bytes}
    (h : AcceptsSigned hmac secret eventID) :
    Bytes.trimSpace secret = secret ∧ Bytes.trimSpace eventID = eventID := by
  have hprovider : Bytes.trimSpace sampleVerifier.provider ≠ [] := by decide
  have hearly : 0 - sampleVerifier.effectiveTolerance ≤ 0 * second := by decide
  have hlate : 0 * second ≤ 0 + sampleVerifier.effectiveTolerance := by decide
  have htimely : (ofSecret secret).Timely 0 0 := ⟨by decide, by decide, hearly, hlate⟩
  obtain ⟨verified, hverify⟩ := h (ofSecret secret) 0 0 (hmac.signWebhook secret eventID 0 [])
    (hmac.signWebhook secret eventID 0 []) [] hprovider List.mem_cons_self htimely
    (by simp [Hmac.splitOn_signWebhook]) (hmac.trimSpace_signWebhook _ _ _ _)
  obtain ⟨timestampUnix, hpassed, -, -⟩ := verify_eq_ok.mp hverify
  have htimestamp : timestampUnix = 0 := by
    have hparse := parseInt_requestAt htimely eventID (hmac.signWebhook secret eventID 0 []) []
    exact Option.some.inj (hpassed.timestamp.symm.trans hparse)
  subst htimestamp
  obtain ⟨used, hused, hmem⟩ := hpassed.matched
  have hused : used = Bytes.trimSpace secret := by
    have hmapped := (List.mem_filter.mp hused).1
    simpa [ofSecret, sampleVerifier] using hmapped
  obtain ⟨part, hpart, hsignature⟩ := List.mem_filterMap.mp hmem
  have hpart : part = hmac.signWebhook secret eventID 0 [] := by
    simpa [requestAt, Hmac.splitOn_signWebhook] using hpart
  subst hpart hused
  rw [hmac.signatureOf_signWebhook _ _ _ _ (hmac.trimSpace_signWebhook _ _ _ _)] at hsignature
  obtain ⟨hsecret, hsigned⟩ := hinjective (Option.some.inj hsignature)
  obtain ⟨-, hframe⟩ := signedBytes_eq_iff.mp hsigned
  exact ⟨hsecret.symm, (List.append_inj_left' hframe rfl).symm⟩

/-- **Signing and verifying agree when neither the secret nor the event id has white space around it**, and, as far as
digests identify what was signed, only then. A request without a signature under one of the secrets is refused as
invalid unless its header is blank. -/
theorem signing_agrees_iff (hmac : Hmac) (secret eventID : Bytes) (hsecret : Bytes.trimSpace secret ≠ [])
    (hevent : Bytes.trimSpace eventID ≠ []) :
    (Bytes.trimSpace secret = secret → Bytes.trimSpace eventID = eventID → AcceptsSigned hmac secret eventID) ∧
    (Function.Injective2 hmac.sum → (AcceptsSigned hmac secret eventID ↔
      Bytes.trimSpace secret = secret ∧ Bytes.trimSpace eventID = eventID)) ∧
    ∀ (v : WebhookVerifier) (now timestamp : Int) (header payload : Bytes),
      Bytes.trimSpace v.provider ≠ [] → secret ∈ v.currentSecret :: v.previousSecrets → v.Timely now timestamp →
      (∀ part ∈ header.splitOn 44, ∀ secret ∈ v.secrets,
        ¬ IsSignature part (hmac.webhookDigest secret (Bytes.trimSpace eventID) timestamp payload)) →
      (v.verify hmac now (requestAt eventID timestamp header payload) .none =
        (.error .signatureInvalid, .none) ↔ Bytes.trimSpace header ≠ []) := by
  have haccepts := acceptsSigned_of_trimmed hmac hsecret hevent
  refine ⟨haccepts, fun hinjective => ⟨trimmed_of_acceptsSigned hinjective, ?_⟩, ?_⟩
  · intro htrimmed
    exact haccepts htrimmed.1 htrimmed.2
  · intro v now timestamp header payload hprovider hconfigured htimely hunsigned
    have hsecrets : v.secrets ≠ [] := List.ne_nil_of_mem (mem_secrets hconfigured hsecret)
    exact verify_unsigned_iff hprovider hsecrets hevent htimely hunsigned

theorem signing_agrees_plain : AcceptsSigned hexHmac (Bytes.ofText "whsec") (Bytes.ofText "evt_1") ∧
    ¬ AcceptsSigned hexHmac (Bytes.ofText "whsec") (Bytes.ofText " evt_1") := by
  constructor
  · exact (signing_agrees_iff hexHmac (Bytes.ofText "whsec") (Bytes.ofText "evt_1") (by decide) (by decide)).1
      (by decide) (by decide)
  · rw [(signing_agrees_iff hexHmac (Bytes.ofText "whsec") (Bytes.ofText " evt_1") (by decide) (by decide)).2.1
      hexHmac_injective]
    decide

/-- A secret read with its line end signs what the verifier with the same secret refuses. -/
theorem signing_disagrees_padded : Bytes.trimSpace (Bytes.ofText "whsec\n") ≠ [] ∧
    Bytes.trimSpace (Bytes.ofText "evt_1") ≠ [] ∧
    ¬ AcceptsSigned hexHmac (Bytes.ofText "whsec\n") (Bytes.ofText "evt_1") := by
  refine ⟨by decide, by decide, ?_⟩
  intro h
  have htrimmed := (trimmed_of_acceptsSigned hexHmac_injective h).1
  revert htrimmed
  decide

end FulfillHub
