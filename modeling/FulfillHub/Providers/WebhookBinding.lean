import FulfillHub.Library.Framing
import FulfillHub.Providers.Webhook

/-!
# What a webhook signature binds

The signature covers the timestamp, the event id and the payload, framed by dots. The timestamp has no dot, so it is
bound. The event id may have one, and then its end and the beginning of the payload are told apart by nothing: a
signature also passes for an event id that continues, or is continued by, the signed one after a dot.
-/

namespace FulfillHub

open WebhookVerifier

/-- A request under the first event id that is accepted on a signature made for the second one is the request that
was signed. The signature may be any part of the request's header. -/
def BindsOneEvent (hmac : Hmac) (eventID eventID₀ : Bytes) : Prop :=
  ∀ (v : WebhookVerifier) (now : Int) (request : WebhookRequest) (store store' : ReplayStore)
    (verified : VerifiedWebhook) (secret part payload₀ : Bytes) (timestamp timestamp₀ : Int),
    request.eventID = eventID → v.verify hmac now request store = (.ok verified, store') →
    Bytes.parseInt (Bytes.trimSpace request.timestamp) = some timestamp →
    part ∈ request.signature.splitOn 44 →
    (∃ matching ∈ v.secrets,
      hmac.signatureOf part = some (hmac.webhookDigest matching eventID timestamp request.payload)) →
    secret ∈ v.secrets → Bytes.trimSpace part = hmac.signWebhook secret eventID₀ timestamp₀ payload₀ →
    eventID = eventID₀ ∧ timestamp = timestamp₀ ∧ request.payload = payload₀

/-- Neither event id goes on after a dot from the other one. No request has an empty event id. -/
def Unconfusable (eventID eventID₀ : Bytes) : Prop :=
  ¬ eventID₀ ++ [46] <+: eventID ∧ (eventID = [] ∨ ¬ eventID ++ [46] <+: eventID₀)

instance (eventID eventID₀ : Bytes) : Decidable (Unconfusable eventID eventID₀) :=
  inferInstanceAs (Decidable (_ ∧ _))

/-! ### Signatures are read back -/

namespace Hmac

variable (hmac : Hmac) (secret eventID : Bytes) (timestamp : Int) (payload : Bytes)

theorem signWebhook_eq : hmac.signWebhook secret eventID timestamp payload =
    118 :: 49 :: 61 :: Bytes.hexEncode (hmac.webhookDigest secret eventID timestamp payload) := by
  rw [signWebhook, show Bytes.ofText "v1=" = [118, 49, 61] by decide]
  rfl

theorem visible_of_mem_signWebhook {b : UInt8} (hb : b ∈ hmac.signWebhook secret eventID timestamp payload) :
    Bytes.visible b = true ∧ b ≠ 44 := by
  rw [signWebhook_eq, List.mem_cons, List.mem_cons, List.mem_cons] at hb
  rcases hb with rfl | rfl | rfl | hhex
  · decide
  · decide
  · decide
  · exact Bytes.of_mem_hexEncode hhex

theorem signatureOf_signWebhook {part : Bytes}
    (hpart : Bytes.trimSpace part = hmac.signWebhook secret eventID timestamp payload) :
    hmac.signatureOf part = some (hmac.webhookDigest secret eventID timestamp payload) := by
  have hhex : Bytes.trimSpace (Bytes.hexEncode (hmac.webhookDigest secret eventID timestamp payload)) =
      Bytes.hexEncode (hmac.webhookDigest secret eventID timestamp payload) :=
    Bytes.trimSpace_of_visible fun _ hb => (Bytes.of_mem_hexEncode hb).1
  have hsized : hmac.sized (hmac.webhookDigest secret eventID timestamp payload) = true := hmac.sized_sum _ _
  simp [signatureOf, hpart, signWebhook_eq, show Bytes.ofText "v1" = [118, 49] by decide, hhex, hsized]

theorem trimSpace_signWebhook : Bytes.trimSpace (hmac.signWebhook secret eventID timestamp payload) =
    hmac.signWebhook secret eventID timestamp payload :=
  Bytes.trimSpace_of_visible fun _ hb => (hmac.visible_of_mem_signWebhook secret eventID timestamp payload hb).1

theorem splitOn_signWebhook : (hmac.signWebhook secret eventID timestamp payload).splitOn 44 =
    [hmac.signWebhook secret eventID timestamp payload] := by
  apply List.splitOn_eq_singleton
  intro hcomma
  exact (hmac.visible_of_mem_signWebhook secret eventID timestamp payload hcomma).2 rfl

end Hmac

/-! ### What is bound -/

theorem signedBytes_eq_iff {eventID eventID₀ payload payload₀ : Bytes} {timestamp timestamp₀ : Int} :
    signedBytes eventID timestamp payload = signedBytes eventID₀ timestamp₀ payload₀ ↔
      timestamp = timestamp₀ ∧ eventID ++ 46 :: payload = eventID₀ ++ 46 :: payload₀ := by
  constructor
  · intro h
    obtain ⟨htimestamp, hrest⟩ :=
      Framing.eq_of_append_sep (Bytes.dot_notMem_formatInt _) (Bytes.dot_notMem_formatInt _) h
    exact ⟨Bytes.formatInt_injective htimestamp, hrest⟩
  · rintro ⟨rfl, hrest⟩
    rw [signedBytes, signedBytes, hrest]

/-- An accepted signature under an injective keyed hash was made over the bytes it is accepted for. -/
theorem signedBytes_eq_of_matched {hmac : Hmac} (hinjective : Function.Injective2 hmac.sum)
    {part secret matching eventID eventID₀ payload payload₀ : Bytes} {timestamp timestamp₀ : Int}
    (hpart : Bytes.trimSpace part = hmac.signWebhook secret eventID₀ timestamp₀ payload₀)
    (hmatched : hmac.signatureOf part = some (hmac.webhookDigest matching eventID timestamp payload)) :
    signedBytes eventID timestamp payload = signedBytes eventID₀ timestamp₀ payload₀ := by
  rw [hmac.signatureOf_signWebhook secret eventID₀ timestamp₀ payload₀ hpart] at hmatched
  exact (hinjective (Option.some.inj hmatched)).2.symm

def sampleVerifier : WebhookVerifier where
  provider := Bytes.ofText "stripe"
  currentSecret := Bytes.ofText "whsec_current"
  previousSecrets := []
  tolerance := 0
  replayTTL := 0

theorem secrets_sampleVerifier : sampleVerifier.secrets = [Bytes.ofText "whsec_current"] := by
  decide

/-- A signature made for one event, presented with another id and payload. -/
def presented (hmac : Hmac) (eventID payload eventID₀ payload₀ : Bytes) : WebhookRequest where
  eventID := eventID
  timestamp := Bytes.ofText "0"
  signature := hmac.signWebhook (Bytes.ofText "whsec_current") eventID₀ 0 payload₀
  payload := payload

theorem parseInt_presented (hmac : Hmac) (eventID payload eventID₀ payload₀ : Bytes) :
    Bytes.parseInt (Bytes.trimSpace (presented hmac eventID payload eventID₀ payload₀).timestamp) = some 0 := by
  change Bytes.parseInt (Bytes.trimSpace (Bytes.ofText "0")) = some 0
  decide

theorem passed_presented (hmac : Hmac) {eventID eventID₀ payload payload₀ : Bytes}
    (htrimmed : Bytes.trimSpace eventID = eventID) (hne : eventID ≠ [])
    (hframe : eventID ++ 46 :: payload = eventID₀ ++ 46 :: payload₀) :
    Passed hmac sampleVerifier 0 (presented hmac eventID payload eventID₀ payload₀) 0 := by
  have hsigned : signedBytes eventID 0 payload = signedBytes eventID₀ 0 payload₀ :=
    signedBytes_eq_iff.mpr ⟨rfl, hframe⟩
  refine ⟨by decide, by simpa [presented, htrimmed] using hne, parseInt_presented .., by decide, by decide, ?_, ?_⟩
  · rw [presented, Hmac.trimSpace_signWebhook, Hmac.signWebhook_eq]
    exact List.cons_ne_nil _ _
  · refine ⟨Bytes.ofText "whsec_current", by simp [secrets_sampleVerifier], ?_⟩
    have hparsed := hmac.signatureOf_signWebhook (Bytes.ofText "whsec_current") eventID₀ 0 payload₀
      (hmac.trimSpace_signWebhook _ _ _ _)
    simp [Hmac.parseWebhookSignatures, presented, Hmac.splitOn_signWebhook, hparsed, htrimmed, Hmac.webhookDigest,
      hsigned]

theorem BindsOneEvent.payload_eq {hmac : Hmac} {eventID eventID₀ payload payload₀ : Bytes}
    (h : BindsOneEvent hmac eventID eventID₀) (htrimmed : Bytes.trimSpace eventID = eventID) (hne : eventID ≠ [])
    (hframe : eventID ++ 46 :: payload = eventID₀ ++ 46 :: payload₀) : payload = payload₀ := by
  have hpassed := passed_presented hmac htrimmed hne hframe
  have hrecord : ReplayStore.recordWebhook (Bytes.trimSpace sampleVerifier.provider) (Bytes.trimSpace eventID) 0
      (0 + sampleVerifier.effectiveReplayTTL) .none = (.ok true, .none) := rfl
  have hsecret : Bytes.ofText "whsec_current" ∈ sampleVerifier.secrets := by simp [secrets_sampleVerifier]
  have htrim := hmac.trimSpace_signWebhook (Bytes.ofText "whsec_current") eventID₀ 0 payload₀
  have hsigned : signedBytes eventID₀ 0 payload₀ = signedBytes eventID 0 payload :=
    signedBytes_eq_iff.mpr ⟨rfl, hframe.symm⟩
  have hmatched := hmac.signatureOf_signWebhook _ _ _ _ htrim
  rw [Hmac.webhookDigest, hsigned] at hmatched
  exact (h sampleVerifier 0 (presented hmac eventID payload eventID₀ payload₀) .none .none _ _ _ payload₀ 0 0 rfl
    (verify_eq_ok.mpr ⟨0, hpassed, hrecord, rfl⟩) (parseInt_presented ..)
    (by simp [presented, Hmac.splitOn_signWebhook]) ⟨_, hsecret, hmatched⟩ hsecret htrim).2.2

/-- **A signature binds one event exactly when no dot lets the event ids be confused.** -/
theorem signature_binds_iff (hmac : Hmac) (hinjective : Function.Injective2 hmac.sum) (eventID eventID₀ : Bytes)
    (htrimmed : Bytes.trimSpace eventID = eventID) :
    BindsOneEvent hmac eventID eventID₀ ↔ Unconfusable eventID eventID₀ := by
  constructor
  · intro h
    constructor
    · intro hleads
      obtain ⟨payload₀, hne, hframe⟩ := Framing.exists_append_sep_eq hleads []
      have heventID : eventID ≠ [] := by
        rintro rfl
        simp at hleads
      exact hne (h.payload_eq htrimmed heventID hframe.symm).symm
    · by_cases hempty : eventID = []
      · exact .inl hempty
      · right
        intro hleads
        obtain ⟨payload, hne, hframe⟩ := Framing.exists_append_sep_eq hleads []
        exact hne (h.payload_eq htrimmed hempty hframe)
  · rintro ⟨hleads, hled⟩ v now request store store' verified secret part payload₀ timestamp timestamp₀ hid hverify
      - - ⟨matching, -, hmatched⟩ - hpart
    obtain ⟨timestampUnix, hpassed, -, -⟩ := verify_eq_ok.mp hverify
    have hne : eventID ≠ [] := by
      rw [← htrimmed, ← hid]
      exact hpassed.eventID
    obtain ⟨htimestamp, hframe⟩ := signedBytes_eq_iff.mp (signedBytes_eq_of_matched hinjective hpart hmatched)
    rcases Framing.append_sep_cases hframe with ⟨heventID, hpayload⟩ | hcontinues | hcontinued
    · exact ⟨heventID, htimestamp, hpayload⟩
    · exact absurd hcontinues (hled.resolve_left hne)
    · exact absurd hcontinued hleads

/-! ### An injective keyed hash -/

/-- A keyed hash that is injective, in place of the one that is only treated so. -/
def hexHmac : Hmac where
  sum key message := Bytes.hexEncode key ++ 0 :: message
  sized _ := true
  sized_sum _ _ := rfl

theorem hexHmac_injective : Function.Injective2 hexHmac.sum := by
  have hzero : ∀ key : Bytes, (0 : UInt8) ∉ Bytes.hexEncode key := by
    intro key hmem
    have hvisible := (Bytes.of_mem_hexEncode hmem).1
    simp [Bytes.visible] at hvisible
  intro key key' message message' h
  obtain ⟨hkey, hmessage⟩ := Framing.eq_of_append_sep (hzero key) (hzero key') h
  have hdecode := congrArg Bytes.hexDecode hkey
  rw [Bytes.hexDecode_hexEncode, Bytes.hexDecode_hexEncode] at hdecode
  exact ⟨Option.some.inj hdecode, hmessage⟩

theorem signature_binds_undotted : BindsOneEvent hexHmac (Bytes.ofText "evt_1") (Bytes.ofText "evt_2") :=
  (signature_binds_iff hexHmac hexHmac_injective (Bytes.ofText "evt_1") (Bytes.ofText "evt_2") (by decide)).mpr
    (by decide)

/-- The signature of event `evt_1` with payload `0.10` is accepted for event `evt_1.0` with payload `10`. -/
theorem signature_rebound : ¬ BindsOneEvent hexHmac (Bytes.ofText "evt_1.0") (Bytes.ofText "evt_1") := by
  intro h
  have hframe : Bytes.ofText "evt_1.0" ++ 46 :: Bytes.ofText "10" =
      Bytes.ofText "evt_1" ++ 46 :: Bytes.ofText "0.10" := by decide
  have hpayload := h.payload_eq (by decide) (by decide) hframe
  revert hpayload
  decide

end FulfillHub
