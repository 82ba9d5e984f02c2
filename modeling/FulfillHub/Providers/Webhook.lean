import FulfillHub.Library.Expiring
import FulfillHub.Providers.Bytes

/-!
# Signed provider webhooks

`internal/providers/webhook.go`: the signature over a webhook, its verification, and the store that refuses
replays. Texts are arbitrary bytes. Instants are nanoseconds since the Unix epoch and durations nanoseconds, both
as integers: the wrap-around of Go's clock, billions of years away, is not modelled. The replay store is passed
along as state, and the instant `Verify` reads from its clock is an argument.
-/

namespace FulfillHub

/-- HMAC-SHA256. The test of a decoded signature's length against `sha256.Size` is a field, so that the keyed
hash can also be read as an injective function, which no fixed output length allows. -/
structure Hmac where
  sum : Bytes → Bytes → Bytes
  sized : Bytes → Bool
  sized_sum (key message : Bytes) : sized (sum key message) = true

inductive WebhookError
  | providerMissing
  | secretMissing
  | eventIDMissing
  | timestampMissing
  | signatureMissing
  | timestampInvalid
  | timestampOutOfWindow
  | signatureInvalid
  | replay
  | replayStoreUnavailable (cause : String)
  deriving DecidableEq

structure WebhookRequest where
  eventID : Bytes
  timestamp : Bytes
  signature : Bytes
  payload : Bytes
  deriving DecidableEq

structure VerifiedWebhook where
  provider : Bytes
  eventID : Bytes
  timestamp : Int
  receivedAt : Int
  replayExpiresAt : Int
  deriving DecidableEq

/-- The replay store of a verifier: none, a nil `MemoryWebhookReplayStore`, or one with its entries. -/
inductive ReplayStore
  | none
  | nilMemory
  | memory (seen : Bytes → Option Int)

structure WebhookVerifier where
  provider : Bytes
  currentSecret : Bytes
  previousSecrets : List Bytes
  tolerance : Int
  replayTTL : Int

def second : Int := 1000000000

def defaultWebhookTolerance : Int := 5 * 60 * second

def defaultWebhookReplayTTL : Int := 24 * 3600 * second

/-! ### Signatures -/

/-- The bytes under the signature: the timestamp, the event id and the payload with dots between them. -/
def signedBytes (eventID : Bytes) (timestamp : Int) (payload : Bytes) : Bytes :=
  Bytes.formatInt timestamp ++ 46 :: (eventID ++ 46 :: payload)

namespace Hmac

variable (hmac : Hmac)

def webhookDigest (secret eventID : Bytes) (timestamp : Int) (payload : Bytes) : Bytes :=
  hmac.sum secret (signedBytes eventID timestamp payload)

def signWebhook (secret eventID : Bytes) (timestamp : Int) (payload : Bytes) : Bytes :=
  Bytes.ofText "v1=" ++ Bytes.hexEncode (hmac.webhookDigest secret eventID timestamp payload)

/-- The digest in one part of a signature header, if it is a signature of version 1. -/
def signatureOf (part : Bytes) : Option Bytes :=
  let part := Bytes.trimSpace part
  if 61 ∈ part ∧ part.takeWhile (· ≠ 61) = Bytes.ofText "v1" then
    match Bytes.hexDecode (Bytes.trimSpace (part.dropWhile (· ≠ 61)).tail) with
    | some decoded => if hmac.sized decoded then some decoded else none
    | none => none
  else none

def parseWebhookSignatures (header : Bytes) : List Bytes := (header.splitOn 44).filterMap hmac.signatureOf

def matchesSignature (secrets : List Bytes) (eventID : Bytes) (timestamp : Int) (payload : Bytes)
    (signatures : List Bytes) : Bool :=
  secrets.any fun secret => signatures.any fun got => got = hmac.webhookDigest secret eventID timestamp payload

variable {hmac}

theorem matchesSignature_eq_true {secrets : List Bytes} {eventID : Bytes} {timestamp : Int} {payload : Bytes}
    {signatures : List Bytes} :
    hmac.matchesSignature secrets eventID timestamp payload signatures = true ↔
      ∃ secret ∈ secrets, hmac.webhookDigest secret eventID timestamp payload ∈ signatures := by
  simp [matchesSignature]

end Hmac

/-! ### The replay store -/

/-- `RecordWebhook` on the store a verifier holds; without a store nothing is recorded or refused. -/
def ReplayStore.recordWebhook (provider eventID : Bytes) (receivedAt expiresAt : Int) :
    ReplayStore → Except String Bool × ReplayStore
  | .none => (.ok true, .none)
  | .nilMemory => (.error "nil memory webhook replay store", .nilMemory)
  | .memory seen =>
    let recorded := Expiring.record seen (provider ++ 0 :: eventID) receivedAt expiresAt
    (.ok recorded.1, .memory recorded.2)

/-! ### Verification -/

namespace WebhookVerifier

variable (hmac : Hmac) (v : WebhookVerifier)

def secrets : List Bytes :=
  ((v.currentSecret :: v.previousSecrets).map Bytes.trimSpace).filter (· ≠ [])

/-- A zero tolerance stands for the default. -/
def effectiveTolerance : Int := if v.tolerance = 0 then defaultWebhookTolerance else v.tolerance

/-- A zero time to live stands for the default. -/
def effectiveReplayTTL : Int := if v.replayTTL = 0 then defaultWebhookReplayTTL else v.replayTTL

/-- The checks of `Verify` before the replay store is asked; the result is the parsed timestamp. -/
def checkRequest (now : Int) (request : WebhookRequest) : Except WebhookError Int :=
  if Bytes.trimSpace v.provider = [] then .error .providerMissing
  else if v.secrets = [] then .error .secretMissing
  else if Bytes.trimSpace request.eventID = [] then .error .eventIDMissing
  else if Bytes.trimSpace request.timestamp = [] then .error .timestampMissing
  else if Bytes.trimSpace request.signature = [] then .error .signatureMissing
  else
    match Bytes.parseInt (Bytes.trimSpace request.timestamp) with
    | none => .error .timestampInvalid
    | some timestampUnix =>
      let timestamp := timestampUnix * second
      if timestamp < now - v.effectiveTolerance ∨ now + v.effectiveTolerance < timestamp then
        .error .timestampOutOfWindow
      else if hmac.parseWebhookSignatures request.signature = [] then .error .signatureInvalid
      else if hmac.matchesSignature v.secrets (Bytes.trimSpace request.eventID) timestampUnix request.payload
          (hmac.parseWebhookSignatures request.signature) = false then .error .signatureInvalid
      else .ok timestampUnix

def verify (now : Int) (request : WebhookRequest) (store : ReplayStore) :
    Except WebhookError VerifiedWebhook × ReplayStore :=
  match v.checkRequest hmac now request with
  | .error err => (.error err, store)
  | .ok timestampUnix =>
    let provider := Bytes.trimSpace v.provider
    let eventID := Bytes.trimSpace request.eventID
    let expiresAt := now + v.effectiveReplayTTL
    let recorded := store.recordWebhook provider eventID now expiresAt
    match recorded.1 with
    | .error cause => (.error (.replayStoreUnavailable cause), recorded.2)
    | .ok accepted =>
      (if accepted then .ok ⟨provider, eventID, timestampUnix * second, now, expiresAt⟩ else .error .replay,
        recorded.2)

variable {hmac v} {now : Int} {request : WebhookRequest}

/-- What a request has passed when the replay store is asked about it. -/
structure Passed (hmac : Hmac) (v : WebhookVerifier) (now : Int) (request : WebhookRequest) (timestampUnix : Int) :
    Prop where
  provider : Bytes.trimSpace v.provider ≠ []
  eventID : Bytes.trimSpace request.eventID ≠ []
  timestamp : Bytes.parseInt (Bytes.trimSpace request.timestamp) = some timestampUnix
  notEarly : now - v.effectiveTolerance ≤ timestampUnix * second
  notLate : timestampUnix * second ≤ now + v.effectiveTolerance
  signature : Bytes.trimSpace request.signature ≠ []
  matched : ∃ secret ∈ v.secrets, hmac.webhookDigest secret (Bytes.trimSpace request.eventID) timestampUnix
    request.payload ∈ hmac.parseWebhookSignatures request.signature

theorem passed_of_checkRequest {timestampUnix : Int} (h : v.checkRequest hmac now request = .ok timestampUnix) :
    Passed hmac v now request timestampUnix := by
  unfold checkRequest at h
  cases hparsed : Bytes.parseInt (Bytes.trimSpace request.timestamp) with
  | none =>
    simp only [hparsed] at h
    split_ifs at h
  | some parsed =>
    simp only [hparsed] at h
    split_ifs at h with hprovider _ heventID _ hsignature hwindow _ hmatches
    obtain rfl := Except.ok.inj h
    rw [not_or, not_lt, not_lt] at hwindow
    have hmatched := Hmac.matchesSignature_eq_true.mp (by simpa using hmatches)
    exact ⟨hprovider, heventID, hparsed, hwindow.1, hwindow.2, hsignature, hmatched⟩

theorem Passed.checkRequest {timestampUnix : Int} (h : Passed hmac v now request timestampUnix) :
    v.checkRequest hmac now request = .ok timestampUnix := by
  obtain ⟨secret, hsecret, hmem⟩ := h.matched
  have hsecrets : v.secrets ≠ [] := List.ne_nil_of_mem hsecret
  have htimestamp : Bytes.trimSpace request.timestamp ≠ [] := by
    intro hempty
    have hparsed := h.timestamp
    rw [hempty] at hparsed
    simp [Bytes.parseInt, Bytes.parseNat] at hparsed
  have hwindow : ¬ (timestampUnix * second < now - v.effectiveTolerance ∨
      now + v.effectiveTolerance < timestampUnix * second) := by
    rw [not_or, not_lt, not_lt]
    exact ⟨h.notEarly, h.notLate⟩
  have hmatches := Hmac.matchesSignature_eq_true.mpr ⟨secret, hsecret, hmem⟩
  simp [WebhookVerifier.checkRequest, h.provider, hsecrets, h.eventID, htimestamp, h.signature, h.timestamp,
    hwindow, List.ne_nil_of_mem hmem, hmatches]

/-- A request is accepted when it passes the checks and the replay store takes it. -/
theorem verify_eq_ok {verified : VerifiedWebhook} {store store' : ReplayStore} :
    v.verify hmac now request store = (.ok verified, store') ↔
      ∃ timestampUnix, Passed hmac v now request timestampUnix ∧
        store.recordWebhook (Bytes.trimSpace v.provider) (Bytes.trimSpace request.eventID) now
          (now + v.effectiveReplayTTL) = (.ok true, store') ∧
        verified = ⟨Bytes.trimSpace v.provider, Bytes.trimSpace request.eventID, timestampUnix * second, now,
          now + v.effectiveReplayTTL⟩ := by
  constructor
  · intro h
    unfold verify at h
    cases hcheck : v.checkRequest hmac now request with
    | error err => simp [hcheck] at h
    | ok timestampUnix =>
      simp only [hcheck] at h
      refine ⟨timestampUnix, passed_of_checkRequest hcheck, ?_⟩
      split at h
      · cases h
      · rename_i accepted haccepted
        obtain ⟨hanswer, hstore⟩ := Prod.mk.inj h
        split_ifs at hanswer with htrue
        subst htrue
        exact ⟨Prod.ext haccepted hstore, (Except.ok.inj hanswer).symm⟩
  · rintro ⟨timestampUnix, hpassed, hrecord, rfl⟩
    simp [verify, hpassed.checkRequest, hrecord]

end WebhookVerifier

end FulfillHub
