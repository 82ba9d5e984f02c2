import FulfillHub.Commerce.StateMachine

/-!
# The lifecycle of one order

What the saga does to a single order, without stores, threads or messages. The forward stages run
placed, reserved, authorized, shipped, each of the first three with its failure; independently of them
the order has a status, may have been asked to be cancelled, and may have given back what it held. A
move is one act on the order. Its guard is what the causation of events and one success per event and
queue leave of the act, its target the status the store checks.

Stock, payment and shipment are functions of the phase.
-/

namespace FulfillHub

inductive Stage
  | placed
  | rejected
  | reserved
  | payFailed
  | authorized
  | shipFailed
  | shipped
  deriving DecidableEq

structure Phase where
  stage : Stage
  status : OrderStatus
  requested : Bool
  released : Bool
  deriving DecidableEq

inductive Move
  | reserve
  | reject
  | authorize
  | failPayment
  | ship
  | failShipment
  | complete
  | request
  | review
  | cancel
  | compensateStock
  | compensatePayment
  | compensateShipment
  deriving DecidableEq

namespace Move

def target : Move → Option OrderStatus
  | .reserve => some .inventoryReserved
  | .authorize => some .paymentAuthorized
  | .ship => some .shipmentCreated
  | .complete => some .completed
  | .request | .compensateShipment => some .cancellationPending
  | .review => some .manualReview
  | .cancel | .compensatePayment => some .cancelled
  | .compensateStock => some .failed
  | .reject | .failPayment | .failShipment => none

def Guard (p : Phase) : Move → Prop
  | .reserve | .reject => p.stage = .placed
  | .authorize | .failPayment => p.stage = .reserved
  | .ship | .failShipment => p.stage = .authorized
  | .complete => p.stage = .shipped ∧ p.status ≠ .completed
  | .request => True
  | .review => p.stage = .shipped ∧ p.requested = true
  | .cancel => p.requested = true
  | .compensateStock => p.stage = .rejected ∧ p.status ≠ .failed
  | .compensatePayment => p.stage = .payFailed
  | .compensateShipment => p.stage = .shipFailed

/-- The stage after a move. -/
def stage : Move → Stage → Stage
  | .reserve, _ => .reserved
  | .reject, _ => .rejected
  | .authorize, _ => .authorized
  | .failPayment, _ => .payFailed
  | .ship, _ => .shipped
  | .failShipment, _ => .shipFailed
  | _, stage => stage

def releases : Move → Bool
  | .cancel | .compensatePayment | .compensateShipment => true
  | _ => false

def apply (m : Move) (p : Phase) : Phase where
  stage := m.stage p.stage
  status := m.target.getD p.status
  requested := m == .request || p.requested
  released := m.releases || p.released

end Move

def Phase.start : Phase := ⟨.placed, .pendingFulfillment, false, false⟩

structure Phase.Step (p : Phase) (m : Move) (p' : Phase) : Prop where
  guarded : m.Guard p
  target : ∀ status, m.target = some status → canTransitionOrderStatus p.status status = true
  eq : p' = m.apply p

/-! ### The phases an order can be in -/

/-- The statuses that go with a stage. -/
def Stage.statuses : Stage → List OrderStatus
  | .placed => [.pendingFulfillment, .cancellationPending, .cancelled]
  | .rejected => [.pendingFulfillment, .failed, .cancellationPending, .cancelled]
  | .reserved | .payFailed => [.inventoryReserved, .cancellationPending, .cancelled]
  | .authorized | .shipFailed => [.paymentAuthorized, .cancellationPending, .cancelled]
  | .shipped => [.shipmentCreated, .completed, .cancellationPending, .manualReview, .cancelled]

structure Phase.Consistent (p : Phase) : Prop where
  status : p.status ∈ p.stage.statuses
  requested : p.requested = true → p.status ∈ [.cancellationPending, .cancelled, .manualReview]
  released : p.released = true →
    p.status = .cancelled ∨ p.status = .cancellationPending ∧ p.stage = .shipFailed
  cancelled : p.status = .cancelled → p.released = true
  pending : p.status = .cancellationPending → p.requested = true ∨ p.stage = .shipFailed
  review : p.status = .manualReview → p.requested = true

instance (p : Phase) (m : Move) : Decidable (m.Guard p) := by
  cases m <;> unfold Move.Guard <;> infer_instance

instance (p : Phase) : Decidable p.Consistent :=
  decidable_of_iff (p.status ∈ p.stage.statuses ∧
      (p.requested = true → p.status ∈ [.cancellationPending, .cancelled, .manualReview]) ∧
      (p.released = true →
        p.status = .cancelled ∨ p.status = .cancellationPending ∧ p.stage = .shipFailed) ∧
      (p.status = .cancelled → p.released = true) ∧
      (p.status = .cancellationPending → p.requested = true ∨ p.stage = .shipFailed) ∧
      (p.status = .manualReview → p.requested = true))
    ⟨fun ⟨h₁, h₂, h₃, h₄, h₅, h₆⟩ => ⟨h₁, h₂, h₃, h₄, h₅, h₆⟩,
      fun ⟨h₁, h₂, h₃, h₄, h₅, h₆⟩ => ⟨h₁, h₂, h₃, h₄, h₅, h₆⟩⟩

theorem Phase.start_consistent : Phase.start.Consistent := by decide

theorem Move.apply_consistent (stage : Stage) (m : Move) :
    ∀ status ∈ stage.statuses, ∀ requested released : Bool,
      Phase.Consistent ⟨stage, status, requested, released⟩ →
      m.Guard ⟨stage, status, requested, released⟩ →
      m.target.all (canTransitionOrderStatus status) = true →
      (m.apply ⟨stage, status, requested, released⟩).Consistent := by
  cases stage <;> cases m <;> decide

theorem Phase.Step.consistent {p p' : Phase} {m : Move} (h : p.Step m p') (hp : p.Consistent) : p'.Consistent := by
  obtain ⟨hguard, htarget, rfl⟩ := h
  refine Move.apply_consistent p.stage m p.status hp.status p.requested p.released hp hguard ?_
  cases hm : m.target with
  | none => rfl
  | some status => exact htarget status hm

/-! ### Events, stock, payment and shipment of a phase -/

/-- The stage events of an order. -/
def Stage.events : Stage → List EventType
  | .placed => []
  | .rejected => [.inventoryRejected]
  | .reserved => [.inventoryReserved]
  | .payFailed => [.inventoryReserved, .paymentFailed]
  | .authorized => [.inventoryReserved, .paymentAuthorized]
  | .shipFailed => [.inventoryReserved, .paymentAuthorized, .shipmentFailed]
  | .shipped => [.inventoryReserved, .paymentAuthorized, .shipmentCreated]

def Phase.itemStatus (p : Phase) : ReservationStatus :=
  match p.stage with
  | .placed => .pending
  | .rejected => .rejected
  | _ => if p.released then .released else .reserved

def Phase.paymentStatus (p : Phase) : PaymentStatus :=
  match p.stage with
  | .placed | .rejected | .reserved => .pendingAuthorization
  | .payFailed => .failed
  | _ => if p.released then .voided else .authorized

def Phase.shipmentStatus (p : Phase) : Option ShipmentStatus :=
  match p.stage with
  | .shipFailed => some .failed
  | .shipped => some .created
  | _ => none

end FulfillHub
