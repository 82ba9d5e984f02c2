import FulfillHub.Commerce.Model

/-!
# The order state machine

`internal/commerce/state_machine.go`: which statuses exist and which moves between them are valid.
Staying in a valid status counts as a valid move.
-/

namespace FulfillHub

def validOrderStatuses : List OrderStatus :=
  [.pendingFulfillment, .inventoryReserved, .paymentAuthorized, .shipmentCreated,
    .cancellationPending, .manualReview, .cancelled, .completed, .failed]

def isValidOrderStatus (status : OrderStatus) : Bool := validOrderStatuses.contains status

def canTransitionOrderStatus (source target : OrderStatus) : Bool :=
  if source = target then isValidOrderStatus target
  else
    match source with
    | .pendingFulfillment =>
      match target with
      | .inventoryReserved | .cancellationPending | .failed => true
      | _ => false
    | .inventoryReserved =>
      match target with
      | .paymentAuthorized | .cancellationPending | .cancelled => true
      | _ => false
    | .paymentAuthorized =>
      match target with
      | .shipmentCreated | .cancellationPending => true
      | _ => false
    | .shipmentCreated =>
      match target with
      | .completed | .cancellationPending => true
      | _ => false
    | .cancellationPending =>
      match target with
      | .cancelled | .manualReview => true
      | _ => false
    | _ => false

def validateOrderTransition (source target : OrderStatus) : Except Error Unit :=
  if !isValidOrderStatus source then
    .error (.wrap .invalidStateTransition
      ("invalid state transition: unknown source order status " ++ Text.quote source.text))
  else if !isValidOrderStatus target then
    .error (.wrap .invalidStateTransition
      ("invalid state transition: unknown target order status " ++ Text.quote target.text))
  else if !canTransitionOrderStatus source target then
    .error (.wrap .invalidStateTransition ("invalid state transition: cannot move order from " ++
      Text.quote source.text ++ " to " ++ Text.quote target.text))
  else .ok ()

/-- A terminal status is left by no move. -/
def OrderStatus.isTerminal : OrderStatus → Bool
  | .completed | .cancelled | .failed | .manualReview => true
  | _ => false

@[simp] theorem canTransitionOrderStatus_self (status : OrderStatus) :
    canTransitionOrderStatus status status = isValidOrderStatus status := by
  simp [canTransitionOrderStatus]

theorem isValid_of_canTransition {source target : OrderStatus} (h : canTransitionOrderStatus source target = true) :
    isValidOrderStatus source = true ∧ isValidOrderStatus target = true := by
  by_cases heq : source = target
  · subst heq
    simpa [canTransitionOrderStatus] using h
  · cases source <;> cases target <;> simp_all [canTransitionOrderStatus] <;> decide

/-- The validation accepts exactly the moves of the state machine. -/
theorem validateOrderTransition_eq_ok {source target : OrderStatus} :
    validateOrderTransition source target = .ok () ↔ canTransitionOrderStatus source target = true := by
  unfold validateOrderTransition
  constructor
  · intro h
    split_ifs at h with hsource htarget hmove
    simpa using hmove
  · intro h
    obtain ⟨hsource, htarget⟩ := isValid_of_canTransition h
    simp [hsource, htarget, h]

theorem validateOrderTransition_eq_error {source target : OrderStatus}
    (h : canTransitionOrderStatus source target = false) :
    ∃ text, validateOrderTransition source target = .error (.wrap .invalidStateTransition text) := by
  unfold validateOrderTransition
  split_ifs with hsource htarget hmove
  · exact ⟨_, rfl⟩
  · exact ⟨_, rfl⟩
  · exact ⟨_, rfl⟩
  · simp [h] at hmove

end FulfillHub
