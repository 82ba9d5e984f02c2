import FulfillHub.Commerce.Validation

/-!
# Order totals

The service computes the totals of an order in 64-bit arithmetic: one product for each line, added up from the
first line on, and the shipping amount at the end. The validator bounds quantities and prices only from below. All
terms are then non-negative, so nothing wraps exactly when the last and largest sum fits.
-/

namespace FulfillHub

/-- The sum of all lines, as an integer. -/
def linesTotal (items : List OrderItemInput) : Int :=
  (items.map fun item => item.quantity * item.unitPrice.amount).sum

def FitsInt64 (n : Int) : Prop := -2 ^ 63 ≤ n ∧ n < 2 ^ 63

instance : DecidablePred FitsInt64 := fun _ => inferInstanceAs (Decidable (_ ∧ _))

/-- The totals of an order are those of the lines it was created from, no product and no partial sum on the way to
them wraps, and the shipping amount is charged at least. -/
structure ExactTotals (items : List OrderItemInput) (totals : OrderTotals) : Prop where
  subtotal : totals.subtotal.amount = linesTotal items
  total : totals.total.amount = linesTotal items + totals.shipping.amount
  products : ∀ item ∈ items, FitsInt64 (item.quantity * item.unitPrice.amount)
  partialSums : ∀ k, FitsInt64 (linesTotal (items.take k))
  charged : totals.shipping.amount ≤ totals.total.amount

@[simp] theorem linesTotal_cons (item : OrderItemInput) (items : List OrderItemInput) :
    linesTotal (item :: items) = item.quantity * item.unitPrice.amount + linesTotal items := by
  simp [linesTotal]

theorem wrapInt64_eq_self {n : Int} (h : FitsInt64 n) : wrapInt64 n = n := by
  unfold FitsInt64 at h
  rw [wrapInt64, Int.bmod_def]
  omega

theorem fitsInt64_wrapInt64 (n : Int) : FitsInt64 (wrapInt64 n) := by
  rw [FitsInt64, wrapInt64, Int.bmod_def]
  omega

section Lines

variable {items : List OrderItemInput}

/-- No line takes anything off the sum. -/
def NonNegative (items : List OrderItemInput) : Prop :=
  ∀ item ∈ items, 0 ≤ item.quantity * item.unitPrice.amount

theorem NonNegative.sum_nonneg (h : NonNegative items) : 0 ≤ linesTotal items := by
  induction items with
  | nil => simp [linesTotal]
  | cons item items ih =>
    obtain ⟨hitem, hitems⟩ := List.forall_mem_cons.mp h
    have hrest := ih hitems
    rw [linesTotal_cons]
    omega

/-- Every line and every partial sum is between zero and the whole sum. -/
theorem NonNegative.line_le (h : NonNegative items) {item : OrderItemInput} (hitem : item ∈ items) :
    item.quantity * item.unitPrice.amount ≤ linesTotal items := by
  induction items with
  | nil => simp at hitem
  | cons first items ih =>
    obtain ⟨hfirst, hitems⟩ := List.forall_mem_cons.mp h
    have hrest := NonNegative.sum_nonneg hitems
    rw [linesTotal_cons]
    rcases List.mem_cons.mp hitem with rfl | hitem
    · omega
    · have hle := ih hitems hitem
      omega

theorem NonNegative.take_le (h : NonNegative items) (k : Nat) :
    0 ≤ linesTotal (items.take k) ∧ linesTotal (items.take k) ≤ linesTotal items := by
  have htake : NonNegative (items.take k) := fun item hitem => h item (List.mem_of_mem_take hitem)
  have hdrop : NonNegative (items.drop k) := fun item hitem => h item (List.mem_of_mem_drop hitem)
  have hsplit : linesTotal items = linesTotal (items.take k) + linesTotal (items.drop k) := by
    rw [linesTotal, linesTotal, linesTotal, ← List.sum_append, ← List.map_append, List.take_append_drop]
  have hrest := hdrop.sum_nonneg
  refine ⟨htake.sum_nonneg, ?_⟩
  omega

theorem foldl_lines (h : NonNegative items) {amount : Int} (hamount : 0 ≤ amount)
    (hfits : amount + linesTotal items < 2 ^ 63) :
    items.foldl (fun amount item => wrapInt64 (amount + wrapInt64 (item.quantity * item.unitPrice.amount))) amount =
      amount + linesTotal items := by
  induction items generalizing amount with
  | nil => simp [linesTotal]
  | cons item items ih =>
    obtain ⟨hitem, hitems⟩ := List.forall_mem_cons.mp h
    have hrest := NonNegative.sum_nonneg hitems
    rw [linesTotal_cons] at hfits ⊢
    have hproduct : wrapInt64 (item.quantity * item.unitPrice.amount) = item.quantity * item.unitPrice.amount :=
      wrapInt64_eq_self (by unfold FitsInt64; omega)
    have hsum : wrapInt64 (amount + item.quantity * item.unitPrice.amount) =
        amount + item.quantity * item.unitPrice.amount :=
      wrapInt64_eq_self (by unfold FitsInt64; omega)
    rw [List.foldl_cons, hproduct, hsum, ih hitems (by omega) (by omega)]
    omega

end Lines

theorem nonNegative_of_accepted {merchantID idempotencyKey : String} {req : CreateOrderCommand}
    (haccepted : validateCreateOrder merchantID idempotencyKey req = .ok ()) : NonNegative req.items := by
  intro item hitem
  have hvalid := (validateCreateOrder_eq_ok.mp haccepted).items item hitem
  have hquantity := hvalid.quantity
  exact mul_nonneg (by omega) hvalid.amount

theorem subtotalAmount_of_fits {items : List OrderItemInput} (h : NonNegative items)
    (hfits : linesTotal items < 2 ^ 63) : subtotalAmount items = linesTotal items := by
  simpa [subtotalAmount] using foldl_lines h (le_refl 0) (by omega)

theorem totalAmount_of_fits {items : List OrderItemInput} (h : NonNegative items)
    (hfits : linesTotal items + 1200 < 2 ^ 63) : wrapInt64 (subtotalAmount items + 1200) = linesTotal items + 1200 := by
  have hzero := h.sum_nonneg
  rw [subtotalAmount_of_fits h (by omega)]
  exact wrapInt64_eq_self (by unfold FitsInt64; omega)

/-- **The totals of an accepted order are exact exactly when the whole charge fits in 64 bits.** -/
theorem totals_exact_iff (svc : Service) (merchantID idempotencyKey : String) (req : CreateOrderCommand)
    (haccepted : validateCreateOrder merchantID idempotencyKey req = .ok ()) (orderID : String) (now : Time) :
    ExactTotals req.items (svc.newOrder merchantID req orderID now).totals ↔
      linesTotal req.items + 1200 < 2 ^ 63 := by
  have hnonneg := nonNegative_of_accepted haccepted
  have hzero := hnonneg.sum_nonneg
  constructor
  · intro h
    have hfits := fitsInt64_wrapInt64 (subtotalAmount req.items + 1200)
    have htotal : wrapInt64 (subtotalAmount req.items + 1200) = linesTotal req.items + 1200 := h.total
    rw [htotal] at hfits
    exact hfits.2
  · intro hfits
    have htotal := totalAmount_of_fits hnonneg hfits
    refine ⟨subtotalAmount_of_fits hnonneg (by omega), htotal, ?_, ?_, ?_⟩
    · intro item hitem
      have hle := hnonneg.line_le hitem
      have hge := hnonneg item hitem
      unfold FitsInt64
      omega
    · intro k
      have hbounds := hnonneg.take_le k
      unfold FitsInt64
      omega
    · change 1200 ≤ wrapInt64 (subtotalAmount req.items + 1200)
      rw [htotal]
      omega

/-- A command with one line, at the given quantity and price. -/
def oneLineCommand (quantity amount : Int) : CreateOrderCommand where
  externalOrderID := "e1"
  currency := "USD"
  customer := ⟨"c1", "c1@example.com", "C"⟩
  shippingAddress := ⟨"1 Main St", "", "Springfield", "", "", "US"⟩
  items := [⟨"sku-1", quantity, ⟨amount, "USD"⟩⟩]
  paymentMethod := ⟨"fake-payment", "token"⟩

theorem totals_exact_oneLine :
    ExactTotals (oneLineCommand 2 500).items
      ((⟨fun _ => "", fun c => c⟩ : Service).newOrder "m1" (oneLineCommand 2 500) "ord_1" 1).totals :=
  (totals_exact_iff ⟨fun _ => "", fun c => c⟩ "m1" "idempotency-key-1" (oneLineCommand 2 500) (by decide +kernel)
    "ord_1" 1).mpr (by decide)

/-- Two units at `2 ^ 62` are accepted and charged at a negative total. -/
theorem totals_wrapped :
    validateCreateOrder "m1" "idempotency-key-1" (oneLineCommand 2 (2 ^ 62)) = .ok () ∧
      ((⟨fun _ => "", fun c => c⟩ : Service).newOrder "m1" (oneLineCommand 2 (2 ^ 62)) "ord_1" 1).totals.total.amount
        = 1200 - 2 ^ 63 ∧
      ¬ ExactTotals (oneLineCommand 2 (2 ^ 62)).items
        ((⟨fun _ => "", fun c => c⟩ : Service).newOrder "m1" (oneLineCommand 2 (2 ^ 62)) "ord_1" 1).totals := by
  refine ⟨by decide +kernel, by decide, ?_⟩
  intro h
  have hcharged := h.charged
  revert hcharged
  decide

end FulfillHub
