import FulfillHub.Commerce.Service

/-!
# Accepted commands

What `validateCreateOrder` requires, read as a property of the command: the validator collects a field error for
each requirement that fails, so a command is accepted exactly when it meets all of them.
-/

namespace FulfillHub

variable {seen : List (String × Nat)} {idx : Nat}

/-- The requirements on one line of an order in the given currency. -/
structure OrderItemInput.Valid (currency : String) (item : OrderItemInput) : Prop where
  sku : Text.trimSpace item.sku ≠ ""
  quantity : 1 ≤ item.quantity
  amount : 0 ≤ item.unitPrice.amount
  currency : item.unitPrice.currency = currency

/-- The requirements on a command. -/
structure CreateOrderCommand.Valid (merchantID idempotencyKey : String) (req : CreateOrderCommand) : Prop where
  merchantID : notBlank merchantID = true
  idempotencyKey : 12 ≤ Text.len (Text.trimSpace idempotencyKey)
  externalOrderID : notBlank req.externalOrderID = true
  currency : Text.len req.currency = 3
  email : notBlank req.customer.email = true
  country : notBlank req.shippingAddress.country = true
  nonempty : req.items ≠ []
  items : ∀ item ∈ req.items, item.Valid req.currency
  skus : (req.items.map fun item => Text.trimSpace item.sku).Nodup
  provider : notBlank req.paymentMethod.provider = true
  paymentToken : notBlank req.paymentMethod.paymentToken = true

theorem requireField_eq_nil {ok : Bool} {field issue : String} : requireField ok field issue = [] ↔ ok = true := by
  cases ok <;> simp [requireField]

theorem skuErrors_eq_nil {sku : String} : skuErrors seen idx sku = [] ↔ sku ≠ "" ∧ seen.lookup sku = none := by
  unfold skuErrors
  by_cases hblank : sku = ""
  · simp [hblank]
  · cases seen.lookup sku <;> simp [hblank]

theorem lookup_seeSku {sku other : String} (hsku : sku ≠ "") (hnew : seen.lookup sku = none) :
    (seeSku seen idx sku).lookup other = none ↔ other ≠ sku ∧ seen.lookup other = none := by
  simp only [seeSku, hsku, hnew, Option.isSome_none, Bool.false_eq_true, or_self, if_false, List.lookup_cons]
  by_cases hother : other = sku
  · simp [hother]
  · simp [hother, beq_false_of_ne hother]

/-- The lines have no errors when each of them is valid and no SKU repeats one seen before. -/
theorem itemErrors_eq_nil {currency : String} {items : List OrderItemInput} :
    itemErrors currency seen idx items = [] ↔
      (∀ item ∈ items, item.Valid currency) ∧ (items.map fun item => Text.trimSpace item.sku).Nodup ∧
        ∀ item ∈ items, seen.lookup (Text.trimSpace item.sku) = none := by
  induction items generalizing seen idx with
  | nil => simp [itemErrors]
  | cons item items ih =>
    simp only [itemErrors, List.append_eq_nil_iff, skuErrors_eq_nil, requireField_eq_nil, decide_eq_true_eq, ih]
    constructor
    · rintro ⟨⟨⟨⟨⟨hsku, hnew⟩, hquantity⟩, hamount⟩, hcurrency⟩, hitems, hskus, hseen⟩
      simp only [lookup_seeSku hsku hnew] at hseen
      refine ⟨?_, ?_, ?_⟩
      · exact List.forall_mem_cons.mpr ⟨⟨hsku, hquantity, hamount, hcurrency⟩, hitems⟩
      · simpa [hskus] using fun other hother => ((hseen other hother).1)
      · exact List.forall_mem_cons.mpr ⟨hnew, fun other hother => (hseen other hother).2⟩
    · rintro ⟨hvalid, hskus, hseen⟩
      obtain ⟨hsku, hquantity, hamount, hcurrency⟩ := hvalid item List.mem_cons_self
      have hnew := hseen item List.mem_cons_self
      obtain ⟨hfirst, hrest⟩ := List.nodup_cons.mp hskus
      refine ⟨⟨⟨⟨⟨hsku, hnew⟩, hquantity⟩, hamount⟩, hcurrency⟩, ?_, hrest, ?_⟩
      · intro other hother
        exact hvalid other (List.mem_cons_of_mem _ hother)
      · intro other hother
        rw [lookup_seeSku hsku hnew]
        refine ⟨?_, hseen other (List.mem_cons_of_mem _ hother)⟩
        intro heq
        exact hfirst (List.mem_map.mpr ⟨other, hother, heq⟩)

theorem validateCreateOrder_eq_ok {merchantID idempotencyKey : String} {req : CreateOrderCommand} :
    validateCreateOrder merchantID idempotencyKey req = .ok () ↔ req.Valid merchantID idempotencyKey := by
  have hresult : validateCreateOrder merchantID idempotencyKey req = .ok () ↔
      createOrderErrors merchantID idempotencyKey req = [] := by
    unfold validateCreateOrder validationResult
    cases createOrderErrors merchantID idempotencyKey req <;> simp
  rw [hresult]
  simp only [createOrderErrors, List.append_eq_nil_iff, requireField_eq_nil, itemErrors_eq_nil, decide_eq_true_eq]
  constructor
  · rintro ⟨⟨⟨⟨⟨⟨⟨⟨⟨hmerchant, hkey⟩, hexternal⟩, hcurrency⟩, hemail⟩, hcountry⟩, hitems⟩, hvalid, hskus, -⟩,
      hprovider⟩, htoken⟩
    exact ⟨hmerchant, hkey, hexternal, hcurrency, hemail, hcountry, by simpa using hitems, hvalid, hskus, hprovider,
      htoken⟩
  · intro h
    exact ⟨⟨⟨⟨⟨⟨⟨⟨⟨h.merchantID, h.idempotencyKey⟩, h.externalOrderID⟩, h.currency⟩, h.email⟩, h.country⟩,
      by simpa using h.nonempty⟩, h.items, h.skus, by simp⟩, h.provider⟩, h.paymentToken⟩

end FulfillHub
