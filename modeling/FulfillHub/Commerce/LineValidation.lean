import FulfillHub.Commerce.Validation
import FulfillHub.Library.Framing

/-!
# The issues of an order's lines

The loop of `validateCreateOrder` over the lines, index by index. It carries a map from each SKU to the first index that
has it. The map stands for the list of SKUs before the line at hand: looking a SKU up in it finds its first
index in that list. So what the loop reports for a line depends on the line and on the SKUs before it, and the text of
a report tells the line and the issue.
-/

namespace FulfillHub

/-- What can be wrong with a line. -/
inductive LineIssue
  | skuRequired
  | duplicate (first : Nat)
  | quantity
  | amount
  | currency

/-- The field of a line that is wrong. -/
def LineIssue.field : LineIssue → String
  | .skuRequired | .duplicate _ => "sku"
  | .quantity => "quantity"
  | .amount => "unit_price.amount"
  | .currency => "unit_price.currency"

def LineIssue.text : LineIssue → String
  | .skuRequired => "is required"
  | .duplicate first => "duplicates " ++ itemField first "sku"
  | .quantity => "must be greater than zero"
  | .amount => "must not be negative"
  | .currency => "must match order currency"

/-- The report of an issue of the line at an index. -/
def LineIssue.fieldError (idx : Nat) (issue : LineIssue) : FieldError := ⟨itemField idx issue.field, issue.text⟩

/-- The line has the issue, after lines with the given trimmed SKUs. -/
def OrderItemInput.Issue (currency : String) (earlier : List String) (item : OrderItemInput) : LineIssue → Prop
  | .skuRequired => Text.trimSpace item.sku = ""
  | .duplicate first => Text.trimSpace item.sku ≠ "" ∧ earlier.findIdx? (· = Text.trimSpace item.sku) = some first
  | .quantity => item.quantity < 1
  | .amount => item.unitPrice.amount < 0
  | .currency => item.unitPrice.currency ≠ currency

/-! ### Reports tell issues apart -/

theorem itemField_inj {idx idx' : Nat} {name name' : String} (h : itemField idx name = itemField idx' name') :
    idx = idx' ∧ name = name' := by
  have hdigits : ∀ n : Nat, ']' ∉ (toString n).toList := by
    intro n hmem
    rw [Nat.toString_eq_ofList_toDigits, String.toList_ofList] at hmem
    exact absurd (Nat.isDigit_of_mem_toDigits (by decide) (by decide) hmem) (by decide)
  have hlist := congrArg String.toList h
  simp only [itemField, String.toList_append, List.append_assoc] at hlist
  obtain ⟨hidx, hname⟩ := Framing.eq_of_append_sep (hdigits idx) (hdigits idx') (List.append_cancel_left hlist)
  have hdot : ['.'] ++ name.toList = ['.'] ++ name'.toList := hname
  exact ⟨Nat.repr_inj.mp (String.toList_injective hidx), String.toList_injective (List.append_cancel_left hdot)⟩

theorem LineIssue.text_injective : Function.Injective LineIssue.text := by
  have hduplicate : ∀ (first : Nat) (c : Char) (rest : List Char), c ≠ 'd' →
      ("duplicates " ++ itemField first "sku").toList ≠ c :: rest := by
    intro first c rest hc h
    rw [String.toList_append] at h
    exact hc (List.cons.inj h).1.symm
  intro issue issue' h
  have hlist := congrArg String.toList h
  cases issue with
  | duplicate first =>
    cases issue' with
    | duplicate first' =>
      have hfield := List.append_cancel_left
        ((String.toList_append ..).symm.trans (hlist.trans (String.toList_append ..)))
      rw [(itemField_inj (String.toList_injective hfield)).1]
    | skuRequired => exact absurd hlist (hduplicate first 'i' _ (by decide))
    | quantity => exact absurd hlist (hduplicate first 'm' _ (by decide))
    | amount => exact absurd hlist (hduplicate first 'm' _ (by decide))
    | currency => exact absurd hlist (hduplicate first 'm' _ (by decide))
  | _ =>
    cases issue' with
    | duplicate first => exact absurd hlist.symm (hduplicate first _ _ (by decide))
    | _ => first | rfl | exact absurd h (by decide)

theorem LineIssue.fieldError_inj {idx idx' : Nat} {issue issue' : LineIssue} :
    issue.fieldError idx = issue'.fieldError idx' ↔ idx = idx' ∧ issue = issue' := by
  constructor
  · intro h
    exact ⟨(itemField_inj (congrArg FieldError.field h)).1, text_injective (congrArg FieldError.issue h)⟩
  · rintro ⟨rfl, rfl⟩
    rfl

/-! ### The loop over the lines -/

section Loop

variable {seen : List (String × Nat)} {past : List String} {currency sku : String} {idx : Nat}
  {items : List OrderItemInput} {item : OrderItemInput} {e : FieldError}

/-- The map of seen SKUs finds the first index of each of them. -/
def Indexes (seen : List (String × Nat)) (past : List String) : Prop :=
  ∀ sku, sku ≠ "" → seen.lookup sku = past.findIdx? (· = sku)

theorem Indexes.seeSku (h : Indexes seen past) (sku : String) :
    Indexes (seeSku seen past.length sku) (past ++ [sku]) := by
  intro other hother
  rw [List.findIdx?_append, ← h other hother]
  unfold FulfillHub.seeSku
  by_cases hblank : sku = ""
  · simp [hblank, Ne.symm hother]
  · by_cases hsame : other = sku
    · subst hsame
      cases hlookup : seen.lookup other with
      | none => simp [hblank]
      | some first => simp [hlookup]
    · have hne : (other == sku) = false := beq_false_of_ne hsame
      split
      · simp [Ne.symm hsame]
      · simp [List.lookup_cons, hne, Ne.symm hsame]

theorem mem_requireField {ok : Bool} {field issue : String} :
    e ∈ requireField ok field issue ↔ ok = false ∧ e = ⟨field, issue⟩ := by
  cases ok <;> simp [requireField]

theorem mem_skuErrors : e ∈ skuErrors seen idx sku ↔
    (sku = "" ∧ e = LineIssue.skuRequired.fieldError idx) ∨
      ∃ first, (sku ≠ "" ∧ seen.lookup sku = some first) ∧ e = (LineIssue.duplicate first).fieldError idx := by
  unfold skuErrors
  by_cases hblank : sku = ""
  · simp [hblank, LineIssue.fieldError, LineIssue.field, LineIssue.text]
  · cases hlookup : seen.lookup sku with
    | none => simp [hblank]
    | some first => simp [hblank, LineIssue.fieldError, LineIssue.field, LineIssue.text]

theorem mem_itemErrors_cons (h : Indexes seen past) : e ∈ itemErrors currency seen past.length (item :: items) ↔
    (∃ issue, item.Issue currency past issue ∧ e = issue.fieldError past.length) ∨
      e ∈ itemErrors currency (seeSku seen past.length (Text.trimSpace item.sku)) (past.length + 1) items := by
  have hissue : (∃ issue, item.Issue currency past issue ∧ e = issue.fieldError past.length) ↔
      e ∈ skuErrors seen past.length (Text.trimSpace item.sku) ∨
        (item.quantity < 1 ∧ e = LineIssue.quantity.fieldError past.length) ∨
        (item.unitPrice.amount < 0 ∧ e = LineIssue.amount.fieldError past.length) ∨
        (item.unitPrice.currency ≠ currency ∧ e = LineIssue.currency.fieldError past.length) := by
    rw [mem_skuErrors]
    constructor
    · rintro ⟨issue, hissue, rfl⟩
      cases issue with
      | skuRequired => exact .inl (.inl ⟨hissue, rfl⟩)
      | duplicate first => exact .inl (.inr ⟨first, ⟨hissue.1, (h _ hissue.1).trans hissue.2⟩, rfl⟩)
      | quantity => exact .inr (.inl ⟨hissue, rfl⟩)
      | amount => exact .inr (.inr (.inl ⟨hissue, rfl⟩))
      | currency => exact .inr (.inr (.inr ⟨hissue, rfl⟩))
    · rintro ((⟨hblank, he⟩ | ⟨first, ⟨hsku, hfirst⟩, he⟩) | ⟨hquantity, he⟩ | ⟨hamount, he⟩ | ⟨hcurrency, he⟩)
      · exact ⟨.skuRequired, hblank, he⟩
      · exact ⟨.duplicate first, ⟨hsku, (h _ hsku).symm.trans hfirst⟩, he⟩
      · exact ⟨.quantity, hquantity, he⟩
      · exact ⟨.amount, hamount, he⟩
      · exact ⟨.currency, hcurrency, he⟩
  rw [hissue]
  simp only [itemErrors, List.mem_append, mem_requireField, decide_eq_false_iff_not, not_le, or_assoc]
  rfl

theorem findIdx?_take_eq_some {l : List String} {first : Nat} : (l.take idx).findIdx? (· = sku) = some first ↔
    first < idx ∧ l[first]? = some sku ∧ ∀ earlier, earlier < first → l[earlier]? ≠ some sku := by
  rw [List.findIdx?_eq_some_iff_getElem]
  simp only [List.length_take, List.getElem_take, decide_eq_true_eq, lt_min_iff]
  constructor
  · rintro ⟨⟨hidx, hlength⟩, hfirst, hbefore⟩
    refine ⟨hidx, List.getElem?_eq_some_iff.mpr ⟨hlength, hfirst⟩, ?_⟩
    intro earlier hearlier hsome
    exact hbefore earlier hearlier (List.getElem?_eq_some_iff.mp hsome).2
  · rintro ⟨hidx, hfirst, hbefore⟩
    obtain ⟨hlength, hfirst⟩ := List.getElem?_eq_some_iff.mp hfirst
    refine ⟨⟨hidx, hlength⟩, hfirst, ?_⟩
    intro earlier hearlier heq
    exact hbefore earlier hearlier (List.getElem?_eq_some_iff.mpr ⟨lt_trans hearlier hlength, heq⟩)

/-- What the loop reports depends at each line on the line and on the SKUs before it. -/
theorem mem_itemErrors (h : Indexes seen past) : e ∈ itemErrors currency seen past.length items ↔
    ∃ (j : Nat) (item : OrderItemInput) (issue : LineIssue), items[j]? = some item ∧
      item.Issue currency (past ++ (items.take j).map fun item => Text.trimSpace item.sku) issue ∧
      e = issue.fieldError (past.length + j) := by
  induction items generalizing past seen with
  | nil => simp [itemErrors]
  | cons item items ih =>
    have hlength : (past ++ [Text.trimSpace item.sku]).length = past.length + 1 := List.length_append
    have hrest := ih (h.seeSku (Text.trimSpace item.sku))
    rw [hlength] at hrest
    rw [mem_itemErrors_cons h, hrest]
    constructor
    · rintro (⟨issue, hissue, he⟩ | ⟨j, other, issue, hother, hissue, he⟩)
      · exact ⟨0, item, issue, rfl, by simpa using hissue, he⟩
      · refine ⟨j + 1, other, issue, hother, ?_, ?_⟩
        · simpa using hissue
        · rw [he, Nat.add_assoc, Nat.add_comm 1 j]
    · rintro ⟨j, other, issue, hother, hissue, he⟩
      cases j with
      | zero =>
        obtain rfl := Option.some.inj hother
        exact .inl ⟨issue, by simpa using hissue, he⟩
      | succ j =>
        refine .inr ⟨j, other, issue, hother, ?_, ?_⟩
        · simpa using hissue
        · rw [he, Nat.add_assoc, Nat.add_comm 1 j]

end Loop

/-! ### The validator -/

namespace CreateOrderCommand

variable (req : CreateOrderCommand)

def trimmedSku (idx : Nat) : Option String := req.items[idx]?.map fun item => Text.trimSpace item.sku

/-- The line at the index has the issue. -/
def HasIssue (idx : Nat) (issue : LineIssue) : Prop :=
  ∃ item, req.items[idx]? = some item ∧
    item.Issue req.currency ((req.items.take idx).map fun item => Text.trimSpace item.sku) issue

/-- The requirements on a command apart from its lines. -/
structure FieldsValid (merchantID idempotencyKey : String) : Prop where
  merchantID : notBlank merchantID = true
  idempotencyKey : 12 ≤ Text.len (Text.trimSpace idempotencyKey)
  externalOrderID : notBlank req.externalOrderID = true
  currency : Text.len req.currency = 3
  email : notBlank req.customer.email = true
  country : notBlank req.shippingAddress.country = true
  nonempty : req.items ≠ []
  provider : notBlank req.paymentMethod.provider = true
  paymentToken : notBlank req.paymentMethod.paymentToken = true

variable {req} {idx first : Nat} {issue : LineIssue}

theorem hasIssue_duplicate : req.HasIssue idx (.duplicate first) ↔
    ∃ sku, sku ≠ "" ∧ req.trimmedSku idx = some sku ∧ first < idx ∧ req.trimmedSku first = some sku ∧
      ∀ earlier, earlier < first → req.trimmedSku earlier ≠ some sku := by
  have hskus : ∀ k, req.trimmedSku k = (req.items.map fun item => Text.trimSpace item.sku)[k]? := fun k =>
    (List.getElem?_map ..).symm
  simp only [HasIssue, OrderItemInput.Issue, List.map_take, findIdx?_take_eq_some, ← hskus]
  constructor
  · rintro ⟨item, hitem, hblank, hfirst⟩
    exact ⟨_, hblank, Option.map_eq_some_iff.mpr ⟨item, hitem, rfl⟩, hfirst⟩
  · rintro ⟨sku, hblank, hsku, hfirst⟩
    obtain ⟨item, hitem, rfl⟩ := Option.map_eq_some_iff.mp hsku
    exact ⟨item, hitem, hblank, hfirst⟩

theorem exists_duplicate : (∃ first, req.HasIssue idx (.duplicate first)) ↔
    ∃ sku, sku ≠ "" ∧ req.trimmedSku idx = some sku ∧ ∃ earlier, earlier < idx ∧ req.trimmedSku earlier = some sku := by
  simp only [hasIssue_duplicate]
  constructor
  · rintro ⟨first, sku, hblank, hsku, hlt, hfirst, -⟩
    exact ⟨sku, hblank, hsku, first, hlt, hfirst⟩
  · rintro ⟨sku, hblank, hsku, earlier, hlt, hearlier⟩
    have hexists : ∃ k, req.trimmedSku k = some sku := ⟨earlier, hearlier⟩
    refine ⟨Nat.find hexists, sku, hblank, hsku, ?_, Nat.find_spec hexists, fun k hk => Nat.find_min hexists hk⟩
    exact lt_of_le_of_lt (Nat.find_min' hexists hearlier) hlt

end CreateOrderCommand

/-- The validator rejects the command, and the error is among those it reports. -/
def Reports (merchantID idempotencyKey : String) (req : CreateOrderCommand) (e : FieldError) : Prop :=
  ∃ fields, validateCreateOrder merchantID idempotencyKey req = .error (.validation fields) ∧ e ∈ fields

section Validator

variable {merchantID idempotencyKey : String} {req : CreateOrderCommand} {e : FieldError} {idx : Nat}
  {issue : LineIssue}

theorem validateCreateOrder_eq_error {fields : List FieldError} :
    validateCreateOrder merchantID idempotencyKey req = .error (.validation fields) ↔
      createOrderErrors merchantID idempotencyKey req = fields ∧ fields ≠ [] := by
  unfold validateCreateOrder validationResult
  cases hfields : createOrderErrors merchantID idempotencyKey req with
  | nil => simp
  | cons first rest =>
    simp only [List.length_cons, gt_iff_lt, Nat.zero_lt_succ, if_true, Except.error.injEq, Error.validation.injEq]
    constructor
    · rintro rfl
      exact ⟨rfl, List.cons_ne_nil _ _⟩
    · exact fun h => h.1

theorem reports_iff :
    Reports merchantID idempotencyKey req e ↔ e ∈ createOrderErrors merchantID idempotencyKey req := by
  unfold Reports
  simp only [validateCreateOrder_eq_error]
  constructor
  · rintro ⟨fields, ⟨rfl, -⟩, he⟩
    exact he
  · intro he
    exact ⟨_, ⟨rfl, List.ne_nil_of_mem he⟩, he⟩

theorem fieldError_notMem_requireField {ok : Bool} {field text : String}
    (hfield : field.toList.take 6 ≠ "items[".toList) : issue.fieldError idx ∉ requireField ok field text := by
  intro hmem
  have hsame := congrArg (fun e => e.field.toList.take 6) (mem_requireField.mp hmem).2
  simp only [LineIssue.fieldError, itemField, String.toList_append, List.append_assoc] at hsame
  exact hfield hsame.symm

theorem mem_itemErrors_start : e ∈ itemErrors req.currency [] 0 req.items ↔
    ∃ idx issue, req.HasIssue idx issue ∧ e = issue.fieldError idx := by
  have hempty : Indexes [] [] := fun _ _ => rfl
  refine (mem_itemErrors hempty).trans ?_
  simp only [List.length_nil, Nat.zero_add, List.nil_append]
  constructor
  · rintro ⟨idx, item, issue, hitem, hissue, he⟩
    exact ⟨idx, issue, ⟨item, hitem, hissue⟩, he⟩
  · rintro ⟨idx, issue, ⟨item, hitem, hissue⟩, he⟩
    exact ⟨idx, item, issue, hitem, hissue, he⟩

theorem reports_fieldError (idx : Nat) (issue : LineIssue) :
    Reports merchantID idempotencyKey req (issue.fieldError idx) ↔ req.HasIssue idx issue := by
  rw [reports_iff]
  simp (disch := decide) only [createOrderErrors, List.mem_append, fieldError_notMem_requireField, false_or, or_false,
    mem_itemErrors_start, LineIssue.fieldError_inj]
  constructor
  · rintro ⟨_, _, hissue, rfl, rfl⟩
    exact hissue
  · intro hissue
    exact ⟨idx, issue, hissue, rfl, rfl⟩

/-- A command is accepted when neither its fields nor its lines have an issue. -/
theorem validateCreateOrder_ok_iff : validateCreateOrder merchantID idempotencyKey req = .ok () ↔
    req.FieldsValid merchantID idempotencyKey ∧ ∀ idx issue, ¬ req.HasIssue idx issue := by
  have hlines : itemErrors req.currency [] 0 req.items = [] ↔ ∀ idx issue, ¬ req.HasIssue idx issue := by
    rw [List.eq_nil_iff_forall_not_mem]
    simp only [mem_itemErrors_start]
    constructor
    · intro hnone idx issue hissue
      exact hnone _ ⟨idx, issue, hissue, rfl⟩
    · rintro hnone _ ⟨idx, issue, hissue, -⟩
      exact hnone idx issue hissue
  rw [validateCreateOrder_eq_ok]
  constructor
  · intro h
    refine ⟨⟨h.merchantID, h.idempotencyKey, h.externalOrderID, h.currency, h.email, h.country, h.nonempty, h.provider,
      h.paymentToken⟩, hlines.mp (itemErrors_eq_nil.mpr ⟨h.items, h.skus, fun _ _ => rfl⟩)⟩
  · rintro ⟨h, hissues⟩
    obtain ⟨hitems, hskus, -⟩ := itemErrors_eq_nil.mp (hlines.mpr hissues)
    exact ⟨h.merchantID, h.idempotencyKey, h.externalOrderID, h.currency, h.email, h.country, h.nonempty, hitems, hskus,
      h.provider, h.paymentToken⟩

end Validator

end FulfillHub
