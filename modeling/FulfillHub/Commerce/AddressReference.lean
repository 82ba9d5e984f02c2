import FulfillHub.Commerce.Service
import FulfillHub.Library.Framing

/-!
# Address references

The reference of a shipping address is a truncated hash of its six fields, joined with `|` and lower-cased. Nothing
escapes a `|` inside a field, so the reference identifies exactly the addresses without one.
-/

namespace FulfillHub

def AddressInput.fields (a : AddressInput) : List String :=
  [a.line1, a.line2, a.city, a.state, a.postalCode, a.country]

theorem AddressInput.exists_of_length {fields : List String} (hlength : fields.length = 6) :
    ∃ a : AddressInput, a.fields = fields := by
  have hfirst : (fields.take 3).length = 3 := by simp [hlength]
  have hlast : (fields.drop 3).length = 3 := by simp [hlength]
  obtain ⟨line1, line2, city, htake⟩ := List.length_eq_three.mp hfirst
  obtain ⟨state, postalCode, country, hdrop⟩ := List.length_eq_three.mp hlast
  refine ⟨⟨line1, line2, city, state, postalCode, country⟩, ?_⟩
  rw [← List.take_append_drop 3 fields, htake, hdrop]
  rfl

namespace Service

variable (svc : Service)

def addressReference (a : AddressInput) : String := svc.opaqueReference "addr" (svc.addressFingerprint a)

/-- A field without its letter case and the white space around it. -/
def normalized (field : String) : String := Text.trimSpace (field.map svc.toLower)

/-- The addresses agree field by field up to letter case and surrounding white space. -/
def SameAddress (a b : AddressInput) : Prop := a.fields.map svc.normalized = b.fields.map svc.normalized

/-- Lower-casing leaves the delimiter, and makes it of nothing else. -/
def KeepsDelimiter : Prop := ∀ c, svc.toLower c = '|' ↔ c = '|'

/-- The truncated hash of the address is that of no other text. -/
def Uncollided (a : AddressInput) : Prop :=
  ∀ text, (svc.sha256Hex text).toList.take 24 =
      (svc.sha256Hex (Text.trimSpace (svc.addressFingerprint a))).toList.take 24 →
    text = Text.trimSpace (svc.addressFingerprint a)

end Service

/-! ### White space -/

namespace Text

variable {p : Char → Bool} {sep : Char}

theorem toList_trimSpace (s : String) : (trimSpace s).toList = (s.toList.dropWhile isSpace).rdropWhile isSpace :=
  String.toList_ofList

theorem dropWhile_append_sep (hsep : p sep = false) (x y : List Char) :
    (x ++ sep :: y).dropWhile p = x.dropWhile p ++ sep :: y := by
  rw [List.dropWhile_append]
  split
  · rename_i hempty
    rw [List.isEmpty_iff.mp hempty, List.dropWhile_cons_of_neg (by simp [hsep]), List.nil_append]
  · rfl

theorem rdropWhile_append_sep (hsep : p sep = false) (x y : List Char) :
    (x ++ sep :: y).rdropWhile p = x ++ sep :: y.rdropWhile p := by
  have hreverse : (x ++ sep :: y).reverse = y.reverse ++ sep :: x.reverse := by simp
  rw [List.rdropWhile, hreverse, dropWhile_append_sep hsep]
  simp [List.rdropWhile]

theorem trim_framed (hsep : p sep = false) (x m y : List Char) :
    ((x ++ sep :: (m ++ sep :: y)).dropWhile p).rdropWhile p =
      x.dropWhile p ++ sep :: (m ++ sep :: y.rdropWhile p) := by
  have hsplit : x.dropWhile p ++ sep :: (m ++ sep :: y) = (x.dropWhile p ++ sep :: m) ++ sep :: y := by simp
  rw [dropWhile_append_sep hsep, hsplit, rdropWhile_append_sep hsep]
  simp

theorem trim_rdropWhile (l : List Char) :
    ((l.rdropWhile p).dropWhile p).rdropWhile p = (l.dropWhile p).rdropWhile p := by
  have hspaces : ∀ c ∈ l.rtakeWhile p, p c = true := fun c hc => List.mem_rtakeWhile_imp hc
  have hsplit : (l.dropWhile p) = (l.rdropWhile p ++ l.rtakeWhile p).dropWhile p := by
    rw [List.rdropWhile_append_rtakeWhile]
  rw [hsplit, List.dropWhile_append]
  split
  · rename_i hempty
    rw [List.isEmpty_iff.mp hempty, List.dropWhile_eq_nil_iff.mpr hspaces]
  · have hreverse : ∀ c ∈ (l.rtakeWhile p).reverse, p c = true := by simpa using hspaces
    unfold List.rdropWhile at hreverse ⊢
    rw [List.reverse_append, List.dropWhile_append_of_pos hreverse]

theorem count_trimSpace (hsep : isSpace sep = false) (s : String) :
    (trimSpace s).toList.count sep = s.toList.count sep := by
  have hdrop : ∀ l : List Char, (l.dropWhile isSpace).count sep = l.count sep := by
    intro l
    have hzero : (l.takeWhile isSpace).count sep = 0 := by
      apply List.count_eq_zero.mpr
      intro hmem
      rw [List.mem_takeWhile_imp hmem] at hsep
      contradiction
    have hsplit := congrArg (List.count sep) (List.takeWhile_append_dropWhile (p := isSpace) (l := l))
    rw [List.count_append, hzero] at hsplit
    omega
  rw [toList_trimSpace, List.rdropWhile, List.count_reverse, hdrop, List.count_reverse, hdrop]

end Text

namespace Service

variable {svc : Service} {a b : AddressInput}

/-! ### The text under the hash -/

theorem toList_addressFingerprint (svc : Service) (a : AddressInput) : (svc.addressFingerprint a).toList =
    (['|'].intercalate (a.fields.map String.toList)).map svc.toLower := by
  have hfields : svc.addressFingerprint a = (String.intercalate "|" a.fields).map svc.toLower := rfl
  rw [hfields, String.toList_map, String.toList_intercalate]
  rfl

/-- The lower-cased fields, trimmed where the whole text is. -/
def framed (svc : Service) (a : AddressInput) : List (List Char) :=
  [(a.line1.toList.map svc.toLower).dropWhile Text.isSpace, a.line2.toList.map svc.toLower,
    a.city.toList.map svc.toLower, a.state.toList.map svc.toLower, a.postalCode.toList.map svc.toLower,
    (a.country.toList.map svc.toLower).rdropWhile Text.isSpace]

theorem toList_trimSpace_addressFingerprint (hdelimiter : svc.KeepsDelimiter) (a : AddressInput) :
    (Text.trimSpace (svc.addressFingerprint a)).toList = ['|'].intercalate (svc.framed a) := by
  have hlower : svc.toLower '|' = '|' := (hdelimiter '|').mpr rfl
  have hspace : Text.isSpace '|' = false := by decide
  have htrim := Text.trim_framed hspace (a.line1.toList.map svc.toLower)
    (['|'].intercalate [a.line2.toList.map svc.toLower, a.city.toList.map svc.toLower,
      a.state.toList.map svc.toLower, a.postalCode.toList.map svc.toLower]) (a.country.toList.map svc.toLower)
  rw [Text.toList_trimSpace, toList_addressFingerprint]
  simpa [AddressInput.fields, framed, List.intercalate_cons_cons, hlower] using htrim

/-- References of addresses are equal when the texts under the hash are, and only then if it does not collide. -/
theorem addressReference_inj (huncollided : svc.Uncollided a) (h : svc.addressReference a = svc.addressReference b) :
    Text.trimSpace (svc.addressFingerprint a) = Text.trimSpace (svc.addressFingerprint b) := by
  unfold addressReference opaqueReference at h
  have hhash := congrArg String.toList (String.append_right_inj _ |>.mp h)
  rw [String.toList_ofList, String.toList_ofList] at hhash
  exact (huncollided _ hhash.symm).symm

/-! ### Delimiters in fields -/

theorem toList_normalized (svc : Service) (field : String) : (svc.normalized field).toList =
    ((field.toList.map svc.toLower).dropWhile Text.isSpace).rdropWhile Text.isSpace := by
  rw [normalized, Text.toList_trimSpace, String.toList_map]

theorem count_normalized (hdelimiter : svc.KeepsDelimiter) (field : String) :
    (svc.normalized field).toList.count '|' = field.toList.count '|' := by
  rw [normalized, Text.count_trimSpace (by decide), String.toList_map, List.count, List.countP_map]
  apply List.countP_congr
  intro c _
  simp [hdelimiter c]

theorem notMem_framed (hdelimiter : svc.KeepsDelimiter) (hfree : ∀ field ∈ a.fields, '|' ∉ field.toList) :
    ∀ field ∈ svc.framed a, '|' ∉ field := by
  have hlower : ∀ field ∈ a.fields, '|' ∉ field.toList.map svc.toLower := by
    intro field hfield hmem
    obtain ⟨c, hc, heq⟩ := List.mem_map.mp hmem
    exact hfree field hfield ((hdelimiter c).mp heq ▸ hc)
  have hfirst : ∀ l : List Char, '|' ∉ l → '|' ∉ l.dropWhile Text.isSpace :=
    fun l hl hmem => hl ((List.dropWhile_sublist _).subset hmem)
  have hlast : ∀ l : List Char, '|' ∉ l → '|' ∉ l.rdropWhile Text.isSpace :=
    fun l hl hmem => hl ((List.rdropWhile_prefix _ _).subset hmem)
  simp only [AddressInput.fields, List.forall_mem_cons] at hlower
  simp only [framed, List.forall_mem_cons]
  exact ⟨hfirst _ hlower.1, hlower.2.1, hlower.2.2.1, hlower.2.2.2.1, hlower.2.2.2.2.1, hlast _ hlower.2.2.2.2.2.1,
    fun _ hnil => absurd hnil List.not_mem_nil⟩

theorem sameAddress_of_framed (h : svc.framed a = svc.framed b) : svc.SameAddress a b := by
  unfold framed at h
  simp only [List.cons.injEq] at h
  obtain ⟨hline1, hline2, hcity, hstate, hpostalCode, hcountry, -⟩ := h
  have hfirst := congrArg (List.rdropWhile Text.isSpace) hline1
  have hlast := congrArg (fun l => (l.dropWhile Text.isSpace).rdropWhile Text.isSpace) hcountry
  simp only [Text.trim_rdropWhile] at hlast
  have hnormalized : ∀ field field' : String, (svc.normalized field).toList = (svc.normalized field').toList →
      svc.normalized field = svc.normalized field' := fun _ _ h => String.toList_injective h
  simp only [toList_normalized] at hnormalized
  simp only [SameAddress, AddressInput.fields, List.map_cons, List.map_nil, List.cons.injEq, and_true]
  exact ⟨hnormalized _ _ hfirst, hnormalized _ _ (by rw [hline2]), hnormalized _ _ (by rw [hcity]),
    hnormalized _ _ (by rw [hstate]), hnormalized _ _ (by rw [hpostalCode]), hnormalized _ _ hlast⟩

theorem sameAddress_of_undelimited (hdelimiter : svc.KeepsDelimiter)
    (hfree : ∀ field ∈ a.fields, '|' ∉ field.toList)
    (h : Text.trimSpace (svc.addressFingerprint a) = Text.trimSpace (svc.addressFingerprint b)) :
    svc.SameAddress a b := by
  have hlength : (svc.framed a).length = (svc.framed b).length := rfl
  have hlists := congrArg String.toList h
  rw [toList_trimSpace_addressFingerprint hdelimiter, toList_trimSpace_addressFingerprint hdelimiter] at hlists
  exact sameAddress_of_framed (Framing.eq_of_intercalate hlength (notMem_framed hdelimiter hfree) hlists)

/-- An address with a delimiter in a field shares its reference with another one. -/
theorem exists_collision (hdelimiter : svc.KeepsDelimiter) {field : String} (hfield : field ∈ a.fields)
    (hmem : '|' ∈ field.toList) :
    ∃ b, svc.addressReference a = svc.addressReference b ∧ ¬ svc.SameAddress a b := by
  have htwo : 2 ≤ (a.fields.map String.toList).length := by simp [AddressInput.fields]
  obtain ⟨other, hlength, hjoined, hcounts⟩ :=
    Framing.exists_intercalate_eq htwo (List.mem_map_of_mem hfield) hmem
  have hsix : (other.map String.ofList).length = 6 := by simp [hlength, AddressInput.fields]
  obtain ⟨b, hb⟩ := AddressInput.exists_of_length hsix
  have hother : b.fields.map String.toList = other := by simp [hb, Function.comp_def]
  refine ⟨b, ?_, ?_⟩
  · have htext : svc.addressFingerprint a = svc.addressFingerprint b := by
      apply String.toList_injective
      rw [toList_addressFingerprint, toList_addressFingerprint, hother, hjoined]
    rw [addressReference, addressReference, htext]
  · intro hsame
    apply hcounts
    have hnormalized := congrArg (List.map fun field => field.toList.count '|') hsame
    simp only [List.map_map, Function.comp_def, count_normalized hdelimiter] at hnormalized
    rw [← hother, List.map_map, List.map_map]
    exact hnormalized.symm

end Service

open Service

/-- **An address reference identifies its address exactly when no field has the delimiter in it**, the truncated hash
being taken as injective there. -/
theorem address_identified_iff (svc : Service) (hdelimiter : svc.KeepsDelimiter) (a : AddressInput)
    (huncollided : svc.Uncollided a) :
    (∀ b, svc.addressReference a = svc.addressReference b → svc.SameAddress a b) ↔
      ∀ field ∈ a.fields, '|' ∉ field.toList := by
  constructor
  · intro hidentified field hfield hmem
    obtain ⟨b, hreference, hdifferent⟩ := exists_collision hdelimiter hfield hmem
    exact hdifferent (hidentified b hreference)
  · intro hfree b hreference
    exact sameAddress_of_undelimited hdelimiter hfree (addressReference_inj huncollided hreference)

/-- A service whose hash tells the text of one address from all others. -/
def hashing (a : AddressInput) : Service where
  sha256Hex text :=
    if text = Text.trimSpace ((String.intercalate "|" a.fields).map fun c => c) then "1" else "0"
  toLower c := c

theorem keepsDelimiter_hashing (a : AddressInput) : (hashing a).KeepsDelimiter := fun _ => Iff.rfl

theorem uncollided_hashing (a : AddressInput) : (hashing a).Uncollided a := by
  intro text h
  have hfingerprint : (hashing a).addressFingerprint a = (String.intercalate "|" a.fields).map fun c => c := rfl
  have hhash : ∀ other, (hashing a).sha256Hex other =
      if other = Text.trimSpace ((hashing a).addressFingerprint a) then "1" else "0" := by
    intro other
    rw [hfingerprint]
    rfl
  by_contra hne
  rw [hhash, hhash, if_neg hne, if_pos rfl] at h
  revert h
  decide

def plainAddress : AddressInput := ⟨"1 Main St", "Apt 2", "Springfield", "", "", "US"⟩

theorem address_identified_plain : (∀ field ∈ plainAddress.fields, '|' ∉ field.toList) ∧
    ∀ b, (hashing plainAddress).addressReference plainAddress = (hashing plainAddress).addressReference b →
      (hashing plainAddress).SameAddress plainAddress b :=
  ⟨by decide, (address_identified_iff (hashing plainAddress) (keepsDelimiter_hashing _) plainAddress
    (uncollided_hashing plainAddress)).mpr (by decide)⟩

/-- The delimiter in the first line. -/
def dividedAddress : AddressInput := ⟨"1 Main St|Apt", "2", "Springfield", "", "", "US"⟩

/-- The same text, divided before. -/
def confusedAddress : AddressInput := ⟨"1 Main St", "Apt|2", "Springfield", "", "", "US"⟩

/-- Two addresses that differ in where the delimiter stands have one reference. -/
theorem address_confused :
    (hashing dividedAddress).KeepsDelimiter ∧ (hashing dividedAddress).Uncollided dividedAddress ∧
    (hashing dividedAddress).addressReference dividedAddress =
      (hashing dividedAddress).addressReference confusedAddress ∧
    ¬ (hashing dividedAddress).SameAddress dividedAddress confusedAddress := by
  refine ⟨keepsDelimiter_hashing _, uncollided_hashing _, ?_, ?_⟩
  · have htext : (hashing dividedAddress).addressFingerprint dividedAddress =
        (hashing dividedAddress).addressFingerprint confusedAddress := by
      apply String.toList_injective
      rw [toList_addressFingerprint, toList_addressFingerprint]
      decide
    rw [addressReference, addressReference, htext]
  · intro hsame
    have hlines := congrArg (List.map fun field => field.toList.count '|') hsame
    simp only [List.map_map, Function.comp_def, count_normalized (keepsDelimiter_hashing _)] at hlines
    revert hlines
    decide

end FulfillHub
