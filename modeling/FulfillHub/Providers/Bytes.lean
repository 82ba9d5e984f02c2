import Mathlib

/-!
# Byte strings

The operations of Go's `strings`, `strconv` and `encoding/hex` packages the webhook code calls, on arbitrary
bytes: a signed payload and the headers around it need not be valid UTF-8.
-/

namespace FulfillHub

/-- A Go `string` or `[]byte`. -/
abbrev Bytes := List UInt8

namespace Bytes

/-- The bytes of an ASCII text. -/
def ofText (s : String) : Bytes := s.toList.map fun c => UInt8.ofNat c.toNat

/-! ### White space -/

/-- The encodings of the characters `unicode.IsSpace` accepts. -/
def spaces : List Bytes :=
  [[9], [10], [11], [12], [13], [32], [0xC2, 0x85], [0xC2, 0xA0], [0xE1, 0x9A, 0x80], [0xE2, 0x80, 0x80],
    [0xE2, 0x80, 0x81], [0xE2, 0x80, 0x82], [0xE2, 0x80, 0x83], [0xE2, 0x80, 0x84], [0xE2, 0x80, 0x85],
    [0xE2, 0x80, 0x86], [0xE2, 0x80, 0x87], [0xE2, 0x80, 0x88], [0xE2, 0x80, 0x89], [0xE2, 0x80, 0x8A],
    [0xE2, 0x80, 0xA8], [0xE2, 0x80, 0xA9], [0xE2, 0x80, 0xAF], [0xE2, 0x81, 0x9F], [0xE3, 0x80, 0x80]]

/-- Drops up to `fuel` of the given encodings from the front. -/
def dropLeading (encodings : List Bytes) : Nat → Bytes → Bytes
  | 0, s => s
  | fuel + 1, s =>
    match encodings.find? (·.isPrefixOf s) with
    | some space => dropLeading encodings fuel (s.drop space.length)
    | none => s

def trimLeft (s : Bytes) : Bytes := dropLeading spaces s.length s

def trimRight (s : Bytes) : Bytes := (dropLeading (spaces.map List.reverse) s.length s.reverse).reverse

/-- `strings.TrimSpace`. -/
def trimSpace (s : Bytes) : Bytes := trimRight (trimLeft s)

/-- A visible ASCII character. -/
def visible (b : UInt8) : Bool := 33 ≤ b.toNat && b.toNat < 127

variable {encodings : List Bytes} {s : Bytes}

theorem dropLeading_of_visible (hencodings : ∀ space ∈ encodings, ∃ b ∈ space, visible b = false)
    (hs : ∀ b ∈ s, visible b = true) (fuel : Nat) : dropLeading encodings fuel s = s := by
  cases fuel with
  | zero => rfl
  | succ fuel =>
    have hnone : encodings.find? (·.isPrefixOf s) = none := by
      apply List.find?_eq_none.mpr
      intro space hspace hleads
      obtain ⟨b, hb, hinvisible⟩ := hencodings space hspace
      have hsub := (List.isPrefixOf_iff_prefix.mp hleads).subset hb
      rw [hs b hsub] at hinvisible
      contradiction
    simp [dropLeading, hnone]

theorem trimSpace_of_visible (hs : ∀ b ∈ s, visible b = true) : trimSpace s = s := by
  have hleft : trimLeft s = s := dropLeading_of_visible (by decide) hs _
  have hright : dropLeading (spaces.map List.reverse) s.length s.reverse = s.reverse :=
    dropLeading_of_visible (by decide) (by simpa using hs) _
  rw [trimSpace, hleft, trimRight, hright, List.reverse_reverse]

variable {b : UInt8}

theorem mem_of_mem_dropLeading {fuel : Nat} (hb : b ∈ dropLeading encodings fuel s) : b ∈ s := by
  induction fuel generalizing s with
  | zero => exact hb
  | succ fuel ih =>
    unfold dropLeading at hb
    split at hb
    · exact List.mem_of_mem_drop (ih hb)
    · exact hb

theorem mem_of_mem_trimSpace (hb : b ∈ trimSpace s) : b ∈ s := by
  rw [trimSpace, trimRight, List.mem_reverse] at hb
  have hleft := mem_of_mem_dropLeading hb
  rw [List.mem_reverse] at hleft
  exact mem_of_mem_dropLeading hleft

theorem mem_dropLeading (hencodings : ∀ space ∈ encodings, b ∉ space) (fuel : Nat) (hb : b ∈ s) :
    b ∈ dropLeading encodings fuel s := by
  induction fuel generalizing s with
  | zero => exact hb
  | succ fuel ih =>
    unfold dropLeading
    split
    · rename_i space hfind
      have hleads : space.isPrefixOf s = true := by simpa using List.find?_some hfind
      obtain ⟨rest, rfl⟩ := List.isPrefixOf_iff_prefix.mp hleads
      rw [List.drop_left]
      exact ih ((List.mem_append.mp hb).resolve_left (hencodings space (List.mem_of_find?_eq_some hfind)))
    · exact hb

theorem mem_trimSpace (hvisible : visible b = true) (hb : b ∈ s) : b ∈ trimSpace s := by
  have hspaces : (spaces.flatten.all fun c => !visible c) = true := by decide
  have hspace : ∀ space ∈ spaces, b ∉ space := by
    intro space hmem hin
    have hinvisible := List.all_eq_true.mp hspaces b (List.mem_flatten_of_mem hmem hin)
    rw [hvisible] at hinvisible
    contradiction
  rw [trimSpace, trimRight, List.mem_reverse]
  apply mem_dropLeading
  · intro space hmem hin
    obtain ⟨forward, hforward, rfl⟩ := List.mem_map.mp hmem
    exact hspace forward hforward (List.mem_reverse.mp hin)
  · exact List.mem_reverse.mpr (mem_dropLeading hspace _ hb)

/-! ### Numbers -/

/-- The decimal digits of a number, at least one. -/
def formatNat (n : Nat) : Bytes :=
  if n = 0 then [48] else (Nat.digits 10 n).reverse.map fun d => UInt8.ofNat (48 + d)

/-- `strconv.FormatInt(n, 10)`. -/
def formatInt : Int → Bytes
  | .ofNat n => formatNat n
  | .negSucc n => 45 :: formatNat (n + 1)

def digitValue (b : UInt8) : Option Nat :=
  if 48 ≤ b.toNat ∧ b.toNat ≤ 57 then some (b.toNat - 48) else none

/-- The number a text of decimal digits writes. -/
def parseNat (s : Bytes) : Option Nat :=
  if s = [] then none
  else s.foldlM (fun n b => (digitValue b).map fun d => 10 * n + d) 0

/-- `strconv.ParseInt(s, 10, 64)`, without the reason of a failure. -/
def parseInt (s : Bytes) : Option Int :=
  match s with
  | 45 :: digits => (parseNat digits).bind fun n => if n ≤ 2 ^ 63 then some (-n) else none
  | 43 :: digits => (parseNat digits).bind fun n => if n < 2 ^ 63 then some n else none
  | digits => (parseNat digits).bind fun n => if n < 2 ^ 63 then some n else none

theorem digit_of_mem_formatNat {n : Nat} (hb : b ∈ formatNat n) : 48 ≤ b.toNat ∧ b.toNat ≤ 57 := by
  unfold formatNat at hb
  split at hb
  · obtain rfl := List.mem_singleton.mp hb
    decide
  · obtain ⟨d, hd, rfl⟩ := List.mem_map.mp hb
    have hlt : d < 10 := Nat.digits_lt_base (by decide) (List.mem_reverse.mp hd)
    rw [UInt8.toNat_ofNat']
    omega

theorem ofDigits_formatNat (n : Nat) : Nat.ofDigits 10 ((formatNat n).reverse.map fun b => b.toNat - 48) = n := by
  unfold formatNat
  split
  · simp_all
  · have hdigits : ((Nat.digits 10 n).map fun d => (UInt8.ofNat (48 + d)).toNat - 48) = Nat.digits 10 n := by
      apply (List.map_congr_left _).trans (List.map_id _)
      intro d hd
      have hlt : d < 10 := Nat.digits_lt_base (by decide) hd
      rw [UInt8.toNat_ofNat', id]
      omega
    rw [← List.map_reverse, List.reverse_reverse, List.map_map]
    exact (congrArg (Nat.ofDigits 10) hdigits).trans (Nat.ofDigits_digits 10 n)

theorem formatNat_injective : Function.Injective formatNat := by
  intro m n h
  rw [← ofDigits_formatNat m, h, ofDigits_formatNat]

theorem formatInt_injective : Function.Injective formatInt := by
  intro m n h
  have hminus : ∀ k l : Nat, formatNat k ≠ 45 :: formatNat l := by
    intro k l hk
    have hdigit := digit_of_mem_formatNat (hk ▸ List.mem_cons_self : (45 : UInt8) ∈ formatNat k)
    simp at hdigit
  cases m with
  | ofNat m =>
    cases n with
    | ofNat n => exact congrArg Int.ofNat (formatNat_injective h)
    | negSucc n => exact absurd h (hminus _ _)
  | negSucc m =>
    cases n with
    | ofNat n => exact absurd h.symm (hminus _ _)
    | negSucc n =>
      have hsucc := formatNat_injective (List.cons.inj h).2
      exact congrArg Int.negSucc (Nat.succ.inj hsucc)

theorem formatNat_ne_nil (n : Nat) : formatNat n ≠ [] := by
  unfold formatNat
  split
  · simp
  · simpa [Nat.digits_eq_nil_iff_eq_zero]

/-- A text of digits is read from its first digit on. -/
theorem foldlM_digits (hdigits : ∀ b ∈ s, 48 ≤ b.toNat ∧ b.toNat ≤ 57) (n : Nat) :
    s.foldlM (fun n b => (digitValue b).map fun d => 10 * n + d) n =
      some ((s.map fun b => b.toNat - 48).foldl (fun n d => 10 * n + d) n) := by
  induction s generalizing n with
  | nil => rfl
  | cons b s ih =>
    have hb := hdigits b List.mem_cons_self
    have hrest := ih (fun c hc => hdigits c (List.mem_cons_of_mem b hc)) (10 * n + (b.toNat - 48))
    rw [List.foldlM_cons, digitValue, if_pos hb]
    exact hrest

theorem parseNat_formatNat (n : Nat) : parseNat (formatNat n) = some n := by
  rw [parseNat, if_neg (formatNat_ne_nil n), foldlM_digits fun _ => digit_of_mem_formatNat]
  have hofDigits := ofDigits_formatNat n
  rw [Nat.ofDigits_eq_foldr, List.map_reverse, List.foldr_reverse] at hofDigits
  have hfold : (fun n d : Nat => 10 * n + d) = fun n d => d + 10 * n := by
    funext n d
    exact Nat.add_comm _ _
  rw [hfold]
  exact congrArg some hofDigits

theorem parseInt_of_digits (hdigits : ∀ b ∈ s, 48 ≤ b.toNat ∧ b.toNat ≤ 57) :
    parseInt s = (parseNat s).bind fun n => if n < 2 ^ 63 then some (n : Int) else none := by
  unfold parseInt
  split
  · have hminus := hdigits 45 List.mem_cons_self
    simp at hminus
  · have hplus := hdigits 43 List.mem_cons_self
    simp at hplus
  · rfl

/-- A number of Go's `int64` is read back from its decimal text. -/
theorem parseInt_formatInt {n : Int} (hmin : -2 ^ 63 ≤ n) (hmax : n < 2 ^ 63) : parseInt (formatInt n) = some n := by
  cases n with
  | ofNat n =>
    have hlt : n < 2 ^ 63 := by
      simp only [Int.ofNat_eq_natCast] at hmax
      omega
    have hparse := parseInt_of_digits fun b => digit_of_mem_formatNat (n := n) (b := b)
    rw [formatInt, hparse, parseNat_formatNat, Option.bind_some, if_pos hlt]
    rfl
  | negSucc n =>
    have hle : n + 1 ≤ 2 ^ 63 := by omega
    have hparse : parseInt (45 :: formatNat (n + 1)) =
        (parseNat (formatNat (n + 1))).bind fun n => if n ≤ 2 ^ 63 then some (-(n : Int)) else none := rfl
    rw [formatInt, hparse, parseNat_formatNat, Option.bind_some, if_pos hle]
    rfl

theorem visible_of_mem_formatInt {n : Int} (hb : b ∈ formatInt n) : visible b = true := by
  have hdigit : ∀ m : Nat, b ∈ formatNat m → visible b = true := by
    intro m hm
    have hrange := digit_of_mem_formatNat hm
    rw [visible, Bool.and_eq_true, decide_eq_true_eq, decide_eq_true_eq]
    omega
  cases n with
  | ofNat n => exact hdigit n hb
  | negSucc n =>
    rcases List.mem_cons.mp hb with rfl | hb
    · decide
    · exact hdigit (n + 1) hb

theorem dot_notMem_formatInt (n : Int) : (46 : UInt8) ∉ formatInt n := by
  intro hdot
  cases n with
  | ofNat n =>
    have hdigit := digit_of_mem_formatNat hdot
    simp at hdigit
  | negSucc n =>
    rcases List.mem_cons.mp hdot with hminus | hdot
    · simp at hminus
    · have hdigit := digit_of_mem_formatNat hdot
      simp at hdigit

/-! ### Hexadecimal -/

def hexDigit (n : Nat) : UInt8 := UInt8.ofNat (if n < 10 then 48 + n else 87 + n)

/-- `hex.EncodeToString`. -/
def hexEncode (s : Bytes) : Bytes := s.flatMap fun b => [hexDigit (b.toNat / 16), hexDigit (b.toNat % 16)]

def hexValue (b : UInt8) : Option Nat :=
  if 48 ≤ b.toNat ∧ b.toNat ≤ 57 then some (b.toNat - 48)
  else if 97 ≤ b.toNat ∧ b.toNat ≤ 102 then some (b.toNat - 87)
  else if 65 ≤ b.toNat ∧ b.toNat ≤ 70 then some (b.toNat - 55)
  else none

/-- `hex.DecodeString`, without the reason of a failure. -/
def hexDecode : Bytes → Option Bytes
  | [] => some []
  | [_] => none
  | high :: low :: rest => do
      let high ← hexValue high
      let low ← hexValue low
      let rest ← hexDecode rest
      pure (UInt8.ofNat (16 * high + low) :: rest)

theorem hexDigit_spec : ∀ n < 16, hexValue (hexDigit n) = some n ∧ visible (hexDigit n) = true ∧ hexDigit n ≠ 44 := by
  decide

@[simp] theorem hexDecode_hexEncode (s : Bytes) : hexDecode (hexEncode s) = some s := by
  induction s with
  | nil => rfl
  | cons b s ih =>
    have hlt := b.toNat_lt
    have hhigh := (hexDigit_spec (b.toNat / 16) (by omega)).1
    have hlow := (hexDigit_spec (b.toNat % 16) (by omega)).1
    have hbyte : 16 * (b.toNat / 16) + b.toNat % 16 = b.toNat := Nat.div_add_mod _ _
    have hencode : hexEncode (b :: s) =
        hexDigit (b.toNat / 16) :: hexDigit (b.toNat % 16) :: hexEncode s := rfl
    simp only [hencode, hexDecode, hhigh, hlow, ih, Option.bind_eq_bind, Option.bind_some, hbyte,
      UInt8.ofNat_toNat, Option.pure_def]

theorem of_mem_hexEncode (hb : b ∈ hexEncode s) : visible b = true ∧ b ≠ 44 := by
  obtain ⟨byte, -, hmem⟩ := List.mem_flatMap.mp hb
  have hlt := byte.toNat_lt
  rcases List.mem_pair.mp hmem with rfl | rfl
  · exact (hexDigit_spec _ (by omega)).2
  · exact (hexDigit_spec _ (by omega)).2

end Bytes

end FulfillHub
