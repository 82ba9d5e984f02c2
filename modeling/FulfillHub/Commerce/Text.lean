import Mathlib

/-!
# Strings and instants

The few operations of Go's `strings`, `fmt` and `time` packages the commerce code calls. A Go string
is read as the Unicode text it encodes and its length is counted in bytes, as `len` counts it. An
instant is the number of nanoseconds since the zero time, so the zero time is `0`.
-/

namespace FulfillHub

abbrev Time := Nat

namespace Text

/-- The white space of `unicode.IsSpace`. -/
def isSpace (c : Char) : Bool :=
  (9 ≤ c.toNat && c.toNat ≤ 13) || c.toNat == 0x20 || c.toNat == 0x85 || c.toNat == 0xA0 ||
    c.toNat == 0x1680 || (0x2000 ≤ c.toNat && c.toNat ≤ 0x200a) || c.toNat == 0x2028 ||
    c.toNat == 0x2029 || c.toNat == 0x202f || c.toNat == 0x205f || c.toNat == 0x3000

def trimSpace (s : String) : String :=
  String.ofList ((s.toList.dropWhile isSpace).reverse.dropWhile isSpace).reverse

/-- `len` of a Go string. -/
def len (s : String) : Nat := s.utf8ByteSize

/-- A text that a `TEXT` or `JSONB` column takes. -/
def nulFree (s : String) : Bool := s.toList.all fun c => c.toNat ≠ 0

/-- The verb `%q`, on text without control characters. -/
def quote (s : String) : String :=
  "\"" ++ String.ofList (s.toList.flatMap fun c =>
    if c = '"' ∨ c = '\\' then ['\\', c] else [c]) ++ "\""

/-- A number written with at least `width` digits. -/
def pad (width n : Nat) : String :=
  String.ofList (List.replicate (width - (toString n).length) '0') ++ toString n

end Text

namespace Time

def isZero (t : Time) : Bool := t == 0

def second : Time := 1000000000

def isLeap (year : Nat) : Bool := year % 4 == 0 && (year % 100 != 0 || year % 400 == 0)

def monthLengths (year : Nat) : List Nat :=
  [31, if isLeap year then 29 else 28, 31, 30, 31, 30, 31, 31, 30, 31, 30, 31]

/-- The year, and the day in it counted from `0`, of a day counted from 1 January of year 1. -/
def yearAndDay (day : Nat) : Nat × Nat :=
  let cycle := day / 146097
  let rest := day % 146097
  let century := min (rest / 36524) 3
  let rest := rest - century * 36524
  let quad := rest / 1461
  let rest := rest % 1461
  let single := min (rest / 365) 3
  (400 * cycle + 100 * century + 4 * quad + single + 1, rest - single * 365)

/-- The month and the day of the month, both counted from `1`. -/
def monthAndDay : List Nat → Nat → Nat → Nat × Nat
  | [], month, day => (month, day + 1)
  | length :: rest, month, day =>
    if day < length then (month, day + 1) else monthAndDay rest (month + 1) (day - length)

/-- The fraction of a second as `.999999999` prints it: trailing zeros dropped, nothing if whole. -/
def fraction (nanos : Nat) : String :=
  if nanos = 0 then ""
  else "." ++ String.ofList ((Text.pad 9 nanos).toList.reverse.dropWhile (· == '0')).reverse

/-- `t.UTC().Format(time.RFC3339Nano)`. -/
def formatRFC3339Nano (t : Time) : String :=
  let seconds := t / second
  let (year, yday) := yearAndDay (seconds / 86400)
  let (month, mday) := monthAndDay (monthLengths year) 1 yday
  let clock := seconds % 86400
  Text.pad 4 year ++ "-" ++ Text.pad 2 month ++ "-" ++ Text.pad 2 mday ++ "T" ++
    Text.pad 2 (clock / 3600) ++ ":" ++ Text.pad 2 (clock / 60 % 60) ++ ":" ++
    Text.pad 2 (clock % 60) ++ fraction (t % second) ++ "Z"

end Time

end FulfillHub
