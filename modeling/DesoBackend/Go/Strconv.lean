import DesoBackend.Go.Decimal

/-!
# `strconv` on the CSV columns

The referral CSV writes its `uint64` columns with `strconv.FormatUint(v, 10)` and its `bool`
columns with `strconv.FormatBool`, and reads them back with `strconv.ParseUint(s, 10, 64)` and
`strconv.ParseBool`. A Go string is a string of bytes; `Bytes` holds one `Char` per byte.
-/

namespace DesoBackend

/-- A Go `string` or `[]byte`, one `Char` per byte. -/
abbrev Bytes := List Char

/-- `strconv.Quote` on the strings the parsers reject, as their errors print them. -/
def quote (s : Bytes) : String := "\"" ++ String.mk s ++ "\""

def FormatUint (v : UInt64) : Bytes := Nat.toDigits 10 v.toNat

/-- `strconv.ParseUint(s, 10, 64)`: one or more decimal digits, below `2^64`. -/
def ParseUint (s : Bytes) : Except String UInt64 :=
  if s = [] ∨ ¬s.all Char.isDigit then
    .error ("strconv.ParseUint: parsing " ++ quote s ++ ": invalid syntax")
  else if 2 ^ 64 ≤ digitsValue s then
    .error ("strconv.ParseUint: parsing " ++ quote s ++ ": value out of range")
  else .ok (UInt64.ofNat (digitsValue s))

def FormatBool (b : Bool) : Bytes := if b then "true".data else "false".data

def ParseBool (str : Bytes) : Except String Bool :=
  if str ∈ ["1", "t", "T", "TRUE", "true", "True"].map String.data then .ok true
  else if str ∈ ["0", "f", "F", "FALSE", "false", "False"].map String.data then .ok false
  else .error ("strconv.ParseBool: parsing " ++ quote str ++ ": invalid syntax")

lemma FormatUint_ne_nil (v : UInt64) : FormatUint v ≠ [] := toDigits_ne_nil _

/-- Every `uint64` survives `FormatUint` then `ParseUint`. -/
theorem ParseUint_FormatUint (v : UInt64) : ParseUint (FormatUint v) = .ok v := by
  have hdig : (FormatUint v).all Char.isDigit := List.all_eq_true.mpr (toDigits_isDigit _)
  have hv : digitsValue (FormatUint v) = v.toNat := digitsValue_toDigits _
  have hlt : v.toNat < 2 ^ 64 := v.toNat_lt_size
  rw [ParseUint, if_neg (not_or.mpr ⟨FormatUint_ne_nil v, not_not.mpr hdig⟩), hv,
    if_neg (not_le.mpr hlt)]
  exact congrArg Except.ok (UInt64.toNat.inj (UInt64.toNat_ofNat_of_lt v.toNat_lt_size))

/-- Every `bool` survives `FormatBool` then `ParseBool`. -/
theorem ParseBool_FormatBool (b : Bool) : ParseBool (FormatBool b) = .ok b := by
  cases b <;> rfl

end DesoBackend
