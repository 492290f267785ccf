import DesoBackend.Exchange.Scale

/-!
# From scaled integers back to decimals

Both read paths print `"%d.%s%d"`: the whole part, `getNumDigits(F) - getNumDigits(decimal) - 1`
zeros and the remainder, then hand the numeral to `strconv.ParseFloat`. `decimalString` is
that shared step; `strconv.ParseFloat` is left as a parameter, since every property here is
about the numeral it is given.
-/

namespace DesoBackend

/-- `fmt.Sprintf("%d.%s%d", whole, decimalLeadingZeros, decimal)` with
`decimalLeadingZeros = strings.Repeat("0", getNumDigits(F) - getNumDigits(decimal) - 1)`. -/
def decimalString (whole decimal scalingFactor : Nat) : Except Failure String := do
  let numDigitsScalingFactor ← getNumDigits scalingFactor
  let numDigitsDecimal ← getNumDigits decimal
  let decimalLeadingZeros ←
    stringsRepeat "0" ((numDigitsScalingFactor : Int) - numDigitsDecimal - 1)
  return toString whole ++ "." ++ decimalLeadingZeros ++ toString decimal

/-- `uint256.Int.Mod`, which gives `0` for a zero modulus. -/
def uint256Mod (x y : BitVec 256) : BitVec 256 := if y = 0 then 0 else x % y

/-- The numeral `calculateQuantityToFillAsFloatWithScalingFactor` builds. -/
def quantityToFillDecimalString (quantityAsScaledValue scalingFactor : BitVec 256) :
    Except Failure String :=
  decimalString (quantityAsScaledValue / scalingFactor).toNat
    (uint256Mod quantityAsScaledValue scalingFactor).toNat scalingFactor.toNat

/-- Reads a numeral back with `strconv.ParseFloat`, failing with its error. -/
def parseFloatResult (ParseFloat : String → Except String Float64) (str : String) :
    Except Failure Float64 :=
  match ParseFloat str with
  | .ok parsedFloat => .ok parsedFloat
  | .error err => .error (.error err)

def calculateQuantityToFillAsFloatWithScalingFactor (ParseFloat : String → Except String Float64)
    (quantityAsScaledValue scalingFactor : BitVec 256) : Except Failure Float64 := do
  parseFloatResult ParseFloat (← quantityToFillDecimalString quantityAsScaledValue scalingFactor)

def calculateQuantityToFillFromDAOCoinBaseUnitsToFloat (ParseFloat : String → Except String Float64)
    (quantityInBaseUnits : BitVec 256) : Except Failure Float64 :=
  calculateQuantityToFillAsFloatWithScalingFactor ParseFloat quantityInBaseUnits BaseUnitsPerCoin

def calculateQuantityToFillFromDESONanosToFloat (ParseFloat : String → Except String Float64)
    (quantityInNanos : BitVec 256) : Except Failure Float64 :=
  calculateQuantityToFillAsFloatWithScalingFactor ParseFloat quantityInNanos
    (BitVec.ofNat 256 NanosPerUnit)

def CalculateQuantityToFillAsFloat (ParseFloat : String → Except String Float64)
    (buyingCoinPublicKeyBase58CheckOrUsername sellingCoinPublicKeyBase58CheckOrUsername
      operationTypeString : String) (quantityToFillInBaseUnits : BitVec 256) :
    Except Failure Float64 :=
  if isCoinToFillDESO buyingCoinPublicKeyBase58CheckOrUsername
      sellingCoinPublicKeyBase58CheckOrUsername operationTypeString then
    calculateQuantityToFillFromDESONanosToFloat ParseFloat quantityToFillInBaseUnits
  else calculateQuantityToFillFromDAOCoinBaseUnitsToFloat ParseFloat quantityToFillInBaseUnits

/-- The numeral `CalculateQuantityToFillAsFloat` hands to `strconv.ParseFloat`. -/
def quantityToFillString (buying selling operationTypeString : String)
    (quantityToFillInBaseUnits : BitVec 256) : Except Failure String :=
  quantityToFillDecimalString quantityToFillInBaseUnits
    (BitVec.ofNat 256 (quantityScalingFactor buying selling operationTypeString))

lemma CalculateQuantityToFillAsFloat_eq (ParseFloat : String → Except String Float64)
    (buying selling op : String) (q : BitVec 256) :
    CalculateQuantityToFillAsFloat ParseFloat buying selling op q =
      quantityToFillString buying selling op q >>= parseFloatResult ParseFloat := by
  unfold CalculateQuantityToFillAsFloat quantityToFillString quantityScalingFactor
  split <;> rfl

/-- The value `CalculateExchangeRateAsFloat` divides by `1e38`: the rate with the $DESO
adjustment undone, in unbounded `big.Int` arithmetic. -/
def exchangeRateBigInt (buying selling : String) (scaledValue : BitVec 256) : Nat :=
  if buying = "" then scaledValue.toNat / getDESOToDAOCoinBaseUnitsScalingFactor.toNat
  else if selling = "" then scaledValue.toNat * getDESOToDAOCoinBaseUnitsScalingFactor.toNat
  else scaledValue.toNat

/-- The numeral `CalculateExchangeRateAsFloat` builds. -/
def exchangeRateDecimalString (buying selling : String) (scaledValue : BitVec 256) :
    Except Failure String :=
  decimalString (exchangeRateBigInt buying selling scaledValue / OneE38.toNat)
    (exchangeRateBigInt buying selling scaledValue % OneE38.toNat) OneE38.toNat

def CalculateExchangeRateAsFloat (ParseFloat : String → Except String Float64)
    (buyingCoinPublicKeyBase58CheckOrUsername sellingCoinPublicKeyBase58CheckOrUsername : String)
    (scaledValue : BitVec 256) : Except Failure Float64 := do
  parseFloatResult ParseFloat (← exchangeRateDecimalString buyingCoinPublicKeyBase58CheckOrUsername
    sellingCoinPublicKeyBase58CheckOrUsername scaledValue)

/-! ### The numerals denote the scaled values exactly -/

/-- With `decimal < 10^k` the zeros number `k` less the digits of `decimal`, never a negative
count, so `strings.Repeat` does not panic. -/
lemma decimalString_eq (whole decimal k : Nat) (hd : decimal < 10 ^ k) :
    decimalString whole decimal (10 ^ k) = .ok ⟨Nat.toDigits 10 whole ++
      '.' :: (List.replicate (k - digitCount decimal) '0' ++ Nat.toDigits 10 decimal)⟩ := by
  have hb : digitCount decimal ≤ k := (digitCount_le_iff _ _).mpr hd
  obtain ⟨z, hz, hzd⟩ :=
    stringsRepeat_zero (show (0 : Int) ≤ ((k - digitCount decimal : Nat) : Int) by omega)
  simp only [decimalString, bind, Except.bind]
  rw [getNumDigits_ofNat, getNumDigits_ofNat, digitCount_pow]
  dsimp only
  rw [show ((k + 1 : Nat) : Int) - (digitCount decimal : Nat) - 1 =
    ((k - digitCount decimal : Nat) : Int) by omega, hz]
  exact congrArg Except.ok (String.ext (by simp [hzd]))

/-- `whole.zeros decimal`, the zeros padding `decimal` to `k` digits, denotes
`whole + decimal / 10^k`. -/
lemma decimalValue_padded (whole decimal k : Nat) (hd : decimal < 10 ^ k) :
    decimalValue ⟨Nat.toDigits 10 whole ++
        '.' :: (List.replicate (k - digitCount decimal) '0' ++ Nat.toDigits 10 decimal)⟩ =
      some ((whole : ℚ) + decimal / 10 ^ k) := by
  have hb : digitCount decimal ≤ k := (digitCount_le_iff _ _).mpr hd
  have hfr : ∀ c ∈ List.replicate (k - digitCount decimal) '0' ++ Nat.toDigits 10 decimal,
      c.isDigit := by
    intro c hc
    rcases List.mem_append.mp hc with hc | hc
    · rw [List.eq_of_mem_replicate hc]
      rfl
    · exact toDigits_isDigit decimal c hc
  have hp := parseNumeral_point false whole hfr
  simp only [digitsValue_replicate_append, digitsValue_toDigits, List.length_append,
    List.length_replicate, length_toDigits, Bool.false_eq_true, if_false, List.nil_append] at hp
  simp only [decimalValue, hp, Option.map_some', Numeral.value, Bool.false_eq_true, if_false,
    one_mul, Option.some.injEq]
  congr 1
  rcases Nat.eq_zero_or_pos decimal with h0 | hpos
  · simp [h0]
  · rw [show k - digitCount decimal + max 1 (digitCount decimal) = k by
      have : 1 ≤ digitCount decimal := by rw [digitCount_of_pos hpos]; omega
      omega]

/-- The shared step is exact: with `F = 10^k` and `decimal < F` the zeros are never a negative
count, and the numeral denotes `whole + decimal / F`. -/
theorem decimalString_value (whole decimal k : Nat) (hd : decimal < 10 ^ k) :
    (∃ a b, getNumDigits (10 ^ k : Nat) = .ok a ∧ getNumDigits decimal = .ok b ∧ b + 1 ≤ a) ∧
      ∃ s, decimalString whole decimal (10 ^ k) = .ok s ∧
        decimalValue s = some ((whole : ℚ) + decimal / 10 ^ k) := by
  have hb : digitCount decimal ≤ k := (digitCount_le_iff _ _).mpr hd
  refine ⟨⟨k + 1, digitCount decimal, by rw [← digitCount_pow]; exact_mod_cast getNumDigits_ofNat _,
    getNumDigits_ofNat _, by omega⟩, _, decimalString_eq whole decimal k hd,
    decimalValue_padded whole decimal k hd⟩

lemma cast_div_add_mod_div (n d : Nat) (hd : 0 < d) :
    ((n / d : Nat) : ℚ) + ((n % d : Nat) : ℚ) / d = n / d := by
  rw [eq_div_iff (by positivity), add_mul, div_mul_cancel₀ _ (by positivity)]
  exact_mod_cast Nat.div_add_mod' n d

/-- The quantity numeral for a power-of-ten scaling factor: its zeros are a nonnegative count
and it denotes `q / F`. -/
lemma quantityToFillDecimalString_value (q F : BitVec 256) (k : Nat) (hF : F.toNat = 10 ^ k) :
    (∃ a b, getNumDigits F.toNat = .ok a ∧ getNumDigits (uint256Mod q F).toNat = .ok b ∧
      b + 1 ≤ a) ∧
      ∃ s, quantityToFillDecimalString q F = .ok s ∧
        decimalValue s = some ((q.toNat : ℚ) / F.toNat) := by
  have hF0 : F ≠ 0 := by
    rintro rfl
    exact (pow_pos (by norm_num : (0 : Nat) < 10) k).ne hF
  have hmod : (uint256Mod q F).toNat = q.toNat % 10 ^ k := by
    rw [uint256Mod, if_neg hF0, BitVec.toNat_umod, hF]
  have hdiv : (q / F).toNat = q.toNat / 10 ^ k := by rw [BitVec.toNat_udiv, hF]
  obtain ⟨hz, s, hs, hv⟩ :=
    decimalString_value (q.toNat / 10 ^ k) (q.toNat % 10 ^ k) k (Nat.mod_lt _ (by positivity))
  refine ⟨by rw [hF, hmod]; exact_mod_cast hz, s, ?_, ?_⟩
  · rw [quantityToFillDecimalString, hdiv, hmod, hF, hs]
  · rw [hv, hF, ← cast_div_add_mod_div _ _ (by positivity)]
    push_cast
    rfl

@[simp] lemma OneE38_toNat : OneE38.toNat = 10 ^ 38 := rfl

lemma exchangeRateBigInt_eq (buying selling : String) (S : BitVec 256) :
    exchangeRateBigInt buying selling S =
      if buying = "" then S.toNat / 10 ^ 9
      else if selling = "" then S.toNat * 10 ^ 9 else S.toNat := by
  simp only [exchangeRateBigInt, getDESOToDAOCoinBaseUnitsScalingFactor_toNat]

/-- The rate reads the coins' keys only through which of them is $DESO. -/
lemma exchangeRateBigInt_congr {buying selling buying' selling' : String}
    (hb : buying = "" ↔ buying' = "") (hs : selling = "" ↔ selling' = "") (S : BitVec 256) :
    exchangeRateBigInt buying selling S = exchangeRateBigInt buying' selling' S := by
  simp only [exchangeRateBigInt, hb, hs]

/-- The rate numeral pads with a nonnegative count of zeros and denotes `c(S) / 1e38`. -/
lemma exchangeRateDecimalString_value (buying selling : String) (S : BitVec 256) :
    (∃ a b, getNumDigits OneE38.toNat = .ok a ∧
      getNumDigits (exchangeRateBigInt buying selling S % OneE38.toNat) = .ok b ∧ b + 1 ≤ a) ∧
    ∃ s, exchangeRateDecimalString buying selling S = .ok s ∧
      decimalValue s = some ((exchangeRateBigInt buying selling S : ℚ) / 10 ^ 38) := by
  set c := exchangeRateBigInt buying selling S
  obtain ⟨hz, s, hs, hv⟩ :=
    decimalString_value (c / 10 ^ 38) (c % 10 ^ 38) 38 (Nat.mod_lt _ (by positivity))
  have h := cast_div_add_mod_div c (10 ^ 38) (by positivity)
  rw [Nat.cast_pow, Nat.cast_ofNat] at h
  exact ⟨by rw [OneE38_toNat]; exact_mod_cast hz, s, hs, by rw [hv, h]⟩

/-- Rendering a scaled value as a decimal is exact. For `F` either `1e9` or `1e18` the numeral
that `calculateQuantityToFillAsFloatWithScalingFactor` builds for any `uint256` `q` pads with a
nonnegative count of zeros and denotes `q / F`; the numeral `CalculateExchangeRateAsFloat`
builds for any `S` does the same over `1e38` and denotes `c(S) / 1e38`, `c(S)` being `S` with
the $DESO adjustment undone in unbounded arithmetic. -/
theorem rendering_exact (q F : BitVec 256) (hF : F.toNat = 10 ^ 9 ∨ F.toNat = 10 ^ 18)
    (buying selling : String) (S : BitVec 256) :
    (∃ a b, getNumDigits F.toNat = .ok a ∧ getNumDigits (uint256Mod q F).toNat = .ok b ∧
      b + 1 ≤ a) ∧
    (∃ s, quantityToFillDecimalString q F = .ok s ∧
      decimalValue s = some ((q.toNat : ℚ) / F.toNat)) ∧
    (∃ a b, getNumDigits OneE38.toNat = .ok a ∧
      getNumDigits (exchangeRateBigInt buying selling S % OneE38.toNat) = .ok b ∧ b + 1 ≤ a) ∧
    ∃ s, exchangeRateDecimalString buying selling S = .ok s ∧
      decimalValue s = some (((if buying = "" then S.toNat / 10 ^ 9
        else if selling = "" then S.toNat * 10 ^ 9 else S.toNat : Nat) : ℚ) / 10 ^ 38) := by
  obtain ⟨k, hk⟩ : ∃ k, F.toNat = 10 ^ k := hF.elim (⟨9, ·⟩) (⟨18, ·⟩)
  obtain ⟨hrz, s, hs, hv⟩ := exchangeRateDecimalString_value buying selling S
  exact ⟨(quantityToFillDecimalString_value q F k hk).1,
    (quantityToFillDecimalString_value q F k hk).2, hrz, s, hs, by rw [hv, exchangeRateBigInt_eq]⟩

theorem rendering_exact_one_coin :
    BaseUnitsPerCoin.toNat = 10 ^ 18 ∧
      (∃ s, quantityToFillDecimalString BaseUnitsPerCoin BaseUnitsPerCoin = .ok s ∧
        decimalValue s = some ((BaseUnitsPerCoin.toNat : ℚ) / BaseUnitsPerCoin.toNat)) :=
  ⟨rfl, (rendering_exact BaseUnitsPerCoin BaseUnitsPerCoin (Or.inr rfl) "a" "b" OneE38).2.1⟩

end DesoBackend
