import DesoBackend.Exchange.Render

/-!
# Writing a value and reading it back

A rate or a quantity goes to the book through `CalculateScaledExchangeRate` or
`CalculateQuantityToFillAsBaseUnits` and comes back through `CalculateExchangeRateAsFloat`
or `CalculateQuantityToFillAsFloat`. The numeral the read path builds denotes the printed
float exactly, except that a $DESO quantity keeps only nine decimals; both write paths keep
the order of their inputs.
-/

namespace DesoBackend

/-- A printed float has at most fifteen decimals, so scaling it by `10^k`, `k ≥ 15`, is exact. -/
lemma cast_floor_printedValue_mul (f : Float64) {k : Nat} (hk : 15 ≤ k) :
    (⌊printedValue f * 10 ^ k⌋₊ : ℚ) = printedValue f * 10 ^ k := by
  have hp := printedScaled_le_fifteen f
  have hk' : (10 : ℚ) ^ k = 10 ^ (k - (printedScaled f).2) * 10 ^ (printedScaled f).2 := by
    rw [← pow_add, Nat.sub_add_cancel (by omega)]
  have e : printedValue f * 10 ^ k =
      (((printedScaled f).1 * 10 ^ (k - (printedScaled f).2) : Nat) : ℚ) := by
    rw [printedValue, hk']
    push_cast
    field_simp
    ring
  rw [e, Nat.floor_natCast]

lemma adjustedRate_mono (buying selling : String) {R R' : Nat} (h : R ≤ R') :
    adjustedRate buying selling R ≤ adjustedRate buying selling R' := by
  unfold adjustedRate
  split_ifs
  · exact Nat.mul_le_mul_right _ h
  · exact Nat.div_le_div_right h
  · exact h

/-- A rate `CalculateScaledExchangeRate` returns is the adjusted raw rate of a float `f ≥ 0`. -/
lemma CalculateScaledExchangeRate_ok {buying selling : String} {f : Float64} {S : BitVec 256}
    (h : CalculateScaledExchangeRate buying selling f = .ok S) :
    0 ≤ f.toRat ∧ S.toNat = adjustedRate buying selling ⌊printedValue f * 10 ^ 38⌋₊ := by
  have hf := CalculateScaledExchangeRate_nonneg h
  rcases CalculateScaledExchangeRate_dichotomy buying selling hf with
    ⟨-, msg, he⟩ | ⟨-, -, hlt, hok⟩
  · rw [he] at h
    cases h
  · rw [hok] at h
    cases h
    exact ⟨hf, by rw [BitVec.toNat_ofNat, Nat.mod_eq_of_lt hlt]⟩

/-- A quantity `CalculateQuantityToFillAsBaseUnits` returns is `⌊v * F⌋` for a float `f ≥ 0`. -/
lemma CalculateQuantityToFillAsBaseUnits_ok {buying selling op : String} {f : Float64}
    {Q : BitVec 256} (h : CalculateQuantityToFillAsBaseUnits buying selling op f = .ok Q) :
    0 ≤ f.toRat ∧ Q.toNat = ⌊printedValue f * quantityScalingFactor buying selling op⌋₊ := by
  have hf := CalculateQuantityToFillAsBaseUnits_nonneg h
  rcases CalculateQuantityToFillAsBaseUnits_dichotomy buying selling op hf with
    ⟨-, msg, he⟩ | ⟨-, hlt, hok⟩
  · rw [he] at h
    cases h
  · rw [hok] at h
    cases h
    exact ⟨hf, by rw [BitVec.toNat_ofNat, Nat.mod_eq_of_lt hlt]⟩

/-- The read path undoes the $DESO adjustment of the write path: dividing by `1e9` undoes the
multiplication, and multiplying by `1e9` undoes a division that left no remainder. -/
lemma exchangeRateBigInt_of_adjusted {buying selling : String} {S : BitVec 256} {R : Nat}
    (hS : S.toNat = adjustedRate buying selling R) (h9 : R % 10 ^ 9 = 0) :
    exchangeRateBigInt buying selling S = R := by
  rw [exchangeRateBigInt_eq, hS, adjustedRate]
  by_cases hb : buying = ""
  · simp only [hb, if_true, Nat.mul_div_cancel _ (by positivity : 0 < 10 ^ 9)]
  · by_cases hsel : selling = ""
    · simp only [hb, hsel, if_true, if_false]
      exact Nat.div_mul_cancel (Nat.dvd_of_mod_eq_zero h9)
    · simp only [hb, hsel, if_false]

/-- The numeral the read path builds from a rate `CalculateScaledExchangeRate` wrote denotes
the value `formatFloatAsString` printed. -/
lemma exchangeRateDecimalString_of_scaled {buying selling : String} {f : Float64}
    {S : BitVec 256} (hS : CalculateScaledExchangeRate buying selling f = .ok S) :
    ∃ s', exchangeRateDecimalString buying selling S = .ok s' ∧
      decimalValue s' = some (printedValue f) := by
  obtain ⟨-, hR⟩ := CalculateScaledExchangeRate_ok hS
  obtain ⟨-, s', hs', hv'⟩ := exchangeRateDecimalString_value buying selling S
  refine ⟨s', hs', ?_⟩
  rw [hv', exchangeRateBigInt_of_adjusted hR (floor_printedValue_rate_dvd f),
    cast_floor_printedValue_mul f (by norm_num), mul_div_cancel_right₀ _ (by positivity)]

/-- Rate round trip: whenever `CalculateScaledExchangeRate` returns a rate `S`, the numeral
`CalculateExchangeRateAsFloat` builds from `S` for the same coin pair denotes exactly the
value of the text `formatFloatAsString` printed. -/
theorem rate_round_trip (buying selling : String) (f : Float64) (S : BitVec 256)
    (hS : CalculateScaledExchangeRate buying selling f = .ok S) :
    ∃ s s' v, formatFloatAsString f = .ok s ∧ exchangeRateDecimalString buying selling S = .ok s' ∧
      decimalValue s = some v ∧ decimalValue s' = some v := by
  obtain ⟨s, hs, hv, -⟩ :=
    ParseDecimalToScaled_formatFloatAsString (CalculateScaledExchangeRate_ok hS).1 0
  obtain ⟨s', hs', hv'⟩ := exchangeRateDecimalString_of_scaled hS
  exact ⟨s, s', printedValue f, hs, hs', hv, hv'⟩

theorem rate_round_trip_one :
    CalculateScaledExchangeRate "" "b" Float64.one = .ok (BitVec.ofNat 256 (10 ^ 47)) ∧
      ∃ s s' v, formatFloatAsString Float64.one = .ok s ∧
        exchangeRateDecimalString "" "b" (BitVec.ofNat 256 (10 ^ 47)) = .ok s' ∧
        decimalValue s = some v ∧ decimalValue s' = some v :=
  ⟨rfl, rate_round_trip "" "b" Float64.one _ rfl⟩

lemma quantityScalingFactor_eq (buying selling op : String) :
    quantityScalingFactor buying selling op =
      10 ^ (if isCoinToFillDESO buying selling op then 9 else 18) := by
  unfold quantityScalingFactor NanosPerUnit
  split <;> rfl

lemma toNat_ofNat_quantityScalingFactor (buying selling op : String) :
    (BitVec.ofNat 256 (quantityScalingFactor buying selling op)).toNat =
      quantityScalingFactor buying selling op := by
  rw [BitVec.toNat_ofNat, Nat.mod_eq_of_lt]
  rw [quantityScalingFactor_eq]
  split <;> norm_num

/-- The numeral the read path builds from a quantity `CalculateQuantityToFillAsBaseUnits`
wrote denotes `⌊v * F⌋ / F`, `v` the printed value. -/
lemma quantityToFillString_of_scaled {buying selling op : String} {f : Float64} {Q : BitVec 256}
    (hQ : CalculateQuantityToFillAsBaseUnits buying selling op f = .ok Q) :
    ∃ s', quantityToFillString buying selling op Q = .ok s' ∧
      decimalValue s' = some ((⌊printedValue f * quantityScalingFactor buying selling op⌋₊ : ℚ) /
        quantityScalingFactor buying selling op) := by
  obtain ⟨-, hR⟩ := CalculateQuantityToFillAsBaseUnits_ok hQ
  obtain ⟨-, s', hs', hv'⟩ := quantityToFillDecimalString_value Q
    (BitVec.ofNat 256 (quantityScalingFactor buying selling op)) _
    ((toNat_ofNat_quantityScalingFactor buying selling op).trans
      (quantityScalingFactor_eq buying selling op))
  rw [toNat_ofNat_quantityScalingFactor, hR] at hv'
  exact ⟨s', hs', hv'⟩

/-- Converting keeps the order: for `0 ≤ f ≤ g` the printed value of `f` is at most that of
`g`, and whenever both conversions succeed, so are the scaled rates and the scaled quantities,
for every coin pair and operation type. -/
theorem conversions_monotone (f g : Float64) (hf : 0 ≤ f.toRat) (hfg : f.toRat ≤ g.toRat) :
    (∃ s t v w, formatFloatAsString f = .ok s ∧ formatFloatAsString g = .ok t ∧
      decimalValue s = some v ∧ decimalValue t = some w ∧ v ≤ w) ∧
    (∀ buying selling S T, CalculateScaledExchangeRate buying selling f = .ok S →
      CalculateScaledExchangeRate buying selling g = .ok T → S.toNat ≤ T.toNat) ∧
    (∀ buying selling op Q P, CalculateQuantityToFillAsBaseUnits buying selling op f = .ok Q →
      CalculateQuantityToFillAsBaseUnits buying selling op g = .ok P → Q.toNat ≤ P.toNat) := by
  have hg := hf.trans hfg
  have hv : printedValue f ≤ printedValue g := by
    rw [Float64.toRat_of_nonneg hf, Float64.toRat_of_nonneg hg] at hfg
    exact printedValue_mono hfg
  have hfloor : ∀ F : ℚ, 0 ≤ F → ⌊printedValue f * F⌋₊ ≤ ⌊printedValue g * F⌋₊ :=
    fun F hF => Nat.floor_mono (mul_le_mul_of_nonneg_right hv hF)
  obtain ⟨s, hs, hvs, -⟩ := ParseDecimalToScaled_formatFloatAsString hf 0
  obtain ⟨t, ht, hvt, -⟩ := ParseDecimalToScaled_formatFloatAsString hg 0
  refine ⟨⟨s, t, _, _, hs, ht, hvs, hvt, hv⟩, fun buying selling S T hS hT => ?_,
    fun buying selling op Q P hQ hP => ?_⟩
  · rw [(CalculateScaledExchangeRate_ok hS).2, (CalculateScaledExchangeRate_ok hT).2]
    exact adjustedRate_mono buying selling (hfloor _ (by positivity))
  · rw [(CalculateQuantityToFillAsBaseUnits_ok hQ).2, (CalculateQuantityToFillAsBaseUnits_ok hP).2]
    exact hfloor _ (Nat.cast_nonneg _)

def oneAndHalf : Float64 := ⟨false, 3, -1, by norm_num, by norm_num, by norm_num⟩

theorem conversions_monotone_one_oneAndHalf :
    0 ≤ Float64.one.toRat ∧ Float64.one.toRat ≤ oneAndHalf.toRat ∧
      (∃ s t v w, formatFloatAsString Float64.one = .ok s ∧ formatFloatAsString oneAndHalf = .ok t ∧
        decimalValue s = some v ∧ decimalValue t = some w ∧ v ≤ w) ∧
      (∀ buying selling S T, CalculateScaledExchangeRate buying selling Float64.one = .ok S →
        CalculateScaledExchangeRate buying selling oneAndHalf = .ok T → S.toNat ≤ T.toNat) ∧
      (∀ buying selling op Q P,
        CalculateQuantityToFillAsBaseUnits buying selling op Float64.one = .ok Q →
        CalculateQuantityToFillAsBaseUnits buying selling op oneAndHalf = .ok P →
          Q.toNat ≤ P.toNat) := by
  have h0 : 0 ≤ Float64.one.toRat := (Float64.toRat_nonneg_iff _).mpr (.inl rfl)
  have h1 : Float64.one.toRat ≤ oneAndHalf.toRat := by
    norm_num [Float64.toRat, Float64.magnitude, Float64.num, Float64.den, Float64.one, oneAndHalf,
      show (-1 : Int).toNat = 0 from rfl]
  exact ⟨h0, h1, conversions_monotone Float64.one oneAndHalf h0 h1⟩

end DesoBackend
