import DesoBackend.Go.NumDigits
import DesoBackend.Go.Float64

/-!
# `formatFloatAsString`

`formatFloatAsString` prints a float with at most 15 significant digits: below `1e15` with
`15 - d` decimals, `d` being the number of digits of the integer part, and from `1e15` on
as the integer part with every digit after the fifteenth set to zero. `printedScaled f`
is the value printed, as an integer over a power of ten; every property of the printed
numeral is proved about it.
-/

namespace DesoBackend

def formatFloatAsString (f : Float64) : Except Failure String := do
  let fAsBigInt := bigFloatInt f
  let supportedPrecisionDigits := 15
  let numWholeNumberDigits ← getNumDigits fAsBigInt
  if numWholeNumberDigits ≤ supportedPrecisionDigits then
    return formatFixed f (supportedPrecisionDigits - numWholeNumberDigits)
  let divisorToDropDigits : Int := 10 ^ (numWholeNumberDigits - supportedPrecisionDigits)
  return toString (fAsBigInt / divisorToDropDigits * divisorToDropDigits) ++ ".0"

/-- `numWholeNumberDigits`: the number of digits of the integer part. -/
def Float64.wholeDigits (f : Float64) : Nat := digitCount f.intPart

/-- The magnitude `formatFloatAsString f` prints, `(N, p)` standing for `N / 10 ^ p`. -/
def printedScaled (f : Float64) : Nat × Nat :=
  if f.wholeDigits ≤ 15 then (roundHalfEven (f.num * 10 ^ (15 - f.wholeDigits)) f.den, 15 - f.wholeDigits)
  else (f.intPart / 10 ^ (f.wholeDigits - 15) * 10 ^ (f.wholeDigits - 15), 0)

/-- The magnitude `formatFloatAsString f` prints. -/
def printedValue (f : Float64) : ℚ := (printedScaled f).1 / 10 ^ (printedScaled f).2

lemma printedScaled_le_fifteen (f : Float64) : (printedScaled f).2 ≤ 15 := by
  unfold printedScaled
  split <;> simp

theorem formatFloatAsString_diverge {f : Float64} (h : f.sign ∧ 0 < f.intPart) :
    formatFloatAsString f = .error .diverge := by
  simp [formatFloatAsString, getNumDigits_neg ((bigFloatInt_neg_iff f).mpr h), bind, Except.bind]

/-- How a float whose truncation is not negative is printed. -/
theorem formatFloatAsString_of_not_neg {f : Float64} (h : ¬(f.sign ∧ 0 < f.intPart)) :
    formatFloatAsString f =
      .ok (if f.wholeDigits ≤ 15 then formatFixed f (15 - f.wholeDigits)
        else ⟨Nat.toDigits 10 (f.intPart / 10 ^ (f.wholeDigits - 15) *
          10 ^ (f.wholeDigits - 15)) ++ ['.', '0']⟩) := by
  simp only [formatFloatAsString, bigFloatInt_of_not_neg h, getNumDigits_ofNat, bind, Except.bind,
    Float64.wholeDigits]
  split
  · rfl
  · have e : (f.intPart : Int) / 10 ^ (digitCount f.intPart - 15) *
        10 ^ (digitCount f.intPart - 15) =
        ((f.intPart / 10 ^ (digitCount f.intPart - 15) *
          10 ^ (digitCount f.intPart - 15) : Nat) : Int) := by
      push_cast
      rfl
    rw [e]
    rfl

lemma split_scaled (r p F : Nat) : r / 10 ^ p * F + r % 10 ^ p * F / 10 ^ p = r * F / 10 ^ p := by
  have h : r * F = r % 10 ^ p * F + 10 ^ p * (r / 10 ^ p * F) := by
    conv_lhs => rw [← Nat.mod_add_div r (10 ^ p)]
    ring
  rw [h, Nat.add_mul_div_left _ _ (by positivity)]
  ring

/-- The numeral `formatFloatAsString` prints: its sign is the float's, it has at most 15
digits after the point, and its value and its scaling by any `F` are those of `printedScaled`. -/
theorem parseNumeral_formatFloatAsString {f : Float64} (h : ¬(f.sign ∧ 0 < f.intPart)) :
    ∃ s n, formatFloatAsString f = .ok s ∧ parseNumeral s.data = some n ∧
      n.negative = f.sign ∧ n.fracDigits ≤ 15 ∧
      (∀ F, n.whole * F + n.frac * F / 10 ^ n.fracDigits =
        (printedScaled f).1 * F / 10 ^ (printedScaled f).2) ∧
      n.value = (if f.sign then -1 else 1) * printedValue f := by
  rw [formatFloatAsString_of_not_neg h]
  by_cases hd : f.wholeDigits ≤ 15
  · refine ⟨_, _, by rw [if_pos hd], parseNumeral_formatFixed f _, rfl, Nat.sub_le 15 _, ?_, ?_⟩
    · intro F
      simp only [printedScaled, if_pos hd]
      exact split_scaled _ _ F
    · rw [Numeral.value_eq, Nat.div_add_mod']
      simp [printedValue, printedScaled, hd]
  · have hs : f.sign = false := by
      have : 0 < f.intPart := Nat.pos_of_ne_zero fun h0 => hd (by simp [Float64.wholeDigits, h0])
      simpa [this] using h
    have hp := parseNumeral_point false (f.intPart / 10 ^ (f.wholeDigits - 15) *
      10 ^ (f.wholeDigits - 15)) (show ∀ c ∈ ['0'], c.isDigit by simp)
    have h0 : digitsValue ['0'] = 0 := rfl
    simp only [h0, List.length_singleton] at hp
    refine ⟨_, _, by rw [if_neg hd], by simpa using hp, hs.symm, by simp, ?_, ?_⟩
    · intro F
      simp [printedScaled, hd]
    · simp [Numeral.value, printedValue, printedScaled, hd, hs]

/-! ### What is printed -/

section Printed

variable {f g : Float64}

lemma printedValue_of_le (hd : f.wholeDigits ≤ 15) :
    printedValue f =
      (roundHalfEven (f.num * 10 ^ (15 - f.wholeDigits)) f.den : ℚ) / 10 ^ (15 - f.wholeDigits) := by
  simp [printedValue, printedScaled, hd]

lemma printedValue_of_gt (hd : 15 < f.wholeDigits) :
    printedValue f = (f.intPart / 10 ^ (f.wholeDigits - 15) * 10 ^ (f.wholeDigits - 15) : Nat) := by
  simp [printedValue, printedScaled, not_le.mpr hd]

/-- A non-negative float prints its `printedValue`; a negative zero prints `-0.000…`. -/
lemma signed_printedValue (hf : 0 ≤ f.toRat) :
    (if f.sign then -1 else 1) * printedValue f = printedValue f := by
  rcases (Float64.toRat_nonneg_iff f).mp hf with hs | hn
  · simp [hs]
  · simp [printedValue, printedScaled, hn, roundHalfEven, Float64.wholeDigits, Float64.intPart]

lemma zpow_sub_fifteen_of_le {d : Nat} (hd : d ≤ 15) :
    (10 : ℚ) ^ ((d : ℤ) - 15) = 1 / 10 ^ (15 - d) := by
  rw [show (d : ℤ) - 15 = -((15 - d : Nat) : ℤ) by omega, zpow_neg, zpow_natCast, one_div]

lemma zpow_sub_fifteen_of_gt {d : Nat} (hd : 15 < d) : (10 : ℚ) ^ ((d : ℤ) - 15) = 10 ^ (d - 15) := by
  rw [show (d : ℤ) - 15 = ((d - 15 : Nat) : ℤ) by omega, zpow_natCast]

lemma intPart_lt_pow (f : Float64) : f.intPart < 10 ^ f.wholeDigits := lt_pow_digitCount _

/-- The printed value is a whole number of units of its last printed place. -/
lemma printedValue_multiple : ∃ k : Nat, printedValue f = k * 10 ^ ((f.wholeDigits : ℤ) - 15) := by
  by_cases hd : f.wholeDigits ≤ 15
  · exact ⟨_, by rw [printedValue_of_le hd, zpow_sub_fifteen_of_le hd, mul_one_div]⟩
  · refine ⟨f.intPart / 10 ^ (f.wholeDigits - 15), ?_⟩
    rw [printedValue_of_gt (by omega), zpow_sub_fifteen_of_gt (by omega)]
    push_cast
    rfl

lemma printedValue_le : printedValue f ≤ 10 ^ f.wholeDigits := by
  by_cases hd : f.wholeDigits ≤ 15
  · have hpow : 10 ^ f.wholeDigits * 10 ^ (15 - f.wholeDigits) = 10 ^ 15 := by
      rw [← pow_add, Nat.add_sub_cancel' hd]
    have hr : roundHalfEven (f.num * 10 ^ (15 - f.wholeDigits)) f.den ≤ 10 ^ 15 := by
      apply roundHalfEven_le_of_lt f.den_pos
      calc f.num * 10 ^ (15 - f.wholeDigits)
          < 10 ^ f.wholeDigits * f.den * 10 ^ (15 - f.wholeDigits) :=
            Nat.mul_lt_mul_of_pos_right ((Nat.div_lt_iff_lt_mul f.den_pos).mp (intPart_lt_pow f))
              (by positivity)
        _ = 10 ^ 15 * f.den := by rw [← hpow]; ring
    rw [printedValue_of_le hd, div_le_iff₀ (by positivity)]
    exact_mod_cast hr.trans_eq hpow.symm
  · rw [printedValue_of_gt (by omega)]
    exact_mod_cast (Nat.div_mul_le_self _ _).trans (intPart_lt_pow f).le

/-- Below `1e15` the printed value is the float rounded to the nearest multiple of its last place. -/
lemma abs_printedValue_sub_le (hd : f.wholeDigits ≤ 15) :
    |printedValue f - f.magnitude| ≤ 10 ^ ((f.wholeDigits : ℤ) - 15) / 2 := by
  have h := roundHalfEven_sub_le (f.num * 10 ^ (15 - f.wholeDigits)) f.den f.den_pos
  have hp : (0 : ℚ) < 10 ^ (15 - f.wholeDigits) := by positivity
  have hd' : (0 : ℚ) < f.den := by exact_mod_cast f.den_pos
  have e : (roundHalfEven (f.num * 10 ^ (15 - f.wholeDigits)) f.den : ℚ) / 10 ^ (15 - f.wholeDigits) -
      f.magnitude = ((roundHalfEven (f.num * 10 ^ (15 - f.wholeDigits)) f.den : ℚ) -
        ((f.num * 10 ^ (15 - f.wholeDigits) : Nat) : ℚ) / f.den) / 10 ^ (15 - f.wholeDigits) := by
    rw [Float64.magnitude]
    push_cast
    field_simp
    ring
  rw [printedValue_of_le hd, zpow_sub_fifteen_of_le hd, e, abs_div, abs_of_pos hp, div_le_iff₀ hp]
  calc _ ≤ 1 / 2 := h
    _ = 1 / 10 ^ (15 - f.wholeDigits) / 2 * 10 ^ (15 - f.wholeDigits) := by field_simp

lemma floor_magnitude_div (m : Nat) : ⌊f.magnitude / 10 ^ m⌋₊ = f.intPart / 10 ^ m := by
  rw [Float64.magnitude, div_div, show (f.den : ℚ) * 10 ^ m = ((f.den * 10 ^ m : Nat) : ℚ) by
    push_cast; rfl, Nat.floor_div_eq_div, Float64.intPart, Nat.div_div_eq_div_mul]

/-- From `1e15` on the printed value is the float with the digits after the fifteenth cut off. -/
lemma printedValue_trunc (hd : 15 < f.wholeDigits) :
    printedValue f = ⌊f.magnitude / 10 ^ (f.wholeDigits - 15)⌋₊ * 10 ^ (f.wholeDigits - 15) ∧
      0 ≤ f.magnitude - printedValue f ∧
      f.magnitude - printedValue f < 10 ^ (f.wholeDigits - 15) := by
  have h1 : (f.intPart : ℚ) ≤ f.magnitude := by
    rw [← Float64.floor_magnitude]
    exact Nat.floor_le f.magnitude_nonneg
  have h2 : f.magnitude < f.intPart + 1 := by
    rw [← Float64.floor_magnitude]
    exact Nat.lt_floor_add_one _
  have h3 : ((f.intPart / 10 ^ (f.wholeDigits - 15) * 10 ^ (f.wholeDigits - 15) : Nat) : ℚ) +
      (f.intPart % 10 ^ (f.wholeDigits - 15) : Nat) = f.intPart := by
    exact_mod_cast Nat.div_add_mod' _ _
  have h4 : ((f.intPart % 10 ^ (f.wholeDigits - 15) : Nat) : ℚ) + 1 ≤ 10 ^ (f.wholeDigits - 15) := by
    exact_mod_cast Nat.mod_lt _ (by positivity)
  rw [printedValue_of_gt hd, floor_magnitude_div]
  refine ⟨by push_cast; rfl, ?_, ?_⟩ <;> linarith [(Nat.cast_nonneg _ : (0 : ℚ) ≤ (f.intPart % 10 ^ (f.wholeDigits - 15) : Nat))]

lemma pow_le_printedValue (hd : 0 < f.wholeDigits) : 10 ^ (f.wholeDigits - 1) ≤ printedValue f := by
  have ht : 10 ^ (f.wholeDigits - 1) ≤ f.intPart :=
    pow_digitCount_le (Nat.pos_of_ne_zero fun h => by simp [Float64.wholeDigits, h] at hd)
  by_cases h15 : f.wholeDigits ≤ 15
  · have hpow : 10 ^ (f.wholeDigits - 1) * 10 ^ (15 - f.wholeDigits) = 10 ^ 14 := by
      rw [← pow_add]
      congr 1
      omega
    have hr : 10 ^ 14 ≤ roundHalfEven (f.num * 10 ^ (15 - f.wholeDigits)) f.den := by
      apply le_roundHalfEven_of_le f.den_pos
      calc 10 ^ 14 * f.den = 10 ^ (f.wholeDigits - 1) * f.den * 10 ^ (15 - f.wholeDigits) := by
            rw [← hpow]; ring
        _ ≤ f.num * 10 ^ (15 - f.wholeDigits) :=
          Nat.mul_le_mul_right _ ((Nat.le_div_iff_mul_le f.den_pos).mp ht)
    rw [printedValue_of_le h15, le_div_iff₀ (by positivity)]
    exact_mod_cast hpow.trans_le hr
  · have hpow : 10 ^ (f.wholeDigits - 1) = 10 ^ (f.wholeDigits - 1 - (f.wholeDigits - 15)) *
        10 ^ (f.wholeDigits - 15) := by
      rw [← pow_add]
      congr 1
      omega
    rw [printedValue_of_gt (by omega)]
    have : 10 ^ (f.wholeDigits - 1 - (f.wholeDigits - 15)) ≤ f.intPart / 10 ^ (f.wholeDigits - 15) :=
      (Nat.le_div_iff_mul_le (by positivity)).mpr (hpow ▸ ht)
    exact_mod_cast hpow.trans_le (Nat.mul_le_mul_right _ this)

/-- The printed value grows with the float, across every change of the number of decimals and
the switch from rounding to cutting at `1e15`. -/
theorem printedValue_mono (h : f.magnitude ≤ g.magnitude) : printedValue f ≤ printedValue g := by
  have ht : f.intPart ≤ g.intPart := by
    rw [← Float64.floor_magnitude, ← Float64.floor_magnitude]
    exact Nat.floor_mono h
  have hd : f.wholeDigits ≤ g.wholeDigits := Nat.le_digits_len_le _ _ _ ht
  rcases hd.lt_or_eq with hlt | heq
  · calc printedValue f ≤ 10 ^ f.wholeDigits := printedValue_le
      _ ≤ 10 ^ (g.wholeDigits - 1) := pow_le_pow_right₀ (by norm_num) (by omega)
      _ ≤ printedValue g := pow_le_printedValue (by omega)
  · by_cases h15 : f.wholeDigits ≤ 15
    · rw [printedValue_of_le h15, printedValue_of_le (heq ▸ h15), heq]
      have hmono : roundHalfEven (f.num * 10 ^ (15 - g.wholeDigits)) f.den ≤
          roundHalfEven (g.num * 10 ^ (15 - g.wholeDigits)) g.den := by
        apply roundHalfEven_mono f.den_pos g.den_pos
        push_cast
        rw [mul_div_right_comm, mul_div_right_comm (g.num : ℚ)]
        exact mul_le_mul_of_nonneg_right h (by positivity)
      exact div_le_div_of_nonneg_right (by exact_mod_cast hmono) (by positivity)
    · rw [printedValue_of_gt (by omega), printedValue_of_gt (by omega), heq]
      exact_mod_cast Nat.mul_le_mul_right _ (Nat.div_le_div_right ht)

end Printed

/-- `formatFloatAsString` keeps 15 significant digits. Below `1e15`, with `d` digits before
the point, it rounds to the nearest multiple of `10^(d-15)`; from `1e15` on it cuts every
digit after the fifteenth and never rounds up. -/
theorem formatFloatAsString_precision (f : Float64) (hf : 0 ≤ f.toRat) :
    ∃ s n, formatFloatAsString f = .ok s ∧ parseNumeral s.data = some n ∧ n.fracDigits ≤ 15 ∧
      (∃ k : Nat, n.value = k * 10 ^ ((digitCount ⌊f.toRat⌋₊ : ℤ) - 15)) ∧
      n.value ≤ 10 ^ digitCount ⌊f.toRat⌋₊ ∧
      (digitCount ⌊f.toRat⌋₊ ≤ 15 →
        |n.value - f.toRat| ≤ 10 ^ ((digitCount ⌊f.toRat⌋₊ : ℤ) - 15) / 2) ∧
      (15 < digitCount ⌊f.toRat⌋₊ →
        n.value = ⌊f.toRat / 10 ^ (digitCount ⌊f.toRat⌋₊ - 15)⌋₊ *
          10 ^ (digitCount ⌊f.toRat⌋₊ - 15) ∧
        0 ≤ f.toRat - n.value ∧ f.toRat - n.value < 10 ^ (digitCount ⌊f.toRat⌋₊ - 15)) := by
  have hm := Float64.toRat_of_nonneg hf
  have hd : digitCount ⌊f.toRat⌋₊ = f.wholeDigits := by
    rw [hm, Float64.floor_magnitude]
    rfl
  obtain ⟨s, n, hs, hn, -, hk, -, hv⟩ := parseNumeral_formatFloatAsString (not_neg_of_nonneg hf)
  rw [signed_printedValue hf] at hv
  rw [hd, hm]
  refine ⟨s, n, hs, hn, hk, ?_⟩
  rw [hv]
  exact ⟨printedValue_multiple, printedValue_le, abs_printedValue_sub_le, printedValue_trunc⟩

theorem formatFloatAsString_precision_one :
    0 ≤ Float64.one.toRat ∧
      ∃ s n, formatFloatAsString Float64.one = .ok s ∧ parseNumeral s.data = some n ∧
        n.fracDigits ≤ 15 ∧
        (∃ k : Nat, n.value = k * 10 ^ ((digitCount ⌊Float64.one.toRat⌋₊ : ℤ) - 15)) ∧
        n.value ≤ 10 ^ digitCount ⌊Float64.one.toRat⌋₊ ∧
        (digitCount ⌊Float64.one.toRat⌋₊ ≤ 15 →
          |n.value - Float64.one.toRat| ≤ 10 ^ ((digitCount ⌊Float64.one.toRat⌋₊ : ℤ) - 15) / 2) ∧
        (15 < digitCount ⌊Float64.one.toRat⌋₊ →
          n.value = ⌊Float64.one.toRat / 10 ^ (digitCount ⌊Float64.one.toRat⌋₊ - 15)⌋₊ *
            10 ^ (digitCount ⌊Float64.one.toRat⌋₊ - 15) ∧
          0 ≤ Float64.one.toRat - n.value ∧
          Float64.one.toRat - n.value < 10 ^ (digitCount ⌊Float64.one.toRat⌋₊ - 15)) :=
  ⟨(Float64.toRat_nonneg_iff _).mpr (.inl rfl),
    formatFloatAsString_precision _ ((Float64.toRat_nonneg_iff _).mpr (.inl rfl))⟩

end DesoBackend
