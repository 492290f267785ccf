import DesoBackend.Exchange.FormatFloat

/-!
# From a float to scaled integers

`CalculateScaledExchangeRate` and `CalculateQuantityToFillAsBaseUnits` print the float with
`formatFloatAsString` and hand the text to the core library, which scales it by a power of
ten into a `uint256`. Buying $DESO (the empty coin identifier) the rate is then multiplied
by `1e9`, selling $DESO it is divided by `1e9`.
-/

namespace DesoBackend

/-- Modelled from the spec (§6, `S_ref`): `lib.NanosPerUnit`, the base units of one $DESO. -/
def NanosPerUnit : Nat := 10 ^ 9

/-- Modelled from the spec (§6, `S_gen`): `lib.BaseUnitsPerCoin`, the base units of one DAO coin. -/
def BaseUnitsPerCoin : BitVec 256 := BitVec.ofNat 256 (10 ^ 18)

/-- Modelled from the spec (§6, `RATE_SCALE`): `lib.OneE38`, the scale of exchange rates. -/
def OneE38 : BitVec 256 := BitVec.ofNat 256 (10 ^ 38)

/-- The range check of `ParseDecimalToScaled`: zero is too small, `2^256` and above overflow. -/
def checkScaled (scaled : Nat) : Except Failure (BitVec 256) :=
  if scaled = 0 then .error (.error "RangeError: value too small to represent")
  else if 2 ^ 256 ≤ scaled then .error (.error "OverflowError")
  else .ok (BitVec.ofNat 256 scaled)

/-- Modelled from the spec (§4.2 `ParseDecimalToScaled(text, F)`), standing for
`lib.CalculateScaledExchangeRateFromString` and `lib.ScaleFloatFormatStringToUint256`, which
are not in this repository: a numeral without sign, scaled by `F` and floored. -/
def ParseDecimalToScaled (text : String) (F : Nat) : Except Failure (BitVec 256) :=
  match parseNumeral text.data with
  | none => .error (.error "ParseError")
  | some n =>
    if n.negative then .error (.error "ParseError")
    else checkScaled (n.whole * F + n.frac * F / 10 ^ n.fracDigits)

/-- `lib.CalculateScaledExchangeRateFromString`: the text scaled by `1e38`. -/
def CalculateScaledExchangeRateFromString (text : String) : Except Failure (BitVec 256) :=
  ParseDecimalToScaled text (10 ^ 38)

/-- `lib.ScaleFloatFormatStringToUint256`: the text scaled by `scalingFactor`. -/
def ScaleFloatFormatStringToUint256 (text : String) (scalingFactor : BitVec 256) :
    Except Failure (BitVec 256) :=
  ParseDecimalToScaled text scalingFactor.toNat

/-- `getDESOToDAOCoinBaseUnitsScalingFactor`: `1e18 / 1e9`. -/
def getDESOToDAOCoinBaseUnitsScalingFactor : BitVec 256 :=
  BaseUnitsPerCoin / BitVec.ofNat 256 NanosPerUnit

@[simp] lemma getDESOToDAOCoinBaseUnitsScalingFactor_toNat :
    getDESOToDAOCoinBaseUnitsScalingFactor.toNat = 10 ^ 9 := by
  rfl

/-- `CalculateScaledExchangeRate`. The empty identifier stands for $DESO. -/
def CalculateScaledExchangeRate (buyingCoinPublicKeyBase58CheckOrUsername
    sellingCoinPublicKeyBase58CheckOrUsername : String)
    (exchangeRateCoinsToSellPerCoinToBuy : Float64) : Except Failure (BitVec 256) := do
  let rawScaledExchangeRate ←
    CalculateScaledExchangeRateFromString (← formatFloatAsString exchangeRateCoinsToSellPerCoinToBuy)
  let shown := formatFixed exchangeRateCoinsToSellPerCoinToBuy 6
  if rawScaledExchangeRate = 0 then
    throw (.error ("The float value " ++ shown ++ " is too small to produce a scaled exchange rate"))
  if buyingCoinPublicKeyBase58CheckOrUsername = "" then
    -- `product.MulOverflow(rawScaledExchangeRate, scalingFactor)`
    let product := rawScaledExchangeRate * getDESOToDAOCoinBaseUnitsScalingFactor
    let overflow := 2 ^ 256 ≤ rawScaledExchangeRate.toNat * getDESOToDAOCoinBaseUnitsScalingFactor.toNat
    if overflow then
      throw (.error ("Overflow when convering " ++ shown ++ " to a scaled exchange rate"))
    return product
  else if sellingCoinPublicKeyBase58CheckOrUsername = "" then
    let quotient := rawScaledExchangeRate / getDESOToDAOCoinBaseUnitsScalingFactor
    if quotient = 0 then
      throw (.error ("The float value " ++ shown ++ " is too small to produce a scaled exchange rate"))
    return quotient
  return rawScaledExchangeRate

def DAOCoinLimitOrderOperationTypeStringASK : String := "ASK"

def DAOCoinLimitOrderOperationTypeStringBID : String := "BID"

/-- `isCoinToFillDESO`: whether the quantity of an order is in $DESO. -/
def isCoinToFillDESO (buyingCoinPublicKeyBase58CheckOrUsername
    sellingCoinPublicKeyBase58CheckOrUsername operationTypeString : String) : Bool :=
  buyingCoinPublicKeyBase58CheckOrUsername == "" &&
      operationTypeString == DAOCoinLimitOrderOperationTypeStringBID ||
    sellingCoinPublicKeyBase58CheckOrUsername == "" &&
      operationTypeString == DAOCoinLimitOrderOperationTypeStringASK

def calculateQuantityToFillToBaseUnitsWithScalingFactor (quantityToFill : Float64)
    (scalingFactor : BitVec 256) : Except Failure (BitVec 256) := do
  ScaleFloatFormatStringToUint256 (← formatFloatAsString quantityToFill) scalingFactor

def calculateQuantityToFillAsDAOCoinBaseUnits (quantityToFill : Float64) :
    Except Failure (BitVec 256) :=
  calculateQuantityToFillToBaseUnitsWithScalingFactor quantityToFill BaseUnitsPerCoin

def calculateQuantityToFillAsDESONanos (quantityToFill : Float64) : Except Failure (BitVec 256) :=
  calculateQuantityToFillToBaseUnitsWithScalingFactor quantityToFill (BitVec.ofNat 256 NanosPerUnit)

def CalculateQuantityToFillAsBaseUnits (buyingCoinPublicKeyBase58CheckOrUsername
    sellingCoinPublicKeyBase58CheckOrUsername operationTypeString : String)
    (quantityToFill : Float64) : Except Failure (BitVec 256) :=
  if isCoinToFillDESO buyingCoinPublicKeyBase58CheckOrUsername
      sellingCoinPublicKeyBase58CheckOrUsername operationTypeString then
    calculateQuantityToFillAsDESONanos quantityToFill
  else calculateQuantityToFillAsDAOCoinBaseUnits quantityToFill

/-- The base units per coin of the side an order's quantity is in, as `isCoinToFillDESO` picks it. -/
def quantityScalingFactor (buying selling operationTypeString : String) : Nat :=
  if isCoinToFillDESO buying selling operationTypeString then NanosPerUnit else 10 ^ 18

lemma CalculateQuantityToFillAsBaseUnits_eq (buying selling op : String) (q : Float64) :
    CalculateQuantityToFillAsBaseUnits buying selling op q =
      formatFloatAsString q >>= fun s =>
        ParseDecimalToScaled s (quantityScalingFactor buying selling op) := by
  unfold CalculateQuantityToFillAsBaseUnits quantityScalingFactor
  split <;> rfl

/-- `isCoinToFillDESO` reads the coins' keys only through which of them is $DESO. -/
lemma isCoinToFillDESO_congr {buying selling buying' selling' : String}
    (hb : buying = "" ↔ buying' = "") (hs : selling = "" ↔ selling' = "") (op : String) :
    isCoinToFillDESO buying selling op = isCoinToFillDESO buying' selling' op := by
  have hb' : (buying == "") = (buying' == "") :=
    Bool.eq_iff_iff.mpr (by simpa only [beq_iff_eq] using hb)
  have hs' : (selling == "") = (selling' == "") :=
    Bool.eq_iff_iff.mpr (by simpa only [beq_iff_eq] using hs)
  simp only [isCoinToFillDESO, hb', hs']

/-! ### Scaling the printed float -/

lemma decimalValue_of_parseNumeral {s : String} {n : Numeral} (h : parseNumeral s.data = some n) :
    decimalValue s = some n.value := by
  simp [decimalValue, h]

lemma floor_printedValue_mul (f : Float64) (F : Nat) :
    ⌊printedValue f * F⌋₊ = (printedScaled f).1 * F / 10 ^ (printedScaled f).2 := by
  rw [printedValue, div_mul_eq_mul_div, ← Nat.cast_mul,
    show (10 : ℚ) ^ (printedScaled f).2 = ((10 ^ (printedScaled f).2 : Nat) : ℚ) by push_cast; rfl,
    Nat.floor_div_eq_div]

lemma sign_eq_false_of_pos {f : Float64} (hf : 0 ≤ f.toRat) (h : 0 < printedValue f) :
    f.sign = false := by
  by_contra hs
  have := signed_printedValue hf
  simp only [Bool.not_eq_false] at hs
  simp only [hs, if_true, neg_one_mul] at this
  linarith

lemma checkScaled_error {R : Nat} (h : R = 0 ∨ 2 ^ 256 ≤ R) : ∃ msg, checkScaled R = .error (.error msg) := by
  unfold checkScaled
  split_ifs <;> first | exact ⟨_, rfl⟩ | omega

/-- What `ParseDecimalToScaled` makes of the text `formatFloatAsString` prints for `f ≥ 0`: the
printed value times `F`, floored, with zero and `2^256` and above rejected. -/
theorem ParseDecimalToScaled_formatFloatAsString {f : Float64} (hf : 0 ≤ f.toRat) (F : Nat) :
    ∃ s, formatFloatAsString f = .ok s ∧ decimalValue s = some (printedValue f) ∧
      ((⌊printedValue f * F⌋₊ = 0 ∨ 2 ^ 256 ≤ ⌊printedValue f * F⌋₊) →
        ∃ msg, ParseDecimalToScaled s F = .error (.error msg)) ∧
      (0 < ⌊printedValue f * F⌋₊ → ⌊printedValue f * F⌋₊ < 2 ^ 256 →
        ParseDecimalToScaled s F = .ok (BitVec.ofNat 256 ⌊printedValue f * F⌋₊)) := by
  obtain ⟨s, n, hs, hn, hneg, -, hsc, hv⟩ := parseNumeral_formatFloatAsString (not_neg_of_nonneg hf)
  rw [signed_printedValue hf] at hv
  have hcore : ¬n.negative → ParseDecimalToScaled s F = checkScaled ⌊printedValue f * F⌋₊ := by
    intro hn'
    simp [ParseDecimalToScaled, hn, hn', hsc, floor_printedValue_mul]
  refine ⟨s, hs, by rw [decimalValue_of_parseNumeral hn, hv], fun hR => ?_, fun h0 h1 => ?_⟩
  · cases hsign : f.sign
    · rw [hcore (by simp [hneg, hsign])]
      exact checkScaled_error hR
    · exact ⟨"ParseError", by simp [ParseDecimalToScaled, hn, hneg, hsign]⟩
  · have hpos : 0 < printedValue f := by
      by_contra hle
      have : printedValue f * F ≤ 0 :=
        mul_nonpos_of_nonpos_of_nonneg (not_lt.mp hle) (Nat.cast_nonneg F)
      rw [Nat.floor_eq_zero.mpr (by linarith)] at h0
      exact h0.false
    rw [hcore (by simp [hneg, sign_eq_false_of_pos hf hpos]), checkScaled, if_neg h0.ne',
      if_neg (not_le.mpr h1)]

/-- A printed float scaled to a rate is a whole number of `1e9`s: it has at most 15 decimals. -/
lemma floor_printedValue_rate_dvd (f : Float64) : ⌊printedValue f * 10 ^ 38⌋₊ % 10 ^ 9 = 0 := by
  have hp := printedScaled_le_fifteen f
  have e : ⌊printedValue f * 10 ^ 38⌋₊ =
      (printedScaled f).1 * 10 ^ (38 - (printedScaled f).2 - 9) * 10 ^ 9 := by
    have h := floor_printedValue_mul f (10 ^ 38)
    rw [Nat.cast_pow, Nat.cast_ofNat] at h
    have e38 : (10 : Nat) ^ 38 = 10 ^ (38 - (printedScaled f).2 - 9) * 10 ^ 9 * 10 ^ (printedScaled f).2 := by
      rw [← pow_add, ← pow_add]
      congr 1
      omega
    rw [h, e38, ← mul_assoc, ← mul_assoc, Nat.mul_div_cancel _ (by positivity)]
  rw [e, Nat.mul_mod_left]

lemma ofNat_ne_zero {R : Nat} (h0 : 0 < R) (h1 : R < 2 ^ 256) : BitVec.ofNat 256 R ≠ 0 := by
  intro h
  have := congrArg BitVec.toNat h
  rw [BitVec.toNat_ofNat, Nat.mod_eq_of_lt h1] at this
  simp at this
  omega

/-- `CalculateScaledExchangeRate` once the library has scaled the printed text to `R`. -/
lemma CalculateScaledExchangeRate_of_raw {buying selling s : String} {f : Float64} {R : Nat}
    (hs : formatFloatAsString f = .ok s)
    (hraw : CalculateScaledExchangeRateFromString s = .ok (BitVec.ofNat 256 R))
    (h0 : 0 < R) (h1 : R < 2 ^ 256) (h9 : R % 10 ^ 9 = 0) :
    CalculateScaledExchangeRate buying selling f =
      if buying = "" then
        (if 2 ^ 256 ≤ R * 10 ^ 9 then
          .error (.error ("Overflow when convering " ++ formatFixed f 6 ++ " to a scaled exchange rate"))
        else .ok (BitVec.ofNat 256 (R * 10 ^ 9)))
      else if selling = "" then .ok (BitVec.ofNat 256 (R / 10 ^ 9))
      else .ok (BitVec.ofNat 256 R) := by
  have hR : (BitVec.ofNat 256 R).toNat = R := by rw [BitVec.toNat_ofNat, Nat.mod_eq_of_lt h1]
  have hq : BitVec.ofNat 256 R / getDESOToDAOCoinBaseUnitsScalingFactor = BitVec.ofNat 256 (R / 10 ^ 9) := by
    apply BitVec.eq_of_toNat_eq
    rw [BitVec.toNat_udiv, hR, getDESOToDAOCoinBaseUnitsScalingFactor_toNat, BitVec.toNat_ofNat,
      Nat.mod_eq_of_lt (lt_of_le_of_lt (Nat.div_le_self _ _) h1)]
  have hq0 : BitVec.ofNat 256 (R / 10 ^ 9) ≠ 0 :=
    ofNat_ne_zero (Nat.div_pos (Nat.le_of_dvd h0 (Nat.dvd_of_mod_eq_zero h9)) (by positivity))
      (lt_of_le_of_lt (Nat.div_le_self _ _) h1)
  have hmul : BitVec.ofNat 256 R * getDESOToDAOCoinBaseUnitsScalingFactor =
      BitVec.ofNat 256 (R * 10 ^ 9) := by
    apply BitVec.eq_of_toNat_eq
    rw [BitVec.toNat_mul, hR, getDESOToDAOCoinBaseUnitsScalingFactor_toNat, BitVec.toNat_ofNat]
  simp only [CalculateScaledExchangeRate, hs, hraw, bind, Except.bind, ofNat_ne_zero h0 h1, if_false,
    hR, getDESOToDAOCoinBaseUnitsScalingFactor_toNat, pure, Except.pure, hq, hq0, hmul]

lemma nonneg_of_scaled {f : Float64} {s : String} {F : Nat} {x : BitVec 256}
    (hs : formatFloatAsString f = .ok s) (hx : ParseDecimalToScaled s F = .ok x) : 0 ≤ f.toRat := by
  by_contra hneg
  have hsign : f.sign = true := by
    by_contra h
    exact hneg ((Float64.toRat_nonneg_iff f).mpr (.inl (by simpa using h)))
  have hdiv : ¬(f.sign ∧ 0 < f.intPart) := fun h => by
    rw [formatFloatAsString_diverge h] at hs
    cases hs
  obtain ⟨s', n, hs', hn, hneg', -⟩ := parseNumeral_formatFloatAsString hdiv
  rw [hs] at hs'
  cases hs'
  simp [ParseDecimalToScaled, hn, hneg', hsign] at hx

lemma CalculateScaledExchangeRate_nonneg {buying selling : String} {f : Float64} {S : BitVec 256}
    (h : CalculateScaledExchangeRate buying selling f = .ok S) : 0 ≤ f.toRat := by
  cases hs : formatFloatAsString f with
  | error e => simp [CalculateScaledExchangeRate, hs, bind, Except.bind] at h
  | ok s =>
    cases hx : CalculateScaledExchangeRateFromString s with
    | error e => simp [CalculateScaledExchangeRate, hs, hx, bind, Except.bind] at h
    | ok x => exact nonneg_of_scaled hs hx

lemma CalculateQuantityToFillAsBaseUnits_nonneg {buying selling op : String} {f : Float64}
    {Q : BitVec 256} (h : CalculateQuantityToFillAsBaseUnits buying selling op f = .ok Q) :
    0 ≤ f.toRat := by
  rw [CalculateQuantityToFillAsBaseUnits_eq] at h
  cases hs : formatFloatAsString f with
  | error e => simp [hs, bind, Except.bind] at h
  | ok s =>
    rw [hs] at h
    exact nonneg_of_scaled hs h

/-- When `CalculateScaledExchangeRate` fails, by the raw rate `R`. -/
def rateOutOfRange (buying : String) (R : Nat) : Prop :=
  R = 0 ∨ 2 ^ 256 ≤ R ∨ (buying = "" ∧ 2 ^ 256 ≤ R * 10 ^ 9)

/-- The rate `CalculateScaledExchangeRate` returns from the raw rate `R`. -/
def adjustedRate (buying selling : String) (R : Nat) : Nat :=
  if buying = "" then R * 10 ^ 9 else if selling = "" then R / 10 ^ 9 else R

/-- For `f ≥ 0`, `CalculateScaledExchangeRate` fails with an error when the raw rate
`R = ⌊v * 1e38⌋` is out of range, and otherwise returns the adjusted rate, nonzero and
below `2^256`. -/
lemma CalculateScaledExchangeRate_dichotomy (buying selling : String) {f : Float64}
    (hf : 0 ≤ f.toRat) :
    (rateOutOfRange buying ⌊printedValue f * 10 ^ 38⌋₊ ∧
        ∃ msg, CalculateScaledExchangeRate buying selling f = .error (.error msg)) ∨
      (¬rateOutOfRange buying ⌊printedValue f * 10 ^ 38⌋₊ ∧
        0 < adjustedRate buying selling ⌊printedValue f * 10 ^ 38⌋₊ ∧
        adjustedRate buying selling ⌊printedValue f * 10 ^ 38⌋₊ < 2 ^ 256 ∧
        CalculateScaledExchangeRate buying selling f =
          .ok (BitVec.ofNat 256 (adjustedRate buying selling ⌊printedValue f * 10 ^ 38⌋₊))) := by
  obtain ⟨s, hs, -, herr, hok⟩ := ParseDecimalToScaled_formatFloatAsString hf (10 ^ 38)
  rw [Nat.cast_pow, Nat.cast_ofNat] at herr hok
  have h9 := floor_printedValue_rate_dvd f
  generalize ⌊printedValue f * 10 ^ 38⌋₊ = R at herr hok h9 ⊢
  by_cases hR : R = 0 ∨ 2 ^ 256 ≤ R
  · obtain ⟨msg, hm⟩ := herr hR
    refine .inl ⟨hR.elim Or.inl (Or.inr ∘ Or.inl), msg, ?_⟩
    simp only [CalculateScaledExchangeRate, hs, bind, Except.bind,
      CalculateScaledExchangeRateFromString, hm]
  push_neg at hR
  obtain ⟨hR0, hR1⟩ := hR
  have hpos := Nat.pos_of_ne_zero hR0
  rw [CalculateScaledExchangeRate_of_raw hs (hok hpos hR1) hpos hR1 h9]
  simp only [rateOutOfRange, adjustedRate, hR0, not_le.mpr hR1, false_or]
  by_cases hb : buying = ""
  · simp only [hb, if_true, true_and]
    by_cases hov : 2 ^ 256 ≤ R * 10 ^ 9
    · exact .inl ⟨hov, _, by rw [if_pos hov]⟩
    · exact .inr ⟨hov, by positivity, not_le.mp hov, by rw [if_neg hov]⟩
  · simp only [hb, if_false, false_and, not_false_eq_true, true_and]
    refine .inr ?_
    by_cases hsel : selling = ""
    · simp only [hsel, if_true]
      exact ⟨Nat.div_pos (Nat.le_of_dvd hpos (Nat.dvd_of_mod_eq_zero h9)) (by positivity),
        lt_of_le_of_lt (Nat.div_le_self _ _) hR1, trivial⟩
    · simp only [hsel, if_false]
      exact ⟨hpos, hR1, trivial⟩

/-- For `f ≥ 0`, `CalculateQuantityToFillAsBaseUnits` fails with an error when `R = ⌊v * F⌋`
is zero or reaches `2^256`, `F` being the scaling factor `isCoinToFillDESO` picks, and
otherwise returns `R`. -/
lemma CalculateQuantityToFillAsBaseUnits_dichotomy (buying selling op : String) {f : Float64}
    (hf : 0 ≤ f.toRat) :
    ((⌊printedValue f * quantityScalingFactor buying selling op⌋₊ = 0 ∨
        2 ^ 256 ≤ ⌊printedValue f * quantityScalingFactor buying selling op⌋₊) ∧
        ∃ msg, CalculateQuantityToFillAsBaseUnits buying selling op f = .error (.error msg)) ∨
      (0 < ⌊printedValue f * quantityScalingFactor buying selling op⌋₊ ∧
        ⌊printedValue f * quantityScalingFactor buying selling op⌋₊ < 2 ^ 256 ∧
        CalculateQuantityToFillAsBaseUnits buying selling op f =
          .ok (BitVec.ofNat 256 ⌊printedValue f * quantityScalingFactor buying selling op⌋₊)) := by
  obtain ⟨s, hs, -, herr, hok⟩ :=
    ParseDecimalToScaled_formatFloatAsString hf (quantityScalingFactor buying selling op)
  rw [CalculateQuantityToFillAsBaseUnits_eq, hs]
  by_cases hR : ⌊printedValue f * quantityScalingFactor buying selling op⌋₊ = 0 ∨
      2 ^ 256 ≤ ⌊printedValue f * quantityScalingFactor buying selling op⌋₊
  · exact .inl ⟨hR, herr hR⟩
  · push_neg at hR
    exact .inr ⟨Nat.pos_of_ne_zero hR.1, hR.2, hok (Nat.pos_of_ne_zero hR.1) hR.2⟩

/-- For a float `f ≥ 0` printed with value `v`, `CalculateScaledExchangeRate` fails exactly when
`R = ⌊v * 1e38⌋` is zero, reaches `2^256`, or, buying $DESO, `R * 1e9` does. Otherwise it returns
a nonzero rate: `R * 1e9` buying $DESO, `R / 1e9` with no remainder selling $DESO, `R` between
two DAO coins. The selling-$DESO "quotient is zero" failure is never reached. -/
theorem CalculateScaledExchangeRate_error_iff (buying selling : String) (f : Float64)
    (hf : 0 ≤ f.toRat) :
    ∃ s v, formatFloatAsString f = .ok s ∧ decimalValue s = some v ∧
      ((∃ msg, CalculateScaledExchangeRate buying selling f = .error (.error msg)) ↔
        (⌊v * 10 ^ 38⌋₊ = 0 ∨ 2 ^ 256 ≤ ⌊v * 10 ^ 38⌋₊ ∨
          (buying = "" ∧ 2 ^ 256 ≤ ⌊v * 10 ^ 38⌋₊ * 10 ^ 9))) ∧
      (¬(⌊v * 10 ^ 38⌋₊ = 0 ∨ 2 ^ 256 ≤ ⌊v * 10 ^ 38⌋₊ ∨
          (buying = "" ∧ 2 ^ 256 ≤ ⌊v * 10 ^ 38⌋₊ * 10 ^ 9)) →
        ∃ S, CalculateScaledExchangeRate buying selling f = .ok S ∧ S ≠ 0 ∧
          S.toNat = (if buying = "" then ⌊v * 10 ^ 38⌋₊ * 10 ^ 9
            else if selling = "" then ⌊v * 10 ^ 38⌋₊ / 10 ^ 9 else ⌊v * 10 ^ 38⌋₊) ∧
          ⌊v * 10 ^ 38⌋₊ % 10 ^ 9 = 0) := by
  obtain ⟨s, hs, hv, -⟩ := ParseDecimalToScaled_formatFloatAsString hf (10 ^ 38)
  refine ⟨s, printedValue f, hs, hv, ?_⟩
  rcases CalculateScaledExchangeRate_dichotomy buying selling hf with
    ⟨hR, msg, he⟩ | ⟨hR, hpos, hlt, hok⟩
  · exact ⟨iff_of_true ⟨msg, he⟩ hR, fun h => absurd hR h⟩
  · refine ⟨iff_of_false (fun ⟨_, h⟩ => by rw [hok] at h; cases h) hR,
      fun _ => ⟨_, hok, ofNat_ne_zero hpos hlt, ?_, floor_printedValue_rate_dvd f⟩⟩
    rw [BitVec.toNat_ofNat, Nat.mod_eq_of_lt hlt]
    rfl

theorem CalculateScaledExchangeRate_error_iff_one :
    0 ≤ Float64.one.toRat ∧
      ∃ s v, formatFloatAsString Float64.one = .ok s ∧ decimalValue s = some v ∧
        ((∃ msg, CalculateScaledExchangeRate "a" "b" Float64.one = .error (.error msg)) ↔
          (⌊v * 10 ^ 38⌋₊ = 0 ∨ 2 ^ 256 ≤ ⌊v * 10 ^ 38⌋₊ ∨
            ("a" = "" ∧ 2 ^ 256 ≤ ⌊v * 10 ^ 38⌋₊ * 10 ^ 9))) ∧
        (¬(⌊v * 10 ^ 38⌋₊ = 0 ∨ 2 ^ 256 ≤ ⌊v * 10 ^ 38⌋₊ ∨
            ("a" = "" ∧ 2 ^ 256 ≤ ⌊v * 10 ^ 38⌋₊ * 10 ^ 9)) →
          ∃ S, CalculateScaledExchangeRate "a" "b" Float64.one = .ok S ∧ S ≠ 0 ∧
            S.toNat = (if "a" = "" then ⌊v * 10 ^ 38⌋₊ * 10 ^ 9
              else if "b" = "" then ⌊v * 10 ^ 38⌋₊ / 10 ^ 9 else ⌊v * 10 ^ 38⌋₊) ∧
            ⌊v * 10 ^ 38⌋₊ % 10 ^ 9 = 0) :=
  ⟨(Float64.toRat_nonneg_iff _).mpr (.inl rfl),
    CalculateScaledExchangeRate_error_iff "a" "b" _ ((Float64.toRat_nonneg_iff _).mpr (.inl rfl))⟩

/-- `formatFloatAsString` runs forever exactly on the floats at or below `-1`: their truncation
is a negative integer, and `getNumDigits` never brings a negative quotient to zero. -/
theorem formatFloatAsString_diverge_iff (f : Float64) :
    formatFloatAsString f = .error .diverge ↔ f.toRat ≤ -1 := by
  have hneg : f.toRat ≤ -1 ↔ f.sign ∧ 0 < f.intPart := by
    rw [← Float64.floor_magnitude, Nat.floor_pos, Float64.toRat]
    cases f.sign
    · simp only [Bool.false_eq_true, if_false, one_mul, false_and, iff_false, not_le]
      linarith [f.magnitude_nonneg]
    · simp only [if_true, neg_one_mul, neg_le_neg_iff, true_and]
  rw [hneg]
  refine ⟨fun h => ?_, formatFloatAsString_diverge⟩
  by_contra h'
  rw [formatFloatAsString_of_not_neg h'] at h
  cases h

def minusOne : Float64 := ⟨true, 1, 0, by norm_num, by norm_num, by norm_num⟩

/-- At `-1.0` both converters run forever: the truncation is `-1`, and Euclidean division
keeps `getNumDigits` at `-1 / 10 = -1` under every iteration budget. -/
theorem converters_diverge_at_minusOne :
    bigFloatInt minusOne = -1 ∧
      (∀ fuel, numDigitsLoop (bigFloatInt minusOne) 0 fuel = none) ∧
      formatFloatAsString minusOne = .error .diverge ∧
      (∀ buying selling, CalculateScaledExchangeRate buying selling minusOne = .error .diverge) ∧
      (∀ buying selling op,
        CalculateQuantityToFillAsBaseUnits buying selling op minusOne = .error .diverge) := by
  have h1 : bigFloatInt minusOne = -1 := by decide
  have hd : formatFloatAsString minusOne = .error .diverge :=
    formatFloatAsString_diverge ⟨rfl, by decide⟩
  refine ⟨h1, fun fuel => ?_, hd, fun b s => ?_, fun b s op => ?_⟩
  · rw [h1]
    exact numDigitsLoop_neg (by norm_num) 0 fuel
  · simp only [CalculateScaledExchangeRate, hd, bind, Except.bind]
  · rw [CalculateQuantityToFillAsBaseUnits_eq, hd]
    rfl


/-! ### The write path over every float -/

/-- A float strictly between `-1` and `0` is printed as `-0.…`, a negative numeral, which the
library rejects. -/
lemma ParseDecimalToScaled_formatFloatAsString_neg {f : Float64} (h1 : -1 < f.toRat)
    (h0 : f.toRat < 0) (F : Nat) :
    ∃ s, formatFloatAsString f = .ok s ∧ ParseDecimalToScaled s F = .error (.error "ParseError") := by
  have hsign : f.sign = true := by
    by_contra hs
    exact absurd ((Float64.toRat_nonneg_iff f).mpr (.inl (by simpa using hs))) (not_le.mpr h0)
  have hnd : ¬(f.sign ∧ 0 < f.intPart) := fun h =>
    absurd ((formatFloatAsString_diverge_iff f).mp (formatFloatAsString_diverge h)) (not_le.mpr h1)
  obtain ⟨s, n, hs, hn, hneg, -⟩ := parseNumeral_formatFloatAsString hnd
  exact ⟨s, hs, by simp [ParseDecimalToScaled, hn, hneg, hsign]⟩

/-- The three outcomes of a write-path converter, by the float: it runs forever at or below
`-1`, returns an error strictly between `-1` and `0`, and returns a value or an error from `0`
on. -/
def WritePathOutcome {α : Type} (q : ℚ) (x : Except Failure α) : Prop :=
  (q ≤ -1 ∧ x = .error .diverge) ∨ (-1 < q ∧ q < 0 ∧ ∃ msg, x = .error (.error msg)) ∨
    (0 ≤ q ∧ ((∃ msg, x = .error (.error msg)) ∨ ∃ a, x = .ok a))

lemma WritePathOutcome.no_panic {α : Type} {q : ℚ} {x : Except Failure α}
    (h : WritePathOutcome q x) (msg : String) : x ≠ .error (.panic msg) := by
  rcases h with ⟨-, rfl⟩ | ⟨-, -, m, rfl⟩ | ⟨-, ⟨m, rfl⟩ | ⟨a, rfl⟩⟩ <;> simp

lemma WritePathOutcome.diverge_iff {α : Type} {q : ℚ} {x : Except Failure α}
    (h : WritePathOutcome q x) : x = .error .diverge ↔ q ≤ -1 := by
  rcases h with ⟨hq, rfl⟩ | ⟨hq, -, m, rfl⟩ | ⟨hq, ⟨m, rfl⟩ | ⟨a, rfl⟩⟩
  · exact iff_of_true rfl hq
  all_goals exact iff_of_false (by simp) (by linarith)

lemma WritePathOutcome.error_of_neg {α : Type} {q : ℚ} {x : Except Failure α}
    (h : WritePathOutcome q x) (h1 : -1 < q) (h0 : q < 0) : ∃ msg, x = .error (.error msg) := by
  rcases h with ⟨hq, -⟩ | ⟨-, -, hm⟩ | ⟨hq, -⟩
  · linarith
  · exact hm
  · linarith

lemma CalculateScaledExchangeRate_outcome (buying selling : String) (f : Float64) :
    WritePathOutcome f.toRat (CalculateScaledExchangeRate buying selling f) := by
  rcases le_or_lt f.toRat (-1) with h1 | h1
  · refine .inl ⟨h1, ?_⟩
    simp only [CalculateScaledExchangeRate, (formatFloatAsString_diverge_iff f).mpr h1, bind,
      Except.bind]
  rcases lt_or_le f.toRat 0 with h0 | h0
  · obtain ⟨s, hs, hp⟩ := ParseDecimalToScaled_formatFloatAsString_neg h1 h0 (10 ^ 38)
    refine .inr (.inl ⟨h1, h0, "ParseError", ?_⟩)
    simp only [CalculateScaledExchangeRate, hs, CalculateScaledExchangeRateFromString, hp, bind,
      Except.bind]
  · rcases CalculateScaledExchangeRate_dichotomy buying selling h0 with
      ⟨-, hm⟩ | ⟨-, -, -, hS⟩
    · exact .inr (.inr ⟨h0, .inl hm⟩)
    · exact .inr (.inr ⟨h0, .inr ⟨_, hS⟩⟩)

lemma CalculateQuantityToFillAsBaseUnits_outcome (buying selling op : String) (f : Float64) :
    WritePathOutcome f.toRat (CalculateQuantityToFillAsBaseUnits buying selling op f) := by
  rw [CalculateQuantityToFillAsBaseUnits_eq]
  rcases le_or_lt f.toRat (-1) with h1 | h1
  · exact .inl ⟨h1, by rw [(formatFloatAsString_diverge_iff f).mpr h1]; rfl⟩
  rcases lt_or_le f.toRat 0 with h0 | h0
  · obtain ⟨s, hs, hp⟩ := ParseDecimalToScaled_formatFloatAsString_neg h1 h0
      (quantityScalingFactor buying selling op)
    exact .inr (.inl ⟨h1, h0, "ParseError", by rw [hs]; exact hp⟩)
  · rcases CalculateQuantityToFillAsBaseUnits_dichotomy buying selling op h0 with
      ⟨-, hm⟩ | ⟨-, -, hQ⟩
    · exact .inr (.inr ⟨h0, .inl (by rwa [CalculateQuantityToFillAsBaseUnits_eq] at hm)⟩)
    · exact .inr (.inr ⟨h0, .inr ⟨_, by rwa [CalculateQuantityToFillAsBaseUnits_eq] at hQ⟩⟩)

/-- Over every float, neither write-path converter panics. Each runs forever exactly on the
floats at or below `-1`, whose truncation `getNumDigits` never brings to zero, and returns an
error on the floats strictly between `-1` and `0`, printed as `-0.…`, a numeral the library
rejects as negative. -/
theorem write_path_never_panics (buying selling op : String) (f : Float64) :
    (∀ msg, CalculateScaledExchangeRate buying selling f ≠ .error (.panic msg)) ∧
    (∀ msg, CalculateQuantityToFillAsBaseUnits buying selling op f ≠ .error (.panic msg)) ∧
    (CalculateScaledExchangeRate buying selling f = .error .diverge ↔ f.toRat ≤ -1) ∧
    (CalculateQuantityToFillAsBaseUnits buying selling op f = .error .diverge ↔ f.toRat ≤ -1) ∧
    (-1 < f.toRat → f.toRat < 0 →
      (∃ msg, CalculateScaledExchangeRate buying selling f = .error (.error msg)) ∧
      ∃ msg, CalculateQuantityToFillAsBaseUnits buying selling op f = .error (.error msg)) :=
  have hS := CalculateScaledExchangeRate_outcome buying selling f
  have hQ := CalculateQuantityToFillAsBaseUnits_outcome buying selling op f
  ⟨hS.no_panic, hQ.no_panic, hS.diverge_iff, hQ.diverge_iff,
    fun h1 h0 => ⟨hS.error_of_neg h1 h0, hQ.error_of_neg h1 h0⟩⟩

/-- For a float `f ≥ 0` printed with value `v`, `CalculateQuantityToFillAsBaseUnits` fails exactly
when `R = ⌊v * F⌋` is zero or reaches `2^256`, `F` being `1e9` when the quantity is in $DESO and
`1e18` otherwise; else it returns `R`. In particular a quantity printed as zero is rejected. -/
theorem CalculateQuantityToFillAsBaseUnits_error_iff (buying selling op : String) (f : Float64)
    (hf : 0 ≤ f.toRat) :
    ∃ s v, formatFloatAsString f = .ok s ∧ decimalValue s = some v ∧
      ((∃ msg, CalculateQuantityToFillAsBaseUnits buying selling op f = .error (.error msg)) ↔
        (⌊v * quantityScalingFactor buying selling op⌋₊ = 0 ∨
          2 ^ 256 ≤ ⌊v * quantityScalingFactor buying selling op⌋₊)) ∧
      (¬(⌊v * quantityScalingFactor buying selling op⌋₊ = 0 ∨
          2 ^ 256 ≤ ⌊v * quantityScalingFactor buying selling op⌋₊) →
        CalculateQuantityToFillAsBaseUnits buying selling op f =
          .ok (BitVec.ofNat 256 ⌊v * quantityScalingFactor buying selling op⌋₊)) := by
  obtain ⟨s, hs, hv, -⟩ :=
    ParseDecimalToScaled_formatFloatAsString hf (quantityScalingFactor buying selling op)
  refine ⟨s, printedValue f, hs, hv, ?_⟩
  rcases CalculateQuantityToFillAsBaseUnits_dichotomy buying selling op hf with
    ⟨hR, hm⟩ | ⟨h0, h1, hQ⟩
  · exact ⟨iff_of_true hm hR, fun h => absurd hR h⟩
  · refine ⟨iff_of_false (fun ⟨_, h⟩ => by rw [hQ] at h; cases h) ?_, fun _ => hQ⟩
    omega

theorem CalculateQuantityToFillAsBaseUnits_error_iff_one :
    0 ≤ Float64.one.toRat ∧
      ∃ s v, formatFloatAsString Float64.one = .ok s ∧ decimalValue s = some v ∧
        ((∃ msg, CalculateQuantityToFillAsBaseUnits "a" "b" "ASK" Float64.one =
            .error (.error msg)) ↔
          (⌊v * quantityScalingFactor "a" "b" "ASK"⌋₊ = 0 ∨
            2 ^ 256 ≤ ⌊v * quantityScalingFactor "a" "b" "ASK"⌋₊)) ∧
        (¬(⌊v * quantityScalingFactor "a" "b" "ASK"⌋₊ = 0 ∨
            2 ^ 256 ≤ ⌊v * quantityScalingFactor "a" "b" "ASK"⌋₊) →
          CalculateQuantityToFillAsBaseUnits "a" "b" "ASK" Float64.one =
            .ok (BitVec.ofNat 256 ⌊v * quantityScalingFactor "a" "b" "ASK"⌋₊)) :=
  ⟨(Float64.toRat_nonneg_iff _).mpr (.inl rfl), CalculateQuantityToFillAsBaseUnits_error_iff
    "a" "b" "ASK" _ ((Float64.toRat_nonneg_iff _).mpr (.inl rfl))⟩

end DesoBackend
