import DesoBackend.Go.Decimal
import Mathlib.Tactic.Linarith

/-!
# `float64` values and `%.Nf`

A finite `float64` is a sign, a mantissa below `2^53` and a binary exponent; its magnitude
is `num / den` with `den` a power of two. `fmt.Sprintf("%.Nf", f)` goes through
`strconv.FormatFloat(f, 'f', N, 64)`, which rounds the exact binary value to `N` decimals,
halfway cases to even, and prints the sign of negative zero.
-/

namespace DesoBackend

/-- A finite IEEE-754 binary64 value `(-1)^sign * mantissa * 2^exponent`. Every finite
`float64`, the two zeros and the subnormals included, has this form. -/
structure Float64 where
  sign : Bool
  mantissa : Nat
  exponent : Int
  mantissa_lt : mantissa < 2 ^ 53
  exponent_ge : -1074 ≤ exponent
  exponent_le : exponent ≤ 971

namespace Float64

def num (f : Float64) : Nat := f.mantissa * 2 ^ f.exponent.toNat

def den (f : Float64) : Nat := 2 ^ (-f.exponent).toNat

def magnitude (f : Float64) : ℚ := (f.num : ℚ) / f.den

def toRat (f : Float64) : ℚ := (if f.sign then -1 else 1) * f.magnitude

/-- `|f|` rounded down to an integer. -/
def intPart (f : Float64) : Nat := f.num / f.den

def one : Float64 := ⟨false, 1, 0, by norm_num, by norm_num, by norm_num⟩

lemma den_pos (f : Float64) : 0 < f.den := Nat.pos_pow_of_pos _ (by norm_num)

lemma toRat_nonneg_iff (f : Float64) : 0 ≤ f.toRat ↔ f.sign = false ∨ f.num = 0 := by
  have hd : (0 : ℚ) < f.den := by exact_mod_cast f.den_pos
  cases hs : f.sign
  · simp only [toRat, magnitude, hs, Bool.false_eq_true, if_false, one_mul, true_or, iff_true]
    positivity
  · simp only [toRat, magnitude, hs, if_true, neg_one_mul, neg_nonneg, Bool.true_eq_false,
      false_or, div_le_iff₀ hd, zero_mul, Nat.cast_nonpos]

lemma toRat_of_nonneg {f : Float64} (h : 0 ≤ f.toRat) : f.toRat = f.magnitude := by
  rcases (toRat_nonneg_iff f).mp h with hs | hn
  · simp [toRat, hs]
  · simp [toRat, magnitude, hn]

lemma floor_magnitude (f : Float64) : ⌊f.magnitude⌋₊ = f.intPart := Nat.floor_div_eq_div _ _

lemma magnitude_nonneg (f : Float64) : 0 ≤ f.magnitude := by
  unfold magnitude
  positivity

end Float64

/-- `big.NewFloat(0).SetFloat64(f).Int(nil)`: `f` truncated toward zero. -/
def bigFloatInt (f : Float64) : Int :=
  if f.sign then -(f.intPart : Int) else (f.intPart : Int)

lemma bigFloatInt_neg_iff (f : Float64) : bigFloatInt f < 0 ↔ f.sign ∧ 0 < f.intPart := by
  unfold bigFloatInt
  cases f.sign <;> simp

lemma not_neg_of_nonneg {f : Float64} (h : 0 ≤ f.toRat) : ¬(f.sign ∧ 0 < f.intPart) := by
  rintro ⟨hs, hp⟩
  rcases (Float64.toRat_nonneg_iff f).mp h with h' | h'
  · simp [hs] at h'
  · simp [Float64.intPart, h'] at hp

lemma bigFloatInt_of_not_neg {f : Float64} (h : ¬(f.sign ∧ 0 < f.intPart)) :
    bigFloatInt f = (f.intPart : Int) := by
  cases hs : f.sign <;> simp_all [bigFloatInt]

/-! ### Rounding half to even -/

/-- `n / d` rounded to the nearest integer, halfway cases to the even one. -/
def roundHalfEven (n d : Nat) : Nat :=
  if 2 * (n % d) < d then n / d
  else if d < 2 * (n % d) then n / d + 1
  else n / d + n / d % 2

lemma roundHalfEven_cases (n d : Nat) :
    (2 * (n % d) < d ∧ roundHalfEven n d = n / d) ∨
    (d < 2 * (n % d) ∧ roundHalfEven n d = n / d + 1) ∨
    (2 * (n % d) = d ∧ roundHalfEven n d = n / d + n / d % 2) := by
  unfold roundHalfEven
  split_ifs <;> omega

lemma div_eq_quotient_add (n d : Nat) (hd : 0 < d) :
    (n : ℚ) / d = (n / d : Nat) + ((n % d : Nat) : ℚ) / d := by
  have hd' : (d : ℚ) ≠ 0 := by exact_mod_cast hd.ne'
  rw [add_div' _ _ _ hd', div_left_inj' hd']
  exact_mod_cast (Nat.div_add_mod' n d).symm

/-- The rounded value is within one half of `n / d`. -/
theorem roundHalfEven_sub_le (n d : Nat) (hd : 0 < d) :
    |(roundHalfEven n d : ℚ) - n / d| ≤ 1 / 2 := by
  have hdq : (0 : ℚ) < d := by exact_mod_cast hd
  have ht0 : 0 ≤ ((n % d : Nat) : ℚ) / d := by positivity
  have ht1 : ((n % d : Nat) : ℚ) / d < 1 := (div_lt_one hdq).mpr (by exact_mod_cast Nat.mod_lt n hd)
  rw [div_eq_quotient_add n d hd, abs_le]
  rcases roundHalfEven_cases n d with ⟨h, e⟩ | ⟨h, e⟩ | ⟨h, e⟩ <;> rw [e] <;> push_cast
  · have : 2 * (((n % d : Nat) : ℚ) / d) < 1 := by
      rw [← mul_div_assoc, div_lt_one hdq]; exact_mod_cast h
    constructor <;> linarith
  · have : 1 < 2 * (((n % d : Nat) : ℚ) / d) := by
      rw [← mul_div_assoc, one_lt_div hdq]; exact_mod_cast h
    constructor <;> linarith
  · have : 2 * (((n % d : Nat) : ℚ) / d) = 1 := by
      rw [← mul_div_assoc, div_eq_one_iff_eq hdq.ne']; exact_mod_cast h
    have : ((n / d % 2 : Nat) : ℚ) ≤ 1 := by exact_mod_cast (by omega : n / d % 2 ≤ 1)
    constructor <;> linarith [(Nat.cast_nonneg (n / d % 2) : (0 : ℚ) ≤ _)]

/-- A value exactly halfway between two integers is rounded to the even one. -/
theorem roundHalfEven_even_of_tie (n d : Nat) (hd : 0 < d)
    (h : |(roundHalfEven n d : ℚ) - n / d| = 1 / 2) : Even (roundHalfEven n d) := by
  have hdq : (0 : ℚ) < d := by exact_mod_cast hd
  have ht0 : 0 ≤ ((n % d : Nat) : ℚ) / d := by positivity
  have ht1 : ((n % d : Nat) : ℚ) / d < 1 := (div_lt_one hdq).mpr (by exact_mod_cast Nat.mod_lt n hd)
  rw [div_eq_quotient_add n d hd, abs_eq (by norm_num)] at h
  rcases roundHalfEven_cases n d with ⟨hc, e⟩ | ⟨hc, e⟩ | ⟨-, e⟩
  · have : 2 * (((n % d : Nat) : ℚ) / d) < 1 := by
      rw [← mul_div_assoc, div_lt_one hdq]; exact_mod_cast hc
    rw [e] at h
    rcases h with h | h <;> linarith
  · have : 1 < 2 * (((n % d : Nat) : ℚ) / d) := by
      rw [← mul_div_assoc, one_lt_div hdq]; exact_mod_cast hc
    rw [e] at h
    push_cast at h
    rcases h with h | h <;> linarith
  · rw [e]
    exact Nat.even_iff.mpr (by omega)

/-- Rounding half to even is monotone in the value rounded. -/
theorem roundHalfEven_mono {n d n' d' : Nat} (hd : 0 < d) (hd' : 0 < d')
    (h : (n : ℚ) / d ≤ n' / d') : roundHalfEven n d ≤ roundHalfEven n' d' := by
  by_contra hlt
  push_neg at hlt
  have h1 := abs_le.mp (roundHalfEven_sub_le n d hd)
  have h2 := abs_le.mp (roundHalfEven_sub_le n' d' hd')
  have hk : (roundHalfEven n' d' : ℚ) + 1 ≤ roundHalfEven n d := by exact_mod_cast hlt
  have ev1 := roundHalfEven_even_of_tie n d hd ((abs_eq (by norm_num)).mpr (.inl (by linarith)))
  have ev2 := roundHalfEven_even_of_tie n' d' hd' ((abs_eq (by norm_num)).mpr (.inr (by linarith)))
  have heq : roundHalfEven n d = roundHalfEven n' d' + 1 := by
    have : (roundHalfEven n d : ℚ) ≤ roundHalfEven n' d' + 1 := by linarith
    exact le_antisymm (by exact_mod_cast this) hlt
  rw [heq] at ev1
  exact Nat.not_even_iff_odd.mpr (Even.add_one ev2) ev1

lemma roundHalfEven_le_of_lt {n d K : Nat} (hd : 0 < d) (h : n < K * d) : roundHalfEven n d ≤ K := by
  have := (Nat.div_lt_iff_lt_mul hd).mpr h
  rcases roundHalfEven_cases n d with ⟨-, e⟩ | ⟨-, e⟩ | ⟨-, e⟩ <;> omega

lemma le_roundHalfEven_of_le {n d K : Nat} (hd : 0 < d) (h : K * d ≤ n) : K ≤ roundHalfEven n d := by
  have := (Nat.le_div_iff_mul_le hd).mpr h
  rcases roundHalfEven_cases n d with ⟨-, e⟩ | ⟨-, e⟩ | ⟨-, e⟩ <;> omega

/-! ### `%.Nf` -/

/-- `fmt.Sprintf("%.<prec>f", f)`, that is `strconv.FormatFloat(f, 'f', prec, 64)`: the sign,
then the exact value rounded half to even to `prec` decimals. -/
def formatFixed (f : Float64) (prec : Nat) : String :=
  let r := roundHalfEven (f.num * 10 ^ prec) f.den
  let fraction : List Char := if prec = 0 then [] else '.' :: zeroPad prec (r % 10 ^ prec)
  ⟨(if f.sign then ['-'] else []) ++ (Nat.toDigits 10 (r / 10 ^ prec) ++ fraction)⟩

/-- `%.Nf` reads back as its rounded value over `10 ^ N`. -/
theorem parseNumeral_formatFixed (f : Float64) (prec : Nat) :
    parseNumeral (formatFixed f prec).data =
      some ⟨f.sign, roundHalfEven (f.num * 10 ^ prec) f.den / 10 ^ prec,
        roundHalfEven (f.num * 10 ^ prec) f.den % 10 ^ prec, prec⟩ := by
  rcases Nat.eq_zero_or_pos prec with rfl | hp
  · have h := parseNumeral_toDigits f.sign (roundHalfEven f.num f.den)
    simp only [formatFixed, pow_zero, mul_one, Nat.div_one, Nat.mod_one, if_true, List.append_nil]
    exact h
  · set r := roundHalfEven (f.num * 10 ^ prec) f.den
    have h := parseNumeral_point f.sign (r / 10 ^ prec) (zeroPad_isDigit prec (r % 10 ^ prec))
    rw [digitsValue_zeroPad, length_zeroPad hp (Nat.mod_lt _ (by positivity))] at h
    simpa [formatFixed, hp.ne'] using h

end DesoBackend
