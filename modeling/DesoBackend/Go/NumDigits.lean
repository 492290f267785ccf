import DesoBackend.Go.Decimal

/-!
# `getNumDigits`

`getNumDigits` counts decimal digits by dividing a `big.Int` by ten until the quotient is
zero. `big.Int.Div` is Euclidean division, as `/` on `Int` is, so a negative quotient never
reaches zero: `-1 / 10 = -1`. The loop is run with an iteration budget. On a non-negative
input it exits after `digitCount n` iterations; on a negative one it exits under no budget,
and `getNumDigits` reports that as `Failure.diverge`.
-/

namespace DesoBackend

/-- The loop `for quotient.Cmp(zero) != 0 { numDigits += 1; quotient.Div(quotient, ten) }`
run for at most `fuel` iterations; `none` if it has not exited by then. -/
def numDigitsLoop (quotient : Int) (numDigits : Nat) : Nat → Option Nat
  | 0 => if quotient = 0 then some numDigits else none
  | fuel + 1 =>
    if quotient = 0 then some numDigits else numDigitsLoop (quotient / 10) (numDigits + 1) fuel

/-- `getNumDigits(val)`. A loop that exits does so within `val.natAbs` iterations
(`numDigitsLoop_ofNat`), and one that has not by then never does (`numDigitsLoop_neg`). -/
def getNumDigits (val : Int) : Except Failure Nat :=
  match numDigitsLoop val 0 val.natAbs with
  | some n => .ok n
  | none => .error .diverge

/-- From a negative quotient the loop never exits, whatever the budget. -/
theorem numDigitsLoop_neg {quotient : Int} (h : quotient < 0) (numDigits fuel : Nat) :
    numDigitsLoop quotient numDigits fuel = none := by
  induction fuel generalizing quotient numDigits with
  | zero => simp [numDigitsLoop, h.ne]
  | succ fuel ih =>
    rw [numDigitsLoop, if_neg h.ne]
    exact ih (by omega) _

theorem numDigitsLoop_ofNat (n numDigits : Nat) {fuel : Nat} (h : digitCount n ≤ fuel) :
    numDigitsLoop n numDigits fuel = some (numDigits + digitCount n) := by
  induction fuel generalizing n numDigits with
  | zero =>
    have : n = 0 := by
      by_contra hn
      rw [digitCount_of_pos (Nat.pos_of_ne_zero hn)] at h
      omega
    subst this
    simp [numDigitsLoop]
  | succ fuel ih =>
    rcases Nat.eq_zero_or_pos n with rfl | hn
    · simp [numDigitsLoop]
    rw [digitCount_of_pos hn] at h ⊢
    rw [numDigitsLoop, if_neg (by omega), show (n : Int) / 10 = ((n / 10 : Nat) : Int) by omega,
      ih _ _ (by omega)]
    congr 1
    omega

lemma digitCount_le_self (n : Nat) : digitCount n ≤ n :=
  (digitCount_le_iff n n).mpr (Nat.lt_pow_self (by norm_num) n)

@[simp] theorem getNumDigits_ofNat (n : Nat) : getNumDigits n = .ok (digitCount n) := by
  simp [getNumDigits, numDigitsLoop_ofNat n 0 (digitCount_le_self n)]

theorem getNumDigits_neg {val : Int} (h : val < 0) : getNumDigits val = .error .diverge := by
  simp [getNumDigits, numDigitsLoop_neg h]

theorem getNumDigits_eq_diverge_iff (val : Int) : getNumDigits val = .error .diverge ↔ val < 0 := by
  constructor
  · intro h
    by_contra hv
    obtain ⟨n, rfl⟩ := Int.eq_ofNat_of_zero_le (not_lt.mp hv)
    simp at h
  · exact getNumDigits_neg

/-- On a non-negative `big.Int`, `getNumDigits` returns its number of decimal digits: the least
`d` with `n < 10^d`, which is `0` for `n = 0`. So `10^k` has `k + 1` digits, and a value below
`10^k` at most `k`. -/
theorem getNumDigits_counts_digits :
    (∀ val : Int, 0 ≤ val → ∃ d, getNumDigits val = .ok d ∧ val < 10 ^ d ∧
        (∀ d', val < 10 ^ d' → d ≤ d') ∧ (val = 0 → d = 0)) ∧
      (∀ k : Nat, getNumDigits ((10 : Int) ^ k) = .ok (k + 1)) ∧
      ∀ (r : Int) (k : Nat), 0 ≤ r → r < 10 ^ k → ∃ d, getNumDigits r = .ok d ∧ d ≤ k := by
  refine ⟨fun val hval => ?_, fun k => ?_, fun r k hr hk => ?_⟩
  · obtain ⟨n, rfl⟩ := Int.eq_ofNat_of_zero_le hval
    refine ⟨digitCount n, getNumDigits_ofNat n, by exact_mod_cast lt_pow_digitCount n,
      fun d' hd' => (digitCount_le_iff n d').mpr (by exact_mod_cast hd'), fun h0 => ?_⟩
    rw [Int.ofNat_eq_zero.mp h0, digitCount_zero]
  · rw [show (10 : Int) ^ k = ((10 ^ k : Nat) : Int) by push_cast; rfl, getNumDigits_ofNat,
      digitCount_pow]
  · obtain ⟨n, rfl⟩ := Int.eq_ofNat_of_zero_le hr
    exact ⟨_, getNumDigits_ofNat n, (digitCount_le_iff n k).mpr (by exact_mod_cast hk)⟩

example : getNumDigits 0 = .ok 0 ∧ getNumDigits 999 = .ok 3 ∧ getNumDigits 1000 = .ok 4 :=
  ⟨rfl, rfl, rfl⟩

end DesoBackend
