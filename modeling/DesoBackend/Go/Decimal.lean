import Mathlib.Data.Nat.Digits
import Mathlib.Data.Rat.Floor

/-!
# Go calls, decimal digits and decimal numerals

A Go call is modelled as a function into `Except Failure`: a call that returns a
non-nil `error`, panics, or never returns ends in a `Failure`. `%d` prints a natural
number as `Nat.toDigits 10`. `parseNumeral` reads the numerals `[-]ddd[.ddd]` that the
exchange routines print, and `decimalValue` is the exact rational such a numeral denotes.
-/

namespace DesoBackend

/-- Why a Go call gives no result: a non-nil `error`, a runtime panic, or a loop that
never exits. -/
inductive Failure where
  | error (msg : String)
  | panic (msg : String)
  | diverge
  deriving DecidableEq, Repr

/-- A sequence of Go calls returns a result when the first returns a value the rest turns into
that result. -/
lemma exceptBind_eq_ok {ε α β : Type} {y : Except ε α} {g : α → Except ε β} {b : β} :
    y >>= g = .ok b ↔ ∃ a, y = .ok a ∧ g a = .ok b := by
  cases y <;> simp [bind, Except.bind]

/-! ### Decimal digits -/

/-- The number a string of decimal digits denotes, most significant digit first. -/
def digitsValue (cs : List Char) : Nat :=
  cs.foldl (fun acc c => 10 * acc + (c.toNat - 48)) 0

lemma digitsValue_foldl (a : Nat) (ys : List Char) :
    ys.foldl (fun acc c => 10 * acc + (c.toNat - 48)) a = a * 10 ^ ys.length + digitsValue ys := by
  induction ys generalizing a with
  | nil => simp [digitsValue]
  | cons c ys ih =>
    simp only [digitsValue, List.foldl_cons, List.length_cons] at ih ⊢
    rw [ih, ih (10 * 0 + _)]
    ring

@[simp] lemma digitsValue_nil : digitsValue [] = 0 := rfl

lemma digitsValue_append (xs ys : List Char) :
    digitsValue (xs ++ ys) = digitsValue xs * 10 ^ ys.length + digitsValue ys := by
  rw [digitsValue, List.foldl_append, digitsValue_foldl]
  rfl

lemma digitsValue_replicate (k : Nat) : digitsValue (List.replicate k '0') = 0 := by
  induction k with
  | zero => rfl
  | succ k ih =>
    rw [List.replicate_succ', digitsValue_append, ih]
    rfl

@[simp] lemma digitsValue_replicate_append (k : Nat) (ys : List Char) :
    digitsValue (List.replicate k '0' ++ ys) = digitsValue ys := by
  rw [digitsValue_append, digitsValue_replicate, zero_mul, zero_add]

/-- The number of decimal digits of `n`, `0` for `n = 0`. -/
def digitCount (n : Nat) : Nat := (Nat.digits 10 n).length

@[simp] lemma digitCount_zero : digitCount 0 = 0 := by simp [digitCount]

lemma digitCount_of_pos {n : Nat} (h : 0 < n) : digitCount n = digitCount (n / 10) + 1 := by
  simp [digitCount, Nat.digits_def' (by norm_num : 1 < 10) h]

lemma digitCount_le_iff (n k : Nat) : digitCount n ≤ k ↔ n < 10 ^ k := by
  constructor
  · intro h
    exact (Nat.lt_base_pow_length_digits (by norm_num)).trans_le
      (Nat.pow_le_pow_right (by norm_num) h)
  · intro h
    by_contra hk
    rcases Nat.eq_zero_or_pos n with rfl | hn
    · simp at hk
    have hle := Nat.base_pow_length_digits_le 10 n (by norm_num) hn.ne'
    have : 10 ^ (k + 1) ≤ 10 ^ digitCount n := Nat.pow_le_pow_right (by norm_num) (by omega)
    rw [pow_succ] at this
    unfold digitCount at this
    omega

lemma lt_pow_digitCount (n : Nat) : n < 10 ^ digitCount n := (digitCount_le_iff n _).mp le_rfl

lemma pow_digitCount_le {n : Nat} (h : 0 < n) : 10 ^ (digitCount n - 1) ≤ n := by
  by_contra hlt
  have := (digitCount_le_iff n (digitCount n - 1)).mpr (by omega)
  have : 0 < digitCount n := by
    rw [digitCount_of_pos h]; omega
  omega

lemma digitCount_pow (k : Nat) : digitCount (10 ^ k) = k + 1 := by
  apply le_antisymm
  · exact (digitCount_le_iff _ _).mpr (Nat.pow_lt_pow_right (by norm_num) (by omega))
  · by_contra h
    exact absurd ((digitCount_le_iff _ k).mp (by omega)) (lt_irrefl _)

/-! ### `%d` -/

lemma toDigitsCore_succ (fuel n : Nat) (ds : List Char) :
    Nat.toDigitsCore 10 (fuel + 1) n ds =
      if n / 10 = 0 then Nat.digitChar (n % 10) :: ds
      else Nat.toDigitsCore 10 fuel (n / 10) (Nat.digitChar (n % 10) :: ds) := rfl

lemma toDigitsCore_append (fuel n : Nat) (ds : List Char) :
    Nat.toDigitsCore 10 fuel n ds = Nat.toDigitsCore 10 fuel n [] ++ ds := by
  induction fuel generalizing n ds with
  | zero => rfl
  | succ fuel ih =>
    rw [toDigitsCore_succ, toDigitsCore_succ]
    split
    · rfl
    · rw [ih, ih _ [_]]
      simp

lemma toDigitsCore_fuel (f g n : Nat) (hf : n < f) (hg : n < g) :
    Nat.toDigitsCore 10 f n [] = Nat.toDigitsCore 10 g n [] := by
  induction f generalizing n g with
  | zero => omega
  | succ f ih =>
    obtain ⟨g, rfl⟩ : ∃ g', g = g' + 1 := ⟨g - 1, by omega⟩
    rw [toDigitsCore_succ, toDigitsCore_succ]
    split
    · rfl
    · rw [toDigitsCore_append f, toDigitsCore_append g, ih g (n / 10) (by omega) (by omega)]

/-- The last digit of `%d` comes off the end. -/
lemma toDigits_eq (n : Nat) :
    Nat.toDigits 10 n =
      (if n < 10 then [] else Nat.toDigits 10 (n / 10)) ++ [Nat.digitChar (n % 10)] := by
  unfold Nat.toDigits
  rw [toDigitsCore_succ]
  split
  · rw [if_pos (by omega)]
    rfl
  · rw [if_neg (by omega), toDigitsCore_append,
      toDigitsCore_fuel n (n / 10 + 1) (n / 10) (by omega) (by omega)]

lemma digitChar_toNat {d : Nat} (h : d < 10) : (Nat.digitChar d).toNat = 48 + d := by
  interval_cases d <;> rfl

lemma digitChar_isDigit {d : Nat} (h : d < 10) : (Nat.digitChar d).isDigit := by
  interval_cases d <;> rfl

lemma toDigits_isDigit (n : Nat) : ∀ c ∈ Nat.toDigits 10 n, c.isDigit := by
  induction n using Nat.strong_induction_on with
  | _ n ih =>
    rw [toDigits_eq]
    intro c hc
    rcases List.mem_append.mp hc with hc | hc
    · split at hc
      · simp at hc
      · exact ih (n / 10) (by omega) c hc
    · rw [List.mem_singleton.mp hc]
      exact digitChar_isDigit (Nat.mod_lt _ (by norm_num))

@[simp] lemma digitsValue_toDigits (n : Nat) : digitsValue (Nat.toDigits 10 n) = n := by
  induction n using Nat.strong_induction_on with
  | _ n ih =>
    rw [toDigits_eq, digitsValue_append]
    have hd : digitsValue [Nat.digitChar (n % 10)] = n % 10 := by
      simp [digitsValue, digitChar_toNat (Nat.mod_lt n (by norm_num : 10 > 0))]
    split
    · simp [hd]
      omega
    · simp [hd, ih (n / 10) (by omega)]
      omega

lemma length_toDigits (n : Nat) : (Nat.toDigits 10 n).length = max 1 (digitCount n) := by
  induction n using Nat.strong_induction_on with
  | _ n ih =>
    rw [toDigits_eq]
    rcases Nat.eq_zero_or_pos n with rfl | hn
    · simp
    rw [digitCount_of_pos hn]
    split
    · have : n / 10 = 0 := by omega
      simp [this]
    · simp [ih (n / 10) (by omega), digitCount_of_pos (show 0 < n / 10 by omega)]

lemma toDigits_ne_nil (n : Nat) : Nat.toDigits 10 n ≠ [] := by
  rw [toDigits_eq]
  simp

/-- `n` printed with at least `width` digits, padded with leading zeros. -/
def zeroPad (width n : Nat) : List Char :=
  List.replicate (width - (Nat.toDigits 10 n).length) '0' ++ Nat.toDigits 10 n

lemma zeroPad_isDigit (width n : Nat) : ∀ c ∈ zeroPad width n, c.isDigit := by
  intro c hc
  rcases List.mem_append.mp hc with hc | hc
  · rw [List.eq_of_mem_replicate hc]
    rfl
  · exact toDigits_isDigit n c hc

@[simp] lemma digitsValue_zeroPad (width n : Nat) : digitsValue (zeroPad width n) = n := by
  simp [zeroPad]

lemma length_zeroPad {width n : Nat} (hw : 0 < width) (hn : n < 10 ^ width) :
    (zeroPad width n).length = width := by
  have : (Nat.toDigits 10 n).length ≤ width := by
    rw [length_toDigits]
    exact max_le hw ((digitCount_le_iff n width).mpr hn)
  simp [zeroPad]
  omega

/-! ### Numerals -/

/-- A numeral `[-]d*[.d*]` split into its parts: the sign, the whole part, the digits after
the point read as a number, and how many of them there are. -/
structure Numeral where
  negative : Bool
  whole : Nat
  frac : Nat
  fracDigits : Nat
  deriving DecidableEq, Repr

def Numeral.value (n : Numeral) : ℚ :=
  (if n.negative then -1 else 1) * (n.whole + n.frac / 10 ^ n.fracDigits)

/-- Reads `d*[.d*]` with at least one digit. -/
def parseUnsigned (cs : List Char) : Option (Nat × Nat × Nat) :=
  let w := cs.takeWhile Char.isDigit
  match cs.dropWhile Char.isDigit with
  | [] => if w.isEmpty then none else some (digitsValue w, 0, 0)
  | c :: fr =>
    if c = '.' ∧ fr.all Char.isDigit ∧ ¬(w.isEmpty ∧ fr.isEmpty) then
      some (digitsValue w, digitsValue fr, fr.length)
    else none

/-- Reads a decimal numeral with an optional leading `-`. -/
def parseNumeral (cs : List Char) : Option Numeral :=
  let negative := cs.head? == some '-'
  (parseUnsigned (if negative then cs.tail else cs)).map fun p => ⟨negative, p.1, p.2.1, p.2.2⟩

/-- The rational a decimal numeral denotes, `none` if the text is not a numeral. -/
def decimalValue (s : String) : Option ℚ := (parseNumeral s.data).map Numeral.value

lemma takeWhile_digits_append {w : List Char} (hw : ∀ c ∈ w, c.isDigit) (rest : List Char) :
    (w ++ rest).takeWhile Char.isDigit = w ++ rest.takeWhile Char.isDigit :=
  List.takeWhile_append_of_pos hw

lemma dropWhile_digits_append {w : List Char} (hw : ∀ c ∈ w, c.isDigit) (rest : List Char) :
    (w ++ rest).dropWhile Char.isDigit = rest.dropWhile Char.isDigit := by
  induction w with
  | nil => rfl
  | cons c w ih =>
    rw [List.cons_append, List.dropWhile_cons_of_pos (hw c (List.mem_cons_self _ _))]
    exact ih fun d hd => hw d (List.mem_cons_of_mem _ hd)

lemma parseUnsigned_point {w fr : List Char} (hw : ∀ c ∈ w, c.isDigit)
    (hfr : ∀ c ∈ fr, c.isDigit) (hne : w ≠ []) :
    parseUnsigned (w ++ '.' :: fr) = some (digitsValue w, digitsValue fr, fr.length) := by
  have hdot : ¬Char.isDigit '.' := by decide
  have hT : (w ++ '.' :: fr).takeWhile Char.isDigit = w := by
    rw [takeWhile_digits_append hw, List.takeWhile_cons_of_neg hdot, List.append_nil]
  have hD : (w ++ '.' :: fr).dropWhile Char.isDigit = '.' :: fr := by
    rw [dropWhile_digits_append hw, List.dropWhile_cons_of_neg hdot]
  simp [parseUnsigned, hT, hD, List.all_eq_true.mpr hfr, hne]

lemma parseUnsigned_digits {w : List Char} (hw : ∀ c ∈ w, c.isDigit) (hne : w ≠ []) :
    parseUnsigned w = some (digitsValue w, 0, 0) := by
  have hd := dropWhile_digits_append hw []
  have ht := takeWhile_digits_append hw []
  simp only [List.append_nil, List.dropWhile_nil, List.takeWhile_nil] at hd ht
  simp [parseUnsigned, hd, ht, hne]

lemma parseNumeral_sign (negative : Bool) (cs : List Char) (hc : cs.head? ≠ some '-') :
    parseNumeral ((if negative then ['-'] else []) ++ cs) =
      (parseUnsigned cs).map fun p => ⟨negative, p.1, p.2.1, p.2.2⟩ := by
  have hb : (cs.head? == some '-') = false := by simpa using hc
  cases negative with
  | true => simp [parseNumeral]
  | false => simp [parseNumeral, hb]

lemma toDigits_head_ne (n : Nat) (rest : List Char) :
    (Nat.toDigits 10 n ++ rest).head? ≠ some '-' := by
  obtain ⟨c, cs, hcs⟩ := List.exists_cons_of_ne_nil (toDigits_ne_nil n)
  have hc := toDigits_isDigit n c (by simp [hcs])
  rw [hcs]
  rintro ⟨⟩
  exact absurd hc (by decide)

/-- What `%d.` followed by a digit string reads back as. -/
lemma parseNumeral_point (negative : Bool) (a : Nat) {fr : List Char}
    (hfr : ∀ c ∈ fr, c.isDigit) :
    parseNumeral ((if negative then ['-'] else []) ++ (Nat.toDigits 10 a ++ '.' :: fr)) =
      some ⟨negative, a, digitsValue fr, fr.length⟩ := by
  rw [parseNumeral_sign _ _ (toDigits_head_ne a _),
    parseUnsigned_point (toDigits_isDigit a) hfr (toDigits_ne_nil a)]
  simp

lemma parseNumeral_toDigits (negative : Bool) (a : Nat) :
    parseNumeral ((if negative then ['-'] else []) ++ Nat.toDigits 10 a) =
      some ⟨negative, a, 0, 0⟩ := by
  have h := parseNumeral_sign negative (Nat.toDigits 10 a) (by simpa using toDigits_head_ne a [])
  rw [h, parseUnsigned_digits (toDigits_isDigit a) (toDigits_ne_nil a)]
  simp

lemma Numeral.value_eq (negative : Bool) (a b k : Nat) :
    (Numeral.value ⟨negative, a, b, k⟩) =
      (if negative then -1 else 1) * ((a * 10 ^ k + b : Nat) / 10 ^ k : ℚ) := by
  simp only [Numeral.value]
  congr 1
  push_cast
  field_simp

/-! ### Strings -/

@[simp] lemma toString_nat_data (n : Nat) : (toString n).data = Nat.toDigits 10 n := rfl

/-- `strings.Repeat(s, count)`, which panics on a negative count. -/
def stringsRepeat (s : String) (count : Int) : Except Failure String :=
  if count < 0 then .error (.panic "strings: negative Repeat count")
  else .ok (String.join (List.replicate count.toNat s))

lemma join_replicate_zero_data (k : Nat) :
    (String.join (List.replicate k "0")).data = List.replicate k '0' := by
  suffices h : ∀ acc : String,
      (List.foldl (· ++ ·) acc (List.replicate k "0")).data = acc.data ++ List.replicate k '0' by
    simpa [String.join] using h ""
  induction k with
  | zero => simp
  | succ k ih =>
    intro acc
    rw [List.replicate_succ, List.foldl_cons, ih, String.data_append, List.replicate_succ]
    simp

lemma stringsRepeat_zero {count : Int} (h : 0 ≤ count) :
    ∃ s, stringsRepeat "0" count = .ok s ∧ s.data = List.replicate count.toNat '0' :=
  ⟨_, by simp [stringsRepeat, not_lt.mpr h], join_replicate_zero_data _⟩

end DesoBackend
