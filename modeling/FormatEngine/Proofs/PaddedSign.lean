import Mathlib
import FormatEngine.Proofs.FixedPointText
/-!
# The sign of a padded fixed-point text

The padded style writes a `-` of its own only in front of an integer part of `0`, and only when
the scaled fraction is negative; a negative integer part carries its own `-`. So the text starts
with a `-` exactly when the integer part is negative, or it is `0` and the scaled fraction is
negative (`Fixed.head?_text_padded`). The sign is read off the truncated fraction and not off the
value: a negative value above `-1` whose fraction truncates to `0` at the chosen precision, such
as `-1e-7` at six places, is written `0.000000` (`padded_text_drops_sign_of_small_negative`).

A value that is not below zero never gets a `-`. Its integer part is not negative, and when it
is `0` the fraction is the value itself, `+0`, `-0` or a NaN; multiplying it by ten keeps its
sign, because rounding a product gives a value of the product's sign (`Binary64.signBit_round`),
and truncating a value whose sign bit is clear gives no negative integer.

Main statement: `padded_minus_sign`.
-/
namespace FormatEngine

namespace Binary64

/-- Whether a value is below zero: a negative infinity, or a finite value with its sign bit set
and a nonzero significand. `-0` and the NaNs are not. -/
def isNegative (x : Binary64) : Bool :=
  match x.classify with
  | .nan => false
  | .infinite neg => neg
  | .finite neg m _ => neg && m != 0

/-! ## The sign bit of an assembled value -/

theorem signBit_ofFields (neg : Bool) {b f : Nat} (h : b * Nat.pow 2 52 + f < Nat.pow 2 63) :
    (ofFields neg b f).signBit = neg := by
  unfold signBit ofFields
  have hw : ∀ w : Nat, w < 2 ^ 64 → ((UInt64.ofNat w) >>> 63).toNat = w / 2 ^ 63 := by
    intro w hw
    rw [UInt64.toNat_shiftRight, UInt64.toNat_ofNat_of_lt' hw]
    simp [Nat.shiftRight_eq_div_pow]
  simp only [Nat.pow_eq] at h ⊢
  cases neg
  · have hbits := hw (0 + b * 2 ^ 52 + f) (by omega)
    simp only [Bool.false_eq_true, if_false, beq_eq_false_iff_ne, ne_eq]
    intro h1
    have h2 := congrArg UInt64.toNat h1
    rw [hbits] at h2
    simp at h2
    omega
  · have hbits := hw (2 ^ 63 + b * 2 ^ 52 + f) (by omega)
    simp only [if_true, beq_iff_eq]
    apply UInt64.toNat_inj.1
    rw [hbits]
    simp
    omega

theorem signBit_of_classify_infinite {x : Binary64} {neg : Bool}
    (h : x.classify = .infinite neg) : x.signBit = neg := by
  unfold classify at h
  split_ifs at h
  cases h
  rfl

theorem signBit_of_classify_finite {x : Binary64} {neg : Bool} {m : Nat} {e : Int}
    (h : x.classify = .finite neg m e) : x.signBit = neg := by
  unfold classify at h
  split_ifs at h
  · cases h
    rfl
  · cases h
    rfl

/-! ## The binade of a ratio -/

theorem bitLengthAux_zero (fuel : Nat) : bitLengthAux fuel 0 = 0 := by
  cases fuel <;> simp [bitLengthAux]

theorem bitLengthAux_eq_log {fuel n : Nat} (h : n ≤ fuel) (hn : 0 < n) :
    bitLengthAux fuel n = Nat.log 2 n + 1 := by
  induction fuel generalizing n with
  | zero => omega
  | succ fuel ih =>
    rw [bitLengthAux, if_neg (by omega)]
    by_cases h1 : n = 1
    · subst h1
      simp [bitLengthAux_zero]
    · -- halving drops one binary digit
      have hlog : 1 ≤ Nat.log 2 n := Nat.log_pos (by decide) (by omega)
      rw [ih (by omega) (by omega), Nat.log_div_base]
      omega

theorem bitLength_eq_log {n : Nat} (hn : 0 < n) : bitLength n = Nat.log 2 n + 1 :=
  bitLengthAux_eq_log (Nat.le_refl n) hn

theorem ratioAtLeastPow2_iff (num den : Nat) (k : Int) :
    ratioAtLeastPow2 num den k = true ↔ (den : ℚ) * 2 ^ k ≤ num := by
  unfold ratioAtLeastPow2
  split
  · rename_i hk
    have hpow : (2 : ℚ) ^ k = ((2 ^ k.toNat : Nat) : ℚ) := by
      rw [Nat.cast_pow, Nat.cast_ofNat, ← zpow_natCast, Int.toNat_of_nonneg hk]
    rw [decide_eq_true_iff, hpow, Nat.pow_eq, ← Nat.cast_mul, Nat.cast_le]
  · rename_i hk
    have hpow : (2 : ℚ) ^ (-k) = ((2 ^ (-k).toNat : Nat) : ℚ) := by
      rw [Nat.cast_pow, Nat.cast_ofNat, ← zpow_natCast, Int.toNat_of_nonneg (by omega)]
    rw [decide_eq_true_iff, Nat.pow_eq, ← @Nat.cast_le ℚ, Nat.cast_mul, ← hpow, zpow_neg,
      le_mul_inv_iff₀ (by positivity)]

/-- The binade is chosen so that the ratio lies below its next power of two. -/
theorem lt_binade {num den : Nat} (hn : 0 < num) (hd : 0 < den) :
    (num : ℚ) < den * 2 ^ (binade num den + 1) := by
  have hn2 := Nat.lt_pow_succ_log_self (by decide : 1 < 2) num
  have hd1 := Nat.pow_log_le_self 2 (Nat.pos_iff_ne_zero.1 hd)
  set a := Nat.log 2 num
  set b := Nat.log 2 den
  have hnq : (num : ℚ) < 2 ^ (a + 1) := by exact_mod_cast hn2
  have hdq : (2 : ℚ) ^ b ≤ den := by exact_mod_cast hd1
  unfold binade
  rw [bitLength_eq_log hn, bitLength_eq_log hd]
  dsimp only
  have hk : ((a + 1 : Nat) : Int) - ((b + 1 : Nat) : Int) = (a : Int) - b := by push_cast; ring
  rw [hk]
  split
  · -- the ratio is below `2^(a + 1) / 2^b`
    calc (num : ℚ) < 2 ^ (a + 1) := hnq
      _ = 2 ^ ((a : Int) - b + 1) * 2 ^ (b : Int) := by
        rw [← zpow_add₀ two_ne_zero, ← zpow_natCast]; congr 1; push_cast; ring
      _ ≤ 2 ^ ((a : Int) - b + 1) * den := by
        gcongr
        rw [zpow_natCast]
        exact hdq
      _ = den * 2 ^ ((a : Int) - b + 1) := mul_comm _ _
  · -- the ratio is below `2^(a - b)`, the power the binade stops under
    rename_i hbelow
    rw [ratioAtLeastPow2_iff] at hbelow
    simpa using lt_of_not_ge hbelow

/-! ## Rounding keeps the sign -/

theorem roundDivEven_le {n d B : Nat} (hd : 0 < d) (h : n < d * B) : roundDivEven n d ≤ B := by
  have hq : n / d < B := (Nat.div_lt_iff_lt_mul hd).2 (by rwa [Nat.mul_comm])
  unfold roundDivEven
  dsimp only
  generalize n / d = m at hq ⊢
  split <;> omega

/-- The significand of a rounded ratio, before a carry into the next binade, is at most
`2^53`: the quantum `2^q` is chosen so that the ratio is below `2^53` quanta. -/
theorem significand_le {num den : Nat} (hn : 0 < num) (hd : 0 < den) (q : Int)
    (hq : q = max (binade num den - 52) (-1074)) :
    (if 0 ≤ q then roundDivEven num (den * Nat.pow 2 q.toNat)
      else roundDivEven (num * Nat.pow 2 (-q).toNat) den) ≤ Nat.pow 2 53 := by
  have hexp : binade num den + 1 ≤ q + 53 := by omega
  have hlt : (num : ℚ) < den * 2 ^ (q + 53) :=
    calc (num : ℚ) < den * 2 ^ (binade num den + 1) := lt_binade hn hd
      _ ≤ den * 2 ^ (q + 53) :=
        mul_le_mul_of_nonneg_left (zpow_le_zpow_right₀ one_le_two hexp) (Nat.cast_nonneg _)
  split
  · -- the ratio is below `2^53` quanta of `2^q`
    rename_i hq0
    apply roundDivEven_le (Nat.mul_pos hd (Nat.two_pow_pos q.toNat))
    have h2 : (2 : ℚ) ^ (q + 53) = ((Nat.pow 2 q.toNat * Nat.pow 2 53 : Nat) : ℚ) := by
      rw [zpow_add₀ two_ne_zero, Nat.cast_mul, Nat.pow_eq, Nat.pow_eq, Nat.cast_pow, Nat.cast_pow,
        ← zpow_natCast, Int.toNat_of_nonneg hq0]
      norm_num
    rw [h2, ← Nat.cast_mul, Nat.cast_lt, ← Nat.mul_assoc] at hlt
    exact hlt
  · -- the numerator scaled by `2^-q` is below `2^53` denominators
    rename_i hq0
    apply roundDivEven_le hd
    have h2 : (2 : ℚ) ^ (-q) = ((Nat.pow 2 (-q).toNat : Nat) : ℚ) := by
      rw [Nat.pow_eq, Nat.cast_pow, ← zpow_natCast, Int.toNat_of_nonneg (by omega)]
      norm_num
    have h3 : (num : ℚ) * 2 ^ (-q) < den * 2 ^ 53 := by
      calc (num : ℚ) * 2 ^ (-q) < den * 2 ^ (q + 53) * 2 ^ (-q) := by gcongr
        _ = den * 2 ^ (q + 53 + -q) := by rw [mul_assoc, ← zpow_add₀ two_ne_zero]
        _ = den * 2 ^ 53 := by rw [show q + 53 + -q = 53 by ring]; norm_num
    rw [h2] at h3
    exact_mod_cast h3

/-- Rounding gives a value of the requested sign: its magnitude's fields never reach the sign
bit. -/
theorem signBit_round (neg : Bool) (num den : Nat) : (round neg num den).signBit = neg := by
  unfold round
  split
  · exact signBit_ofFields neg (by decide)
  · rename_i h0
    dsimp only
    generalize hq : max (binade num den - 52) (-1074) = q
    have hm := significand_le (by omega) (by omega) q hq.symm
    generalize (if 0 ≤ q then roundDivEven num (den * Nat.pow 2 q.toNat)
      else roundDivEven (num * Nat.pow 2 (-q).toNat) den) = m at hm
    -- a carry into the next binade leaves `2^52`; otherwise the significand is below `2^53`
    obtain ⟨m', q', hcarry, hm'⟩ : ∃ m' q',
        (if m = Nat.pow 2 53 then (Nat.pow 2 52, q + 1) else (m, q)) = (m', q') ∧
          m' < Nat.pow 2 53 := by
      split
      · exact ⟨_, _, rfl, by decide⟩
      · exact ⟨_, _, rfl, by simp only [Nat.pow_eq] at *; omega⟩
    rw [hcarry]
    dsimp only
    split
    · exact signBit_ofFields neg (by decide)
    · split
      · exact signBit_ofFields neg (by simp only [Nat.pow_eq] at *; omega)
      · exact signBit_ofFields neg (by simp only [Nat.pow_eq] at *; omega)

theorem signBit_ofScaled (neg : Bool) (m : Nat) (e : Int) : (ofScaled neg m e).signBit = neg := by
  unfold ofScaled
  split <;> exact signBit_round neg _ _

/-! ## Scaling by ten -/

theorem classify_ofNat_ten : (ofNat 10).classify = .finite false 5629499534213120 (-49) := by
  decide

theorem signBit_mul_ten {x : Binary64} (h : x.signBit = false) :
    (x.mul (ofNat 10)).signBit = false := by
  unfold mul
  rw [classify_ofNat_ten]
  cases hx : x.classify with
  | nan => decide
  | infinite sx =>
    rw [signBit_of_classify_infinite hx] at h
    subst h
    decide
  | finite sx mx ex =>
    rw [signBit_of_classify_finite hx] at h
    subst h
    exact signBit_ofScaled _ _ _

theorem signBit_timesTen {x : Binary64} (h : x.signBit = false) (n : Nat) :
    (Fixed.timesTen x n).signBit = false := by
  induction n generalizing x with
  | zero => exact h
  | succ n ih => exact ih (signBit_mul_ten h)

theorem timesTen_negZero (n : Nat) : Fixed.timesTen (zero true) n = zero true := by
  have hmul : (zero true).mul (ofNat 10) = zero true := by decide
  induction n with
  | zero => rfl
  | succ n ih => rw [Fixed.timesTen, hmul, ih]

theorem truncInt32_nonneg {x : Binary64} (h : x.signBit = false) : 0 ≤ x.truncInt32 := by
  unfold truncInt32 truncSat
  cases hx : x.classify with
  | nan => simp
  | infinite neg =>
    rw [signBit_of_classify_infinite hx] at h
    simp [h]
  | finite neg m e =>
    rw [signBit_of_classify_finite hx] at h
    have ht : 0 ≤ (if 0 ≤ e then ((m * Nat.pow 2 e.toNat : Nat) : Int)
        else ((m / Nat.pow 2 (-e).toNat : Nat) : Int)) := by
      split <;> exact Int.natCast_nonneg _
    simp only [h, Bool.false_eq_true, if_false]
    omega

/-! ## The difference from the integer part -/

theorem classify_zero_true : (zero true).classify = .finite true 0 (-1074) := by decide

theorem truncInt32_negZero : (zero true).truncInt32 = 0 := by
  unfold truncInt32 truncSat
  rw [classify_zero_true]
  simp only [Nat.zero_mul, Nat.zero_div, if_true]
  rfl

/-- Taking away an integer part of `0` changes nothing but zeros and NaNs: a NaN gives the quiet
NaN, and a zero gives the zero of its own sign. -/
theorem sub_ofInt_zero (x : Binary64) :
    x.sub (ofInt 0) =
      match x.classify with
      | .nan => nan
      | .infinite neg => infinity neg
      | .finite neg m _ => if m = 0 then zero neg else x := by
  have hneg : (ofInt 0).neg = zero true := by decide
  unfold sub add
  rw [hneg, classify_zero_true]
  cases x.classify with
  | nan => rfl
  | infinite neg => rfl
  | finite neg m e =>
    by_cases hm : m = 0 <;> simp [hm]

/-- A value that is not below zero has no negative integer part, and when its integer part is
`0` its scaled fraction is not negative either. -/
theorem intPart_nonneg {x : Binary64} (hx : x.isNegative = false) : 0 ≤ Fixed.intPart x := by
  unfold Fixed.intPart truncInt32 truncSat
  unfold isNegative at hx
  cases hc : x.classify with
  | nan => simp
  | infinite neg =>
    rw [hc] at hx
    simp [hx]
  | finite neg m e =>
    rw [hc] at hx
    dsimp only
    cases neg
    · have ht : 0 ≤ (if 0 ≤ e then ((m * Nat.pow 2 e.toNat : Nat) : Int)
          else ((m / Nat.pow 2 (-e).toNat : Nat) : Int)) := by
        split <;> exact Int.natCast_nonneg _
      simp only [Bool.false_eq_true, if_false]
      omega
    · -- a negative zero truncates to `0`
      simp only [Bool.true_and, bne_eq_false_iff_eq] at hx
      subst hx
      simp

theorem scaledFraction_nonneg {x : Binary64} (hx : x.isNegative = false)
    (h0 : Fixed.intPart x = 0) (q : Nat) : 0 ≤ Fixed.scaledFraction x q := by
  have hnan : nan.signBit = false := by decide
  have hinf : (infinity false).signBit = false := by decide
  unfold Fixed.scaledFraction
  rw [h0, sub_ofInt_zero]
  unfold isNegative at hx
  cases hc : x.classify with
  | nan => exact truncInt32_nonneg (signBit_timesTen hnan q)
  | infinite neg =>
    rw [hc] at hx
    subst hx
    exact truncInt32_nonneg (signBit_timesTen hinf q)
  | finite neg m e =>
    rw [hc] at hx
    dsimp only
    by_cases hm : m = 0
    · -- a zero stays the zero of its sign, and either zero truncates to `0`
      rw [if_pos hm]
      cases neg
      · exact truncInt32_nonneg (signBit_timesTen (signBit_ofFields false (by decide)) q)
      · rw [timesTen_negZero, truncInt32_negZero]
    · rw [if_neg hm]
      have hneg : neg = false := by simpa [hm] using hx
      subst hneg
      exact truncInt32_nonneg (signBit_timesTen (signBit_of_classify_finite hc) q)

end Binary64

/-! ## Where the padded text's `-` comes from -/

namespace Numeral

theorem head?_signed_eq_minus_iff (n : Int) : (signed n).head? = some 45 ↔ n < 0 := by
  obtain ⟨c, cs, hc⟩ := List.exists_cons_of_ne_nil
    (text_isCanonical (by decide : 2 ≤ 10) (by decide) false n.natAbs).ne_nil
  have hdigit : Directive.isDigit c = true := isDigit_of_mem_text (hc ▸ List.mem_cons_self)
  unfold signed
  by_cases hn : n < 0
  · simp [hn]
  · -- a numeral opens with a digit, and `-` is none
    simp only [hn, if_false, List.nil_append, hc, List.head?_cons, Option.some.injEq, iff_false]
    intro h45
    subst h45
    exact absurd hdigit (by decide)

theorem signed_ne_nil (n : Int) : signed n ≠ [] := by
  unfold signed
  have := (text_isCanonical (by decide : 2 ≤ 10) (by decide) false n.natAbs).ne_nil
  simp [this]

end Numeral

namespace Fixed

/-- The padded text opens with a `-` exactly when the integer part is negative, or it is `0`
and the scaled fraction is negative. -/
theorem head?_text_padded (x : Binary64) (p : Nat) :
    (text x p .padded).head? = some 45 ↔
      intPart x < 0 ∨ (intPart x = 0 ∧ scaledFraction x (min p maxPrecision) < 0) := by
  rw [text_padded]
  by_cases hl : intPart x = 0 ∧ scaledFraction x (min p maxPrecision) < 0
  · simp [hl]
  · rw [if_neg hl, List.nil_append, List.head?_append_of_ne_nil _ (Numeral.signed_ne_nil _), Numeral.head?_signed_eq_minus_iff]
    tauto

end Fixed

/-- The padded text opens with a `-` exactly when the integer part is negative, or it is `0`
and the scaled fraction, the value's fraction multiplied by ten once per place and truncated,
is negative; so a value that is not below zero, `-0` and the NaNs included, never gets one. -/
theorem padded_minus_sign (x : Binary64) (p : Nat) :
    ((Fixed.text x p .padded).head? = some 45 ↔
      Fixed.intPart x < 0 ∨
        (Fixed.intPart x = 0 ∧ Fixed.scaledFraction x (min p Fixed.maxPrecision) < 0)) ∧
    (x.isNegative = false → (Fixed.text x p .padded).head? ≠ some 45) := by
  refine ⟨Fixed.head?_text_padded x p, fun hx h => ?_⟩
  have hi := Binary64.intPart_nonneg hx
  rcases (Fixed.head?_text_padded x p).1 h with hlt | ⟨h0, hs⟩
  · omega
  · have := Binary64.scaledFraction_nonneg hx h0 (min p Fixed.maxPrecision)
    omega

/-- `-1e-7` at six places: a negative value whose integer part is `0` and whose fraction,
`-0.1` after six products by ten, truncates to `0`, so its padded text has no `-`. -/
theorem padded_text_drops_sign_of_small_negative :
    Binary64.isNegative ⟨0xBE7AD7F29ABCAF48⟩ = true ∧ Fixed.intPart ⟨0xBE7AD7F29ABCAF48⟩ = 0 ∧
      Fixed.text ⟨0xBE7AD7F29ABCAF48⟩ 6 .padded = Bytes.ofString "0.000000" := by
  decide +kernel

end FormatEngine
