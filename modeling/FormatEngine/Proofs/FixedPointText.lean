import Mathlib
import FormatEngine.Directive
import FormatEngine.Proofs.CanonicalNumerals
/-!
# The shape of a fixed-point text

A fixed-point text is built from the integer part `i` and the scaled fraction `s` at `q ≤ 9`
places. The reference style writes the signed decimal of `i`, then for `q > 0` a `.` and the
signed decimal of `s`. The padded style writes a `-` of its own when `i = 0` and `s < 0`, the
signed decimal of `i`, then for `q > 0` a `.` and the decimal of `min |s| (10^q - 1)` widened
with zeros to `q` digits (`zeroPadded`).

Main statement (`ftoa_text_structure`): in a buffer of at least 24 bytes the converter returns
exactly these texts; every padded text has the shape `-?[0-9]+(\.[0-9]{q})?`, so it holds at
most one `-`, at its start; and when `i` and `s` have no opposite signs and `|s| < 10^q`, the
padded text read as a decimal numeral (`decimalValue`) is `i + s / 10^q`.
-/
namespace FormatEngine

/-! ## Digits by place -/

namespace Numeral

/-- Digit `k` of `v` in base `b`, counted from the least significant, is `v / b^k % b`; past
the last digit it is zero. -/
theorem getD_digitsLsbAux {b : Nat} (hb : 2 ≤ b) :
    ∀ (fuel v : Nat), v ≤ fuel → ∀ k, (digitsLsbAux b fuel v).getD k 0 = v / b ^ k % b := by
  intro fuel
  induction fuel with
  | zero =>
    intro v hv k
    obtain rfl : v = 0 := by omega
    cases k <;> simp [digitsLsbAux]
  | succ fuel ih =>
    intro v hv k
    simp only [digitsLsbAux]
    split
    · rename_i hbv
      cases k with
      | zero => simp
      | succ k =>
        have hq : v / b ≤ fuel := by
          have := Nat.div_lt_self (n := v) (k := b) (by omega) (by omega)
          omega
        rw [List.getD_cons_succ, ih (v / b) hq k, Nat.div_div_eq_div_mul, pow_succ, mul_comm b]
    · rename_i hbv
      have hvb : v < b := by omega
      cases k with
      | zero => simp [Nat.mod_eq_of_lt hvb]
      | succ k =>
        have hpow : b ≤ b ^ (k + 1) := by
          calc b = b ^ 1 := (pow_one b).symm
            _ ≤ b ^ (k + 1) := Nat.pow_le_pow_right (by omega) (by omega)
        simp [Nat.div_eq_of_lt (by omega : v < b ^ (k + 1))]

theorem getD_digitsLsb {b : Nat} (hb : 2 ≤ b) (v k : Nat) :
    (digitsLsb b v).getD k 0 = v / b ^ k % b :=
  getD_digitsLsbAux hb v v (Nat.le_refl v) k

theorem ofDigitsLsb_lt {b : Nat} (ds : List Nat) (hds : ∀ d ∈ ds, d < b) :
    ofDigitsLsb b ds < b ^ ds.length := by
  induction ds with
  | nil => simp [ofDigitsLsb]
  | cons d ds ih =>
    have hd := hds d List.mem_cons_self
    have hr := ih fun e he => hds e (List.mem_cons_of_mem d he)
    -- `d + b·r < b·(r + 1) ≤ b · b^|ds|`
    calc d + b * ofDigitsLsb b ds < b * (ofDigitsLsb b ds + 1) := by rw [Nat.mul_succ]; omega
      _ ≤ b * b ^ ds.length := Nat.mul_le_mul_left b hr
      _ = b ^ (d :: ds).length := by rw [List.length_cons, pow_succ, mul_comm]

/-- A value has fewer than `k + 1` digits exactly when it is below `b^k`; here, the bound
every value meets with its own digit count. -/
theorem lt_pow_digitCount {b : Nat} (hb : 2 ≤ b) (v : Nat) : v < b ^ digitCount b v := by
  have h := ofDigitsLsb_lt (b := b) (digitsLsb b v) fun d hd => lt_of_mem_digitsLsb hb hd
  rwa [ofDigitsLsb_digitsLsb b v hb, ← digitCount_eq_length hb] at h

end Numeral

/-! ## Zero-padded decimals -/

/-- The decimal numeral of `v` widened with zeros on the left to `p` digits. -/
def zeroPadded (p v : Nat) : List UInt8 :=
  List.replicate (p - (Numeral.text 10 false v).length) 48 ++ Numeral.text 10 false v

namespace Fixed

theorem length_paddedDigits (p v : Nat) : (paddedDigits p v).length = p := by
  simp [paddedDigits]

theorem getD_paddedDigits {p v j : Nat} (hj : j < p) :
    (paddedDigits p v).getD j 0 = Numeral.digitByte false (v / 10 ^ (p - 1 - j) % 10) := by
  rw [List.getD_eq_getElem _ _ (by simpa [length_paddedDigits] using hj)]
  simp [paddedDigits, List.getElem_reverse, Nat.pow_eq]

/-- The last `p` digits of a value below `10^p` are its decimal numeral widened with zeros. -/
theorem paddedDigits_eq_zeroPadded {p v : Nat} (hp : 0 < p) (hv : v < 10 ^ p) :
    paddedDigits p v = zeroPadded p v := by
  have hcount : (Numeral.digitsLsb 10 v).length ≤ p := by
    rw [← Numeral.digitCount_eq_length (by decide)]
    exact Numeral.digitCount_le_of_lt_pow (by decide) hp (by simpa [Nat.pow_eq] using hv)
  have hlen : (Numeral.text 10 false v).length = (Numeral.digitsLsb 10 v).length := by
    rw [Numeral.length_text (by decide), Numeral.digitCount_eq_length (by decide)]
  apply List.ext_getElem?
  intro j
  by_cases hj : j < p
  · -- both hold digit `p - 1 - j` of `v` there: a zero left of the numeral, its digit inside
    have hl : j < (zeroPadded p v).length := by simp [zeroPadded, hlen]; omega
    rw [List.getElem?_eq_getElem (by simpa [length_paddedDigits] using hj),
      List.getElem?_eq_getElem hl, Option.some.injEq, ← List.getD_eq_getElem _ 0,
      ← List.getD_eq_getElem _ 0, getD_paddedDigits hj]
    unfold zeroPadded
    by_cases hz : j < p - (Numeral.digitsLsb 10 v).length
    · rw [List.getD_append _ _ _ _ (by simp [hlen]; omega), List.getD_replicate _ (by omega)]
      have hsmall : v < 10 ^ (p - 1 - j) :=
        calc v < 10 ^ (Numeral.digitsLsb 10 v).length := by
              rw [← Numeral.digitCount_eq_length (by decide)]
              exact Numeral.lt_pow_digitCount (by decide) v
          _ ≤ 10 ^ (p - 1 - j) := Nat.pow_le_pow_right (by decide) (by omega)
      rw [Nat.div_eq_of_lt hsmall]
      rfl
    · rw [List.getD_append_right _ _ _ _ (by simp [hlen]; omega)]
      simp only [List.length_replicate, hlen]
      unfold Numeral.text
      rw [List.getD_eq_getElem _ _ (by simp; omega), List.getElem_reverse, List.getElem_map,
        ← List.getD_eq_getElem _ 0, Numeral.getD_digitsLsb (by decide)]
      simp only [List.length_map]
      have hidx : (Numeral.digitsLsb 10 v).length - 1 -
          (j - (p - (Numeral.digitsLsb 10 v).length)) = p - 1 - j := by omega
      rw [hidx]
  · rw [List.getElem?_eq_none (by simp [length_paddedDigits]; omega),
      List.getElem?_eq_none (by simp [zeroPadded, hlen]; omega)]

/-- The last `p` digits of a value below `10^p` read back as the value. -/
theorem valueOf_paddedDigits {p v : Nat} (hv : v < 10 ^ p) :
    Numeral.valueOf 10 (paddedDigits p v) = v := by
  have hsum : ∀ n, ∑ k ∈ Finset.range n, (v / 10 ^ k % 10) * 10 ^ k = v % 10 ^ n := by
    intro n
    induction n with
    | zero => simp [Nat.mod_one]
    | succ n ih => rw [Finset.sum_range_succ, ih, Nat.mod_pow_succ, mul_comm (10 ^ n)]
  rw [Numeral.valueOf, length_paddedDigits]
  -- the digit `j` places from the left is digit `p - 1 - j` from the right
  refine Eq.trans ?_ ((Finset.sum_range_reflect _ p).trans ((hsum p).trans (Nat.mod_eq_of_lt hv)))
  apply Finset.sum_congr rfl
  intro j hj
  have hj' := Finset.mem_range.1 hj
  rw [getD_paddedDigits (by omega), Numeral.digitValue_digitByte false
    (Nat.lt_trans (Nat.mod_lt _ (by decide)) (by decide))]

end Fixed

/-! ## Decimal texts -/

/-- `t` has the shape `-?[0-9]+`, followed when `q > 0` by a `.` and exactly `q` digits. -/
def DecimalShape (q : Nat) (t : List UInt8) : Prop :=
  ∃ (neg : Bool) (whole frac : List UInt8),
    t = (if neg then [45] else []) ++ whole ++ (if q = 0 then [] else 46 :: frac) ∧
      whole ≠ [] ∧ (∀ c ∈ whole, Directive.isDigit c) ∧ frac.length = q ∧
      ∀ c ∈ frac, Directive.isDigit c

/-- The value of a decimal text `-?d…d(.d…d)?`: the digits before the point, plus the digits
after it over ten to the power of their count, negated after a leading `-`. -/
def decimalValue (t : List UInt8) : ℚ :=
  let neg := t.head? == some 45
  let body := if neg then t.tail else t
  let whole := body.takeWhile (· != 46)
  let frac := (body.dropWhile (· != 46)).drop 1
  let v : ℚ := (Numeral.valueOf 10 whole : ℚ) + (Numeral.valueOf 10 frac : ℚ) / 10 ^ frac.length
  if neg then -v else v

namespace Numeral

theorem isDigit_digitByte (upper : Bool) {d : Nat} (hd : d < 10) :
    Directive.isDigit (digitByte upper d) = true := by
  simp only [Directive.isDigit, digitByte, hd, if_true, Nat.toUInt8_eq, Bool.and_eq_true,
    decide_eq_true_eq, UInt8.le_iff_toNat_le, UInt8.toNat_ofNat', UInt8.reduceToNat]
  omega

theorem isDigit_of_mem_text {v : Nat} {c : UInt8} (hc : c ∈ text 10 false v) :
    Directive.isDigit c = true := by
  obtain ⟨d, hd, rfl⟩ := (text_isCanonical (by decide) (by decide) false v).digits c hc
  exact isDigit_digitByte false hd

end Numeral

theorem isDigit_of_mem_zeroPadded {p v : Nat} {c : UInt8} (hc : c ∈ zeroPadded p v) :
    Directive.isDigit c = true := by
  rcases List.mem_append.1 hc with hc | hc
  · rw [List.eq_of_mem_replicate hc]
    rfl
  · exact Numeral.isDigit_of_mem_text hc

/-- A text of that shape has at most one `-`, and only at its start: no digit and no point is
a `-`. -/
theorem DecimalShape.minus {q : Nat} {t : List UInt8} (h : DecimalShape q t) :
    t.count 45 ≤ 1 ∧ (45 ∈ t → t.head? = some 45) := by
  obtain ⟨neg, whole, frac, rfl, hne, hwhole, -, hfrac⟩ := h
  have hnot : ∀ c, Directive.isDigit c = true → c ≠ 45 := by
    intro c hc h45
    subst h45
    exact absurd hc (by decide)
  have hw : whole.count 45 = 0 := List.count_eq_zero.2 fun hm => hnot _ (hwhole _ hm) rfl
  have htail : (if q = 0 then [] else 46 :: frac).count 45 = 0 := by
    split
    · rfl
    · exact List.count_eq_zero.2 fun hm => by
        rcases List.mem_cons.1 hm with h | h
        · exact absurd h (by decide)
        · exact hnot _ (hfrac _ h) rfl
  obtain ⟨w, ws, rfl⟩ := List.exists_cons_of_ne_nil hne
  cases neg
  · -- without a sign the text starts with a digit and holds no `-` at all
    have hcount : ((if false = true then [45] else []) ++ (w :: ws) ++
        (if q = 0 then [] else 46 :: frac)).count 45 = 0 := by
      simp only [Bool.false_eq_true, if_false, List.nil_append, List.count_append, hw, htail]
    refine ⟨by omega, fun hm => absurd (List.count_pos_iff.2 hm) (by omega)⟩
  · refine ⟨?_, fun _ => rfl⟩
    simp only [if_true, List.count_append, hw, htail]
    simp

namespace Numeral

@[simp] theorem valueOf_nil (b : Nat) : valueOf b [] = 0 := by simp [valueOf]

end Numeral

theorem decimalValue_sign (neg : Bool) {body : List UInt8} (hb : body.head? ≠ some 45) :
    decimalValue ((if neg then [45] else []) ++ body) =
      (if neg then -1 else 1) * ((Numeral.valueOf 10 (body.takeWhile (· != 46)) : ℚ) +
        (Numeral.valueOf 10 ((body.dropWhile (· != 46)).drop 1) : ℚ) /
          10 ^ ((body.dropWhile (· != 46)).drop 1).length) := by
  cases neg
  · simp [decimalValue, hb]
  · simp [decimalValue]

/-- The value of a text of that shape, read from its parts. -/
theorem decimalValue_eq (neg : Bool) {whole : List UInt8} (hne : whole ≠ [])
    (hwhole : ∀ c ∈ whole, Directive.isDigit c = true) (q : Nat) (frac : List UInt8) :
    decimalValue ((if neg then [45] else []) ++ whole ++ (if q = 0 then [] else 46 :: frac)) =
      (if neg then -1 else 1) * ((Numeral.valueOf 10 whole : ℚ) +
        if q = 0 then 0 else (Numeral.valueOf 10 frac : ℚ) / 10 ^ frac.length) := by
  -- no digit is a point or a `-`
  have hpoint : ∀ c ∈ whole, (c != 46) = true := fun c hc => by
    have hd := hwhole c hc
    rw [bne_iff_ne]
    rintro rfl
    exact absurd hd (by decide)
  have hhead : (whole ++ (if q = 0 then [] else 46 :: frac)).head? ≠ some 45 := by
    obtain ⟨w, ws, rfl⟩ := List.exists_cons_of_ne_nil hne
    have hd := hwhole w List.mem_cons_self
    simp only [List.cons_append, List.head?_cons, ne_eq, Option.some.injEq]
    rintro rfl
    exact absurd hd (by decide)
  rw [List.append_assoc, decimalValue_sign neg hhead, List.takeWhile_append_of_pos hpoint,
    List.dropWhile_append_of_pos hpoint]
  by_cases hq : q = 0 <;> simp [hq]

/-! ## The two styles -/

namespace Fixed

theorem leadSign_padded (i s : Int) : leadSign .padded i s = decide (i = 0 ∧ s < 0) := by
  by_cases hi : i = 0 <;> simp [leadSign, hi]

/-- The padded text, with its fraction written as a zero-padded decimal. -/
theorem text_padded (x : Binary64) (p : Nat) :
    text x p .padded =
      (if intPart x = 0 ∧ scaledFraction x (min p maxPrecision) < 0 then [45] else []) ++
        Numeral.signed (intPart x) ++
        (if min p maxPrecision = 0 then [] else 46 :: zeroPadded (min p maxPrecision)
          (min (scaledFraction x (min p maxPrecision)).natAbs (10 ^ min p maxPrecision - 1))) := by
  dsimp only [text]
  rw [leadSign_padded]
  by_cases hq : min p maxPrecision = 0
  · simp [hq]
  · simp only [hq, if_false, fractionText, paddedFraction, decide_eq_true_eq, Nat.pow_eq]
    rw [paddedDigits_eq_zeroPadded (by omega)
      (by have := Nat.pow_pos (n := min p maxPrecision) (by decide : 0 < 10); omega)]

end Fixed

/-- A sign, the decimal digits of `|i|` and, for `q > 0`, a point and `|s|` zero-padded to `q`
digits, read as a decimal, give `i + s / 10^q` when `i` and `s` have no opposite signs, the sign
stands for a negative `i` or for `i = 0` with a negative `s`, and `|s|` has at most `q` digits. -/
theorem decimalValue_padded {i s : Int} {q : Nat} (hsign : 0 ≤ i * s) (hs : s.natAbs < 10 ^ q) :
    decimalValue ((if decide (i < 0 ∨ (i = 0 ∧ s < 0)) then [45] else []) ++
        Numeral.text 10 false i.natAbs ++
        (if q = 0 then [] else 46 :: zeroPadded q (min s.natAbs (10 ^ q - 1)))) =
      i + s / 10 ^ q := by
  have hcanon := Numeral.text_isCanonical (by decide : 2 ≤ 10) (by decide) false i.natAbs
  rw [decimalValue_eq _ hcanon.ne_nil (fun c hc => Numeral.isDigit_of_mem_text hc), hcanon.value,
    Nat.min_eq_left (show s.natAbs ≤ 10 ^ q - 1 by omega)]
  -- the fraction digits read back as `|s|`, over `10^q`
  have hfrac : (if q = 0 then (0 : ℚ) else (Numeral.valueOf 10 (zeroPadded q s.natAbs) : ℚ) /
      10 ^ (zeroPadded q s.natAbs).length) = (s.natAbs : ℚ) / 10 ^ q := by
    by_cases hq : q = 0
    · have hs0 : s.natAbs = 0 := by simp [hq] at hs; omega
      simp [hq, hs0]
    · rw [if_neg hq, ← Fixed.paddedDigits_eq_zeroPadded (by omega) hs,
        Fixed.valueOf_paddedDigits hs, Fixed.length_paddedDigits]
  rw [hfrac]
  have habs : ∀ n : Int, 0 ≤ n → ((n.natAbs : ℕ) : ℚ) = n := fun n hn => by
    rw [← Int.cast_natCast, Int.natAbs_of_nonneg hn]
  have hneg : ∀ n : Int, n ≤ 0 → ((n.natAbs : ℕ) : ℚ) = -n := fun n hn => by
    rw [← Int.cast_natCast, Int.ofNat_natAbs_of_nonpos hn, Int.cast_neg]
  rcases lt_trichotomy i 0 with hi | rfl | hi
  · -- a negative integer part has a fraction of no other sign
    have hs0 : s ≤ 0 := by nlinarith
    rw [if_pos (by simp [hi]), hneg i hi.le, hneg s hs0]
    ring
  · by_cases hs0 : s < 0
    · rw [if_pos (by simp [hs0]), hneg s hs0.le]
      simp
      ring
    · rw [if_neg (by simp [hs0]), habs s (by omega)]
      simp
  · have hs0 : 0 ≤ s := by nlinarith
    rw [if_neg (by simp; omega), habs i hi.le, habs s hs0]
    ring

/-- In a buffer of at least 24 bytes the fixed-point converter returns, in the reference style,
the decimal of the integer part `i`, then for `q > 0` places a `.` and the decimal of the scaled
fraction `s`; in the padded style, a `-` of its own when `i = 0` and `s < 0`, the decimal of
`i`, then for `q > 0` a `.` and `min |s| (10^q - 1)` zero-padded to `q` digits. Every padded
text has the shape `-?[0-9]+(\.[0-9]{q})?`, with at most one `-`, at its start; and when `i`
and `s` have no opposite signs and `|s| < 10^q` it reads as the decimal `i + s / 10^q`. -/
theorem ftoa_text_structure (x : Binary64) (p : Nat) (a : Array UInt8) (ha : 24 ≤ a.size) :
    let q := min p Fixed.maxPrecision
    let i := Fixed.intPart x
    let s := Fixed.scaledFraction x q
    let padded := (if i = 0 ∧ s < 0 then [45] else []) ++ Numeral.signed i ++
      (if q = 0 then [] else 46 :: zeroPadded q (min s.natAbs (10 ^ q - 1)))
    Scratch.Gives (Scratch.ftoa a x p .reference) 0
        (Numeral.signed i ++ if q = 0 then [] else 46 :: Numeral.signed s) ∧
      Scratch.Gives (Scratch.ftoa a x p .padded) 0 padded ∧
      DecimalShape q padded ∧ padded.count 45 ≤ 1 ∧ (45 ∈ padded → padded.head? = some 45) ∧
      (0 ≤ i * s → s.natAbs < 10 ^ q → decimalValue padded = i + s / 10 ^ q) := by
  intro q i s padded
  have hfits : ∀ style, (Fixed.text x p style).length + 1 ≤ a.size := fun style => by
    have := Fixed.length_text_le x p style
    omega
  have hgives : ∀ style, Scratch.Gives (Scratch.ftoa a x p style) 0 (Fixed.text x p style) :=
    fun style => by
      rw [Scratch.ftoa_eq_write a x p style (hfits style)]
      exact Scratch.gives_writeAt a 0 _ (by have := hfits style; omega)
  have hpadded : Fixed.text x p .padded = padded := Fixed.text_padded x p
  -- the padded text is a sign, the digits of `|i|`, and for `q > 0` a point and `q` digits
  have hsplit : padded = (if decide (i < 0 ∨ (i = 0 ∧ s < 0)) then [45] else []) ++
      Numeral.text 10 false i.natAbs ++
      (if q = 0 then [] else 46 :: zeroPadded q (min s.natAbs (10 ^ q - 1))) := by
    simp only [padded, Numeral.signed]
    by_cases hi : i < 0
    · have hi0 : ¬ (i = 0 ∧ s < 0) := by omega
      simp [hi, hi0]
    · by_cases hl : i = 0 ∧ s < 0 <;> simp [hi, hl]
  have hne := (Numeral.text_isCanonical (by decide : 2 ≤ 10) (by decide) false i.natAbs).ne_nil
  have hdigits : ∀ c ∈ Numeral.text 10 false i.natAbs, Directive.isDigit c = true :=
    fun c hc => Numeral.isDigit_of_mem_text hc
  have hshape : DecimalShape q padded := by
    by_cases hq : q = 0
    · refine ⟨decide (i < 0 ∨ (i = 0 ∧ s < 0)), _, [], ?_, hne, hdigits, by simp [hq], by simp⟩
      rw [hsplit]
      simp [hq]
    · refine ⟨_, _, _, hsplit, hne, hdigits, ?_, fun c hc => isDigit_of_mem_zeroPadded hc⟩
      rw [← Fixed.paddedDigits_eq_zeroPadded (by omega)
        (by have := Nat.pow_pos (n := q) (by decide : 0 < 10); omega), Fixed.length_paddedDigits]
  refine ⟨?_, hpadded ▸ hgives .padded, hshape, hshape.minus.1, hshape.minus.2, ?_⟩
  · have href : Fixed.text x p .reference =
        Numeral.signed i ++ if q = 0 then [] else 46 :: Numeral.signed s := by
      simp [Fixed.text, Fixed.leadSign, Fixed.fractionText, i, s, q]
    exact href ▸ hgives .reference
  · intro hsign hs
    rw [hsplit]
    exact decimalValue_padded hsign hs

/-- `-0.5` at six places: the integer part is `0`, so the sign comes from the fraction, and the
text reads back as `-1/2`. -/
theorem ftoa_padded_minus_half :
    Scratch.Gives (Scratch.ftoa (Array.replicate 24 0) ⟨0xBFE0000000000000⟩ 6 .padded) 0
        [45, 48, 46, 53, 48, 48, 48, 48, 48] ∧
      decimalValue [45, 48, 46, 53, 48, 48, 48, 48, 48] = -1 / 2 := by
  have hi : Fixed.intPart ⟨0xBFE0000000000000⟩ = 0 := by decide
  have hs : Fixed.scaledFraction ⟨0xBFE0000000000000⟩ (min 6 Fixed.maxPrecision) = -500000 := by
    decide +kernel
  obtain ⟨-, hgives, -, -, -, hvalue⟩ :=
    ftoa_text_structure ⟨0xBFE0000000000000⟩ 6 (Array.replicate 24 0) (by decide)
  simp only [hi, hs] at hgives hvalue
  have htext : ((if True ∧ (-500000 : Int) < 0 then [45] else []) ++ Numeral.signed 0 ++
      if min 6 Fixed.maxPrecision = 0 then []
      else 46 :: zeroPadded (min 6 Fixed.maxPrecision)
        (min (-500000 : Int).natAbs (10 ^ min 6 Fixed.maxPrecision - 1))) =
      [45, 48, 46, 53, 48, 48, 48, 48, 48] := by decide +kernel
  rw [htext] at hgives hvalue
  refine ⟨hgives, ?_⟩
  rw [hvalue (by decide) (by decide)]
  norm_num [Fixed.maxPrecision]

end FormatEngine
