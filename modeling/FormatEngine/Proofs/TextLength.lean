import FormatEngine.Bytes
import FormatEngine.Fixed
/-!
# How long a converter's text is

Each integer text is the canonical numeral of a value below `2^32` or `2^64`, and the
fixed-point text is built from two integers saturated to 32 bits, so every text has a length
bound that does not depend on the value. The longest is the fixed-point text of `-∞` in the
reference style, where both integers saturate to `-2^31`: `-2147483648.-2147483648`, 23 bytes.

The staged fixed-point rendering checks its room four times, once per stage, but every stage
needs no more than the whole text does, so it succeeds exactly when the whole text and its NUL
fit, and then returns the text (`Fixed.render?_eq_ok_iff`).
-/
namespace FormatEngine

/-! ## Numerals -/

namespace Numeral

theorem length_digitsLsbAux_le {b : Nat} (hb : 2 ≤ b) :
    ∀ (fuel v k : Nat), 1 ≤ k → v < Nat.pow b k → (digitsLsbAux b fuel v).length ≤ k := by
  intro fuel
  induction fuel with
  | zero => intro v k hk _; simpa [digitsLsbAux] using hk
  | succ fuel ih =>
    intro v k hk hv
    simp only [digitsLsbAux]
    split
    · rename_i h
      -- a value of at least `b` has two digits or more, so `k - 1` is still a bound
      obtain ⟨j, rfl⟩ : ∃ j, k = j + 1 := ⟨k - 1, by omega⟩
      have hj : 1 ≤ j := by
        rcases Nat.eq_zero_or_pos j with rfl | hj
        · simp [Nat.pow] at hv; omega
        · exact hj
      have hdiv : v / b < Nat.pow b j := (Nat.div_lt_iff_lt_mul (by omega)).2 hv
      simpa using ih (v / b) j hj hdiv
    · simpa using hk

theorem digitCount_le_of_lt_pow {b v k : Nat} (hb : 2 ≤ b) (hk : 1 ≤ k) (hv : v < Nat.pow b k) :
    digitCount b v ≤ k := by
  rw [digitCount_eq_length hb]
  exact length_digitsLsbAux_le hb v v k hk hv

theorem length_text_le_of_lt_pow {b v k : Nat} (upper : Bool) (hb : 2 ≤ b) (hk : 1 ≤ k)
    (hv : v < Nat.pow b k) : (text b upper v).length ≤ k := by
  rw [length_text hb]
  exact digitCount_le_of_lt_pow hb hk hv

theorem length_signed (n : Int) :
    (signed n).length = (if n < 0 then 1 else 0) + digitCount 10 n.natAbs := by
  unfold signed
  split <;> simp [length_text (by decide : 2 ≤ 10), Nat.add_comm]

/-- A signed numeral of a 32-bit value: at most a `-` and ten digits. -/
theorem length_signed_le {n : Int} (lo : -2147483648 ≤ n) (hi : n ≤ 2147483647) :
    (signed n).length ≤ 11 := by
  have hd : digitCount 10 n.natAbs ≤ 10 :=
    digitCount_le_of_lt_pow (by decide) (by decide) (by simp only [Nat.pow_eq]; omega)
  rw [length_signed]
  split <;> omega

@[simp] theorem signed_zero : signed 0 = [48] := by decide

end Numeral

/-! ## Saturated integer parts -/

theorem Binary64.truncInt32_bounds (x : Binary64) :
    -2147483648 ≤ x.truncInt32 ∧ x.truncInt32 ≤ 2147483647 := by
  unfold truncInt32 truncSat
  split
  · decide
  · split <;> decide
  · dsimp only
    omega

/-! ## Fixed-point texts -/

namespace Fixed

theorem intPart_bounds (x : Binary64) : -2147483648 ≤ intPart x ∧ intPart x ≤ 2147483647 :=
  x.truncInt32_bounds

theorem scaledFraction_bounds (x : Binary64) (p : Nat) :
    -2147483648 ≤ scaledFraction x p ∧ scaledFraction x p ≤ 2147483647 :=
  (timesTen _ p).truncInt32_bounds

/-- The padded style's leading `-` stands only before an integer part of `0`. -/
theorem leadSign_eq_true {style : FloatStyle} {i s : Int} (h : leadSign style i s = true) :
    style = .padded ∧ i = 0 ∧ s < 0 := by
  simp only [leadSign, Bool.and_eq_true, beq_iff_eq, decide_eq_true_eq] at h
  exact ⟨h.1.1, h.1.2, h.2⟩

@[simp] theorem length_paddedFraction (p : Nat) (s : Int) : (paddedFraction p s).length = p := by
  simp [paddedFraction, paddedDigits]

theorem length_fractionText_le (style : FloatStyle) {p : Nat} {s : Int} (hp : p ≤ maxPrecision)
    (lo : -2147483648 ≤ s) (hi : s ≤ 2147483647) : (fractionText style p s).length ≤ 11 := by
  cases style with
  | reference => exact Numeral.length_signed_le lo hi
  | padded => simp only [fractionText, length_paddedFraction]; unfold maxPrecision at hp; omega

/-- Every fixed-point text is at most 23 bytes long. -/
theorem length_text_le (x : Binary64) (p : Nat) (style : FloatStyle) :
    (text x p style).length ≤ 23 := by
  have hi := intPart_bounds x
  have hs := scaledFraction_bounds x (min p maxPrecision)
  have hfrac := length_fractionText_le style (Nat.min_le_right p maxPrecision) hs.1 hs.2
  have hint := Numeral.length_signed_le hi.1 hi.2
  dsimp only [text]
  generalize min p maxPrecision = q at hs hfrac ⊢
  -- with a leading `-` the integer part is `0`, one byte, so the sign never makes it longer
  by_cases hl : leadSign style (intPart x) (scaledFraction x q) = true
  · obtain ⟨-, hi0, -⟩ := leadSign_eq_true hl
    rw [if_pos hl, hi0]
    by_cases hq : q = 0
    · simp [hq]
    · simp [hq]
      omega
  · rw [if_neg hl]
    by_cases hq : q = 0
    · simp [hq]
      omega
    · simp [hq]
      omega

end Fixed

/-! ## The staged rendering -/

namespace Room

theorem ensure_eq_ok_iff (room len : Nat) : ensure room len = .ok () ↔ len + 1 ≤ room := by
  unfold ensure
  split <;> simp_all

theorem ensure_bind {α : Type} (room len : Nat) (f : Unit → Except Overflow α) :
    (ensure room len >>= f) = if len + 1 ≤ room then f () else .error ⟨len + 1, room⟩ := by
  unfold ensure
  split <;> rfl

theorem fit_bind {α : Type} (room : Nat) (t : List UInt8) (f : List UInt8 → Except Overflow α) :
    (fit room t >>= f) = if t.length + 1 ≤ room then f t else .error ⟨t.length + 1, room⟩ := by
  unfold fit ensure
  split <;> rfl

theorem ensure_map {α : Type} (room len : Nat) (f : Unit → α) :
    (ensure room len).map f = if len + 1 ≤ room then .ok (f ()) else .error ⟨len + 1, room⟩ := by
  unfold ensure
  split <;> rfl

end Room

namespace Fixed

/-- The staged rendering succeeds exactly when the whole text and its NUL fit, and then it is
the text. -/
theorem render?_eq_ok_iff (room : Nat) (x : Binary64) (p : Nat) (style : FloatStyle)
    (t : List UInt8) :
    render? room x p style = .ok t ↔ (text x p style).length + 1 ≤ room ∧ t = text x p style := by
  cases style <;>
    simp only [render?, text, Room.ensure_bind, Room.fit_bind, Room.ensure_map, fractionText] <;>
    generalize (if leadSign _ (intPart x) (scaledFraction x (min p maxPrecision)) = true then
      [(45 : UInt8)] else []) = lead <;>
    generalize min p maxPrecision = q <;>
    -- one case per stage that passes or fails; each stage's need is a part of the whole text's
    repeat' split
  all_goals simp only [bind, Except.bind, pure, Except.pure, reduceCtorEq, false_iff,
    Except.ok.injEq, List.length_append, List.length_cons] at *
  all_goals grind [length_paddedFraction]

theorem render?_eq_ok_of_fits {room : Nat} {x : Binary64} {p : Nat} {style : FloatStyle}
    (h : (text x p style).length + 1 ≤ room) : render? room x p style = .ok (text x p style) :=
  (render?_eq_ok_iff room x p style _).2 ⟨h, rfl⟩

/-! ## The longest text -/

theorem timesTen_infinity (neg : Bool) (n : Nat) :
    timesTen (Binary64.infinity neg) n = Binary64.infinity neg := by
  have hmul : (Binary64.infinity neg).mul (Binary64.ofNat 10) = Binary64.infinity neg := by
    cases neg <;> decide
  induction n with
  | zero => rfl
  | succ n ih => rw [timesTen, hmul, ih]

/-- Both integers of `-∞` saturate to `-2^31`, so at any precision its reference text is
the 23 bytes `-2147483648.-2147483648`. -/
theorem text_neg_infinity {p : Nat} (hp : 1 ≤ p) :
    text (Binary64.infinity true) p .reference = Bytes.ofString "-2147483648.-2147483648" := by
  have hi : intPart (Binary64.infinity true) = -2147483648 := by decide
  have hsub : (Binary64.infinity true).sub (Binary64.ofInt (-2147483648)) =
      Binary64.infinity true := by decide
  have hs : scaledFraction (Binary64.infinity true) (min p maxPrecision) = -2147483648 := by
    rw [scaledFraction, hi, hsub, timesTen_infinity]
    decide
  have hq : min p maxPrecision ≠ 0 := by unfold maxPrecision; omega
  simp only [text, fractionText, hi, hs, hq, if_false]
  decide +kernel

end Fixed
end FormatEngine
