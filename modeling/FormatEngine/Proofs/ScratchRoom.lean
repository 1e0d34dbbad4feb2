import FormatEngine.Scratch.Fixed
import FormatEngine.Proofs.TextLength
/-!
# Room in the scratch buffer

The converters that write into a scratch buffer never change its size, and whether one of them
succeeds depends only on the room left in its window: an integer converter succeeds exactly when
its numeral and a NUL fit, and then reports the numeral's length; the fixed-point converter
succeeds when its whole text and a NUL fit, and then reports the text's length. None of this
depends on what the buffer held before.
-/
namespace FormatEngine.Scratch

/-! ## Sizes -/

@[simp] theorem size_writeAt (a : Array UInt8) (i : Nat) (bs : List UInt8) :
    (writeAt a i bs).size = a.size := by
  induction bs generalizing a i with
  | nil => rfl
  | cons b bs ih => rw [writeAt, ih, Array.size_setIfInBounds]

@[simp] theorem size_terminate (a : Array UInt8) (start len : Nat) :
    (terminate a start len).size = a.size := by
  rw [terminate, Terminated.size_reverseFrom, Array.size_setIfInBounds]

@[simp] theorem size_emitDigits (a : Array UInt8) (start b : Nat) (upper : Bool) (v : Nat) :
    (emitDigits a start b upper v).1.size = a.size :=
  size_writeAt _ _ _

theorem emitDigits_snd (a : Array UInt8) (start : Nat) {b : Nat} (hb : 2 ≤ b) (upper : Bool)
    (v : Nat) : (emitDigits a start b upper v).2 = Numeral.digitCount b v := by
  simp [emitDigits, Numeral.digitCount_eq_length hb]

@[simp] theorem size_radix (a : Array UInt8) (start b : Nat) (upper : Bool) (v : Nat) :
    (radix a start b upper v).1.size = a.size := by
  unfold radix
  split <;> simp [emitDigits]

@[simp] theorem size_itoa (a : Array UInt8) (start : Nat) (n : Int32) :
    (itoa a start n).1.size = a.size := by
  unfold itoa Room.ensure
  by_cases hn : n.toInt < 0
  · simp only [hn, decide_true, if_true]
    by_cases h : Numeral.digitCount 10 n.toInt.natAbs + 1 + 1 ≤ a.size - start <;> simp [h, emitDigits]
  · simp only [hn, decide_false, Bool.false_eq_true, if_false, Nat.add_zero]
    by_cases h : Numeral.digitCount 10 n.toInt.natAbs + 1 ≤ a.size - start <;> simp [h, emitDigits]

@[simp] theorem size_paddedFraction (a : Array UInt8) (start p : Nat) (s : Int) :
    (paddedFraction a start p s).1.size = a.size := by
  unfold paddedFraction
  split <;> simp

/-! ## Results -/

/-- A numeral converter reports the numeral's length when it and a NUL fit in the window. -/
theorem radix_snd (a : Array UInt8) (start : Nat) {b : Nat} (hb : 2 ≤ b) (upper : Bool) (v : Nat) :
    (radix a start b upper v).2 =
      if Numeral.digitCount b v + 1 ≤ a.size - start then .ok (Numeral.digitCount b v)
      else .error ⟨Numeral.digitCount b v + 1, a.size - start⟩ := by
  unfold radix Room.ensure
  by_cases h : Numeral.digitCount b v + 1 ≤ a.size - start <;> simp [h, emitDigits_snd _ _ hb]

/-- The signed converter reports the length of the signed numeral when it and a NUL fit. -/
theorem itoa_snd (a : Array UInt8) (start : Nat) (n : Int32) :
    (itoa a start n).2 =
      if (Numeral.signed n.toInt).length + 1 ≤ a.size - start then .ok (Numeral.signed n.toInt).length
      else .error ⟨(Numeral.signed n.toInt).length + 1, a.size - start⟩ := by
  have hlen : (Numeral.signed n.toInt).length =
      Numeral.digitCount 10 n.toInt.natAbs + (if decide (n.toInt < 0) = true then 1 else 0) := by
    rw [Numeral.length_signed]
    by_cases hn : n.toInt < 0 <;> simp [hn, Nat.add_comm]
  rw [hlen]
  unfold itoa Room.ensure
  by_cases hn : n.toInt < 0
  · simp only [hn, decide_true, if_true]
    by_cases h : Numeral.digitCount 10 n.toInt.natAbs + 1 + 1 ≤ a.size - start <;>
      simp [h, emitDigits_snd _ _ (by decide : 2 ≤ 10)]
  · simp only [hn, decide_false, Bool.false_eq_true, if_false, Nat.add_zero]
    by_cases h : Numeral.digitCount 10 n.toInt.natAbs + 1 ≤ a.size - start <;>
      simp [h, emitDigits_snd _ _ (by decide : 2 ≤ 10)]

theorem paddedFraction_snd (a : Array UInt8) (start p : Nat) (s : Int) :
    (paddedFraction a start p s).2 =
      if p + 1 ≤ a.size - start then .ok p else .error ⟨p + 1, a.size - start⟩ := by
  unfold paddedFraction Room.ensure
  by_cases h : p + 1 ≤ a.size - start <;> simp [h]

theorem itoa_eq (a : Array UInt8) (start : Nat) (n : Int32) :
    itoa a start n = ((itoa a start n).1,
      if (Numeral.signed n.toInt).length + 1 ≤ a.size - start then .ok (Numeral.signed n.toInt).length
      else .error ⟨(Numeral.signed n.toInt).length + 1, a.size - start⟩) :=
  Prod.ext rfl (itoa_snd a start n)

theorem paddedFraction_eq (a : Array UInt8) (start p : Nat) (s : Int) :
    paddedFraction a start p s = ((paddedFraction a start p s).1,
      if p + 1 ≤ a.size - start then .ok p else .error ⟨p + 1, a.size - start⟩) :=
  Prod.ext rfl (paddedFraction_snd a start p s)

/-- The fixed-point converter runs the same four stages as the staged rendering, with the same
checks: it fails with the same lack of room, or reports the length of the same text. -/
theorem ftoa_snd (a : Array UInt8) (x : Binary64) (p : Nat) (style : FloatStyle) :
    (ftoa a x p style).2 = (Fixed.render? a.size x p style).map List.length := by
  have hI := Fixed.intPart_bounds x
  have hS := Fixed.scaledFraction_bounds x (min p Fixed.maxPrecision)
  unfold ftoa Fixed.render?
  dsimp only
  generalize Fixed.intPart x = i at hI ⊢
  generalize min p Fixed.maxPrecision = q at hS ⊢
  generalize Fixed.scaledFraction x q = s at hS ⊢
  have hi : (Int32.ofInt i).toInt = i := Int32.toInt_ofInt_of_le (by omega) (by omega)
  have hs : (Int32.ofInt s).toInt = s := Int32.toInt_ofInt_of_le (by omega) (by omega)
  simp only [Room.ensure_bind, Room.fit_bind, Room.ensure_map]
  unfold Room.ensure
  -- the leading sign: one byte at position 0 in the buffer, a one-byte list in the text
  generalize Fixed.leadSign style i s = lead
  have hlen : (if lead = true then [(45 : UInt8)] else []).length = if lead = true then 1 else 0 := by
    cases lead <;> rfl
  have hsize : (if lead = true then a.setIfInBounds 0 45 else a).size = a.size := by
    cases lead <;> simp
  generalize (if lead = true then [(45 : UInt8)] else []) = L at hlen ⊢
  generalize (if lead = true then a.setIfInBounds 0 45 else a) = a1 at hsize ⊢
  generalize (if lead = true then 1 else 0) = pos at hlen ⊢
  subst hlen
  by_cases hlead : L.length + 1 ≤ a.size
  · simp only [hlead, if_true]
    -- the integer part
    rw [itoa_eq a1 L.length (Int32.ofInt i)]
    by_cases hint : (Numeral.signed i).length + 1 ≤ a.size - L.length
    · simp only [hi, hsize, hint, if_true, size_itoa]
      by_cases hq : q = 0
      · simp [hq, Except.map, pure, Except.pure]
      simp only [hq, if_false]
      -- the point
      by_cases hpoint : L.length + (Numeral.signed i).length + 1 + 1 ≤ a.size
      · simp only [hpoint, if_true]
        -- the fraction
        cases style with
        | reference =>
          rw [itoa_eq]
          by_cases hfrac : (Numeral.signed s).length + 1 ≤ a.size - (L.length + (Numeral.signed i).length + 1)
          · simp [hs, hsize, hfrac, Except.map, pure, Except.pure]
            omega
          · simp [hs, hsize, hfrac, Except.map]
        | padded =>
          rw [paddedFraction_eq]
          by_cases hfrac : q + 1 ≤ a.size - (L.length + (Numeral.signed i).length + 1)
          · simp [hsize, hfrac, Except.map, pure, Except.pure, bind, Except.bind]
            omega
          · simp [hsize, hfrac, Except.map, bind, Except.bind]
      · simp [hpoint, Except.map]
    · simp [hi, hsize, hint, Except.map]
  · simp [hlead, Except.map]

end FormatEngine.Scratch
