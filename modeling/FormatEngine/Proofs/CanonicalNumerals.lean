import Mathlib
import FormatEngine.Proofs.ScratchContents
/-!
# Canonical numerals

The integer converters write the canonical numeral of their value: its digits in base `b`, most
significant first, from the alphabet `0-9a-f` (or `0-9A-F`), with no leading zero except the
single digit of zero. `Numeral.IsCanonical` says this of a text without reference to how it was
made, and `Numeral.valueOf` reads a text back as `Σ dᵢ · b^(k-1-i)` over its `k` digits.

Main statement (`integer_converters_canonical`): in every window with room for its text and a
NUL, whatever it held before, each integer converter returns its canonical numeral with the NUL
right after it; the signed one puts a `-` in front exactly for a negative value, `-2^31`
included; and the upper-case hex text is the ASCII upper case of the lower-case one.
-/
namespace FormatEngine

namespace Numeral

/-- The value of a digit byte: `0-9` are 0 to 9, `a-f` and `A-F` are 10 to 15. -/
def digitValue (c : UInt8) : Nat :=
  if 48 ≤ c.toNat ∧ c.toNat ≤ 57 then c.toNat - 48
  else if 97 ≤ c.toNat ∧ c.toNat ≤ 102 then c.toNat - 87
  else if 65 ≤ c.toNat ∧ c.toNat ≤ 70 then c.toNat - 55
  else 0

/-- The value of a text read as a numeral in base `b`, most significant digit first: the `i`-th
of its `k` digits counts `b^(k-1-i)` times. -/
def valueOf (b : Nat) (t : List UInt8) : Nat :=
  ∑ i ∈ Finset.range t.length, digitValue (t.getD i 0) * b ^ (t.length - 1 - i)

/-- `t` is the canonical numeral of `v` in base `b`: digits below `b` from the alphabet `upper`
selects, no leading zero unless it is the single digit of zero, and it reads back as `v`. -/
structure IsCanonical (b : Nat) (upper : Bool) (v : Nat) (t : List UInt8) : Prop where
  digits : ∀ c ∈ t, ∃ d, d < b ∧ c = digitByte upper d
  ne_nil : t ≠ []
  no_leading_zero : t.head? = some 48 → t = [48]
  value : valueOf b t = v

theorem digitValue_digitByte (upper : Bool) {d : Nat} (hd : d < 16) :
    digitValue (digitByte upper d) = d := by
  unfold digitValue digitByte
  by_cases h10 : d < 10
  · simp only [h10, if_true, Nat.toUInt8_eq, UInt8.toNat_ofNat']
    rw [if_pos (by omega)]
    omega
  · cases upper <;> simp only [h10, if_false, Bool.false_eq_true, if_true, Nat.toUInt8_eq,
      UInt8.toNat_ofNat'] <;> split_ifs <;> omega

/-- The value of a digit list, least significant first, as a sum of its digits' place values. -/
theorem ofDigitsLsb_eq_sum (b : Nat) (ds : List Nat) :
    ofDigitsLsb b ds = ∑ j ∈ Finset.range ds.length, ds.getD j 0 * b ^ j := by
  induction ds with
  | nil => simp [ofDigitsLsb]
  | cons d ds ih =>
    rw [ofDigitsLsb, ih, List.length_cons, Finset.sum_range_succ', Finset.mul_sum]
    simp only [List.getD_cons_succ, List.getD_cons_zero, pow_zero, mul_one, pow_succ]
    rw [add_comm]
    congr 1
    apply Finset.sum_congr rfl
    intro j _
    ring

theorem getLast_digitsLsbAux_ne_zero {b : Nat} (hb : 2 ≤ b) :
    ∀ (fuel v : Nat), v ≤ fuel → 0 < v → ∀ h, (digitsLsbAux b fuel v).getLast h ≠ 0 := by
  intro fuel
  induction fuel with
  | zero => intro v hv hpos; omega
  | succ fuel ih =>
    intro v hv hpos h
    simp only [digitsLsbAux] at h ⊢
    split
    · rename_i hbv
      rw [List.getLast_cons (digitsLsbAux_ne_nil b fuel (v / b))]
      -- a value of at least `b` leaves a positive quotient
      have hq : 0 < v / b := Nat.div_pos hbv.2 (by omega)
      exact ih (v / b) (by have := Nat.div_lt_self (n := v) (k := b) hpos (by omega); omega) hq _
    · simpa using Nat.pos_iff_ne_zero.1 hpos

theorem digitsLsb_zero (b : Nat) : digitsLsb b 0 = [0] := by
  simp [digitsLsb, digitsLsbAux]

theorem digitByte_injective (upper : Bool) {d e : Nat} (hd : d < 16) (he : e < 16)
    (h : digitByte upper d = digitByte upper e) : d = e := by
  rw [← digitValue_digitByte upper hd, ← digitValue_digitByte upper he, h]

/-- The numeral of `v` in base `b` is canonical. -/
theorem text_isCanonical {b : Nat} (hb : 2 ≤ b) (hb16 : b ≤ 16) (upper : Bool) (v : Nat) :
    IsCanonical b upper v (text b upper v) where
  digits := by
    intro c hc
    simp only [text, List.mem_reverse, List.mem_map] at hc
    obtain ⟨d, hd, rfl⟩ := hc
    exact ⟨d, lt_of_mem_digitsLsb hb hd, rfl⟩
  ne_nil := by simp [text, digitsLsb_ne_nil]
  no_leading_zero := by
    intro hhead
    -- the first byte is the most significant digit, which is zero only for zero
    have hne := digitsLsb_ne_nil b v
    have hlast : text b upper v = digitByte upper ((digitsLsb b v).getLast hne) ::
        ((digitsLsb b v).dropLast.map (digitByte upper)).reverse := by
      conv => lhs; rw [text, ← List.dropLast_append_getLast hne]
      simp
    rw [hlast, List.head?_cons, Option.some.injEq] at hhead
    have hzero : (digitsLsb b v).getLast hne = 0 := by
      have hlt := lt_of_mem_digitsLsb hb (List.getLast_mem hne)
      have h48 : (48 : UInt8) = digitByte upper 0 := by cases upper <;> rfl
      exact digitByte_injective upper (by omega) (by decide) (hhead.trans h48)
    rcases Nat.eq_zero_or_pos v with rfl | hpos
    · simp [text, digitsLsb_zero, digitByte]
    · exact absurd hzero (getLast_digitsLsbAux_ne_zero hb v v (Nat.le_refl v) hpos hne)
  value := by
    -- the `i`-th byte from the left is digit `k - 1 - i` from the right; reflect the sum
    have hv := ofDigitsLsb_digitsLsb b v hb
    rw [ofDigitsLsb_eq_sum] at hv
    rw [valueOf, text, List.length_reverse, List.length_map]
    rw [← Finset.sum_range_reflect] at hv
    refine (Finset.sum_congr rfl fun i hi => ?_).trans hv
    have hi' := Finset.mem_range.1 hi
    have hdig : (digitsLsb b v).getD ((digitsLsb b v).length - 1 - i) 0 < 16 := by
      have := lt_of_mem_digitsLsb hb
        (List.getElem_mem (l := digitsLsb b v) (n := (digitsLsb b v).length - 1 - i) (by omega))
      rw [List.getD_eq_getElem _ _ (by omega)]
      omega
    rw [List.getD_eq_getElem _ _ (by simpa using hi'), List.getElem_reverse, List.getElem_map]
    simp only [List.length_map]
    rw [← List.getD_eq_getElem _ 0 (by omega), digitValue_digitByte upper hdig]

end Numeral

/-! ## Upper case -/

namespace Bytes

/-- The ASCII upper case of a byte: `a-z` become `A-Z`, every other byte stays. -/
def asciiUpper (c : UInt8) : UInt8 := if 97 ≤ c ∧ c ≤ 122 then c - 32 else c

end Bytes

namespace Numeral

theorem digitByte_upper (d : Nat) (hd : d < 16) :
    digitByte true d = Bytes.asciiUpper (digitByte false d) := by
  unfold digitByte Bytes.asciiUpper
  by_cases h10 : d < 10
  · -- a decimal digit is no letter
    simp only [h10, if_true]
    rw [if_neg]
    simp only [Nat.toUInt8_eq, UInt8.le_iff_toNat_le, UInt8.toNat_ofNat', UInt8.reduceToNat]
    omega
  · -- a letter `a-f` moves down by 32 to `A-F`
    simp only [h10, if_false, Bool.false_eq_true, if_true]
    have hle : (32 : UInt8) ≤ UInt8.ofNat (87 + d) := by
      simp only [UInt8.le_iff_toNat_le, UInt8.toNat_ofNat', UInt8.reduceToNat]; omega
    rw [if_pos (by simp only [Nat.toUInt8_eq, UInt8.le_iff_toNat_le, UInt8.toNat_ofNat',
      UInt8.reduceToNat]; omega)]
    apply UInt8.toNat_inj.1
    simp only [Nat.toUInt8_eq, UInt8.toNat_sub_of_le _ _ hle, UInt8.toNat_ofNat',
      UInt8.reduceToNat]
    omega

/-- The upper-case hex numeral is the ASCII upper case of the lower-case one. -/
theorem text_upper (v : Nat) : text 16 true v = (text 16 false v).map Bytes.asciiUpper := by
  unfold text
  rw [List.map_reverse, List.map_map]
  congr 1
  apply List.map_congr_left
  intro d hd
  exact digitByte_upper d (lt_of_mem_digitsLsb (by decide) hd)

end Numeral

/-! ## What a converter returns -/

namespace Scratch

/-- A converter working in the window at `start` returned the text `t`: it reports `t`'s length,
the window begins with `t`, and a NUL follows it. -/
def Gives (o : Outcome) (start : Nat) (t : List UInt8) : Prop :=
  o.2 = .ok t.length ∧ textAt o.1 start t.length = t ∧ o.1[start + t.length]? = some 0

theorem gives_writeAt (a : Array UInt8) (start : Nat) (t : List UInt8)
    (h : t.length + 1 ≤ a.size - start) :
    Gives (writeAt a start (t ++ [0]), .ok t.length) start t :=
  ⟨rfl, textAt_writeAt a start t [0] (by omega), getElem?_writeAt_length a start t 0 (by omega)⟩

variable {a : Array UInt8} {start : Nat}

theorem radix_gives {b : Nat} (hb : 2 ≤ b) (hb16 : b ≤ 16) (upper : Bool) (v : Nat)
    (h : (Numeral.text b upper v).length + 1 ≤ a.size - start) :
    Gives (radix a start b upper v) start (Numeral.text b upper v) := by
  rw [radix_eq_write a start hb hb16, if_pos h]
  exact gives_writeAt a start _ h

theorem itoa_gives (n : Int32) (h : (Numeral.signed n.toInt).length + 1 ≤ a.size - start) :
    Gives (itoa a start n) start (Numeral.signed n.toInt) := by
  rw [itoa_eq_write, if_pos h]
  exact gives_writeAt a start _ h

end Scratch

/-! ## The integer converters -/

/-- In every window with room for its text and a NUL, whatever the window held, the unsigned
decimal, octal and hex converters return the canonical numeral of their value with a NUL right
after it; the signed converter returns a `-` exactly for a negative value, then the canonical
numeral of the magnitude (`-2^31` included); and the upper-case hex text is the ASCII upper
case of the lower-case one. -/
theorem integer_converters_canonical (a : Array UInt8) (start : Nat) :
    (∀ u : UInt32, (Numeral.text 10 false u.toNat).length + 1 ≤ a.size - start →
      Scratch.Gives (Scratch.utoa a start u) start (Numeral.text 10 false u.toNat) ∧
        Numeral.IsCanonical 10 false u.toNat (Numeral.text 10 false u.toNat)) ∧
    (∀ u : UInt32, (Numeral.text 8 false u.toNat).length + 1 ≤ a.size - start →
      Scratch.Gives (Scratch.itoo a start u) start (Numeral.text 8 false u.toNat) ∧
        Numeral.IsCanonical 8 false u.toNat (Numeral.text 8 false u.toNat)) ∧
    (∀ (upper : Bool) (v : UInt64), (Numeral.text 16 upper v.toNat).length + 1 ≤ a.size - start →
      Scratch.Gives (Scratch.itoh a start upper v) start (Numeral.text 16 upper v.toNat) ∧
        Numeral.IsCanonical 16 upper v.toNat (Numeral.text 16 upper v.toNat)) ∧
    (∀ n : Int32, (Numeral.signed n.toInt).length + 1 ≤ a.size - start →
      Scratch.Gives (Scratch.itoa a start n) start (Numeral.signed n.toInt) ∧
        ∃ digits, Numeral.signed n.toInt = (if n.toInt < 0 then [45] else []) ++ digits ∧
          Numeral.IsCanonical 10 false n.toInt.natAbs digits) ∧
    (∀ v : UInt64, Numeral.text 16 true v.toNat = (Numeral.text 16 false v.toNat).map Bytes.asciiUpper) := by
  refine ⟨fun u h => ?_, fun u h => ?_, fun upper v h => ?_, fun n h => ?_,
    fun v => Numeral.text_upper v.toNat⟩
  · exact ⟨Scratch.radix_gives (by decide) (by decide) false u.toNat h,
      Numeral.text_isCanonical (by decide) (by decide) false u.toNat⟩
  · exact ⟨Scratch.radix_gives (by decide) (by decide) false u.toNat h,
      Numeral.text_isCanonical (by decide) (by decide) false u.toNat⟩
  · exact ⟨Scratch.radix_gives (by decide) (by decide) upper v.toNat h,
      Numeral.text_isCanonical (by decide) (by decide) upper v.toNat⟩
  · exact ⟨Scratch.itoa_gives n h, _, rfl,
      Numeral.text_isCanonical (by decide) (by decide) false n.toInt.natAbs⟩

/-- The most negative 32-bit integer, whose magnitude has no 32-bit two's-complement negation,
takes eleven bytes and a NUL. -/
theorem itoa_min_int32_canonical :
    (Numeral.signed (-2147483648 : Int32).toInt).length + 1 ≤ (Array.replicate 12 (255 : UInt8)).size - 0 ∧
      Scratch.Gives (Scratch.itoa (Array.replicate 12 255) 0 (-2147483648)) 0
        (Numeral.signed (-2147483648 : Int32).toInt) ∧
      ∃ digits, Numeral.signed (-2147483648 : Int32).toInt =
          (if (-2147483648 : Int32).toInt < 0 then [45] else []) ++ digits ∧
        Numeral.IsCanonical 10 false (-2147483648 : Int32).toInt.natAbs digits :=
  have h : (Numeral.signed (-2147483648 : Int32).toInt).length + 1 ≤
      (Array.replicate 12 (255 : UInt8)).size - 0 := by decide
  ⟨h, (integer_converters_canonical (Array.replicate 12 255) 0).2.2.2.1 (-2147483648) h⟩

end FormatEngine
