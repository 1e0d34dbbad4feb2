import FormatEngine.Scratch.Checked
import FormatEngine.Proofs.ScratchRoom
/-!
# The checked converters stay in range

Each converter of `Scratch.Checked` gives `some`, whatever its buffer, window and input, and then
leaves what the converter of `Scratch` leaves: no store, swap or slice falls outside its buffer,
no arithmetic step leaves its word, and no loop runs out of fuel.

The argument rests on the room checks. An integer converter checks its room with the digit
count, a loop of its own, and then runs the digit loop, which stores one digit per round; the two
loops take the same branch at every value (`Numeral.digitCount_eq_length`), so the digit loop
stores exactly the counted digits and stops inside the room (`emitDigits?_stores_digitCount`).
The terminator's NUL goes right after them, still inside the room, and the reversal swaps pairs
inside the text. The fixed-point converter checks each stage's room before the stage stores its
byte or hands on the window after it (`ftoa?_eq`), and the padded fraction's cap `10^p - 1` has
`p ≤ 9`, so it fits a 64-bit word.
-/
namespace FormatEngine

namespace Numeral

/-- Each division takes one digit, so a value has at most one digit more than it has divisions
of fuel. -/
theorem length_digitsLsbAux_le_succ (b : Nat) :
    ∀ fuel v : Nat, (digitsLsbAux b fuel v).length ≤ fuel + 1 := by
  intro fuel
  induction fuel with
  | zero => intro v; simp [digitsLsbAux]
  | succ fuel ih =>
    intro v
    rw [digitsLsbAux]
    split
    · simpa using ih (v / b)
    · simp
end Numeral

namespace Scratch

/-! ## Stores and swaps -/

theorem store?_eq {a : Array UInt8} {start i : Nat} (h : i < a.size - start) (b : UInt8) :
    store? a start i b = some (a.setIfInBounds (start + i) b) := by
  simp [store?, h, Array.setIfInBounds, show start + i < a.size by omega]

theorem swap?_eq {a : Array UInt8} {i j : Nat} (hi : i < a.size) (hj : j < a.size) :
    swap? a i j = some (a.swapIfInBounds i j) := by
  simp [swap?, Array.swapIfInBounds, hi, hj]

/-- Each swap of `swapInward` falls inside the buffer while the pairs it swaps lie between `i`
and `j`, and `j` is inside the buffer. -/
theorem swapInward?_eq :
    ∀ (pairs : Nat) (a : Array UInt8) (i j : Nat), i + 2 * pairs ≤ j → j ≤ a.size →
      swapInward? a i j pairs = some (Terminated.swapInward a i j pairs) := by
  intro pairs
  induction pairs with
  | zero => intro a i j _ _; rfl
  | succ pairs ih =>
    intro a i j hij hj
    rw [swapInward?, swap?_eq (by omega) (by omega), Option.bind_eq_bind, Option.bind_some,
      ih _ (i + 1) (j - 1) (by omega) (by rw [Array.size_swapIfInBounds]; omega)]
    rfl

theorem textLength_le (a : Array UInt8) (lo hi : Nat) : Terminated.textLength a lo hi ≤ hi - lo :=
  calc Terminated.textLength a lo hi ≤ (a.extract lo hi).toList.length := Bytes.strlen_le_length _
    _ ≤ hi - lo := by
      rw [Array.length_toList, Array.size_extract]
      omega

theorem reverseFrom?_eq {a : Array UInt8} {lo hi : Nat} (hlo : lo ≤ hi) (h : hi ≤ a.size) :
    reverseFrom? a lo hi = some (Terminated.reverseFrom a lo hi) := by
  have hlen := textLength_le a lo hi
  rw [reverseFrom?, if_pos h, swapInward?_eq _ _ _ _ (by omega) (by omega)]
  rfl

/-- The terminator's store and the reversal stay inside the buffer when the text and its NUL
fit in the window. -/
theorem terminate?_eq {a : Array UInt8} {start len : Nat} (h : start + len + 1 ≤ a.size) :
    terminate? a start len = some (terminate a start len) := by
  rw [terminate?, store?_eq (by omega), Option.bind_eq_bind, Option.bind_some,
    reverseFrom?_eq (by omega) (by rw [Array.size_setIfInBounds]; exact h)]
  rfl

/-! ## The digit loop -/

theorem digitOf?_eq (upper : Bool) {d : Nat} (hd : d < 16) :
    digitOf? upper d = some (Numeral.digitByte upper d) := by
  simp [digitOf?, hd]

/-- The digit loop stores the digits of `v` from `pos` on, one per round, and stops after the
last with the count of digits stored, when the fuel and the window's room both last. -/
theorem emitDigits?_eq {b : Nat} (hb : 2 ≤ b) (hb16 : b ≤ 16) (start : Nat) (upper : Bool) :
    ∀ (fuel : Nat) (a : Array UInt8) (pos v : Nat), (Numeral.digitsLsb b v).length ≤ fuel →
      pos + (Numeral.digitsLsb b v).length ≤ a.size - start →
      emitDigits? start b upper fuel a pos v =
        some (writeAt a (start + pos) ((Numeral.digitsLsb b v).map (Numeral.digitByte upper)),
          pos + (Numeral.digitsLsb b v).length) := by
  intro fuel
  induction fuel with
  | zero =>
    intro a pos v hfuel _
    exact absurd hfuel (by simpa using Numeral.digitsLsb_ne_nil b v)
  | succ fuel ih =>
    intro a pos v hfuel hroom
    have hdigit : v % b < 16 := by have := Nat.mod_lt v (by omega : b > 0); omega
    rw [emitDigits?, digitOf?_eq upper hdigit, Option.bind_eq_bind, Option.bind_some]
    rw [Numeral.digitsLsb_eq hb] at hfuel hroom ⊢
    by_cases hv : b ≤ v
    · -- another digit follows: the quotient is not zero
      rw [if_pos hv] at hfuel hroom ⊢
      simp only [List.length_cons] at hfuel hroom
      have hq : v / b ≠ 0 := by
        have := (Nat.le_div_iff_mul_le (by omega : 0 < b)).2 (by omega : 1 * b ≤ v)
        omega
      simp only [store?_eq (show pos < a.size - start by omega), Option.bind_eq_bind,
        Option.bind_some, if_neg hq]
      rw [ih _ (pos + 1) (v / b) (by omega) (by rw [Array.size_setIfInBounds]; omega)]
      simp [writeAt, Nat.add_assoc, Nat.add_comm 1]
    · -- the last digit: the quotient is zero
      rw [if_neg hv] at hfuel hroom ⊢
      simp only [List.length_cons, List.length_nil] at hroom
      have hq : v / b = 0 := Nat.div_eq_of_lt (by omega)
      simp only [store?_eq (show pos < a.size - start by omega), Option.bind_eq_bind,
        Option.bind_some, if_pos hq, Nat.mod_eq_of_lt (show v < b by omega)]
      simp [writeAt]

/-- The digit loop and the digit count agree: with room in the window for the counted digits,
the loop started at the window's start stores the digits of `v`, least significant first, and
stops after exactly `digitCount b v` of them. A round per unit of the value and one more is fuel
enough. -/
theorem emitDigits?_stores_digitCount {b : Nat} (hb : 2 ≤ b) (hb16 : b ≤ 16) (upper : Bool)
    (a : Array UInt8) (start v : Nat) (h : Numeral.digitCount b v ≤ a.size - start) :
    emitDigits? start b upper (v + 1) a 0 v =
      some (writeAt a start ((Numeral.digitsLsb b v).map (Numeral.digitByte upper)),
        Numeral.digitCount b v) := by
  have hlen := Numeral.digitCount_eq_length hb v
  have hfuel := Numeral.length_digitsLsbAux_le_succ b v v
  rw [emitDigits?_eq hb hb16 start upper (v + 1) a 0 v (by rw [Numeral.digitsLsb]; omega)
    (by omega), Nat.add_zero, Nat.zero_add, hlen]

/-! ## The integer converters -/

variable (a : Array UInt8) (start : Nat)

/-- A numeral converter's room check covers the digits its loop stores and the NUL after
them. -/
theorem radix?_eq {b : Nat} (hb : 2 ≤ b) (hb16 : b ≤ 16) (upper : Bool) (v : Nat) :
    radix? a start b upper v = some (radix a start b upper v) := by
  unfold radix? radix
  cases hroom : Room.ensure (a.size - start) (Numeral.digitCount b v) with
  | error e => rfl
  | ok u =>
    have hfit := (Room.ensure_eq_ok_iff _ _).1 hroom
    rw [emitDigits?_stores_digitCount hb hb16 upper a start v (by omega)]
    simp only [Option.bind_eq_bind, Option.bind_some]
    rw [terminate?_eq (by rw [size_writeAt]; omega)]
    simp only [Option.bind_some, emitDigits, List.length_map, Numeral.digitCount_eq_length hb]

/-- The signed converter's room check covers the digits, the `-` stored after them and the
NUL. -/
theorem itoa?_eq (n : Int32) : itoa? a start n = some (itoa a start n) := by
  unfold itoa? itoa
  dsimp only
  have hlen := Numeral.digitCount_eq_length (by decide : 2 ≤ 10) n.toInt.natAbs
  generalize decide (n.toInt < 0) = neg
  cases hroom : Room.ensure (a.size - start)
      (Numeral.digitCount 10 n.toInt.natAbs + (if neg then 1 else 0)) with
  | error e => rfl
  | ok u =>
    have hfit := (Room.ensure_eq_ok_iff _ _).1 hroom
    rw [emitDigits?_stores_digitCount (by decide) (by decide) false a start n.toInt.natAbs
      (by cases neg <;> simp at hfit <;> omega)]
    simp only [Option.bind_eq_bind, Option.bind_some, emitDigits, List.length_map, ← hlen]
    cases neg
    · simp only [Bool.false_eq_true, if_false, Option.bind_some]
      rw [terminate?_eq (by rw [size_writeAt]; simp at hfit; omega)]
      rfl
    · simp only [if_true]
      rw [store?_eq (by rw [size_writeAt]; simp at hfit; omega), Option.map_some,
        Option.bind_some]
      rw [terminate?_eq (by rw [Array.size_setIfInBounds, size_writeAt]; simp at hfit; omega)]
      rfl

theorem utoa?_eq (u : UInt32) : utoa? a start u = some (utoa a start u) :=
  radix?_eq a start (by decide) (by decide) false u.toNat

theorem itoo?_eq (u : UInt32) : itoo? a start u = some (itoo a start u) :=
  radix?_eq a start (by decide) (by decide) false u.toNat

theorem itoh?_eq (upper : Bool) (v : UInt64) : itoh? a start upper v = some (itoh a start upper v) :=
  radix?_eq a start (by decide) (by decide) upper v.toNat

/-! ## The padded fraction -/

theorem zeroPlus?_eq {d : Nat} (hd : d < 10) : zeroPlus? d = some (Numeral.digitByte false d) := by
  simp [zeroPlus?, Numeral.digitByte, hd, show 48 + d < 256 by omega]

/-- The fraction loop stores, at the `j`-th of its places, digit `j` of `v` counted from the
last, while the window has room. -/
theorem fractionDigits?_eq :
    ∀ (k : Nat) (a : Array UInt8) (i v : Nat), i + k ≤ a.size - start →
      fractionDigits? start k a i v =
        some (writeAt a (start + i)
          ((List.range k).map fun j => Numeral.digitByte false (v / Nat.pow 10 j % 10))) := by
  intro k
  induction k with
  | zero => intro a i v _; rfl
  | succ k ih =>
    intro a i v hroom
    rw [fractionDigits?, zeroPlus?_eq (Nat.mod_lt v (by decide))]
    simp only [Option.bind_eq_bind, Option.bind_some, store?_eq (show i < a.size - start by omega)]
    rw [ih _ (i + 1) (v / 10) (by rw [Array.size_setIfInBounds]; omega)]
    -- digit `j + 1` of `v` is digit `j` of `v / 10`
    have hshift : ∀ j, v / 10 / 10 ^ j = v / 10 ^ (j + 1) := by
      intro j
      rw [Nat.div_div_eq_div_mul, Nat.pow_succ, Nat.mul_comm]
    simp [List.range_succ_eq_map, writeAt, Function.comp_def, hshift, Nat.add_assoc]

/-- The padded fraction, at no more places than a fixed-point text has: its cap `10^p - 1` fits
a 64-bit word, and its loop and terminator stay inside the window. -/
theorem paddedFraction?_eq {p : Nat} (hp : p ≤ Fixed.maxPrecision) (s : Int) :
    paddedFraction? a start p s = some (paddedFraction a start p s) := by
  have hpow : Nat.pow 10 p < UInt64.size :=
    calc Nat.pow 10 p ≤ Nat.pow 10 9 := Nat.pow_le_pow_right (by decide) hp
      _ < UInt64.size := by decide
  unfold paddedFraction? paddedFraction
  cases hroom : Room.ensure (a.size - start) p with
  | error e => rfl
  | ok u =>
    have hfit := (Room.ensure_eq_ok_iff _ _).1 hroom
    simp only [if_pos hpow, Option.bind_eq_bind, Option.bind_some]
    rw [fractionDigits?_eq start p a 0 _ (by omega)]
    simp only [Option.bind_some, Nat.add_zero]
    rw [terminate?_eq (by rw [size_writeAt]; omega)]
    rfl

/-! ## The fixed-point converter -/

section
variable {a : Array UInt8} {start len : Nat}

/-- The text a signed converter reports lies inside its window, with its NUL. -/
theorem itoa_fits {n : Int32} (h : (itoa a start n).2 = .ok len) : start + len + 1 ≤ a.size := by
  rw [itoa_snd] at h
  split at h
  · cases h
    omega
  · cases h

theorem paddedFraction_fits {p : Nat} {s : Int} (h : (paddedFraction a start p s).2 = .ok len) :
    start + len + 1 ≤ a.size := by
  rw [paddedFraction_snd] at h
  split at h
  · cases h
    omega
  · cases h

end

/-- The last stage hands on a window's outcome with its length counted from the window's start
`pos`; the slice of the text it returns is inside the buffer when the text and its NUL are. -/
theorem handOn?_eq {o : Outcome} {pos size : Nat} (hsize : o.1.size = size)
    (hfit : ∀ len, o.2 = .ok len → pos + len + 1 ≤ size) :
    (match ((o.1, o.2) : Outcome) with
      | (a, .error e) => some (a, .error e)
      | (a, .ok len) => if pos + len ≤ a.size then some (a, .ok (pos + len)) else none :
        Option Outcome) =
      some (match ((o.1, o.2) : Outcome) with
        | (a, .error e) => (a, .error e)
        | (a, .ok len) => (a, .ok (pos + len)) : Outcome) := by
  obtain ⟨a, _ | len⟩ := o
  · rfl
  · have hend := hfit len rfl
    simp only at hsize ⊢
    rw [if_pos (by omega)]

/-- The fixed-point converter's stores and slices stay inside the buffer at every stage: each
stage's room check covers the byte it stores and the window it hands on. -/
theorem ftoa?_eq (x : Binary64) (p : Nat) (style : FloatStyle) :
    ftoa? a x p style = some (ftoa a x p style) := by
  have hq : min p Fixed.maxPrecision ≤ Fixed.maxPrecision := Nat.min_le_right _ _
  unfold ftoa? ftoa
  dsimp only
  generalize min p Fixed.maxPrecision = q at hq ⊢
  generalize Fixed.intPart x = i
  generalize Fixed.scaledFraction x q = s
  generalize Fixed.leadSign style i s = lead
  -- the sign's stage
  cases h1 : Room.ensure a.size (if lead then 1 else 0) with
  | error e => rfl
  | ok u =>
  have h1' := (Room.ensure_eq_ok_iff _ _).1 h1
  have hsign : (if lead then store? a 0 0 45 else some a) =
      some (if lead then a.setIfInBounds 0 45 else a) := by
    cases lead
    · rfl
    · simp only [if_true] at h1' ⊢
      rw [store?_eq (by omega)]
  simp only [hsign, Option.bind_eq_bind, Option.bind_some]
  have hsize : (if lead then a.setIfInBounds 0 45 else a).size = a.size := by
    cases lead <;> simp
  generalize (if lead then a.setIfInBounds 0 45 else a) = a1 at hsize ⊢
  generalize (if lead then 1 else 0) = pos at h1' ⊢
  -- the integer part's stage, in the window after the sign
  rw [if_pos (by omega), itoa?_eq, Option.bind_some]
  have hfit1 : ∀ len, (itoa a1 pos (Int32.ofInt i)).2 = .ok len → pos + len + 1 ≤ a.size :=
    fun len h => hsize ▸ itoa_fits h
  have hsize1 : (itoa a1 pos (Int32.ofInt i)).1.size = a.size := by rw [size_itoa, hsize]
  generalize itoa a1 pos (Int32.ofInt i) = o1 at hfit1 hsize1 ⊢
  obtain ⟨a2, r1⟩ := o1
  cases r1 with
  | error e => rfl
  | ok len =>
  have hlen := hfit1 len rfl
  simp only at hsize1 ⊢
  by_cases hq0 : q = 0
  · simp only [hq0, if_true]
    rw [if_pos (by omega)]
  simp only [hq0, if_false]
  -- the point's stage, over the integer part's NUL
  cases h3 : Room.ensure a2.size (pos + len + 1) with
  | error e => rfl
  | ok u =>
  have h3' := (Room.ensure_eq_ok_iff _ _).1 h3
  rw [store?_eq (by omega)]
  simp only [Option.bind_some, Nat.zero_add]
  rw [if_pos (by rw [Array.size_setIfInBounds]; omega)]
  have hsize2 : (a2.setIfInBounds (pos + len) 46).size = a.size := by
    rw [Array.size_setIfInBounds, hsize1]
  generalize a2.setIfInBounds (pos + len) 46 = a3 at hsize2 ⊢
  -- the fraction's stage, in the window after the point; it leaves its text inside the buffer
  cases style with
  | reference =>
    simp only
    rw [itoa?_eq, Option.bind_some]
    exact handOn?_eq ((size_itoa ..).trans hsize2) fun len' h => hsize2 ▸ itoa_fits h
  | padded =>
    simp only
    rw [paddedFraction?_eq _ _ hq, Option.bind_some]
    exact handOn?_eq ((size_paddedFraction ..).trans hsize2) fun len' h =>
      hsize2 ▸ paddedFraction_fits h

end Scratch
end FormatEngine
