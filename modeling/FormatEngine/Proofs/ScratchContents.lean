import FormatEngine.Proofs.ScratchRoom
/-!
# What the converters leave in the scratch buffer

Every converter writes its text least significant digit first, stores a NUL after it and then
reverses the run before the first NUL of its window. The reversal stops at the first NUL, so
it turns the run the right way round only because no digit byte and no `-` is a NUL, and
because the NUL is stored before the reversal: whatever the buffer held before cannot shorten
it.

`writeAt a start bs` lays the bytes `bs` over the buffer from `start` on, and every result is
stated with it. Main statements: an integer converter whose text and NUL fit its window leaves
exactly `writeAt a start (text ++ [0])` and reports the text's length, and one that lacks room
leaves the buffer as it was (`radix_eq_write`, `itoa_eq_write`). The fixed-point converter
runs in stages (`Fixed.stages`), each of which checks its room and then writes through the same
writes: the leading sign against the whole buffer, the integer part against what follows the
sign, the `.` against the whole buffer again, and the fraction against what follows the `.`.
So it leaves `writeAt a 0 (text ++ [0])` when no stage lacks room, which is exactly when the
whole text fits, and otherwise reports the first stage that lacks room with the bytes of the
stages before it in place (`ftoa_eq_stages`); every byte it stores lies inside the buffer
(`ftoa_writes`).
-/
namespace FormatEngine

/-! ## Laying bytes over a buffer -/

namespace Scratch

theorem getElem?_writeAt (a : Array UInt8) (s : Nat) (bs : List UInt8) (k : Nat) :
    (writeAt a s bs)[k]? =
      if s ≤ k ∧ k < s + bs.length ∧ k < a.size then bs[k - s]? else a[k]? := by
  induction bs generalizing a s with
  | nil =>
    simp only [writeAt, List.length_nil]
    rw [if_neg (by omega)]
  | cons b bs ih =>
    rw [writeAt, ih, Array.size_setIfInBounds, Array.getElem?_setIfInBounds]
    -- the head lands at `s`, the tail from `s + 1` on
    by_cases hks : k = s
    · subst hks
      have hno : ¬ (k + 1 ≤ k ∧ k < k + 1 + bs.length ∧ k < a.size) := by omega
      rw [if_neg hno]
      by_cases hk : k < a.size <;> simp [hk]
    · have hne : s ≠ k := Ne.symm hks
      by_cases hin : s + 1 ≤ k ∧ k < s + 1 + bs.length ∧ k < a.size
      · have hin' : s ≤ k ∧ k < s + (bs.length + 1) ∧ k < a.size := by omega
        have hidx : k - s = (k - (s + 1)) + 1 := by omega
        simp only [List.length_cons, hin, hin', and_self, if_true, hidx,
          List.getElem?_cons_succ]
      · have hout : ¬ (s ≤ k ∧ k < s + (bs.length + 1) ∧ k < a.size) := by omega
        simp only [List.length_cons, hin, hout, hne, if_false]

theorem writeAt_append (a : Array UInt8) (s : Nat) (t u : List UInt8) :
    writeAt a s (t ++ u) = writeAt (writeAt a s t) (s + t.length) u := by
  induction t generalizing a s with
  | nil => rfl
  | cons b t ih =>
    rw [List.cons_append, writeAt, writeAt, ih]
    simp only [List.length_cons]
    congr 1
    omega

theorem writeAt_singleton (a : Array UInt8) (s : Nat) (b : UInt8) :
    writeAt a s [b] = a.setIfInBounds s b := rfl

theorem setIfInBounds_writeAt_concat (a : Array UInt8) (s : Nat) (t : List UInt8) (x y : UInt8) :
    (writeAt a s (t ++ [x])).setIfInBounds (s + t.length) y = writeAt a s (t ++ [y]) := by
  rw [writeAt_append, writeAt_append, writeAt_singleton, writeAt_singleton,
    Array.setIfInBounds_setIfInBounds]

theorem textAt_writeAt (a : Array UInt8) (s : Nat) (t rest : List UInt8)
    (h : s + t.length ≤ a.size) : textAt (writeAt a s (t ++ rest)) s t.length = t := by
  apply List.ext_getElem?
  intro k
  rw [textAt, Array.getElem?_toList, Array.getElem?_extract, getElem?_writeAt, size_writeAt]
  by_cases hk : k < t.length
  · have hin : s ≤ s + k ∧ s + k < s + (t ++ rest).length ∧ s + k < a.size := by
      simp only [List.length_append]; omega
    simp only [show k < min (s + t.length) a.size - s by omega, if_true, hin, and_self,
      Nat.add_sub_cancel_left, List.getElem?_append_left hk]
  · simp only [show ¬ k < min (s + t.length) a.size - s by omega, if_false,
      List.getElem?_eq_none (Nat.le_of_not_lt hk)]

theorem getElem?_writeAt_length (a : Array UInt8) (s : Nat) (t : List UInt8) (x : UInt8)
    (h : s + t.length < a.size) : (writeAt a s (t ++ [x]))[s + t.length]? = some x := by
  rw [getElem?_writeAt]
  simp [h]

end Scratch

/-! ## Reversal in place -/

namespace Terminated

theorem getElem?_swapIfInBounds (a : Array UInt8) {i j : Nat} (hi : i < a.size) (hj : j < a.size)
    (k : Nat) :
    (a.swapIfInBounds i j)[k]? = if k = i then a[j]? else if k = j then a[i]? else a[k]? := by
  by_cases hk : k < a.size
  · rw [Array.getElem?_eq_getElem (by simpa using hk), Array.getElem_swapIfInBounds]
    by_cases hki : k = i
    · subst hki; simp [hj]
    · by_cases hkj : k = j
      · subst hkj; simp [hki, hi]
      · simp [hki, hkj, hk]
  · have hk' : ¬ k < (a.swapIfInBounds i j).size := by simpa using hk
    rw [Array.getElem?_eq_none (Nat.le_of_not_lt hk'), Array.getElem?_eq_none (Nat.le_of_not_lt hk)]
    have hki : k ≠ i := by omega
    have hkj : k ≠ j := by omega
    simp [hki, hkj]

/-- Swapping `pairs` pairs inward from the ends of `[i, j)` reverses the region when the pairs
meet in the middle: at most one byte is left between them. -/
theorem getElem?_swapInward (a : Array UInt8) (i j pairs k : Nat) (hj : j ≤ a.size)
    (hlo : i + 2 * pairs ≤ j) (hhi : j ≤ i + 2 * pairs + 1) :
    (swapInward a i j pairs)[k]? = if i ≤ k ∧ k < j then a[i + j - 1 - k]? else a[k]? := by
  induction pairs generalizing a i j with
  | zero =>
    -- an empty region or a single byte stays as it is
    rw [swapInward]
    split
    · have hk : i + j - 1 - k = k := by omega
      rw [hk]
    · rfl
  | succ pairs ih =>
    rw [swapInward, ih _ _ _ (by simp; omega) (by omega) (by omega)]
    have hi : i < a.size := by omega
    have hj1 : j - 1 < a.size := by omega
    rw [getElem?_swapIfInBounds a hi hj1, getElem?_swapIfInBounds a hi hj1]
    -- the outer pair is swapped by this step, the inner region by the rest
    by_cases hin : i + 1 ≤ k ∧ k < j - 1
    · have h1 : i + j - 1 - k ≠ i := by omega
      have h2 : i + j - 1 - k ≠ j - 1 := by omega
      have h3 : i + 1 + (j - 1) - 1 - k = i + j - 1 - k := by omega
      simp only [hin, and_self, if_true, h3, h1, h2, if_false,
        show i ≤ k ∧ k < j by omega]
    · simp only [hin, if_false]
      by_cases hki : k = i
      · subst hki
        simp only [if_true, show k ≤ k ∧ k < j by omega, and_self]
        congr 1
        omega
      · by_cases hkj : k = j - 1
        · subst hkj
          simp only [hki, if_true, if_false, show i ≤ j - 1 ∧ j - 1 < j by omega]
          congr 1
          omega
        · simp only [hki, hkj, if_false, show ¬ (i ≤ k ∧ k < j) by omega]

/-- The in-place reversal of a region reverses the bytes before the region's first NUL and
leaves every other byte where it was. -/
theorem getElem?_reverseFrom (a : Array UInt8) (lo hi k : Nat) (hlo : lo ≤ a.size) :
    (reverseFrom a lo hi)[k]? =
      if lo ≤ k ∧ k < lo + textLength a lo hi then a[2 * lo + textLength a lo hi - 1 - k]?
      else a[k]? := by
  have hlen : textLength a lo hi ≤ a.size - lo := by
    have := Bytes.strlen_le_length (a.extract lo hi).toList
    simp only [Array.length_toList, Array.size_extract] at this
    unfold textLength
    omega
  rw [reverseFrom, getElem?_swapInward _ _ _ _ _ (by omega) (by omega) (by omega)]
  congr 2
  omega

end Terminated

/-! ## The terminating step -/

namespace Bytes

theorem strlen_append_nul {ds : List UInt8} (hds : ∀ d ∈ ds, d ≠ 0) (rest : List UInt8) :
    strlen (ds ++ 0 :: rest) = ds.length := by
  unfold strlen beforeNul
  rw [List.takeWhile_append_of_pos (by simpa using hds)]
  simp

end Bytes

namespace Scratch

/-- The text of the window `[s, s + |ds| + 1)` holding `ds` and a NUL is `ds`, whatever the
buffer held there before. -/
theorem textLength_writeAt {ds : List UInt8} (hds : ∀ d ∈ ds, d ≠ 0) (a : Array UInt8) (s : Nat)
    (h : s + ds.length < a.size) :
    Terminated.textLength (writeAt a s (ds ++ [0])) s (s + ds.length + 1) = ds.length := by
  have hwin : ((writeAt a s (ds ++ [0])).extract s (s + ds.length + 1)).toList = ds ++ [0] := by
    have := textAt_writeAt a s (ds ++ [0]) [] (by simp; omega)
    simpa [textAt, Nat.add_assoc] using this
  rw [Terminated.textLength, hwin, Bytes.strlen_append_nul hds]

/-- Storing a NUL after a run of non-NUL bytes and reversing it leaves the run reversed with the
NUL after it. -/
theorem terminate_writeAt {ds : List UInt8} (hds : ∀ d ∈ ds, d ≠ 0) (a : Array UInt8) (s : Nat)
    (h : s + ds.length < a.size) :
    terminate (writeAt a s ds) s ds.length = writeAt a s (ds.reverse ++ [0]) := by
  have hnul : (writeAt a s ds).setIfInBounds (s + ds.length) 0 = writeAt a s (ds ++ [0]) := by
    rw [writeAt_append, writeAt_singleton]
  rw [terminate, hnul]
  apply Array.ext_getElem?
  intro k
  rw [Terminated.getElem?_reverseFrom _ _ _ _ (by simp; omega), textLength_writeAt hds a s h]
  simp only [getElem?_writeAt, List.length_append, List.length_reverse, List.length_singleton]
  by_cases hk : s ≤ k ∧ k < s + ds.length
  · -- inside the run: the byte mirrored about the run's middle
    have hm : s ≤ 2 * s + ds.length - 1 - k ∧ 2 * s + ds.length - 1 - k < s + (ds.length + 1) ∧
        2 * s + ds.length - 1 - k < a.size := by omega
    have hk' : s ≤ k ∧ k < s + (ds.length + 1) ∧ k < a.size := by omega
    have hlt : k - s < ds.length := by omega
    have hmirror : 2 * s + ds.length - 1 - k - s < ds.length := by omega
    rw [if_pos hk, if_pos hm, if_pos hk', List.getElem?_append_left hmirror,
      List.getElem?_append_left (by simpa using hlt), List.getElem?_reverse hlt]
    congr 1
    omega
  · rw [if_neg hk]
    by_cases hnulk : k = s + ds.length
    · subst hnulk
      simp [h]
    · have hout : ¬ (s ≤ k ∧ k < s + (ds.length + 1) ∧ k < a.size) := by omega
      rw [if_neg hout, if_neg hout]

end Scratch

/-! ## Digit bytes -/

namespace Numeral

theorem digitByte_ne_zero (upper : Bool) {d : Nat} (hd : d < 16) : digitByte upper d ≠ 0 := by
  intro h
  have h' := congrArg UInt8.toNat h
  -- every digit byte is an ASCII code below 128, so none wraps to zero
  cases upper <;> unfold digitByte at h' <;> split at h' <;>
    simp only [Nat.toUInt8_eq, UInt8.toNat_ofNat', UInt8.toNat_zero, Bool.false_eq_true,
      if_true, if_false] at h' <;> omega

theorem lt_of_mem_digitsLsbAux {b : Nat} (hb : 2 ≤ b) :
    ∀ (fuel v : Nat), v ≤ fuel → ∀ d ∈ digitsLsbAux b fuel v, d < b := by
  intro fuel
  induction fuel with
  | zero => intro v hv d hd; simp [digitsLsbAux] at hd; omega
  | succ fuel ih =>
    intro v hv d hd
    simp only [digitsLsbAux] at hd
    split at hd
    · rename_i hbv
      rcases List.mem_cons.1 hd with rfl | hd
      · exact Nat.mod_lt _ (by omega)
      · exact ih (v / b) (by have := Nat.div_lt_self (n := v) (k := b) (by omega) (by omega); omega) d hd
    · rename_i hbv
      simp only [List.mem_singleton] at hd
      omega

theorem lt_of_mem_digitsLsb {b : Nat} (hb : 2 ≤ b) {v d : Nat} (hd : d ∈ digitsLsb b v) : d < b :=
  lt_of_mem_digitsLsbAux hb v v (Nat.le_refl v) d hd

theorem ne_zero_of_mem_text {b : Nat} (hb : 2 ≤ b) (hb16 : b ≤ 16) (upper : Bool) {v : Nat}
    {c : UInt8} (hc : c ∈ text b upper v) : c ≠ 0 := by
  simp only [text, List.mem_reverse, List.mem_map] at hc
  obtain ⟨d, hd, rfl⟩ := hc
  exact digitByte_ne_zero upper (by have := lt_of_mem_digitsLsb hb hd; omega)

end Numeral

/-! ## The stages of the fixed-point text -/

namespace Fixed

/-- A stage of the fixed-point converter: the room it checks, and the bytes the stages before
it have left at the start of the buffer when it checks. -/
structure Stage where
  need : Overflow
  before : List UInt8

/-- The stages of the fixed-point text of `x` in a buffer of `room` bytes, in the order they
run. Each stage writes its bytes and a NUL, and the `.` lands on the integer part's NUL; a text
without places stops after the integer part. -/
def stages (room : Nat) (x : Binary64) (p : Nat) (style : FloatStyle) : List Stage :=
  let q := min p maxPrecision
  let i := intPart x
  let s := scaledFraction x q
  let lead : List UInt8 := if leadSign style i s then [45] else []
  let int := Numeral.signed i
  [⟨⟨lead.length + 1, room⟩, []⟩, ⟨⟨int.length + 1, room - lead.length⟩, lead⟩] ++
    if q = 0 then [] else
      [⟨⟨lead.length + int.length + 2, room⟩, lead ++ int ++ [0]⟩,
        ⟨⟨(fractionText style q s).length + 1, room - (lead.length + int.length + 1)⟩,
          lead ++ int ++ [46]⟩]

/-- The first stage that lacks room for its bytes and a NUL, if there is one. -/
def firstShortStage (room : Nat) (x : Binary64) (p : Nat) (style : FloatStyle) : Option Stage :=
  (stages room x p style).find? fun st => st.need.capacity < st.need.needed

/-- No stage lacks room exactly when the whole text and a NUL fit: every stage needs no more
than the whole text does, and the last one needs exactly that. -/
theorem firstShortStage_eq_none_iff (room : Nat) (x : Binary64) (p : Nat) (style : FloatStyle) :
    firstShortStage room x p style = none ↔ (text x p style).length + 1 ≤ room := by
  unfold firstShortStage stages text
  dsimp only
  rw [List.find?_eq_none]
  generalize min p maxPrecision = q
  generalize (if leadSign style (intPart x) (scaledFraction x q) = true then [(45 : UInt8)]
    else []) = lead
  by_cases hq : q = 0
  · simp only [hq, if_true, List.append_nil, List.mem_cons, List.not_mem_nil, or_false,
      forall_eq_or_imp, forall_eq, decide_eq_true_eq, List.length_append]
    omega
  · simp only [hq, if_false, List.cons_append, List.nil_append, List.mem_cons, List.not_mem_nil,
      or_false, forall_eq_or_imp, forall_eq, decide_eq_true_eq, List.length_append,
      List.length_cons]
    omega

/-- The stage that lacks room finds the bytes of the stages before it inside the buffer: each
of those stages had room for its bytes and a NUL. -/
theorem length_before_le {room : Nat} {x : Binary64} {p : Nat} {style : FloatStyle} {st : Stage}
    (h : firstShortStage room x p style = some st) : st.before.length ≤ room := by
  unfold firstShortStage stages at h
  dsimp only at h
  generalize min p maxPrecision = q at h
  generalize (if leadSign style (intPart x) (scaledFraction x q) = true then [(45 : UInt8)]
    else []) = lead at h
  -- each stage before the short one had room for the bytes it laid
  by_cases h1 : room < lead.length + 1
  · simp [h1] at h
    subst h
    simp
  by_cases h2 : room - lead.length < (Numeral.signed (intPart x)).length + 1
  · simp [h1, h2] at h
    subst h
    simp only
    omega
  by_cases hq : q = 0
  · simp [h1, h2, hq] at h
  by_cases h3 : room < lead.length + (Numeral.signed (intPart x)).length + 2
  · simp [h1, h2, hq, h3] at h
    subst h
    simp only [List.length_append, List.length_singleton]
    omega
  · simp [h1, h2, hq, h3] at h
    obtain ⟨-, rfl⟩ := h
    simp only [List.length_append, List.length_singleton]
    omega

end Fixed

/-! ## The converters -/

namespace Scratch

variable (a : Array UInt8) (start : Nat)

theorem emitDigits_eq {b : Nat} (hb : 2 ≤ b) (upper : Bool) (v : Nat) :
    emitDigits a start b upper v =
      (writeAt a start (Numeral.text b upper v).reverse, Numeral.digitCount b v) := by
  simp [emitDigits, Numeral.text, Numeral.digitCount_eq_length hb]

/-- A numeral converter with room for its text and a NUL leaves exactly them in its window;
without that room it leaves the buffer as it was. -/
theorem radix_eq_write {b : Nat} (hb : 2 ≤ b) (hb16 : b ≤ 16) (upper : Bool) (v : Nat) :
    radix a start b upper v =
      if (Numeral.text b upper v).length + 1 ≤ a.size - start then
        (writeAt a start (Numeral.text b upper v ++ [0]), .ok (Numeral.text b upper v).length)
      else (a, .error ⟨(Numeral.text b upper v).length + 1, a.size - start⟩) := by
  have hds : ∀ c ∈ (Numeral.text b upper v).reverse, c ≠ 0 := fun c hc =>
    Numeral.ne_zero_of_mem_text hb hb16 upper (List.mem_reverse.1 hc)
  unfold radix Room.ensure
  rw [Numeral.length_text hb]
  by_cases hfit : Numeral.digitCount b v + 1 ≤ a.size - start
  · simp only [hfit, if_true, emitDigits_eq a start hb]
    have hlen : (Numeral.text b upper v).reverse.length = Numeral.digitCount b v := by
      simp [Numeral.length_text hb]
    rw [← hlen, terminate_writeAt hds a start (by omega), List.reverse_reverse]
  · simp only [hfit, if_false]

/-- The signed converter with room for its numeral and a NUL leaves exactly them in its
window, the `-` first; without that room it leaves the buffer as it was. -/
theorem itoa_eq_write (n : Int32) :
    itoa a start n =
      if (Numeral.signed n.toInt).length + 1 ≤ a.size - start then
        (writeAt a start (Numeral.signed n.toInt ++ [0]), .ok (Numeral.signed n.toInt).length)
      else (a, .error ⟨(Numeral.signed n.toInt).length + 1, a.size - start⟩) := by
  have hdigits : ∀ c ∈ (Numeral.text 10 false n.toInt.natAbs).reverse, c ≠ 0 := fun c hc =>
    Numeral.ne_zero_of_mem_text (by decide) (by decide) false (List.mem_reverse.1 hc)
  have hlen := Numeral.length_text (by decide : 2 ≤ 10) false n.toInt.natAbs
  unfold itoa Room.ensure
  rw [Numeral.length_signed]
  by_cases hn : n.toInt < 0
  · -- the digits of the magnitude, then the `-`, then the reversal
    simp only [hn, decide_true, if_true, emitDigits_eq a start (by decide : 2 ≤ 10)]
    by_cases hfit : Numeral.digitCount 10 n.toInt.natAbs + 1 + 1 ≤ a.size - start
    · have hfit' : 1 + Numeral.digitCount 10 n.toInt.natAbs + 1 ≤ a.size - start := by omega
      simp only [hfit, hfit', if_true]
      have hminus : (writeAt a start (Numeral.text 10 false n.toInt.natAbs).reverse).setIfInBounds
          (start + Numeral.digitCount 10 n.toInt.natAbs) 45 =
          writeAt a start ((Numeral.text 10 false n.toInt.natAbs).reverse ++ [45]) := by
        rw [writeAt_append, writeAt_singleton, List.length_reverse, hlen]
      have hds : ∀ c ∈ (Numeral.text 10 false n.toInt.natAbs).reverse ++ [45], c ≠ 0 := by
        intro c hc
        rcases List.mem_append.1 hc with hc | hc
        · exact hdigits c hc
        · simp only [List.mem_singleton] at hc; subst hc; decide
      have hl : ((Numeral.text 10 false n.toInt.natAbs).reverse ++ [45]).length =
          Numeral.digitCount 10 n.toInt.natAbs + 1 := by simp [hlen]
      rw [hminus, ← hl, terminate_writeAt hds a start (by omega)]
      simp [Numeral.signed, hn, hlen, Nat.add_comm]
    · have hfit' : ¬ 1 + Numeral.digitCount 10 n.toInt.natAbs + 1 ≤ a.size - start := by omega
      simp only [hfit, if_false, Nat.add_comm 1]
  · simp only [hn, decide_false, Bool.false_eq_true, if_false, Nat.add_zero, Nat.zero_add,
      emitDigits_eq a start (by decide : 2 ≤ 10)]
    by_cases hfit : Numeral.digitCount 10 n.toInt.natAbs + 1 ≤ a.size - start
    · simp only [hfit, if_true]
      rw [← hlen, ← List.length_reverse, terminate_writeAt hdigits a start (by simp; omega)]
      simp [Numeral.signed, hn]
    · simp only [hfit, if_false]

/-- The padded fraction with room for its `p` digits and a NUL leaves exactly them in its
window; without that room it leaves the buffer as it was. -/
theorem paddedFraction_eq_write (p : Nat) (s : Int) :
    paddedFraction a start p s =
      if p + 1 ≤ a.size - start then (writeAt a start (Fixed.paddedFraction p s ++ [0]), .ok p)
      else (a, .error ⟨p + 1, a.size - start⟩) := by
  unfold paddedFraction Room.ensure
  by_cases hfit : p + 1 ≤ a.size - start
  · simp only [hfit, if_true]
    generalize hv : min s.natAbs (Nat.pow 10 p - 1) = v
    have hds : ∀ c ∈ (List.range p).map (fun k => Numeral.digitByte false (v / Nat.pow 10 k % 10)),
        c ≠ 0 := by
      intro c hc
      obtain ⟨k, -, rfl⟩ := List.mem_map.1 hc
      exact Numeral.digitByte_ne_zero false (by have := Nat.mod_lt (v / Nat.pow 10 k) (by decide : 10 > 0); omega)
    have hl : ((List.range p).map (fun k => Numeral.digitByte false (v / Nat.pow 10 k % 10))).length = p := by
      simp
    have hterm := terminate_writeAt hds a start (by omega)
    rw [hl] at hterm
    rw [hterm, ← hv]
    simp [Fixed.paddedFraction, Fixed.paddedDigits, List.map_reverse]
  · simp only [hfit, if_false]

/-- The fixed-point converter leaves its whole text and a NUL when no stage lacks room, and
otherwise reports the first stage that lacks it, with the bytes of the stages before it laid
over the start of the buffer. -/
theorem ftoa_eq_stages (x : Binary64) (p : Nat) (style : FloatStyle) :
    ftoa a x p style =
      match Fixed.firstShortStage a.size x p style with
      | none => (writeAt a 0 (Fixed.text x p style ++ [0]), .ok (Fixed.text x p style).length)
      | some st => (writeAt a 0 st.before, .error st.need) := by
  have hI := Fixed.intPart_bounds x
  have hS := Fixed.scaledFraction_bounds x (min p Fixed.maxPrecision)
  unfold ftoa Fixed.text Fixed.firstShortStage Fixed.stages
  dsimp only
  generalize Fixed.intPart x = i at hI ⊢
  generalize min p Fixed.maxPrecision = q at hS ⊢
  generalize Fixed.scaledFraction x q = s at hS ⊢
  have hi : (Int32.ofInt i).toInt = i := Int32.toInt_ofInt_of_le (by omega) (by omega)
  have hs : (Int32.ofInt s).toInt = s := Int32.toInt_ofInt_of_le (by omega) (by omega)
  -- the leading sign is a write of its own at position 0, empty when there is none
  generalize Fixed.leadSign style i s = lead
  obtain ⟨L, hL, hbuf, hpos⟩ : ∃ L : List UInt8, (if lead = true then [(45 : UInt8)] else []) = L ∧
      (if lead = true then a.setIfInBounds 0 45 else a) = writeAt a 0 L ∧
      (if lead = true then 1 else 0) = L.length := by
    cases lead <;> exact ⟨_, rfl, rfl, rfl⟩
  rw [hL, hbuf, hpos]
  unfold Room.ensure
  -- the sign's stage
  by_cases h1 : L.length + 1 ≤ a.size
  case neg =>
    simp [show a.size < L.length + 1 by omega, h1, writeAt]
  have h1' : ¬ a.size < L.length + 1 := by omega
  rw [if_pos h1]
  dsimp only
  -- the integer part's stage, in what follows the sign
  rw [itoa_eq_write, hi, size_writeAt]
  by_cases h2 : (Numeral.signed i).length + 1 ≤ a.size - L.length
  case neg =>
    simp [h1', show a.size - L.length < (Numeral.signed i).length + 1 by omega, h2]
  have h2' : ¬ a.size - L.length < (Numeral.signed i).length + 1 := by omega
  rw [if_pos h2]
  dsimp only
  have hint : writeAt (writeAt a 0 L) L.length (Numeral.signed i ++ [0]) =
      writeAt a 0 (L ++ Numeral.signed i ++ [0]) := by
    rw [List.append_assoc, writeAt_append a 0 L, Nat.zero_add]
  rw [hint]
  by_cases hq : q = 0
  · simp [hq, h1', h2']
  simp only [hq, if_false, size_writeAt]
  -- the point's stage, over the integer part's NUL
  by_cases h3 : L.length + (Numeral.signed i).length + 1 + 1 ≤ a.size
  case neg =>
    rw [if_neg h3]
    simp [h1', h2', show a.size < L.length + (Numeral.signed i).length + 2 by omega]
  have h3' : ¬ a.size < L.length + (Numeral.signed i).length + 2 := by omega
  rw [if_pos h3]
  dsimp only
  have hpoint : (writeAt a 0 (L ++ Numeral.signed i ++ [0])).setIfInBounds
      (L.length + (Numeral.signed i).length) 46 = writeAt a 0 (L ++ Numeral.signed i ++ [46]) := by
    have := setIfInBounds_writeAt_concat a 0 (L ++ Numeral.signed i) 0 46
    simpa using this
  rw [hpoint]
  -- the fraction's stage, in what follows the point
  have hfrac : ∀ f : List UInt8,
      writeAt (writeAt a 0 (L ++ Numeral.signed i ++ [46]))
        (L.length + (Numeral.signed i).length + 1) (f ++ [0]) =
      writeAt a 0 (L ++ Numeral.signed i ++ 46 :: f ++ [0]) := by
    intro f
    have hsplit : L ++ Numeral.signed i ++ 46 :: f ++ [0] =
        (L ++ Numeral.signed i ++ [46]) ++ (f ++ [0]) := by simp
    rw [hsplit, writeAt_append a 0 (L ++ Numeral.signed i ++ [46]) (f ++ [0])]
    simp [Nat.add_assoc]
  cases style with
  | reference =>
    rw [itoa_eq_write, hs, size_writeAt]
    by_cases h4 : (Numeral.signed s).length + 1 ≤
        a.size - (L.length + (Numeral.signed i).length + 1)
    · rw [if_pos h4]
      dsimp only
      rw [hfrac]
      simp [h1', h2', h3', Fixed.fractionText,
        show ¬ a.size - (L.length + (Numeral.signed i).length + 1) < (Numeral.signed s).length + 1
          by omega]
      omega
    · rw [if_neg h4]
      simp [h1', h2', h3', Fixed.fractionText,
        show a.size - (L.length + (Numeral.signed i).length + 1) < (Numeral.signed s).length + 1
          by omega]
  | padded =>
    rw [paddedFraction_eq_write, size_writeAt]
    by_cases h4 : q + 1 ≤ a.size - (L.length + (Numeral.signed i).length + 1)
    · rw [if_pos h4]
      dsimp only
      rw [hfrac]
      simp [h1', h2', h3', Fixed.fractionText,
        show ¬ a.size - (L.length + (Numeral.signed i).length + 1) < q + 1 by omega]
      omega
    · rw [if_neg h4]
      simp [h1', h2', h3', Fixed.fractionText,
        show a.size - (L.length + (Numeral.signed i).length + 1) < q + 1 by omega]

/-- Every byte the fixed-point converter stores lies inside the buffer: what it leaves is the
buffer with some bytes laid over its start, and after a success those bytes are its text and a
NUL. A stage that lacks room stops the converter with the earlier stages' bytes in place. -/
theorem ftoa_writes (x : Binary64) (p : Nat) (style : FloatStyle) :
    ∃ w, (ftoa a x p style).1 = writeAt a 0 w ∧ w.length ≤ a.size ∧
      ∀ n, (ftoa a x p style).2 = .ok n → w = Fixed.text x p style ++ [0] := by
  rw [ftoa_eq_stages]
  cases h : Fixed.firstShortStage a.size x p style with
  | none =>
    have hfit := (Fixed.firstShortStage_eq_none_iff a.size x p style).1 h
    exact ⟨_, rfl, by simp; omega, fun _ _ => rfl⟩
  | some st => exact ⟨st.before, rfl, Fixed.length_before_le h, fun n hn => by cases hn⟩

/-- When its whole text and a NUL fit, the fixed-point converter leaves exactly them at the
start of the buffer and reports the text's length. -/
theorem ftoa_eq_write (x : Binary64) (p : Nat) (style : FloatStyle)
    (h : (Fixed.text x p style).length + 1 ≤ a.size) :
    ftoa a x p style =
      (writeAt a 0 (Fixed.text x p style ++ [0]), .ok (Fixed.text x p style).length) := by
  rw [ftoa_eq_stages, (Fixed.firstShortStage_eq_none_iff a.size x p style).2 h]

end Scratch
end FormatEngine
