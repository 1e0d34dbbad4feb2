import Mathlib
import FormatEngine.Proofs.ScratchContents
/-!
# What a conversion returns, and what a failed one leaves

A converter hands back the text it reports, read from the start of its window of the buffer it
leaves (`Scratch.returned`). Each integer converter checks its room once, before it stores
anything, so it returns its numeral exactly when the numeral and a NUL fit in its window, and
otherwise the room it lacked, `⟨|text| + 1, window⟩`, with the buffer untouched.

The fixed-point converter runs in stages (`Fixed.stages`), each of which checks its room and
then stores its bytes, so when a stage lacks room the stages before it have already written:
the sign, then the integer part with its NUL, then the `.` over that NUL
(`Scratch.ftoa_eq_stages`).

Main statements:
* `converters_return_text_iff_fits`: every converter returns its text exactly when the text and
  a NUL fit, whatever the buffer held and however long it is; an integer converter otherwise
  reports `⟨|text| + 1, window⟩`, and the fixed-point converter the room of the first stage
  that lacks it.
* `failed_conversion_leaves`: a failed integer conversion leaves its buffer as it was, but a
  failed fixed-point conversion leaves the bytes of the stages that passed; and
  `failed_ftoa_overwrites_buffer` gives a buffer of three bytes that `12.5` overwrites.
-/
namespace FormatEngine
namespace Scratch

variable (a : Array UInt8)

/-! ## What a converter returns -/

/-- What a converter hands back: the text it reports, read from the start of its window in the
buffer it leaves, or the room it lacked. -/
def returned (o : Outcome) (start : Nat) : Except Overflow (List UInt8) :=
  o.2.map (textAt o.1 start)

/-- A converter that checks its room once and then lays its text and a NUL over its window
returns the text exactly when both fit. -/
theorem returned_checked (start : Nat) (t : List UInt8) :
    returned (if t.length + 1 ≤ a.size - start then (writeAt a start (t ++ [0]), .ok t.length)
      else (a, .error ⟨t.length + 1, a.size - start⟩)) start = Room.fit (a.size - start) t := by
  unfold Room.fit Room.ensure
  by_cases h : t.length + 1 ≤ a.size - start
  · simp [h, returned, Except.map, textAt_writeAt a start t [0] (by omega)]
  · simp [h, returned, Except.map]

theorem returned_itoa (start : Nat) (n : Int32) :
    returned (itoa a start n) start = Room.fit (a.size - start) (Numeral.signed n.toInt) := by
  rw [itoa_eq_write]
  exact returned_checked a start _

theorem returned_radix (start : Nat) {b : Nat} (hb : 2 ≤ b) (hb16 : b ≤ 16) (upper : Bool)
    (v : Nat) :
    returned (radix a start b upper v) start = Room.fit (a.size - start) (Numeral.text b upper v) := by
  rw [radix_eq_write a start hb hb16]
  exact returned_checked a start _

theorem returned_ftoa (x : Binary64) (p : Nat) (style : FloatStyle) :
    returned (ftoa a x p style) 0 =
      match Fixed.firstShortStage a.size x p style with
      | none => .ok (Fixed.text x p style)
      | some st => .error st.need := by
  rw [ftoa_eq_stages]
  cases h : Fixed.firstShortStage a.size x p style with
  | none =>
    have hfit := (Fixed.firstShortStage_eq_none_iff a.size x p style).1 h
    simp [returned, Except.map, textAt_writeAt a 0 (Fixed.text x p style) [0] (by omega)]
  | some st => rfl

/-- Every converter returns its text exactly when the text and a NUL fit in its buffer, and
then returns exactly that text, whatever the buffer held before and however long it is. Here
`Room.fit room t` is `t` when `t` and a NUL fit in `room` bytes, and otherwise the overflow
`⟨|t| + 1, room⟩`: that is what each integer converter returns in the window at `start`. The
fixed-point converter, over the whole buffer, returns its text when no stage lacks room, which
is exactly when the text and a NUL fit, and otherwise the room of the first stage that lacks
it. -/
theorem converters_return_text_iff_fits (a : Array UInt8) (start : Nat) :
    (∀ n : Int32, returned (itoa a start n) start =
      Room.fit (a.size - start) (Numeral.signed n.toInt)) ∧
    (∀ u : UInt32, returned (utoa a start u) start =
      Room.fit (a.size - start) (Numeral.text 10 false u.toNat)) ∧
    (∀ u : UInt32, returned (itoo a start u) start =
      Room.fit (a.size - start) (Numeral.text 8 false u.toNat)) ∧
    (∀ (upper : Bool) (v : UInt64), returned (itoh a start upper v) start =
      Room.fit (a.size - start) (Numeral.text 16 upper v.toNat)) ∧
    (∀ (x : Binary64) (p : Nat) (style : FloatStyle), returned (ftoa a x p style) 0 =
      match Fixed.firstShortStage a.size x p style with
      | none => .ok (Fixed.text x p style)
      | some st => .error st.need) ∧
    (∀ (x : Binary64) (p : Nat) (style : FloatStyle),
      Fixed.firstShortStage a.size x p style = none ↔
        (Fixed.text x p style).length + 1 ≤ a.size) :=
  ⟨returned_itoa a start, fun u => returned_radix a start (by decide) (by decide) false u.toNat,
    fun u => returned_radix a start (by decide) (by decide) false u.toNat,
    fun upper v => returned_radix a start (by decide) (by decide) upper v.toNat,
    returned_ftoa a, fun x p style => Fixed.firstShortStage_eq_none_iff a.size x p style⟩

/-! ## What a failed converter leaves -/

/-- A converter that lacks room for its text and a NUL fails. An integer converter then leaves
its buffer exactly as it was, since it checks its room before it stores anything. The
fixed-point converter reports the first stage that lacks room and leaves the bytes of the
stages before it over the start of the buffer: nothing when the sign's stage fails, the `-`
when the integer part's stage fails, the `-`, the integer part and its NUL when the point's
stage fails, and the `-`, the integer part and the `.` when the fraction's stage fails. -/
theorem failed_conversion_leaves (a : Array UInt8) (start : Nat) :
    (∀ n : Int32, a.size - start < (Numeral.signed n.toInt).length + 1 →
      itoa a start n = (a, .error ⟨(Numeral.signed n.toInt).length + 1, a.size - start⟩)) ∧
    (∀ u : UInt32, a.size - start < (Numeral.text 10 false u.toNat).length + 1 →
      utoa a start u = (a, .error ⟨(Numeral.text 10 false u.toNat).length + 1, a.size - start⟩)) ∧
    (∀ u : UInt32, a.size - start < (Numeral.text 8 false u.toNat).length + 1 →
      itoo a start u = (a, .error ⟨(Numeral.text 8 false u.toNat).length + 1, a.size - start⟩)) ∧
    (∀ (upper : Bool) (v : UInt64), a.size - start < (Numeral.text 16 upper v.toNat).length + 1 →
      itoh a start upper v =
        (a, .error ⟨(Numeral.text 16 upper v.toNat).length + 1, a.size - start⟩)) ∧
    (∀ (x : Binary64) (p : Nat) (style : FloatStyle), a.size < (Fixed.text x p style).length + 1 →
      ∃ st, Fixed.firstShortStage a.size x p style = some st ∧
        ftoa a x p style = (writeAt a 0 st.before, .error st.need)) := by
  refine ⟨fun n h => ?_, fun u h => ?_, fun u h => ?_, fun upper v h => ?_, fun x p style h => ?_⟩
  · rw [itoa_eq_write, if_neg (by omega)]
  · rw [utoa, radix_eq_write a start (by decide) (by decide), if_neg (by omega)]
  · rw [itoo, radix_eq_write a start (by decide) (by decide), if_neg (by omega)]
  · rw [itoh, radix_eq_write a start (by decide) (by decide), if_neg (by omega)]
  · -- some stage lacks room, since the whole text does not fit
    cases hst : Fixed.firstShortStage a.size x p style with
    | none => exact absurd ((Fixed.firstShortStage_eq_none_iff a.size x p style).1 hst) (by omega)
    | some st => exact ⟨st, rfl, by rw [ftoa_eq_stages, hst]⟩

/-- `12.5` at six places in the padded style, in a buffer of three zero bytes: the integer
part `12` and its NUL fit, the `.` does not, and the failed conversion leaves `12` behind. -/
theorem failed_ftoa_overwrites_buffer :
    (ftoa (Array.replicate 3 0) ⟨0x4029000000000000⟩ 6 .padded).2 = .error ⟨4, 3⟩ ∧
      (ftoa (Array.replicate 3 0) ⟨0x4029000000000000⟩ 6 .padded).1 = #[49, 50, 0] := by
  decide +kernel

end Scratch
end FormatEngine
