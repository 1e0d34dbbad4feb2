import FormatEngine.Binary64.Arith
import FormatEngine.Numeral
import FormatEngine.Room
/-!
# Fixed-point text of a binary64

The `%f` text of a value `x` at precision `p` (at most 9 places) is built from two 32-bit
integers. The integer part `i` is `x` truncated toward zero and saturated (a NaN gives 0). The
scaled fraction `s` is `x - i`, multiplied by ten once per place with each product rounded,
then truncated and saturated the same way. Both are computed in binary64, so the fraction is not
the decimal expansion of `x`: `s` keeps the sign of `x - i`, and a fraction that truncates to
zero loses that sign.

* `reference` writes `dec i`, then for `p > 0` a `.` and `dec s`: so `-1.5` is `-1.-500000`.
* `padded` writes a `-` first when `i = 0` and `s < 0`, then `dec i`, then for `p > 0` a `.` and
  the last `p` digits of `min |s| (10^p - 1)`, zero-padded: `-1.5` is `-1.500000`.

`render?` builds the text in four stages, each checked against the room of the buffer it writes
into: the leading sign, the integer part (in what follows the sign), the `.`, the fraction (in
what follows the `.`). The first stage that runs out of room is reported.
-/
namespace FormatEngine

/-- How the fraction of a fixed-point text is written. -/
inductive FloatStyle where
  /-- The fraction is the signed decimal of the scaled fraction. -/
  | reference
  /-- The fraction is zero-padded to the precision, and the sign moves to the front. -/
  | padded
deriving DecidableEq, Inhabited

namespace Fixed

/-- The most places a fixed-point text has. -/
def maxPrecision : Nat := 9

/-- The integer part: truncated toward zero, saturated to 32 bits, 0 for a NaN. -/
def intPart (x : Binary64) : Int := x.truncInt32

/-- `x` multiplied by ten `n` times, each product rounded. -/
def timesTen (x : Binary64) : Nat → Binary64
  | 0 => x
  | n + 1 => timesTen (x.mul (Binary64.ofNat 10)) n

/-- The scaled fraction at `p` places: `(x - intPart x) · 10^p` computed product by product,
truncated and saturated like the integer part. -/
def scaledFraction (x : Binary64) (p : Nat) : Int :=
  (timesTen (x.sub (Binary64.ofInt (intPart x))) p).truncInt32

/-- Whether the text opens with a `-` of its own, ahead of the integer part. -/
def leadSign (style : FloatStyle) (i s : Int) : Bool :=
  style == .padded && i == 0 && decide (s < 0)

/-- The last `p` decimal digits of `v`, zero-padded, most significant first. -/
def paddedDigits (p v : Nat) : List UInt8 :=
  (List.range p).reverse.map fun k => Numeral.digitByte false (v / Nat.pow 10 k % 10)

/-- The fraction as a padded text writes it: `p` digits of `|s|`, capped at `10^p - 1`. -/
def paddedFraction (p : Nat) (s : Int) : List UInt8 :=
  paddedDigits p (min s.natAbs (Nat.pow 10 p - 1))

/-- The fraction as the style writes it. -/
def fractionText (style : FloatStyle) (p : Nat) (s : Int) : List UInt8 :=
  match style with
  | .reference => Numeral.signed s
  | .padded => paddedFraction p s

/-- The fixed-point text of `x` at precision `p` (capped at `maxPrecision`), in a buffer with
room enough. -/
def text (x : Binary64) (p : Nat) (style : FloatStyle) : List UInt8 :=
  let p := min p maxPrecision
  let i := intPart x
  let s := scaledFraction x p
  (if leadSign style i s then [45] else []) ++ Numeral.signed i ++
    (if p = 0 then [] else 46 :: fractionText style p s)

/-- The fixed-point text if it fits in a buffer of `room` bytes, with the NUL that ends each
stage, or the first stage that runs out of room. -/
def render? (room : Nat) (x : Binary64) (p : Nat) (style : FloatStyle) :
    Except Overflow (List UInt8) := do
  let p := min p maxPrecision
  let i := intPart x
  let s := scaledFraction x p
  let lead : List UInt8 := if leadSign style i s then [45] else []
  Room.ensure room lead.length
  let int ← Room.fit (room - lead.length) (Numeral.signed i)
  let pos := lead.length + int.length
  if p = 0 then return lead ++ int
  Room.ensure room (pos + 1)
  let frac ← match style with
    | .reference => Room.fit (room - (pos + 1)) (Numeral.signed s)
    | .padded => (Room.ensure (room - (pos + 1)) p).map fun _ => paddedFraction p s
  return lead ++ int ++ 46 :: frac

end Fixed
end FormatEngine
