/-!
# Binary64

An IEEE 754 binary64 number, held as its 64 bits. A value decodes to a NaN, an infinity or a
finite `± m · 2^e` (`Binary64.Class`). Every arithmetic result is the exact value rounded once
(`Binary64.round`), to the nearest representable value with a tie going to the even
significand, as the standard's default rounding says.

`round neg num den` rounds the ratio `num / den`. It finds the binade `2^k ≤ num / den < 2^(k+1)`,
takes the quantum `2^q` with `q = max (k - 52) (-1074)` (so normal results keep 53 significant
bits and subnormal ones share the smallest quantum), divides, and rounds the remainder. A carry
to `2^53` moves to the next binade, and a quantum past `2^971` is an infinity.
-/
namespace FormatEngine

/-- An IEEE 754 binary64 value, held as its bits. -/
structure Binary64 where
  bits : UInt64
deriving DecidableEq, Inhabited

namespace Binary64

/-- What a binary64 value denotes: a NaN, an infinity, or `(-1)^neg · m · 2^e`. -/
inductive Class where
  | nan
  | infinite (neg : Bool)
  | finite (neg : Bool) (m : Nat) (e : Int)
deriving DecidableEq

def signBit (x : Binary64) : Bool := x.bits >>> 63 == 1

def biasedExponent (x : Binary64) : Nat := ((x.bits >>> 52) &&& 0x7ff).toNat

def fraction (x : Binary64) : Nat := (x.bits &&& 0xfffffffffffff).toNat

/-- The value a bit pattern denotes. A zero exponent field holds the subnormals and zeros,
`m · 2^-1074`; a full one holds the infinities and NaNs; the rest are normal,
`(2^52 + f) · 2^(b - 1075)`. -/
def classify (x : Binary64) : Class :=
  if x.biasedExponent = 2047 then
    if x.fraction = 0 then .infinite x.signBit else .nan
  else if x.biasedExponent = 0 then .finite x.signBit x.fraction (-1074)
  else .finite x.signBit (Nat.pow 2 52 + x.fraction) ((x.biasedExponent : Int) - 1075)

/-- The value with the given sign, exponent field and fraction field. -/
def ofFields (neg : Bool) (biased fraction : Nat) : Binary64 :=
  ⟨UInt64.ofNat ((if neg then Nat.pow 2 63 else 0) + biased * Nat.pow 2 52 + fraction)⟩

def zero (neg : Bool) : Binary64 := ofFields neg 0 0

def infinity (neg : Bool) : Binary64 := ofFields neg 2047 0

/-- The quiet NaN that operations produce. -/
def nan : Binary64 := ⟨0x7ff8000000000000⟩

/-- The same value with the sign flipped; a NaN keeps its payload. -/
def neg (x : Binary64) : Binary64 := ⟨x.bits ^^^ 0x8000000000000000⟩

def isNaN (x : Binary64) : Bool := x.classify == .nan

/-- The number of binary digits of `n`, found by halving at most `fuel` times. -/
def bitLengthAux : Nat → Nat → Nat
  | 0, _ => 0
  | fuel + 1, n => if n = 0 then 0 else bitLengthAux fuel (n / 2) + 1

/-- The number of binary digits of `n`; zero has none. -/
def bitLength (n : Nat) : Nat := bitLengthAux n n

/-- Whether `num / den ≥ 2^k`. -/
def ratioAtLeastPow2 (num den : Nat) (k : Int) : Bool :=
  if 0 ≤ k then den * Nat.pow 2 k.toNat ≤ num else den ≤ num * Nat.pow 2 (-k).toNat

/-- The exponent `k` with `2^k ≤ num / den < 2^(k+1)`, for positive `num` and `den`. -/
def binade (num den : Nat) : Int :=
  let k : Int := (bitLength num : Int) - bitLength den
  if ratioAtLeastPow2 num den k then k else k - 1

/-- The quotient of `n / d` rounded to the nearest integer, a tie going to the even one. -/
def roundDivEven (n d : Nat) : Nat :=
  let m := n / d
  let r := n % d
  if d < 2 * r ∨ (2 * r = d ∧ m % 2 = 1) then m + 1 else m

/-- The binary64 value nearest to `num / den`, with sign `neg`; a tie goes to the even
significand, and a result at or beyond `2^1024` is an infinity. -/
def round (neg : Bool) (num den : Nat) : Binary64 :=
  if num = 0 ∨ den = 0 then zero neg else
  let q : Int := max (binade num den - 52) (-1074)
  let m := if 0 ≤ q then roundDivEven num (den * Nat.pow 2 q.toNat)
    else roundDivEven (num * Nat.pow 2 (-q).toNat) den
  let (m, q) := if m = Nat.pow 2 53 then (Nat.pow 2 52, q + 1) else (m, q)
  if 971 < q then infinity neg
  else if m < Nat.pow 2 52 then ofFields neg 0 m
  else ofFields neg (q + 1075).toNat (m - Nat.pow 2 52)

/-- The value nearest to `m · 2^e`. -/
def ofScaled (neg : Bool) (m : Nat) (e : Int) : Binary64 :=
  if 0 ≤ e then round neg (m * Nat.pow 2 e.toNat) 1 else round neg m (Nat.pow 2 (-e).toNat)

def ofInt (n : Int) : Binary64 := round (n < 0) n.natAbs 1

def ofNat (n : Nat) : Binary64 := round false n 1

/-- The integer part of a value, truncated toward zero and saturated to `[lo, hi]`; a NaN gives
0. -/
def truncSat (lo hi : Int) (x : Binary64) : Int :=
  match x.classify with
  | .nan => 0
  | .infinite neg => if neg then lo else hi
  | .finite neg m e =>
    let t : Int := if 0 ≤ e then (m * Nat.pow 2 e.toNat : Nat) else (m / Nat.pow 2 (-e).toNat : Nat)
    let v := if neg then -t else t
    max lo (min hi v)

/-- The integer part saturated to the signed 32-bit range. -/
def truncInt32 (x : Binary64) : Int := truncSat (-2147483648) 2147483647 x

end Binary64
end FormatEngine
