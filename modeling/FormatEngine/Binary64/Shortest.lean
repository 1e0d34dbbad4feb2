import FormatEngine.Binary64.Decimal
/-!
# Shortest decimal of a binary64

Every finite nonzero binary64 `x` has a rounding interval: the reals that round to it, bounded
halfway to its two neighbours (the lower gap is half as wide when `x` is the least value of its
binade), with the bounds included exactly when the significand is even. `shortest` finds the
coarsest decimal grid `10^k` with a point in the interval and takes, of the value's two
neighbours on that grid, one inside the interval, the nearer one when both are, the even digit
on a tie. Seventeen significant digits always suffice, so at most seventeen grids are tried.

`Layout` is how a text lays the digits out: positional for decimal exponents in a window,
otherwise one digit, the other digits after a `.`, and `e` with the exponent.
-/
namespace FormatEngine.Binary64

/-- `d · 10^k` compared with `v · 2^t`. -/
def compareScaled (d : Nat) (k : Int) (v : Nat) (t : Int) : Ordering :=
  compare (d * Nat.pow 10 k.toNat * Nat.pow 2 (-t).toNat) (v * Nat.pow 2 t.toNat * Nat.pow 10 (-k).toNat)

/-- `⌊v · 2^t / 10^k⌋`. -/
def floorScaled (v : Nat) (t k : Int) : Nat :=
  (v * Nat.pow 2 t.toNat * Nat.pow 10 (-k).toNat) / (Nat.pow 2 (-t).toNat * Nat.pow 10 k.toNat)

/-- The rounding interval of `m · 2^e` in units of `2^(e-2)`: its low end, the value, its high
end, and whether the ends belong to it. -/
structure Interval where
  low : Nat
  mid : Nat
  high : Nat
  inclusive : Bool

/-- The rounding interval of a finite nonzero value with significand `m`, exponent field `b`
and fraction field `f`. -/
def interval (m b f : Nat) : Interval :=
  ⟨4 * m - (if f = 0 ∧ 1 < b then 1 else 2), 4 * m, 4 * m + 2, m % 2 == 0⟩

/-- Whether `d · 10^k` lies in the interval scaled by `2^t`. -/
def Interval.holds (i : Interval) (t : Int) (d : Nat) (k : Int) : Bool :=
  let lo := compareScaled d k i.low t
  let hi := compareScaled d k i.high t
  if i.inclusive then lo != .lt && hi != .gt else lo == .gt && hi == .lt

/-- The exponent `E` with `10^E ≤ v · 2^t < 10^(E+1)`, for `v > 0`. -/
def floorLog10 (v : Nat) (t : Int) : Int :=
  let est : Int := ((bitLength v : Int) - 1 + t) * 30103 / 100000
  let up := fun (e : Int) => if compareScaled 1 (e + 1) v t != .gt then e + 1 else e
  let down := fun (e : Int) => if compareScaled 1 e v t == .gt then e - 1 else e
  down (down (up (up est)))

/-- Drops trailing zeros of `d`, raising `k` for each, at most `fuel` times. -/
def stripZeros : Nat → Nat → Int → Nat × Int
  | 0, d, k => (d, k)
  | fuel + 1, d, k => if d ≠ 0 ∧ d % 10 = 0 then stripZeros fuel (d / 10) (k + 1) else (d, k)

/-- Tries the grids `10^k`, `10^(k-1)`, … for at most `fuel` grids. -/
def searchGrids (i : Interval) (t : Int) : Nat → Int → Nat × Int
  | 0, k => (floorScaled i.mid t k, k)
  | fuel + 1, k =>
    let lo := floorScaled i.mid t k
    let hi := lo + 1
    match i.holds t lo k, i.holds t hi k with
    | true, true =>
      match compare (2 * i.mid * Nat.pow 10 (-k).toNat * Nat.pow 2 t.toNat)
          ((2 * lo + 1) * Nat.pow 10 k.toNat * Nat.pow 2 (-t).toNat) with
      | .lt => (lo, k)
      | .gt => (hi, k)
      | .eq => if lo % 2 = 0 then (lo, k) else (hi, k)
    | true, false => (lo, k)
    | false, true => (hi, k)
    | false, false => searchGrids i t fuel (k - 1)

/-- The shortest decimal `d · 10^k` that rounds to the finite nonzero value `m · 2^e` (with
exponent field `b` and fraction field `f`), `d` without trailing zeros. -/
def shortestOf (m b f : Nat) (e : Int) : Nat × Int :=
  let i := interval m b f
  let t := e - 2
  let (d, k) := searchGrids i t 17 (floorLog10 i.mid t)
  stripZeros 20 d k

/-- How digits `d · 10^k` are written: positionally when `low < n ≤ high` for the decimal
exponent `n = digits + k`, and otherwise in exponent form, whose exponent has a `+` in front when
it is not negative and `plus` is set. -/
structure Layout where
  low : Int
  high : Int
  plus : Bool

/-- Writes the digits `ds` (no trailing zeros) scaled by `10^k`. -/
def Layout.render (l : Layout) (ds : List Char) (k : Int) : String :=
  let n : Int := ds.length + k
  let zeros := fun (c : Int) => List.replicate c.toNat '0'
  if l.low < n ∧ n ≤ l.high then
    if 0 ≤ k then String.ofList (ds ++ zeros k ++ ['.', '0'])
    else if 0 < n then String.ofList (ds.take n.toNat ++ '.' :: ds.drop n.toNat)
    else String.ofList ('0' :: '.' :: zeros (-n) ++ ds)
  else
    let exp := n - 1
    let expText := (if exp < 0 then "-" else if l.plus then "+" else "") ++ toString exp.natAbs
    match ds with
    | [d] => String.ofList [d] ++ "e" ++ expText
    | d :: rest => String.ofList (d :: '.' :: rest) ++ "e" ++ expText
    | [] => "0e0"

/-- The layout of JSON numbers: positional for decimal exponents from -4 to 16, and a signed
exponent otherwise. -/
def Layout.json : Layout := ⟨-5, 16, true⟩

def Layout.positional : Layout := ⟨-100000, 100000, false⟩

/-- The shortest text of a finite value in a layout; a zero is `0.0`, and a negative value has a
`-` in front. -/
def shortestText (l : Layout) (x : Binary64) : String :=
  let sign := if x.signBit then "-" else ""
  match x.classify with
  | .finite _ m e =>
    if m = 0 then sign ++ "0.0" else
    let (d, k) := shortestOf m x.biasedExponent x.fraction e
    sign ++ l.render (Nat.toDigits 10 d) k
  | .infinite _ => sign ++ "inf"
  | .nan => "NaN"

end FormatEngine.Binary64
