import FormatEngine.Binary64
/-!
# Binary64 arithmetic

Addition, subtraction, multiplication and division, each the exact result rounded once. The
special values follow the standard: a NaN operand or an invalid operation (`∞ - ∞`, `0 · ∞`,
`0 / 0`, `∞ / ∞`) gives a NaN; an exact zero sum is `+0` unless both addends are `-0`; a product
or quotient takes the exclusive-or of the signs.
-/
namespace FormatEngine.Binary64

/-- The exact sum of two finite values `(-1)^sa · ma · 2^ea` and `(-1)^sb · mb · 2^eb`,
rounded. -/
def addFinite (sa : Bool) (ma : Nat) (ea : Int) (sb : Bool) (mb : Nat) (eb : Int) : Binary64 :=
  let e := min ea eb
  let a : Int := (if sa then -1 else 1) * ((ma * Nat.pow 2 (ea - e).toNat : Nat) : Int)
  let b : Int := (if sb then -1 else 1) * ((mb * Nat.pow 2 (eb - e).toNat : Nat) : Int)
  let s := a + b
  if s = 0 then zero false
  else ofScaled (s < 0) s.natAbs e

def add (x y : Binary64) : Binary64 :=
  match x.classify, y.classify with
  | .nan, _ => nan
  | _, .nan => nan
  | .infinite sx, .infinite sy => if sx = sy then infinity sx else nan
  | .infinite sx, _ => infinity sx
  | _, .infinite sy => infinity sy
  | .finite sx mx ex, .finite sy my ey =>
    if mx = 0 ∧ my = 0 then zero (sx && sy)
    else if mx = 0 then y
    else if my = 0 then x
    else addFinite sx mx ex sy my ey

/-- The difference, the sum with the second operand negated. -/
def sub (x y : Binary64) : Binary64 := add x y.neg

def mul (x y : Binary64) : Binary64 :=
  match x.classify, y.classify with
  | .nan, _ => nan
  | _, .nan => nan
  | .infinite sx, .infinite sy => infinity (sx != sy)
  | .infinite sx, .finite sy my _ => if my = 0 then nan else infinity (sx != sy)
  | .finite sx mx _, .infinite sy => if mx = 0 then nan else infinity (sx != sy)
  | .finite sx mx ex, .finite sy my ey => ofScaled (sx != sy) (mx * my) (ex + ey)

def div (x y : Binary64) : Binary64 :=
  match x.classify, y.classify with
  | .nan, _ => nan
  | _, .nan => nan
  | .infinite _, .infinite _ => nan
  | .infinite sx, .finite sy _ _ => infinity (sx != sy)
  | .finite sx _ _, .infinite sy => zero (sx != sy)
  | .finite sx mx ex, .finite sy my ey =>
    if my = 0 then (if mx = 0 then nan else infinity (sx != sy))
    else if mx = 0 then zero (sx != sy)
    else
      let d := ex - ey
      if 0 ≤ d then round (sx != sy) (mx * Nat.pow 2 d.toNat) my
      else round (sx != sy) mx (my * Nat.pow 2 (-d).toNat)

end FormatEngine.Binary64
