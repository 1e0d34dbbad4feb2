import FormatEngine.Binary64.Arith
import FormatEngine.Binary64.Decimal
/-!
# Similar names

A mistyped name is matched against the known ones by the Jaro similarity of their characters.
Two characters match when they are equal, not yet matched, and at most `max(|a|, |b|) / 2 - 1`
places apart; with `m` matches, of which `t` pairs are out of order (counted as matched
characters of `a` and of `b` taken in order, halved), the similarity is
`(m / |a| + m / |b| + (m - t) / m) / 3`, computed in binary64 one operation at a time, left to
right. A known name is offered when its similarity is above the binary64 nearest `0.7`; several
are offered from the least similar to the most, equal ones in the order they were given.

The rounding matters: `(3/5 + 3/6 + 1) / 3` is exactly `0.7`, but in binary64 it comes out one
step above the nearest value to `0.7`, so such a name is offered.
-/
namespace FormatEngine.Similar

/-- The first unmatched place in `b` in `[lo, hi)` that holds `c`. -/
def findMatch (c : Char) (b : List Char) (used : List Bool) (lo hi : Nat) : Option Nat :=
  ((List.range hi).filter (lo ≤ ·)).find? fun j => b[j]? == some c && used[j]? == some false

/-- Which characters of `a` and of `b` are matched. -/
def matchFlags (a b : List Char) : List Bool × List Bool :=
  let range := max a.length b.length / 2 - 1
  let step := fun (acc : List Bool × List Bool × Nat) (c : Char) =>
    let (af, bf, i) := acc
    let lo := i - range
    let hi := min b.length (i + range + 1)
    match findMatch c b bf lo hi with
    | some j => (af ++ [true], bf.set j true, i + 1)
    | none => (af ++ [false], bf, i + 1)
  let (af, bf, _) := a.foldl step ([], List.replicate b.length false, 0)
  (af, bf)

def matched (cs : List Char) (flags : List Bool) : List Char :=
  (cs.zip flags).filterMap fun (c, f) => if f then some c else none

/-- The binary64 quotient of two counts. -/
def ratio (x y : Nat) : Binary64 := Binary64.div (Binary64.ofNat x) (Binary64.ofNat y)

/-- The similarity, in binary64; `0` when nothing matches. -/
def jaro (a b : String) : Binary64 :=
  let a := a.toList
  let b := b.toList
  if a.isEmpty && b.isEmpty then Binary64.ofNat 1
  else if a.isEmpty || b.isEmpty then Binary64.ofNat 0
  else
    let (af, bf) := matchFlags a b
    let m := (af.filter id).length
    if m = 0 then Binary64.ofNat 0
    else
      let t := (((matched a af).zip (matched b bf)).filter fun (x, y) => x != y).length / 2
      Binary64.div (Binary64.add (Binary64.add (ratio m a.length) (ratio m b.length))
        (ratio (m - t) m)) (Binary64.ofNat 3)

/-- The least similarity above which a name is offered: the binary64 nearest `0.7`. -/
def threshold : Binary64 := Binary64.ofDecimal false 7 (-1)

/-- Whether one non-negative binary64 value is at most another; for such values the order of the
bits is the order of the values. -/
def atMost (x y : Binary64) : Bool := x.bits.toNat ≤ y.bits.toNat

/-- The known names similar to `v`, from the least similar to the most. -/
def candidates (v : String) (names : List String) : List String :=
  let scored := names.filterMap fun n =>
    let s := jaro v n
    if atMost s threshold then none else some (s, n)
  (scored.mergeSort fun x y => atMost x.1 y.1).map (·.2)

end FormatEngine.Similar
