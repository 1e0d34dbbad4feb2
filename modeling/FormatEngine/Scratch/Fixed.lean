import FormatEngine.Scratch
import FormatEngine.Fixed
/-!
# The fixed-point converter on a scratch buffer

`ftoa` writes the fixed-point text of a binary64 into a whole buffer in the order the stages
run: the padded style's leading `-` at position 0, the integer part (with its own NUL) after it,
then the `.`, then the fraction in what follows. Each stage checks its own room just before it
writes, so a later stage can fail after earlier ones have already written.
-/
namespace FormatEngine.Scratch

/-- The `p` fraction digits of a padded text in the window at `start`: the last `p` digits of
`min |s| (10^p - 1)` written least significant first, then terminated. -/
def paddedFraction (a : Array UInt8) (start p : Nat) (s : Int) : Outcome :=
  match Room.ensure (a.size - start) p with
  | .error e => (a, .error e)
  | .ok () =>
    let v := min s.natAbs (Nat.pow 10 p - 1)
    let ds := (List.range p).map fun k => Numeral.digitByte false (v / Nat.pow 10 k % 10)
    (terminate (writeAt a start ds) start p, .ok p)

/-- The fixed-point text of `x` at precision `p` written into the whole buffer. -/
def ftoa (a : Array UInt8) (x : Binary64) (p : Nat) (style : FloatStyle) : Outcome :=
  let p := min p Fixed.maxPrecision
  let i := Fixed.intPart x
  let s := Fixed.scaledFraction x p
  let lead := Fixed.leadSign style i s
  let pos := if lead then 1 else 0
  match Room.ensure a.size pos with
  | .error e => (a, .error e)
  | .ok () =>
    let a := if lead then a.setIfInBounds 0 45 else a
    match itoa a pos (Int32.ofInt i) with
    | (a, .error e) => (a, .error e)
    | (a, .ok len) =>
      let pos := pos + len
      if p = 0 then (a, .ok pos) else
      match Room.ensure a.size (pos + 1) with
      | .error e => (a, .error e)
      | .ok () =>
        let a := a.setIfInBounds pos 46
        let pos := pos + 1
        match style with
        | .reference =>
          match itoa a pos (Int32.ofInt s) with
          | (a, .error e) => (a, .error e)
          | (a, .ok len) => (a, .ok (pos + len))
        | .padded =>
          match paddedFraction a pos p s with
          | (a, .error e) => (a, .error e)
          | (a, .ok len) => (a, .ok (pos + len))

end FormatEngine.Scratch
