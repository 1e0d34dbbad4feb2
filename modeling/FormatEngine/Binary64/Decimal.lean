import FormatEngine.Binary64.Arith
import FormatEngine.Numeral
/-!
# Reading decimals into binary64

`ofDecimal neg m e` is the binary64 value nearest to `m · 10^e` (a tie goes to the even
significand). Magnitudes far outside the range need no exact arithmetic: a value of at least
`10^310` is an infinity and one below `10^-326` is a zero, since the largest finite value is below
`2^1024 < 10^309` and half the smallest subnormal is above `10^-324`.

`ofText?` reads the text of a float: an optional sign, then
`inf`, `infinity` or `nan` in any case, or digits with an optional `.` (digits may be missing on
one side of it, not both) and an optional exponent `e` or `E` with an optional sign and at least
one digit. Nothing else may stand in the text, not even a blank.
-/
namespace FormatEngine.Binary64

def decimalDigits (m : Nat) : Nat := Numeral.digitCount 10 m

/-- The value nearest to `m · 10^e`. -/
def ofDecimal (neg : Bool) (m : Nat) (e : Int) : Binary64 :=
  if m = 0 then zero neg
  else if 310 < e + decimalDigits m then infinity neg
  else if e + decimalDigits m < -326 then zero neg
  else if 0 ≤ e then round neg (m * Nat.pow 10 e.toNat) 1
  else round neg m (Nat.pow 10 (-e).toNat)

def pow10 (k : Nat) : Binary64 := ofDecimal false 1 k

/-- The digits at the head of a character list, as a value and a count, and the rest. -/
def takeDigits : List Char → Nat × Nat × List Char
  | c :: cs =>
    if c.isDigit then
      let (v, n, r) := takeDigits cs
      (v + (c.toNat - 48) * Nat.pow 10 n, n + 1, r)
    else (0, 0, c :: cs)
  | [] => (0, 0, [])

/-- The value of an exponent's digits, saturating far beyond any exponent that matters. -/
def exponentValue (cs : List Char) : Nat :=
  cs.foldl (fun v c => if v < 100000 then v * 10 + (c.toNat - 48) else v) 0

/-- Reads the part after the sign: `inf`, `infinity` or `nan` in any case, or a decimal. -/
def unsignedOfChars? (neg : Bool) (cs : List Char) : Option Binary64 :=
  match cs.map Char.toLower with
  | ['i', 'n', 'f'] | ['i', 'n', 'f', 'i', 'n', 'i', 't', 'y'] => some (infinity neg)
  | ['n', 'a', 'n'] => some (if neg then nan.neg else nan)
  | _ =>
    let (ip, ni, r) := takeDigits cs
    let (fp, nf, r) := match r with
      | '.' :: r => takeDigits r
      | r => (0, 0, r)
    if ni + nf = 0 then none else
    let mantissa := ip * Nat.pow 10 nf + fp
    match r with
    | [] => some (ofDecimal neg mantissa (-(nf : Int)))
    | c :: r =>
      if c = 'e' ∨ c = 'E' then
        let (expNeg, r) := match r with
          | '+' :: r => (false, r)
          | '-' :: r => (true, r)
          | r => (false, r)
        if r = [] ∨ !r.all Char.isDigit then none else
        let x : Int := exponentValue r
        some (ofDecimal neg mantissa ((if expNeg then -x else x) - nf))
      else none

/-- Reads a float from its text, rounding to the nearest value. -/
def ofText? (s : String) : Option Binary64 :=
  match s.toList with
  | '-' :: cs => if cs = [] then none else unsignedOfChars? true cs
  | '+' :: cs => if cs = [] then none else unsignedOfChars? false cs
  | [] => none
  | cs => unsignedOfChars? false cs

end FormatEngine.Binary64
