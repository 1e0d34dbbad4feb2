/-!
# Reading text: white space and integers

Text read from fixtures and log lines is taken without the Unicode white space at either end.
Integers are read from text the strict way: an optional sign, then at least one digit of the
radix and nothing else. A value outside the type's range is refused rather than wrapped. Digits
above nine are letters in either case.
-/
namespace FormatEngine.Space

/-- Whether a character has the Unicode `White_Space` property. -/
def isWhite (c : Char) : Bool :=
  let n := c.toNat
  (9 ≤ n && n ≤ 13) || n == 32 || n == 0x85 || n == 0xA0 || n == 0x1680 ||
    (0x2000 ≤ n && n ≤ 0x200A) || n == 0x2028 || n == 0x2029 || n == 0x202F || n == 0x205F ||
    n == 0x3000

/-- The characters without their white space at either end. -/
def trimChars (cs : List Char) : List Char :=
  ((cs.dropWhile isWhite).reverse.dropWhile isWhite).reverse

def trim (s : String) : String := String.ofList (trimChars s.toList)

end FormatEngine.Space

namespace FormatEngine.IntegerText

/-- The value of a digit in a radix of at most 36. -/
def digit? (radix : Nat) (c : Char) : Option Nat :=
  let n := c.toNat
  let v := if 48 ≤ n ∧ n ≤ 57 then n - 48
    else if 97 ≤ n ∧ n ≤ 122 then n - 87
    else if 65 ≤ n ∧ n ≤ 90 then n - 55
    else 36
  if v < radix then some v else none

/-- The value of a nonempty run of digits, most significant first. -/
def digits? (radix : Nat) : List Char → Option Nat
  | [] => none
  | c :: cs => (digit? radix c).bind fun d => go d cs
where
  go (acc : Nat) : List Char → Option Nat
    | [] => some acc
    | c :: cs => (digit? radix c).bind fun d => go (acc * radix + d) cs

def dropPlus : List Char → List Char
  | '+' :: rest => rest
  | cs => cs

/-- An unsigned value below `bound`, after an optional `+`. -/
def unsigned? (radix bound : Nat) (cs : List Char) : Option Nat :=
  (digits? radix (dropPlus cs)).bind fun v => if v < bound then some v else none

/-- A signed decimal value in `[-bound, bound)`, after an optional `+` or `-`. -/
def signed? (bound : Nat) (cs : List Char) : Option Int :=
  match cs with
  | '-' :: rest => (digits? 10 rest).bind fun v => if v ≤ bound then some (-(v : Int)) else none
  | '+' :: rest => (digits? 10 rest).bind fun v => if v < bound then some (v : Int) else none
  | _ => (digits? 10 cs).bind fun v => if v < bound then some (v : Int) else none

theorem unsigned?_lt {radix bound : Nat} {cs : List Char} {v : Nat}
    (h : unsigned? radix bound cs = some v) : v < bound := by
  cases hd : digits? radix (dropPlus cs) with
  | none => simp [unsigned?, hd] at h
  | some w =>
    simp only [unsigned?, hd, Option.bind_some] at h
    split at h
    · simp at h; omega
    · simp at h

end FormatEngine.IntegerText
