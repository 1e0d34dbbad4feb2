import FormatEngine.Scratch.Fixed
/-!
# The converters with every access checked

The converters as they run on a buffer, one loop each: the digit loop stores the digit of the
value modulo the base, moves on and divides until the value is zero; the padded fraction's loop
stores one digit per place; the terminator is stored after the text, and the text is then
reversed by swapping pairs from the outside in. Here every store, swap and slice is checked
against its buffer or window, and so is every arithmetic step that could leave its word: an
access out of range, or a loop that runs out of fuel, gives `none`: the converter's panic.

A converter that gives `some` has made only accesses in range. That each of them always does,
and then leaves what the converter of `Scratch` leaves, is proved in
`FormatEngine.Proofs.CheckedConverters`; the room each checks is counted by
`Numeral.digitCount`, a loop of its own.
-/
namespace FormatEngine.Scratch

/-- Stores `b` at index `i` of the window of `a` that starts at `start`; refused past the end of
the window. -/
def store? (a : Array UInt8) (start i : Nat) (b : UInt8) : Option (Array UInt8) :=
  if h : i < a.size - start then some (a.set (start + i) b (by omega)) else none

/-- Swaps the bytes at `i` and `j`; refused unless both are inside the buffer. -/
def swap? (a : Array UInt8) (i j : Nat) : Option (Array UInt8) :=
  if h : i < a.size ∧ j < a.size then some (a.swap i j h.1 h.2) else none

/-- Swaps the bytes at `i` and `j - 1`, then at `i + 1` and `j - 2`, and so on, `pairs` times. -/
def swapInward? : Array UInt8 → Nat → Nat → Nat → Option (Array UInt8)
  | a, _, _, 0 => some a
  | a, i, j, pairs + 1 => do
    let a ← swap? a i (j - 1)
    swapInward? a (i + 1) (j - 1) pairs

/-- Reverses the text of the region `[lo, hi)` in place: the region is a slice of the buffer,
and each swap is checked. -/
def reverseFrom? (a : Array UInt8) (lo hi : Nat) : Option (Array UInt8) :=
  if hi ≤ a.size then
    swapInward? a lo (lo + Terminated.textLength a lo hi) (Terminated.textLength a lo hi / 2)
  else none

/-- Stores a NUL after the `len` bytes at the start of the window and reverses the text before
it, in the slice that ends with the NUL. -/
def terminate? (a : Array UInt8) (start len : Nat) : Option (Array UInt8) := do
  let a ← store? a start len 0
  reverseFrom? a start (start + len + 1)

/-- The digit `d` read from the table of sixteen digits, lower or upper case. -/
def digitOf? (upper : Bool) (d : Nat) : Option UInt8 :=
  ((List.range 16).map (Numeral.digitByte upper))[d]?

/-- The digit loop: stores the digit of `v` modulo `b` at `pos` of the window, moves on, divides
`v` by `b`, and stops after the division that leaves zero, with the count of digits stored. -/
def emitDigits? (start b : Nat) (upper : Bool) :
    Nat → Array UInt8 → Nat → Nat → Option (Array UInt8 × Nat)
  | 0, _, _, _ => none
  | fuel + 1, a, pos, v => do
    let d ← digitOf? upper (v % b)
    let a ← store? a start pos d
    if v / b = 0 then some (a, pos + 1) else emitDigits? start b upper fuel a (pos + 1) (v / b)

/-- The numeral of `v` in base `b` in the window at `start`: the room counted by the digit
count, then the digit loop, then the terminator. -/
def radix? (a : Array UInt8) (start b : Nat) (upper : Bool) (v : Nat) : Option Outcome :=
  match Room.ensure (a.size - start) (Numeral.digitCount b v) with
  | .error e => some (a, .error e)
  | .ok () => do
    let (a, len) ← emitDigits? start b upper (v + 1) a 0 v
    let a ← terminate? a start len
    some (a, .ok len)

/-- The signed decimal numeral of `n` in the window at `start`: the digits of its magnitude,
then a `-` stored after them when it is negative, then the terminator. -/
def itoa? (a : Array UInt8) (start : Nat) (n : Int32) : Option Outcome :=
  let neg := decide (n.toInt < 0)
  match Room.ensure (a.size - start)
      (Numeral.digitCount 10 n.toInt.natAbs + (if neg then 1 else 0)) with
  | .error e => some (a, .error e)
  | .ok () => do
    let (a, pos) ← emitDigits? start 10 false (n.toInt.natAbs + 1) a 0 n.toInt.natAbs
    let (a, pos) ← (if neg then (store? a start pos 45).map (·, pos + 1) else some (a, pos))
    let a ← terminate? a start pos
    some (a, .ok pos)

def utoa? (a : Array UInt8) (start : Nat) (u : UInt32) : Option Outcome :=
  radix? a start 10 false u.toNat

def itoo? (a : Array UInt8) (start : Nat) (u : UInt32) : Option Outcome :=
  radix? a start 8 false u.toNat

def itoh? (a : Array UInt8) (start : Nat) (upper : Bool) (v : UInt64) : Option Outcome :=
  radix? a start 16 upper v.toNat

/-- The byte `48 + d`, refused when the sum leaves the byte. -/
def zeroPlus? (d : Nat) : Option UInt8 :=
  if 48 + d < 256 then some (48 + d).toUInt8 else none

/-- The fraction loop: stores the last decimal digit of `v` at each of `k` places from `i` of the
window, dividing `v` by ten after each. -/
def fractionDigits? (start : Nat) : Nat → Array UInt8 → Nat → Nat → Option (Array UInt8)
  | 0, a, _, _ => some a
  | k + 1, a, i, v => do
    let d ← zeroPlus? (v % 10)
    let a ← store? a start i d
    fractionDigits? start k a (i + 1) (v / 10)

/-- The `p` fraction digits of a padded text in the window at `start`: the room for them, the
cap `10^p - 1` computed in a 64-bit word, the fraction loop over `min |s| cap`, the
terminator. -/
def paddedFraction? (a : Array UInt8) (start p : Nat) (s : Int) : Option Outcome :=
  match Room.ensure (a.size - start) p with
  | .error e => some (a, .error e)
  | .ok () => do
    let cap ← (if Nat.pow 10 p < UInt64.size then some (Nat.pow 10 p - 1) else none)
    let a ← fractionDigits? start p a 0 (min s.natAbs cap)
    let a ← terminate? a start p
    some (a, .ok p)

/-- The fixed-point text of `x` at precision `p` in the whole buffer, stage by stage: the `-`
stored at position 0, the integer part in the window that follows it, the `.` stored over the
integer part's NUL, the fraction in the window that follows the `.`. The windows and the text
returned are slices of the buffer. -/
def ftoa? (a : Array UInt8) (x : Binary64) (p : Nat) (style : FloatStyle) : Option Outcome :=
  let p := min p Fixed.maxPrecision
  let i := Fixed.intPart x
  let s := Fixed.scaledFraction x p
  let lead := Fixed.leadSign style i s
  let pos := if lead then 1 else 0
  match Room.ensure a.size pos with
  | .error e => some (a, .error e)
  | .ok () => do
    let a ← (if lead then store? a 0 0 45 else some a)
    let o ← (if pos ≤ a.size then itoa? a pos (Int32.ofInt i) else none)
    match o with
    | (a, .error e) => some (a, .error e)
    | (a, .ok len) =>
      let pos := pos + len
      if p = 0 then (if pos ≤ a.size then some (a, .ok pos) else none) else
      match Room.ensure a.size (pos + 1) with
      | .error e => some (a, .error e)
      | .ok () => do
        let a ← store? a 0 pos 46
        let pos := pos + 1
        let o ← (if pos ≤ a.size then
            match style with
            | .reference => itoa? a pos (Int32.ofInt s)
            | .padded => paddedFraction? a pos p s
          else none)
        match o with
        | (a, .error e) => some (a, .error e)
        | (a, .ok len) => if pos + len ≤ a.size then some (a, .ok (pos + len)) else none

end FormatEngine.Scratch
