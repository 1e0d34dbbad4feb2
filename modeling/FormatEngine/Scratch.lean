import FormatEngine.Terminated
import FormatEngine.Numeral
import FormatEngine.Room
/-!
# Converters on a scratch buffer

The integer converters as they act on a buffer: each works in the window of the buffer that
starts at `start`, checks first that its text and a NUL fit in the window, then writes the digits
least significant first, stores the NUL after them, and reverses the digits in place
(`terminate`). A call leaves the buffer it produced and either the length of its text, which
stands at the window's start, or the room it lacked.

Main statements (about these definitions): on success the window begins with the canonical
numeral followed by a NUL, whatever the buffer held before; a call that lacks room leaves the
buffer untouched.
-/
namespace FormatEngine.Scratch

/-- The buffer after a conversion, and the length of its text or the room it lacked. -/
abbrev Outcome := Array UInt8 × Except Overflow Nat

/-- Writes `bytes` into the buffer from position `i` on. -/
def writeAt : Array UInt8 → Nat → List UInt8 → Array UInt8
  | a, _, [] => a
  | a, i, b :: bs => writeAt (a.setIfInBounds i b) (i + 1) bs

/-- The text a successful conversion left in the window at `start`. -/
def textAt (a : Array UInt8) (start len : Nat) : List UInt8 := (a.extract start (start + len)).toList

/-- Writes the digits of `v` in base `b` least significant first at `start`; returns the buffer
and how many digits were written. -/
def emitDigits (a : Array UInt8) (start b : Nat) (upper : Bool) (v : Nat) : Array UInt8 × Nat :=
  let ds := (Numeral.digitsLsb b v).map (Numeral.digitByte upper)
  (writeAt a start ds, ds.length)

/-- Stores a NUL after the `len` bytes at `start` and reverses them in place. -/
def terminate (a : Array UInt8) (start len : Nat) : Array UInt8 :=
  Terminated.reverseFrom (a.setIfInBounds (start + len) 0) start (start + len + 1)

/-- The numeral of `v` in base `b` in the window at `start`. -/
def radix (a : Array UInt8) (start b : Nat) (upper : Bool) (v : Nat) : Outcome :=
  match Room.ensure (a.size - start) (Numeral.digitCount b v) with
  | .error e => (a, .error e)
  | .ok () =>
    let (a, len) := emitDigits a start b upper v
    (terminate a start len, .ok len)

/-- The signed decimal numeral of `n` in the window at `start`: the digits of its magnitude,
then a `-` when it is negative, then the reversal. -/
def itoa (a : Array UInt8) (start : Nat) (n : Int32) : Outcome :=
  let neg := decide (n.toInt < 0)
  let len := Numeral.digitCount 10 n.toInt.natAbs + (if neg then 1 else 0)
  match Room.ensure (a.size - start) len with
  | .error e => (a, .error e)
  | .ok () =>
    let (a, pos) := emitDigits a start 10 false n.toInt.natAbs
    let (a, pos) := if neg then (a.setIfInBounds (start + pos) 45, pos + 1) else (a, pos)
    (terminate a start pos, .ok pos)

def utoa (a : Array UInt8) (start : Nat) (u : UInt32) : Outcome := radix a start 10 false u.toNat

def itoo (a : Array UInt8) (start : Nat) (u : UInt32) : Outcome := radix a start 8 false u.toNat

def itoh (a : Array UInt8) (start : Nat) (upper : Bool) (v : UInt64) : Outcome :=
  radix a start 16 upper v.toNat

end FormatEngine.Scratch
