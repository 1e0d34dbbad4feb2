import FormatEngine.Numeral
/-!
# Room in a scratch buffer

A converter writes its text and a terminating NUL into a buffer of fixed length, so a text of
`len` bytes needs `len + 1` bytes of room. When it has less, it reports how many bytes it
needed and how many the buffer holds (`Overflow`).

The text of each integer conversion is checked against that room: signed decimal of a 32-bit
integer, unsigned decimal and octal of a 32-bit word, hex of a 64-bit word in either case. A
conversion either returns its canonical numeral or reports the room it needed.
-/
namespace FormatEngine

/-- A text and its terminator needed `needed` bytes, and the buffer held `capacity`. -/
structure Overflow where
  needed : Nat
  capacity : Nat
deriving DecidableEq, Inhabited

namespace Room

/-- Succeeds when a text of `len` bytes and its NUL fit in `room` bytes. -/
def ensure (room len : Nat) : Except Overflow Unit :=
  if len + 1 ≤ room then .ok () else .error ⟨len + 1, room⟩

/-- The text itself when it fits, with its NUL, in `room` bytes. -/
def fit (room : Nat) (text : List UInt8) : Except Overflow (List UInt8) :=
  (ensure room text.length).map fun _ => text

theorem fit_eq_ok_iff (room : Nat) (text t : List UInt8) :
    fit room text = .ok t ↔ text.length + 1 ≤ room ∧ t = text := by
  unfold fit ensure
  split
  · simp_all [Except.map, eq_comm]
  · simp only [Except.map, reduceCtorEq, false_iff, not_and]
    omega

end Room
end FormatEngine

namespace FormatEngine.Convert

def signed (room : Nat) (n : Int32) : Except Overflow (List UInt8) :=
  Room.fit room (Numeral.signed n.toInt)

def unsigned (room : Nat) (u : UInt32) : Except Overflow (List UInt8) :=
  Room.fit room (Numeral.text 10 false u.toNat)

def octal (room : Nat) (u : UInt32) : Except Overflow (List UInt8) :=
  Room.fit room (Numeral.text 8 false u.toNat)

def hex (room : Nat) (upper : Bool) (v : UInt64) : Except Overflow (List UInt8) :=
  Room.fit room (Numeral.text 16 upper v.toNat)

end FormatEngine.Convert
