import FormatEngine.Bytes
/-!
# Decoding UTF-8 with replacement

Bytes are decoded as UTF-8, and every maximal part that cannot begin a well-formed sequence, or
that begins one the bytes break off, becomes one U+FFFD. The first byte of a sequence fixes its
length and the range its second byte must lie in (which excludes overlong forms, surrogates and
values past U+10FFFF); every later byte is a continuation byte `10xxxxxx`. Decoding resumes at
the byte that broke a sequence off, so no valid character is ever swallowed.
-/
namespace FormatEngine.Utf8

def replacement : Char := Char.ofNat 0xFFFD

/-- The length of the sequence a byte begins: 0 when it cannot begin one. -/
def width (b : UInt8) : Nat :=
  if b < 0x80 then 1
  else if 0xC2 ≤ b ∧ b ≤ 0xDF then 2
  else if 0xE0 ≤ b ∧ b ≤ 0xEF then 3
  else if 0xF0 ≤ b ∧ b ≤ 0xF4 then 4
  else 0

/-- The range of the second byte after a first byte. -/
def secondRange (b : UInt8) : UInt8 × UInt8 :=
  if b = 0xE0 then (0xA0, 0xBF)
  else if b = 0xED then (0x80, 0x9F)
  else if b = 0xF0 then (0x90, 0xBF)
  else if b = 0xF4 then (0x80, 0x8F)
  else (0x80, 0xBF)

def isContinuation (b : UInt8) : Bool := 0x80 ≤ b && b ≤ 0xBF

def low (b : UInt8) : Nat := b.toNat % 64

/-- Decodes with replacement; `fuel` is at least the number of bytes. -/
def decodeAux : Nat → Bytes → List Char
  | 0, _ => []
  | _, [] => []
  | fuel + 1, b :: rest =>
    let w := width b
    if w = 1 then Char.ofNat b.toNat :: decodeAux fuel rest
    else if w = 0 then replacement :: decodeAux fuel rest
    else
      let (lo, hi) := secondRange b
      match rest with
      | [] => [replacement]
      | c1 :: r1 =>
        if lo ≤ c1 ∧ c1 ≤ hi then
          if w = 2 then Char.ofNat ((b.toNat % 32) * 64 + low c1) :: decodeAux fuel r1
          else
            match r1 with
            | [] => [replacement]
            | c2 :: r2 =>
              if isContinuation c2 then
                if w = 3 then
                  Char.ofNat ((b.toNat % 16) * 4096 + low c1 * 64 + low c2) :: decodeAux fuel r2
                else
                  match r2 with
                  | [] => [replacement]
                  | c3 :: r3 =>
                    if isContinuation c3 then
                      Char.ofNat ((b.toNat % 8) * 262144 + low c1 * 4096 + low c2 * 64 + low c3)
                        :: decodeAux fuel r3
                    else replacement :: decodeAux fuel r2
              else replacement :: decodeAux fuel r1
        else replacement :: decodeAux fuel rest

/-- The text of bytes decoded with replacement. -/
def decodeLossy (b : Bytes) : String := String.ofList (decodeAux b.length b)

end FormatEngine.Utf8
