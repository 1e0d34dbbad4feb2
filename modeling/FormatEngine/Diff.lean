import FormatEngine.Bytes
/-!
# Byte differences

A byte shows as itself when it is printable ASCII other than the backslash and the two quote
marks; tab, carriage return, line feed, the backslash and the quote marks show as a backslash
and a letter or the mark itself; every other byte shows as `\xNN` with lowercase hex digits.
A byte string's text is its bytes' texts one after another (`Escape.chars_append`), so a text
never hides where one byte ends and the next begins.

Two outputs that are equal are reported as `[identical]`. Otherwise the report shows both in
that printable text, the expected one after `-` and the actual one after `+`, and then the offset
of the first byte where they part, with the byte each side has there (or the end of the output on
the shorter side when one is a prefix of the other).
-/
namespace FormatEngine.Escape

def byte (b : UInt8) : List Char :=
  if b = 9 then ['\\', 't']
  else if b = 13 then ['\\', 'r']
  else if b = 10 then ['\\', 'n']
  else if b = 92 ∨ b = 39 ∨ b = 34 then ['\\', Char.ofNat b.toNat]
  else if 32 ≤ b ∧ b ≤ 126 then [Char.ofNat b.toNat]
  else ['\\', 'x', Bytes.hexDigit false (b.toNat / 16), Bytes.hexDigit false (b.toNat % 16)]

def chars (bs : Bytes) : List Char := bs.flatMap byte

def bytes (bs : Bytes) : String := String.ofList (chars bs)

theorem chars_append (a b : Bytes) : chars (a ++ b) = chars a ++ chars b := by
  simp [chars]

theorem byte_ne_nil (b : UInt8) : byte b ≠ [] := by
  unfold byte
  repeat' split
  all_goals simp

end FormatEngine.Escape

namespace FormatEngine.Diff

/-- The offset of the first position where the two differ, or the shorter length. -/
def firstDifference : Bytes → Bytes → Nat
  | x :: xs, y :: ys => if x = y then firstDifference xs ys + 1 else 0
  | _, _ => 0

/-- How a side of the report names the byte at the first difference. -/
def describe : Option UInt8 → String
  | some b => "'" ++ Escape.bytes [b] ++ "'"
  | none => "end of output"

/-- The report of how `actual` departs from `expected`. -/
def render (expected actual : Bytes) : String :=
  if expected = actual then "[identical]"
  else
    let first := firstDifference expected actual
    "-" ++ Escape.bytes expected ++ "\n+" ++ Escape.bytes actual ++ "\n@@ first difference at byte "
      ++ toString first ++ ": expected " ++ describe expected[first]? ++ ", actual "
      ++ describe actual[first]? ++ " @@"

theorem firstDifference_le_left (a b : Bytes) : firstDifference a b ≤ a.length := by
  induction a generalizing b with
  | nil => simp [firstDifference]
  | cons x xs ih =>
    cases b with
    | nil => simp [firstDifference]
    | cons y ys =>
      simp only [firstDifference, List.length_cons]
      split
      · have := ih ys; omega
      · omega

theorem firstDifference_le_right (a b : Bytes) : firstDifference a b ≤ b.length := by
  induction a generalizing b with
  | nil => simp [firstDifference]
  | cons x xs ih =>
    cases b with
    | nil => simp [firstDifference]
    | cons y ys =>
      simp only [firstDifference, List.length_cons]
      split
      · have := ih ys; omega
      · omega

end FormatEngine.Diff
