import Mathlib
import FormatEngine.Proofs.ScratchContents
/-!
# Reversing the text of a buffer in place

`Terminated.reverse` reverses the text of a buffer in place: the bytes before its first NUL, or
all of them when it holds none. It swaps the outermost pair of the text, then the next pair
inward, until at most one byte is left between them (`getElem?_reverseFrom`). Read as a list, the
buffer afterwards is the reversed text followed by the rest of the buffer, the NUL first, as it
was (`toList_reverse`). The reversed text holds no NUL and still stands before the same NUL, so
the text keeps its length (`strlen_reverse`), and a second reversal turns it back
(`reverse_reverse`).

Main statement: `reverse_reverses_text`.
-/
namespace FormatEngine

/-! ## The text of a byte string -/

namespace Bytes

theorem drop_strlen (b : Bytes) : b.drop (strlen b) = b.dropWhile (· != 0) := by
  have h : (beforeNul b ++ b.dropWhile (· != 0)).drop (beforeNul b).length =
      b.dropWhile (· != 0) := List.drop_left
  rwa [beforeNul_append_dropWhile] at h

theorem ne_zero_of_mem_beforeNul {b : Bytes} {d : UInt8} (h : d ∈ beforeNul b) : d ≠ 0 := by
  simpa using List.mem_takeWhile_imp h

theorem getElem?_ne_zero_of_lt_strlen {b : Bytes} {k : Nat} (hk : k < strlen b) :
    b[k]? ≠ some 0 := by
  have hkb : k < b.length := Nat.lt_of_lt_of_le hk (strlen_le_length b)
  have hmem : b[k] ∈ beforeNul b := by
    rw [beforeNul_eq_take]
    exact List.mem_iff_getElem.2 ⟨k, by simp [hk, hkb], by simp⟩
  rw [List.getElem?_eq_getElem hkb]
  exact fun h => ne_zero_of_mem_beforeNul hmem (Option.some.inj h)

theorem dropWhile_eq_nil_or_nul (b : Bytes) :
    b.dropWhile (· != 0) = [] ∨ ∃ rest, b.dropWhile (· != 0) = 0 :: rest := by
  cases hrest : b.dropWhile (· != 0) with
  | nil => exact .inl rfl
  | cons x rest =>
    have hx := List.head_dropWhile_not (· != 0) (l := b) (by simp [hrest])
    simp only [hrest, List.head_cons, bne_eq_false_iff_eq] at hx
    exact .inr ⟨rest, by rw [hx]⟩

theorem getElem?_strlen {b : Bytes} (h : strlen b < b.length) : b[strlen b]? = some 0 := by
  have hdrop := congrArg (·[0]?) (drop_strlen b)
  simp only [List.getElem?_drop, Nat.add_zero] at hdrop
  rw [hdrop]
  rcases dropWhile_eq_nil_or_nul b with hnil | ⟨rest, hnul⟩
  · -- nothing follows the text only when it is the whole string
    rw [← drop_strlen, List.drop_eq_nil_iff] at hnil
    omega
  · rw [hnul]
    rfl

/-- A run of non-NUL bytes before the part of a string from its first NUL on is exactly the
text of the two together. -/
theorem strlen_append_dropWhile {ds : Bytes} (hds : ∀ d ∈ ds, d ≠ 0) (b : Bytes) :
    strlen (ds ++ b.dropWhile (· != 0)) = ds.length := by
  rcases dropWhile_eq_nil_or_nul b with hnil | ⟨rest, hnul⟩
  · rw [hnil, List.append_nil, strlen, beforeNul, List.takeWhile_eq_self_iff.2 (by simpa using hds)]
  · rw [hnul]
    exact strlen_append_nul hds rest

end Bytes

/-! ## The buffer after a reversal -/

namespace Terminated

theorem strlen_eq (a : Array UInt8) : strlen a = Bytes.strlen a.toList := by
  rw [strlen, textLength, Array.extract_size]

theorem strlen_le_size (a : Array UInt8) : strlen a ≤ a.size := by
  simpa [strlen_eq] using Bytes.strlen_le_length a.toList

theorem length_take_strlen (a : Array UInt8) : (a.toList.take (strlen a)).length = strlen a := by
  simpa using strlen_le_size a

/-- Read as a list, a reversed buffer is its text reversed, then the rest as it was. -/
theorem toList_reverse (a : Array UInt8) :
    (reverse a).toList = (a.toList.take (strlen a)).reverse ++ a.toList.drop (strlen a) := by
  have hlen : ((a.toList.take (strlen a)).reverse).length = strlen a := by
    rw [List.length_reverse, length_take_strlen]
  apply List.ext_getElem?
  intro k
  rw [Array.getElem?_toList, reverse, getElem?_reverseFrom _ _ _ _ (Nat.zero_le _)]
  change (if 0 ≤ k ∧ k < 0 + strlen a then a[2 * 0 + strlen a - 1 - k]? else a[k]?) = _
  by_cases hk : k < strlen a
  · -- inside the text: the byte mirrored about the text's middle
    rw [if_pos ⟨Nat.zero_le _, by omega⟩, List.getElem?_append_left (by omega),
      List.getElem?_reverse (by rw [length_take_strlen]; exact hk), length_take_strlen,
      List.getElem?_take, if_pos (by omega), Array.getElem?_toList]
    congr 1
    omega
  · rw [if_neg (by omega), List.getElem?_append_right (by omega), hlen, List.getElem?_drop,
      Array.getElem?_toList]
    congr 1
    omega

/-- The reversed text still holds no NUL and stands before the same NUL, so the text keeps its
length. -/
theorem strlen_reverse (a : Array UInt8) : strlen (reverse a) = strlen a := by
  have hnz : ∀ d ∈ (Bytes.beforeNul a.toList).reverse, d ≠ 0 := fun d hd =>
    Bytes.ne_zero_of_mem_beforeNul (List.mem_reverse.1 hd)
  rw [strlen_eq, toList_reverse, strlen_eq, ← Bytes.beforeNul_eq_take, Bytes.drop_strlen,
    Bytes.strlen_append_dropWhile hnz, List.length_reverse]
  rfl

theorem reverse_reverse (a : Array UInt8) : reverse (reverse a) = a := by
  apply Array.toList_inj.1
  have hlen : ((a.toList.take (strlen a)).reverse).length = strlen a := by
    rw [List.length_reverse, length_take_strlen]
  rw [toList_reverse, strlen_reverse, toList_reverse, List.take_left' hlen, List.drop_left' hlen,
    List.reverse_reverse, List.take_append_drop]

theorem toList_reverse_of_nul_free {a : Array UInt8} (h : 0 ∉ a.toList) :
    (reverse a).toList = a.toList.reverse := by
  have hl : strlen a = a.toList.length := by
    rw [strlen_eq, Bytes.strlen, Bytes.beforeNul, List.takeWhile_eq_self_iff.2]
    intro x hx
    simpa using ne_of_mem_of_not_mem hx h
  rw [toList_reverse, hl, List.take_length, List.drop_length, List.append_nil]

/-- The in-place reversal reverses exactly the text of a buffer. The text's length `l` is the
index of the first NUL, or the buffer's size when it holds none; afterwards the buffer is its
first `l` bytes reversed and then the rest as it was, so a buffer without a NUL is reversed whole;
the text keeps its length; and reversing twice gives back the buffer. -/
theorem reverse_reverses_text (a : Array UInt8) :
    (strlen a ≤ a.size ∧ (∀ k < strlen a, a[k]? ≠ some 0) ∧
        (strlen a < a.size → a[strlen a]? = some 0)) ∧
      (reverse a).toList = (a.toList.take (strlen a)).reverse ++ a.toList.drop (strlen a) ∧
      (0 ∉ a.toList → (reverse a).toList = a.toList.reverse) ∧
      strlen (reverse a) = strlen a ∧ reverse (reverse a) = a := by
  have hl : strlen a = Bytes.strlen a.toList := strlen_eq a
  refine ⟨⟨strlen_le_size a, fun k hk => ?_, fun h => ?_⟩, toList_reverse a,
    toList_reverse_of_nul_free, strlen_reverse a, reverse_reverse a⟩
  · rw [← Array.getElem?_toList]
    exact Bytes.getElem?_ne_zero_of_lt_strlen (hl ▸ hk)
  · rw [← Array.getElem?_toList, hl]
    exact Bytes.getElem?_strlen (by simpa [hl] using h)

/-- The text `54321` before a NUL and two more bytes turns round and the rest stays; the text
`-01` without a NUL turns round whole. -/
theorem reverse_digits_keeps_terminator :
    let a : Array UInt8 := #[53, 52, 51, 50, 49, 0, 120, 121]
    let b : Array UInt8 := #[45, 48, 49]
    strlen a < a.size ∧ a[strlen a]? = some 0 ∧
      (reverse a).toList = [49, 50, 51, 52, 53, 0, 120, 121] ∧
      0 ∉ b.toList ∧ (reverse b).toList = [49, 48, 45] := by
  intro a b
  have ha := reverse_reverses_text a
  have hb := reverse_reverses_text b
  have hla : strlen a = 5 := by decide
  have hlt : strlen a < a.size := by rw [hla]; decide
  have hnul : 0 ∉ b.toList := by decide
  refine ⟨hlt, ha.1.2.2 hlt, ?_, hnul, ?_⟩
  · rw [ha.2.1, hla]
    rfl
  · rw [hb.2.2.1 hnul]
    rfl

end Terminated
end FormatEngine
