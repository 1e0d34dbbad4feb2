import Mathlib
import FormatEngine.Proofs.Verdicts
import FormatEngine.Proofs.LoggedRuns
/-!
# Where two byte strings part

`Diff.render` reports how an actual output departs from the expected one. Equal outputs give
`[identical]`. Different ones give three lines: the expected bytes in printable text after `-`,
the actual ones after `+`, and the offset `L` of the first byte where they part, with the byte
each side has there. `L` is the length of the longest common prefix of the two
(`commonPrefix_iff`). A side is described as the end of the output exactly when it is `L` bytes
long, which is exactly when it is a prefix of the other; since the two differ, at most one side
can be (`length_eq_firstDifference_iff`). The printable text of a byte never holds a line feed
(`Escape.newline_not_mem_byte`), so splitting the report at its line feeds gives back its three
lines.

Main statement: `render_locates_first_difference`.
-/
namespace FormatEngine

/-! ## Printable text has no line feed -/

namespace Escape

theorem ofNat_ne_newline {n : Nat} (h : n ≠ 10) : Char.ofNat n ≠ '\n' := fun hc => by
  have hn := congrArg Char.toNat hc
  rw [Char.toNat_ofNat] at hn
  split at hn
  · exact h hn
  · exact absurd hn (by decide)

/-- The text of a byte never holds a line feed: the line feed itself is written `\n`. -/
theorem newline_not_mem_byte (b : UInt8) : '\n' ∉ byte b := by
  have hb : b.toNat < 256 := b.toNat_lt
  unfold byte
  split_ifs with h9 h13 h10 hq hp
  · simp
  · simp
  · simp
  · have hn : b.toNat ≠ 10 := fun h => h10 (UInt8.toNat_inj.1 h)
    simp [Ne.symm (ofNat_ne_newline hn)]
  · have hn : b.toNat ≠ 10 := fun h => h10 (UInt8.toNat_inj.1 h)
    simp [Ne.symm (ofNat_ne_newline hn)]
  · -- the two hex digits of the byte
    have hhi := Json.hexDigit_ne_newline (d := b.toNat / 16) (by omega)
    have hlo := Json.hexDigit_ne_newline (d := b.toNat % 16) (by omega)
    simp [Ne.symm hhi, Ne.symm hlo]

theorem newline_not_mem_chars (bs : Bytes) : '\n' ∉ chars bs := by
  simp only [chars, List.mem_flatMap, not_exists, not_and]
  exact fun b _ => newline_not_mem_byte b

end Escape

/-! ## The first difference is the longest common prefix -/

namespace Diff

theorem firstDifference_comm (e a : Bytes) : firstDifference e a = firstDifference a e := by
  induction e generalizing a with
  | nil => cases a <;> rfl
  | cons x xs ih =>
    cases a with
    | nil => rfl
    | cons y ys =>
      by_cases hxy : x = y
      · subst hxy
        simp only [firstDifference, ih ys]
      · simp only [firstDifference, if_neg hxy, if_neg (Ne.symm hxy)]

/-- Two different byte strings have a common prefix of length `n` exactly when `n` is at most
their first difference: that is the length of their longest common prefix. -/
theorem commonPrefix_iff {e a : Bytes} (h : e ≠ a) (n : Nat) :
    (n ≤ e.length ∧ n ≤ a.length ∧ e.take n = a.take n) ↔ n ≤ firstDifference e a := by
  obtain ⟨htake, hne⟩ := firstDifference_spec h
  constructor
  · rintro ⟨-, -, hn⟩
    -- a longer common prefix would hold the first difference
    by_contra hlt
    apply hne
    have hat := congrArg (·[firstDifference e a]?) hn
    simpa only [List.getElem?_take, if_pos (Nat.lt_of_not_le hlt)] using hat
  · intro hn
    refine ⟨hn.trans (firstDifference_le_left e a), hn.trans (firstDifference_le_right e a), ?_⟩
    calc e.take n = (e.take (firstDifference e a)).take n := by
          rw [List.take_take, Nat.min_eq_left hn]
      _ = (a.take (firstDifference e a)).take n := by rw [htake]
      _ = a.take n := by rw [List.take_take, Nat.min_eq_left hn]

/-- A side ends at the first difference exactly when it is a prefix of the other. -/
theorem length_eq_firstDifference_iff {e a : Bytes} (h : e ≠ a) :
    e.length = firstDifference e a ↔ e <+: a := by
  constructor
  · intro hl
    have he : e.take (firstDifference e a) = e := by rw [← hl, List.take_length]
    rw [← he, (firstDifference_spec h).1]
    exact List.take_prefix _ _
  · intro hp
    have hcommon : e.take e.length = a.take e.length := by
      rw [List.take_length]
      exact List.prefix_iff_eq_take.1 hp
    have hle := (commonPrefix_iff h e.length).1 ⟨le_rfl, hp.length_le, hcommon⟩
    exact le_antisymm hle (firstDifference_le_left e a)

theorem not_both_end {e a : Bytes} (h : e ≠ a) :
    ¬ (e.length = firstDifference e a ∧ a.length = firstDifference e a) := by
  rintro ⟨he, ha⟩
  apply h
  calc e = e.take (firstDifference e a) := by rw [← he, List.take_length]
    _ = a.take (firstDifference e a) := (firstDifference_spec h).1
    _ = a := by rw [← ha, List.take_length]

/-! ## The lines of a report -/

/-- Only a missing byte is described as the end of the output; a byte is described between
quote marks. -/
theorem describe_eq_end_iff (o : Option UInt8) : describe o = "end of output" ↔ o = none := by
  cases o with
  | none => exact iff_of_true rfl rfl
  | some b =>
    refine iff_of_false (fun h => ?_) (Option.some_ne_none b)
    have hhead := congrArg (fun s => s.toList.head?) h
    simp [describe] at hhead

theorem newline_not_mem_describe (o : Option UInt8) : '\n' ∉ (describe o).toList := by
  cases o with
  | none => simp [describe]
  | some b => simp [describe, Escape.bytes, Escape.newline_not_mem_chars]

/-- The report of two different byte strings splits at its line feeds into its three lines. -/
theorem splitOn_render {e a : Bytes} (h : e ≠ a) :
    (render e a).splitOn "\n" =
      ["-" ++ Escape.bytes e, "+" ++ Escape.bytes a,
        "@@ first difference at byte " ++ toString (firstDifference e a) ++ ": expected " ++
          describe e[firstDifference e a]? ++ ", actual " ++ describe a[firstDifference e a]? ++
          " @@"] := by
  rw [LogValidation.splitOn_newline]
  have hchars : (render e a).toList = ['\n'].intercalate
      [("-" ++ Escape.bytes e).toList, ("+" ++ Escape.bytes a).toList,
        ("@@ first difference at byte " ++ toString (firstDifference e a) ++ ": expected " ++
          describe e[firstDifference e a]? ++ ", actual " ++ describe a[firstDifference e a]? ++
          " @@").toList] := by
    rw [render, if_neg h]
    simp [List.intercalate]
  rw [hchars, List.splitOn_intercalate _ ?_ (by simp)]
  · simp only [List.map_cons, List.map_nil, String.ofList_toList]
  · simp [Escape.bytes, Escape.newline_not_mem_chars, newline_not_mem_describe,
      Json.newline_not_mem_digits]

/-- The report of two byte strings locates their first difference. It is `[identical]` exactly
when they are equal. Otherwise, with `L` the length of their longest common prefix, it has three
lines: `-` and the expected bytes in printable text, `+` and the actual ones, and the offset `L`
with the byte each side has there. A side is described as the end of the output exactly when it
is `L` bytes long, that is, when it is a prefix of the other; and never both sides. -/
theorem render_locates_first_difference (e a : Bytes) :
    (render e a = "[identical]" ↔ e = a) ∧
      (e ≠ a →
        let L := firstDifference e a
        (∀ n, (n ≤ e.length ∧ n ≤ a.length ∧ e.take n = a.take n) ↔ n ≤ L) ∧
          (render e a).splitOn "\n" =
            ["-" ++ Escape.bytes e, "+" ++ Escape.bytes a,
              "@@ first difference at byte " ++ toString L ++ ": expected " ++ describe e[L]? ++
                ", actual " ++ describe a[L]? ++ " @@"] ∧
          (describe e[L]? = "end of output" ↔ e.length = L) ∧
          (describe a[L]? = "end of output" ↔ a.length = L) ∧
          (e.length = L ↔ e <+: a) ∧ (a.length = L ↔ a <+: e) ∧
          ¬ (e.length = L ∧ a.length = L)) := by
  refine ⟨render_eq_identical_iff e a, fun h => ?_⟩
  intro L
  -- neither side is shorter than the common prefix, so a side ends there or has a byte there
  have hend : ∀ x : Bytes, L ≤ x.length → (describe x[L]? = "end of output" ↔ x.length = L) := by
    intro x hx
    rw [describe_eq_end_iff, List.getElem?_eq_none_iff]
    omega
  refine ⟨commonPrefix_iff h, splitOn_render h, hend e (firstDifference_le_left e a),
    hend a (firstDifference_le_right e a), length_eq_firstDifference_iff h, ?_, not_both_end h⟩
  -- the other side, with the two strings swapped
  have hswap := length_eq_firstDifference_iff (Ne.symm h)
  rw [firstDifference_comm] at hswap
  exact hswap

/-- `12345` against `123`: they part at byte 3, where the actual output has ended and the
expected one has not. -/
theorem truncated_output_ends_at_difference :
    let e : Bytes := [49, 50, 51, 52, 53]
    let a : Bytes := [49, 50, 51]
    e ≠ a ∧ firstDifference e a = 3 ∧ describe a[3]? = "end of output" ∧
      describe e[3]? ≠ "end of output" ∧ a <+: e := by
  intro e a
  have hne : e ≠ a := by decide
  have hL : firstDifference e a = 3 := rfl
  obtain ⟨-, -, he, ha, -, hpre, -⟩ := (render_locates_first_difference e a).2 hne
  rw [hL] at he ha hpre
  exact ⟨hne, hL, ha.2 rfl, fun h => absurd (he.1 h) (by decide), hpre.1 rfl⟩

end Diff
end FormatEngine
