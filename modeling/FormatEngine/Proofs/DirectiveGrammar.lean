import Mathlib
import FormatEngine.Proofs.CanonicalNumerals
import FormatEngine.Proofs.Rendering
/-!
# The grammar of a directive

The bytes after a `%` are read as `-?0?[0-9]*c`: an optional `-`, then an optional `0`, in that
order and each taken whenever it is there, then the longest run of decimal digits, then one
conversion byte `c`, which is therefore never a digit. The width is the value of the digit run
capped at 4096. The reader caps the running value after every digit; since a capped value times
ten already passes the cap, capping at each step gives the same width as capping once at the end,
however long the run is (`widthOf_eq_min_valueOf`).

Main statement (`parse?_matches_grammar`): `parse?` gives `none` exactly on the bytes that match
`-?0?[0-9]*` with nothing after them, and otherwise the directive spelled by the flag prefix, the
digit run and the conversion byte that follows, having taken exactly those bytes.
-/
namespace FormatEngine

/-! ## The value of a digit run -/

namespace Numeral

theorem valueOf_append_singleton (b : Nat) (t : List UInt8) (c : UInt8) :
    valueOf b (t ++ [c]) = b * valueOf b t + digitValue c := by
  unfold valueOf
  rw [List.length_append, List.length_singleton, Finset.sum_range_succ, Finset.mul_sum]
  simp only [List.getD_eq_getElem?_getD, List.getElem?_append_right (Nat.le_refl _), Nat.sub_self,
    List.getElem?_singleton, if_true, Option.getD_some, Nat.add_sub_cancel, pow_zero, mul_one]
  congr 1
  apply Finset.sum_congr rfl
  intro i hi
  have hi' := Finset.mem_range.1 hi
  -- the `i`-th digit keeps its place and moves one power of the base up
  rw [List.getElem?_append_left hi', show t.length - i = (t.length - 1 - i) + 1 by omega, pow_succ]
  ring

end Numeral

namespace Directive

theorem digitValue_of_isDigit {c : UInt8} (hc : isDigit c = true) :
    Numeral.digitValue c = c.toNat - 48 := by
  simp only [isDigit, Bool.and_eq_true, decide_eq_true_eq, UInt8.le_iff_toNat_le,
    UInt8.reduceToNat] at hc
  simp [Numeral.digitValue, hc]

theorem widthOf_append_singleton (t : Bytes) (c : UInt8) :
    widthOf (t ++ [c]) = min maxWidth (widthOf t * 10 + (c.toNat - 48)) := by
  simp [widthOf, List.foldl_append]

/-- Capping after every digit gives the run's value capped once: a capped value times ten is
already past the cap, so the earlier caps never change the last one. -/
theorem widthOf_eq_min_valueOf {w : Bytes} (hw : ∀ b ∈ w, isDigit b = true) :
    widthOf w = min maxWidth (Numeral.valueOf 10 w) := by
  induction w using List.reverseRecOn with
  | nil => simp [widthOf, Numeral.valueOf]
  | append_singleton t c ih =>
    have hc : isDigit c = true := hw c (by simp)
    rw [widthOf_append_singleton, ih fun b hb => hw b (by simp [hb]),
      Numeral.valueOf_append_singleton, digitValue_of_isDigit hc]
    omega

/-! ## Reading a directive -/

theorem widthOf_le (ds : Bytes) : widthOf ds ≤ maxWidth := by
  have h : ∀ (w : Nat) (ds : Bytes), w ≤ maxWidth →
      ds.foldl (fun w d => min maxWidth (w * 10 + (d.toNat - 48))) w ≤ maxWidth := by
    intro w ds
    induction ds generalizing w with
    | nil => intro hw; exact hw
    | cons d ds ih => intro _; exact ih _ (Nat.min_le_left _ _)
  exact h 0 ds (Nat.zero_le _)

/-- The conversion byte follows the width digits, so the digits leave at least one byte. -/
theorem length_takeWhile_lt {r : Bytes} {c : UInt8} {rest : Bytes}
    (hd : r.dropWhile isDigit = c :: rest) : (r.takeWhile isDigit).length + 1 ≤ r.length := by
  have hlen := congrArg List.length (List.takeWhile_append_dropWhile (p := isDigit) (l := r))
  rw [hd, List.length_append, List.length_cons] at hlen
  omega

theorem lead_cases (b : UInt8) (r : Bytes) : (∃ t, r = b :: t) ∨ ∀ t, r ≠ b :: t :=
  (em _).imp id fun hr t ht => hr ⟨t, ht⟩

/-- A directive takes at least its conversion byte and never more than the bytes it is read
from, and its width is at most 4096. -/
theorem parse?_consumed {r : Bytes} {d : Directive} {m : Nat} (h : parse? r = some (d, m)) :
    1 ≤ m ∧ m ≤ r.length ∧ d.width ≤ maxWidth := by
  -- whether each flag byte is there; then come the digits, and the conversion byte must follow
  rcases lead_cases 45 r with ⟨r, rfl⟩ | h45 <;> rcases lead_cases 48 r with ⟨r, rfl⟩ | h48 <;>
    simp only [parse?, *] at h <;> split at h <;>
    simp only [reduceCtorEq, Option.some.injEq, Prod.mk.injEq] at h
  all_goals
    obtain ⟨rfl, rfl⟩ := h
    rename_i hd
    have := length_takeWhile_lt hd
    refine ⟨by omega, ?_, widthOf_le _⟩
    simp only [List.length_cons, if_true, if_false]
    omega

/-! ## The flags -/

/-- The flag prefixes a directive can open with: none, `-`, `0`, and `-` then `0`. -/
def flagPrefixes : List Bytes := [[], [45], [48], [45, 48]]

/-- `f` is the flag prefix of `r`: the longest flag prefix that `r` starts with, so a `-` is
taken when it comes first, and a `0` when it comes first or right after that `-`. -/
def IsFlagPrefix (f r : Bytes) : Prop :=
  f ∈ flagPrefixes ∧ f <+: r ∧ ∀ g ∈ flagPrefixes, g <+: r → g.length ≤ f.length

/-- `r` ends inside a directive: flags and width digits and no conversion byte, `-?0?[0-9]*`. -/
def Unfinished (r : Bytes) : Prop :=
  ∃ f w, f ∈ flagPrefixes ∧ (∀ b ∈ w, isDigit b = true) ∧ r = f ++ w

theorem IsFlagPrefix.unique {f g r : Bytes} (hf : IsFlagPrefix f r) (hg : IsFlagPrefix g r) :
    f = g := by
  have hlen : f.length = g.length := Nat.le_antisymm (hg.2.2 f hf.1 hf.2.1) (hf.2.2 g hg.1 hg.2.1)
  exact (List.prefix_of_prefix_length_le hf.2.1 hg.2.1 hlen.le).eq_of_length hlen

theorem IsFlagPrefix.prefix_of_mem {f g r : Bytes} (hf : IsFlagPrefix f r) (hg : g ∈ flagPrefixes)
    (hgr : g <+: r) : g <+: f :=
  List.prefix_of_prefix_length_le hgr hf.2.1 (hf.2.2 g hg hgr)

/-- What the reader makes of the bytes `t` that follow the flag prefix `f`. -/
def afterFlags (f t : Bytes) : Option (Directive × Nat) :=
  match t.dropWhile isDigit with
  | [] => none
  | c :: _ =>
    some (⟨Conversion.ofByte c, f.head? == some 45, f.getLast? == some 48,
      widthOf (t.takeWhile isDigit)⟩, f.length + (t.takeWhile isDigit).length + 1)

/-- Every byte string splits into its flag prefix and the rest, and the reader reads the rest
after that prefix. -/
theorem parse?_eq_afterFlags (r : Bytes) :
    ∃ f t, r = f ++ t ∧ IsFlagPrefix f r ∧ parse? r = afterFlags f t := by
  -- one case per flag prefix; no other flag prefix is a prefix of `r` there
  rcases lead_cases 45 r with ⟨r, rfl⟩ | h45 <;> rcases lead_cases 48 r with ⟨r, rfl⟩ | h48
  · refine ⟨[45, 48], r, rfl, ⟨by simp [flagPrefixes], by simp, ?_⟩, rfl⟩
    intro g hg _
    simp only [flagPrefixes, List.mem_cons, List.not_mem_nil, or_false] at hg
    rcases hg with rfl | rfl | rfl | rfl <;> simp
  · refine ⟨[45], r, rfl, ⟨by simp [flagPrefixes], by simp, ?_⟩, ?_⟩
    · intro g hg hgr
      simp only [flagPrefixes, List.mem_cons, List.not_mem_nil, or_false] at hg
      rcases hg with rfl | rfl | rfl | rfl
      · simp
      · simp
      · simp at hgr
      · obtain ⟨u, hu⟩ := hgr
        exact absurd (by simpa using hu.symm) (h48 u)
    · simp only [parse?, afterFlags]
      cases r.dropWhile isDigit <;> simp
  · refine ⟨[48], r, rfl, ⟨by simp [flagPrefixes], by simp, ?_⟩, ?_⟩
    · intro g hg hgr
      simp only [flagPrefixes, List.mem_cons, List.not_mem_nil, or_false] at hg
      rcases hg with rfl | rfl | rfl | rfl <;> simp_all
    · simp only [parse?, afterFlags]
      cases r.dropWhile isDigit <;> simp
  · refine ⟨[], r, rfl, ⟨by simp [flagPrefixes], by simp, ?_⟩, ?_⟩
    · intro g hg hgr
      simp only [flagPrefixes, List.mem_cons, List.not_mem_nil, or_false] at hg
      rcases hg with rfl | rfl | rfl | rfl
      · simp
      · obtain ⟨u, hu⟩ := hgr
        exact absurd hu.symm (h45 u)
      · obtain ⟨u, hu⟩ := hgr
        exact absurd hu.symm (h48 u)
      · obtain ⟨u, hu⟩ := hgr
        exact absurd (by simpa using hu.symm) (h45 (48 :: u))
    · simp only [parse?, afterFlags]
      cases r.dropWhile isDigit <;> simp

/-! ## The digit run -/

theorem takeWhile_digits_append {w : Bytes} (hw : ∀ b ∈ w, isDigit b = true) {c : UInt8}
    (hc : isDigit c = false) (rest : Bytes) : (w ++ c :: rest).takeWhile isDigit = w := by
  rw [List.takeWhile_append_of_pos hw, List.takeWhile_cons_of_neg (by simp [hc]),
    List.append_nil]

theorem dropWhile_digits_append {w : Bytes} (hw : ∀ b ∈ w, isDigit b = true) {c : UInt8}
    (hc : isDigit c = false) (rest : Bytes) : (w ++ c :: rest).dropWhile isDigit = c :: rest := by
  rw [List.dropWhile_append_of_pos hw, List.dropWhile_cons_of_neg (by simp [hc])]

/-! ## The reader against the grammar -/

theorem afterFlags_eq_none_iff (f t : Bytes) :
    afterFlags f t = none ↔ ∀ b ∈ t, isDigit b = true := by
  rw [← List.dropWhile_eq_nil_iff]
  unfold afterFlags
  split <;> simp_all

theorem afterFlags_eq_some_iff (f t : Bytes) (d : Directive) (m : Nat) :
    afterFlags f t = some (d, m) ↔ ∃ w c rest, t = w ++ c :: rest ∧ (∀ b ∈ w, isDigit b = true) ∧
      isDigit c = false ∧ m = f.length + w.length + 1 ∧
      d = ⟨Conversion.ofByte c, f.head? == some 45, f.getLast? == some 48,
        min maxWidth (Numeral.valueOf 10 w)⟩ := by
  constructor
  · intro h
    unfold afterFlags at h
    split at h
    · exact absurd h (by simp)
    · rename_i c rest hdrop
      -- the digit run is what `takeWhile` keeps, and the conversion byte heads the rest
      have hw : ∀ b ∈ t.takeWhile isDigit, isDigit b = true := fun b hb => List.mem_takeWhile_imp hb
      have hc : isDigit c = false := by
        have := List.head_dropWhile_not isDigit (show t.dropWhile isDigit ≠ [] by simp [hdrop])
        simpa [hdrop] using this
      simp only [Option.some.injEq, Prod.mk.injEq] at h
      obtain ⟨rfl, rfl⟩ := h
      refine ⟨t.takeWhile isDigit, c, rest, ?_, hw, hc, rfl, ?_⟩
      · rw [← hdrop, List.takeWhile_append_dropWhile]
      · rw [widthOf_eq_min_valueOf hw]
  · rintro ⟨w, c, rest, rfl, hw, hc, rfl, rfl⟩
    unfold afterFlags
    rw [dropWhile_digits_append hw hc, takeWhile_digits_append hw hc, widthOf_eq_min_valueOf hw]

/-- The reader accepts exactly the grammar `-?0?[0-9]*c`: it gives `none` exactly when the bytes
end before a conversion byte, and otherwise the directive spelled by the flag prefix `f`, the
digit run `w` after it, capped at 4096, and the conversion byte `c` after the run, having taken
`f`, `w` and `c`; so it takes at least one byte and never more than there are. -/
theorem parse?_matches_grammar (r : Bytes) :
    (parse? r = none ↔ Unfinished r) ∧
    (∀ d m, parse? r = some (d, m) ↔ ∃ f w c rest, r = f ++ w ++ c :: rest ∧ IsFlagPrefix f r ∧
      (∀ b ∈ w, isDigit b = true) ∧ isDigit c = false ∧ m = f.length + w.length + 1 ∧
      d = ⟨Conversion.ofByte c, f.head? == some 45, f.getLast? == some 48,
        min maxWidth (Numeral.valueOf 10 w)⟩) ∧
    (∀ d m, parse? r = some (d, m) → 1 ≤ m ∧ m ≤ r.length) := by
  obtain ⟨f, t, rfl, hf, hparse⟩ := parse?_eq_afterFlags r
  refine ⟨?_, ?_, fun d m h => ⟨(parse?_consumed h).1, (parse?_consumed h).2.1⟩⟩
  · rw [hparse, afterFlags_eq_none_iff]
    constructor
    · intro ht
      exact ⟨f, t, hf.1, ht, rfl⟩
    · -- any flag prefix of the bytes is part of `f`, so what follows `f` is all digits
      rintro ⟨g, w, hg, hw, heq⟩
      obtain ⟨u, rfl⟩ := hf.prefix_of_mem hg ⟨w, heq.symm⟩
      rw [List.append_assoc] at heq
      have hw' : w = u ++ t := (List.append_cancel_left heq).symm
      intro b hb
      exact hw b (hw' ▸ List.mem_append_right u hb)
  · intro d m
    rw [hparse, afterFlags_eq_some_iff]
    constructor
    · rintro ⟨w, c, rest, rfl, hw, hc, hm, hd⟩
      exact ⟨f, w, c, rest, by simp, hf, hw, hc, hm, hd⟩
    · -- the flag prefix is unique, so the rest is what follows it
      rintro ⟨g, w, c, rest, heq, hg, hw, hc, hm, hd⟩
      obtain rfl := hg.unique hf
      refine ⟨w, c, rest, ?_, hw, hc, hm, hd⟩
      rw [List.append_assoc] at heq
      exact List.append_cancel_left heq

end Directive
end FormatEngine
