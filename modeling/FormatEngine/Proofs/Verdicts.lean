import Mathlib
import FormatEngine.Proofs.FieldLayout
import FormatEngine.Runner
/-!
# Verdicts and their reports

A fixture case passes when its call produced output, it expected no error, and the output is
exactly the bytes it expected; or when its call failed with an error of the kind it expected. A
case whose configuration is refused never passes. Next to the verdict a case reports what it
expected and what it got as texts, the count of bytes produced and the kind of the error, and,
when it failed, the difference between the two texts.

The difference reads `[identical]` exactly when the two reported texts are equal, and otherwise
names the first byte where they part: before it they agree, at it they differ. A failing case can
report two equal texts: an output that spells `error:<kind>` where that error was expected, an
invalid UTF-8 output whose decoding with replacement is the expected text, a failure whose
`error:<kind>` is the expected output, or a refused configuration whose `config_error:<message>`
is. A case that expected an error and failed with another one always reports a real difference.

Main statement (`verdict_agrees_with_report`).
-/
namespace FormatEngine

/-! ## The first difference of two byte strings -/

namespace Diff

/-- Two different byte strings agree up to their first difference and part there. -/
theorem firstDifference_spec {a b : Bytes} (h : a ≠ b) :
    a.take (firstDifference a b) = b.take (firstDifference a b) ∧
      a[firstDifference a b]? ≠ b[firstDifference a b]? := by
  induction a generalizing b with
  | nil =>
    cases b with
    | nil => exact absurd rfl h
    | cons y ys => simp [firstDifference]
  | cons x xs ih =>
    cases b with
    | nil => simp [firstDifference]
    | cons y ys =>
      by_cases hxy : x = y
      · -- equal heads: the difference lies in the tails, one byte further on
        subst hxy
        have hne : xs ≠ ys := fun h' => h (by rw [h'])
        obtain ⟨htake, hget⟩ := ih hne
        rw [firstDifference, if_pos rfl, List.take_succ_cons, List.take_succ_cons, htake,
          List.getElem?_cons_succ, List.getElem?_cons_succ]
        exact ⟨rfl, hget⟩
      · simp [firstDifference, hxy]

/-- The report is `[identical]` exactly when the two byte strings are equal. -/
theorem render_eq_identical_iff (a b : Bytes) : render a b = "[identical]" ↔ a = b := by
  unfold render
  split
  · exact iff_of_true rfl ‹_›
  · rename_i hne
    refine iff_of_false (fun h => ?_) hne
    -- a report of a difference starts with `-`
    have := congrArg (fun s => s.toList.head?) h
    simp at this

end Diff

/-! ## Texts and their bytes -/

namespace Bytes

theorem ofString_injective : Function.Injective ofString := by
  intro s t h
  rw [ofString, ofString, toList_byteArray, toList_byteArray] at h
  rw [← String.toByteArray_inj, ← String.toUTF8_eq_toByteArray, ← String.toUTF8_eq_toByteArray]
  exact ByteArray.ext (Array.toList_inj.1 h)

end Bytes

/-! ## The report of one case -/

theorem FixtureCase.expected_of_expectedError_none {k : FixtureCase} (h : k.expectedError = none) :
    k.expected = k.expectedOutput.getD "" := by
  unfold FixtureCase.expected
  rw [h]
  cases k.expectedOutput <;> rfl

theorem FixtureCase.expected_of_expectedError_some {k : FixtureCase} {kind : String}
    (h : k.expectedError = some kind) : k.expected = "error:" ++ kind := by
  unfold FixtureCase.expected
  rw [h]

namespace Runner

theorem verify_of_output {k : FixtureCase} {b : Bytes} (h : execute k = .output b) :
    (verify k).passed = (k.expectedError.isNone && b == Bytes.ofString k.expected) ∧
      (verify k).actual = Utf8.decodeLossy b ∧ (verify k).bytes = some b.length ∧
      (verify k).error = none := by
  simp [verify, h]

theorem verify_of_failed {k : FixtureCase} {e : FmtError} (h : execute k = .failed e) :
    (verify k).passed = (k.expectedError == some e.kind) ∧ (verify k).actual = "error:" ++ e.kind ∧
      (verify k).bytes = none ∧ (verify k).error = some e.kind := by
  simp [verify, h]

theorem verify_of_invalidConfig {k : FixtureCase} {e : ConfigError} (h : execute k = .invalidConfig e) :
    (verify k).passed = false ∧ (verify k).actual = "config_error:" ++ e.message ∧
      (verify k).bytes = none ∧ (verify k).error = none := by
  simp [verify, h]

/-- A case counts bytes exactly when its calls produced output, and then as many as they
produced. -/
theorem verify_bytes_eq_some_iff (k : FixtureCase) (n : Nat) :
    (verify k).bytes = some n ↔ ∃ b, execute k = .output b ∧ b.length = n := by
  cases hx : execute k with
  | output b => simp [(verify_of_output hx).2.2.1]
  | failed e => simp [(verify_of_failed hx).2.2.1]
  | invalidConfig e => simp [(verify_of_invalidConfig hx).2.2.1]

/-- A case names an error kind exactly when its calls failed, and then the kind they failed
with. -/
theorem verify_error_eq_some_iff (k : FixtureCase) (s : String) :
    (verify k).error = some s ↔ ∃ e, execute k = .failed e ∧ e.kind = s := by
  cases hx : execute k with
  | output b => simp [(verify_of_output hx).2.2.2]
  | failed e => simp [(verify_of_failed hx).2.2.2]
  | invalidConfig e => simp [(verify_of_invalidConfig hx).2.2.2]

theorem verify_expected (k : FixtureCase) : (verify k).expected = k.expected := by
  unfold verify
  split <;> rfl

/-- A case reports a difference exactly when it fails, and it is the one between the texts it
reports. -/
theorem verify_diff (k : FixtureCase) :
    (verify k).diff = if (verify k).passed then none
      else some (Diff.render (Bytes.ofString (verify k).expected) (Bytes.ofString (verify k).actual)) := by
  unfold verify
  split <;> rfl

theorem verify_diff_eq_none_iff (k : FixtureCase) : (verify k).diff = none ↔ (verify k).passed = true := by
  rw [verify_diff]
  cases (verify k).passed <;> simp

theorem verify_diff_of_failed {k : FixtureCase} (h : (verify k).passed = false) :
    (verify k).diff =
      some (Diff.render (Bytes.ofString (verify k).expected) (Bytes.ofString (verify k).actual)) := by
  rw [verify_diff, h]
  rfl

/-- A case reports `[identical]` exactly when it fails and the two texts it reports are equal. -/
theorem verify_diff_eq_identical_iff (k : FixtureCase) :
    (verify k).diff = some "[identical]" ↔
      (verify k).passed = false ∧ (verify k).expected = (verify k).actual := by
  rw [verify_diff]
  cases (verify k).passed
  · -- a failing case: the report is `[identical]` exactly when the texts' bytes are equal
    simp [Diff.render_eq_identical_iff, Bytes.ofString_injective.eq_iff]
  · simp

/-- The verdict: the output is exactly the expected bytes and no error was expected, or the call
failed with the expected kind of error. -/
theorem verify_passed_iff (k : FixtureCase) :
    (verify k).passed = true ↔
      (∃ b, execute k = .output b ∧ k.expectedError = none ∧
        b = Bytes.ofString (k.expectedOutput.getD "")) ∨
      (∃ e, execute k = .failed e ∧ k.expectedError = some e.kind) := by
  cases hx : execute k with
  | output b =>
    rw [(verify_of_output hx).1]
    cases he : k.expectedError with
    | none => simp [FixtureCase.expected_of_expectedError_none he]
    | some kind => simp
  | failed e => simp [(verify_of_failed hx).1]
  | invalidConfig e => simp [(verify_of_invalidConfig hx).1]

/-- A case that expected an error and failed with another kind reports two different texts. -/
theorem verify_expected_ne_actual_of_failed {k : FixtureCase} {kind : String} {e : FmtError}
    (hk : k.expectedError = some kind) (hx : execute k = .failed e)
    (hfail : (verify k).passed = false) : (verify k).expected ≠ (verify k).actual := by
  obtain ⟨hp, ha, -, -⟩ := verify_of_failed hx
  rw [verify_expected, ha, FixtureCase.expected_of_expectedError_some hk]
  intro h
  have hkind : kind = e.kind := (String.append_right_inj _).1 h
  rw [hp, hk, hkind] at hfail
  simp at hfail

end Runner

/-! ## Totals -/

namespace VerificationSummary

theorem total_eq_passed_add_failed (rs : List VerificationResult) :
    (ofResults rs).total = (ofResults rs).passed + (ofResults rs).failed :=
  (Nat.add_sub_cancel' (List.length_filter_le _ rs)).symm

theorem allPassed_iff (rs : List VerificationResult) :
    (ofResults rs).allPassed = true ↔ ∀ r ∈ rs, r.passed = true := by
  show (rs.length - (rs.filter (·.passed)).length == 0) = true ↔ _
  rw [beq_iff_eq, Nat.sub_eq_zero_iff_le, ← List.length_filter_eq_length_iff]
  exact ⟨fun h => le_antisymm (List.length_filter_le _ _) h, fun h => h.ge⟩

end VerificationSummary

/-! ## The verdict agrees with the report -/

/-- A case's verdict, its counts and its difference agree. It passes exactly when its output is
the expected bytes and no error was expected, or when it failed with the expected kind of error;
a refused configuration never passes. It counts bytes exactly when output was produced, and
names an error kind exactly when the call failed. It reports a difference exactly when it fails,
the one between the texts it reports: `[identical]` exactly when those are equal, and otherwise
the first byte where they part. A case that expected one error and failed with another reports
two different texts. The totals of a run add up, and it passed when every case did. -/
theorem verdict_agrees_with_report (k : FixtureCase) (rs : List VerificationResult) :
    let r := Runner.verify k
    let s := VerificationSummary.ofResults rs
    ((r.passed = true ↔
        (∃ b, Runner.execute k = .output b ∧ k.expectedError = none ∧
          b = Bytes.ofString (k.expectedOutput.getD "")) ∨
        (∃ e, Runner.execute k = .failed e ∧ k.expectedError = some e.kind)) ∧
      (∀ e, Runner.execute k = .invalidConfig e → r.passed = false) ∧
      (∀ n, r.bytes = some n ↔ ∃ b, Runner.execute k = .output b ∧ b.length = n) ∧
      (∀ s, r.error = some s ↔ ∃ e, Runner.execute k = .failed e ∧ e.kind = s) ∧
      r.expected = k.expected ∧
      (r.diff = none ↔ r.passed = true) ∧
      (r.passed = false →
        r.diff = some (Diff.render (Bytes.ofString r.expected) (Bytes.ofString r.actual))) ∧
      (r.diff = some "[identical]" ↔ r.passed = false ∧ r.expected = r.actual) ∧
      (r.passed = false → r.expected ≠ r.actual →
        let x := Bytes.ofString r.expected
        let y := Bytes.ofString r.actual
        x.take (Diff.firstDifference x y) = y.take (Diff.firstDifference x y) ∧
          x[Diff.firstDifference x y]? ≠ y[Diff.firstDifference x y]?) ∧
      (∀ kind e, k.expectedError = some kind → Runner.execute k = .failed e →
        r.passed = false → r.expected ≠ r.actual)) ∧
    (s.total = s.passed + s.failed ∧ s.passed = (rs.filter (·.passed)).length ∧
      (s.allPassed = true ↔ ∀ r ∈ rs, r.passed = true)) := by
  dsimp only
  refine ⟨?_, VerificationSummary.total_eq_passed_add_failed rs, rfl,
    VerificationSummary.allPassed_iff rs⟩
  refine ⟨Runner.verify_passed_iff k, fun e hx => (Runner.verify_of_invalidConfig hx).1,
    Runner.verify_bytes_eq_some_iff k, Runner.verify_error_eq_some_iff k, Runner.verify_expected k,
    Runner.verify_diff_eq_none_iff k, Runner.verify_diff_of_failed,
    Runner.verify_diff_eq_identical_iff k, fun hp hne => ?_,
    fun kind e hk hx hp => Runner.verify_expected_ne_actual_of_failed hk hx hp⟩
  -- two different texts have different bytes, which part at their first difference
  exact Diff.firstDifference_spec (fun h => hne (Bytes.ofString_injective h))

/-- A case of a template that spells `error:missing_argument` and no directive, expecting that
error: the call writes the text, so the case fails, yet the texts it reports are equal and its
difference reads `[identical]`. -/
theorem spelled_error_reports_identical :
    let k : FixtureCase :=
      { name := "spelled", template := "error:missing_argument", expectedError := some "missing_argument" }
    (Runner.verify k).passed = false ∧ (Runner.verify k).expected = (Runner.verify k).actual ∧
      (Runner.verify k).diff = some "[identical]" := by
  intro k
  have hx : Runner.execute k = .output (Bytes.ofString "error:missing_argument") := by
    simp only [k, Runner.execute, Bytes.ofString_eq_flatMap]
    rfl
  obtain ⟨hp, ha, -, -⟩ := Runner.verify_of_output hx
  have hdec : Utf8.decodeLossy (Bytes.ofString "error:missing_argument") = "error:missing_argument" := by
    rw [Bytes.ofString_eq_flatMap]
    rfl
  have hexp : (Runner.verify k).expected = "error:missing_argument" := by
    rw [Runner.verify_expected]
    rfl
  have hpass : (Runner.verify k).passed = false := by
    rw [hp]
    rfl
  refine ⟨hpass, by rw [hexp, ha, hdec], ?_⟩
  rw [Runner.verify_diff, hpass, hexp, ha, hdec]
  simp [Diff.render]

/-- Two failing cases: `ab` where `ac` was expected reports the difference at byte 1, and `%d`
with no argument, where a mismatch was expected, reports two different texts. -/
theorem verdicts_of_mismatched_cases :
    let k : FixtureCase := { name := "mismatch", template := "ab", expectedOutput := some "ac" }
    let k' : FixtureCase := { name := "other", template := "%d", expectedError := some "argument_mismatch" }
    ((Runner.verify k).passed = false ∧ (Runner.verify k).expected ≠ (Runner.verify k).actual ∧
      Diff.firstDifference (Bytes.ofString "ac") (Bytes.ofString "ab") = 1 ∧
      (Bytes.ofString "ac").take 1 = (Bytes.ofString "ab").take 1 ∧
      (Bytes.ofString "ac")[1]? ≠ (Bytes.ofString "ab")[1]?) ∧
    (k'.expectedError = some "argument_mismatch" ∧
      Runner.execute k' = .failed (.missingArgument 0 .int) ∧ (Runner.verify k').passed = false ∧
      (Runner.verify k').expected ≠ (Runner.verify k').actual) := by
  intro k k'
  have hx : Runner.execute k = .output (Bytes.ofString "ab") := by
    simp only [k, Runner.execute, Bytes.ofString_eq_flatMap]
    rfl
  have hx' : Runner.execute k' = .failed (.missingArgument 0 .int) := by
    simp only [k', Runner.execute, Bytes.ofString_eq_flatMap]
    rfl
  obtain ⟨hp, ha, -, -⟩ := Runner.verify_of_output hx
  have hdec : Utf8.decodeLossy (Bytes.ofString "ab") = "ab" := by
    rw [Bytes.ofString_eq_flatMap]
    rfl
  have hexp : (Runner.verify k).expected = "ac" := by
    rw [Runner.verify_expected]
    rfl
  have hpass : (Runner.verify k).passed = false := by
    rw [hp, ← Runner.verify_expected, hexp, Bytes.ofString_eq_flatMap, Bytes.ofString_eq_flatMap]
    decide
  have hne : (Runner.verify k).expected ≠ (Runner.verify k).actual := by
    rw [hexp, ha, hdec]
    decide
  have hpass' : (Runner.verify k').passed = false := by
    rw [(Runner.verify_of_failed hx').1]
    rfl
  have hreport := (verdict_agrees_with_report k []).1
  have hreport' := (verdict_agrees_with_report k' []).1
  have hfd : Diff.firstDifference (Bytes.ofString "ac") (Bytes.ofString "ab") = 1 := by
    rw [Bytes.ofString_eq_flatMap, Bytes.ofString_eq_flatMap]
    rfl
  have hfirst := hreport.2.2.2.2.2.2.2.2.1 hpass hne
  simp only [hexp, ha, hdec, hfd] at hfirst
  exact ⟨⟨hpass, hne, hfd, hfirst⟩,
    ⟨rfl, hx', hpass', hreport'.2.2.2.2.2.2.2.2.2 _ _ rfl hx' hpass'⟩⟩

end FormatEngine
