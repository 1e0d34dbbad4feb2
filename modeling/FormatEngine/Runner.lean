import FormatEngine.Fixture.Case
import FormatEngine.Printf
import FormatEngine.Diff
import FormatEngine.Text.Utf8
/-!
# Verifying fixture cases

Each case runs on a fresh arena of its own capacity. A case with a repeat count runs its template
that many times on the one arena and is judged by the last call; an earlier call that fails
ends the case with its error. A case passes when it expected an output and the call produced
exactly those bytes, or when it expected an error and the call ended with an error of that kind.
A case whose overrides are refused fails. Every failing case carries the difference between what
it expected and what it got, both as reported.
-/
namespace FormatEngine

structure VerificationResult where
  caseName : String
  template : String
  passed : Bool
  /-- What the case expected, or `error:<kind>`. -/
  expected : String
  /-- The output decoded with replacement, `error:<kind>`, or `config_error:<message>`. -/
  actual : String
  /-- The bytes produced, when the call succeeded. -/
  bytes : Option Nat
  /-- The error kind, when the call failed. -/
  error : Option String
  /-- The difference, when the case failed. -/
  diff : Option String
deriving DecidableEq, Inhabited

/-- What one case's calls came to. -/
inductive Execution where
  | output (b : Bytes)
  | failed (e : FmtError)
  | invalidConfig (e : ConfigError)

namespace Runner

/-- Runs the template `n` more times before the call that is judged, stopping at a failure. -/
def warmUp (c : FormatConfig) (t : Bytes) (args : List Arg) : Nat → Arena → Except FmtError Arena
  | 0, a => .ok a
  | n + 1, a =>
    match sprintf a c t args with
    | (a, .ok _) => warmUp c t args n a
    | (_, .error e) => .error e

def execute (k : FixtureCase) : Execution :=
  let o := k.config.getD {}
  match o.toConfig with
  | .error e => .invalidConfig e
  | .ok c =>
    let args := k.args.map FixtureArg.toArg
    let t := Bytes.ofString k.template
    match warmUp c t args (o.repeatCount.getD 1 - 1) (Arena.new (o.arenaCapacity.getD Arena.defaultCapacity)) with
    | .error e => .failed e
    | .ok a =>
      match (sprintf a c t args).2 with
      | .ok b => .output b
      | .error e => .failed e

def verify (k : FixtureCase) : VerificationResult :=
  let expected := k.expected
  let (actual, bytes, error, passed) : String × Option Nat × Option String × Bool :=
    match execute k with
    | .output b =>
      (Utf8.decodeLossy b, some b.length, none, k.expectedError.isNone && b == Bytes.ofString expected)
    | .failed e => ("error:" ++ e.kind, none, some e.kind, k.expectedError == some e.kind)
    | .invalidConfig e => ("config_error:" ++ e.message, none, none, false)
  let diff := if passed then none
    else some (Diff.render (Bytes.ofString expected) (Bytes.ofString actual))
  ⟨k.name, k.template, passed, expected, actual, bytes, error, diff⟩

def run (s : FixtureSet) : List VerificationResult := s.cases.map verify

end Runner

/-- The verdicts of a run with their totals. -/
structure VerificationSummary where
  total : Nat
  passed : Nat
  failed : Nat
  results : List VerificationResult

def VerificationSummary.ofResults (rs : List VerificationResult) : VerificationSummary :=
  let passed := (rs.filter (·.passed)).length
  ⟨rs.length, passed, rs.length - passed, rs⟩

def VerificationSummary.allPassed (s : VerificationSummary) : Bool := s.failed == 0

end FormatEngine
