import FormatEngine.Log.Emitter
import FormatEngine.Runner
/-!
# Logged runs and their clock

A logged run verifies a fixture set and writes one `case_result` entry per case, then one
`run_summary` entry with the totals. A case entry is at level info when the case passed and at
level error otherwise; it names the case, the template and the outcome, the bytes or the error
kind when there is one, and, for a failing case, what was expected, what came and their
difference. The summary's level and outcome say whether every case passed.

Every entry carries the time it was made: a run reads its clock once for each entry, in order,
and a reading is written `YYYY-MM-DDTHH:MM:SS.mmmZ` from a count of seconds since 1970-01-01 in
the proleptic Gregorian calendar. The date comes from the day count by the era method: days are
counted from 0000-03-01, so that a leap day is the last day of its year, and split into 400-year
eras of 146097 days, years of the era, and days of the year.
-/
namespace FormatEngine

/-- The clock a logged run reads: `read k` is the reading taken for its `k`-th entry, counting
from zero. -/
structure Clock where
  read : Nat → String

/-- A clock stopped at one reading. -/
instance : Coe String Clock := ⟨fun t => ⟨fun _ => t⟩⟩

end FormatEngine

namespace FormatEngine.Clock

/-- The year, month and day of a day count since 1970-01-01. -/
def civilFromDays (days : Nat) : Nat × Nat × Nat :=
  let z := days + 719468
  let era := z / 146097
  let doe := z % 146097
  let yoe := (doe - doe / 1460 + doe / 36524 - doe / 146096) / 365
  let doy := doe - (365 * yoe + yoe / 4 - yoe / 100)
  let mp := (5 * doy + 2) / 153
  let day := doy - (153 * mp + 2) / 5 + 1
  let month := if mp < 10 then mp + 3 else mp - 9
  let year := yoe + era * 400 + (if month ≤ 2 then 1 else 0)
  (year, month, day)

def pad (w n : Nat) : String :=
  let s := toString n
  String.ofList (List.replicate (w - s.length) '0') ++ s

/-- The timestamp of a time in seconds and milliseconds. -/
def formatUtc (secs millis : Nat) : String :=
  let (y, m, d) := civilFromDays (secs / 86400)
  pad 4 y ++ "-" ++ pad 2 m ++ "-" ++ pad 2 d ++ "T" ++ pad 2 (secs % 86400 / 3600) ++ ":"
    ++ pad 2 (secs % 3600 / 60) ++ ":" ++ pad 2 (secs % 60) ++ "." ++ pad 3 millis ++ "Z"

end FormatEngine.Clock

namespace FormatEngine.Runner

def caseEntry (timestamp : String) (r : VerificationResult) : LogEntry :=
  let e := (LogEntry.new timestamp "" (if r.passed then .info else .error) eventCaseResult)
    |>.withCase r.caseName |>.withTemplate r.template |>.withOutcome (CaseOutcome.ofPassed r.passed)
  let e := match r.bytes with
    | some n => e.withBytes n
    | none => e
  let e := match r.error with
    | some k => e.withError k
    | none => e
  if r.passed then e
  else e.withDetails (.object (Json.sortMembers
    [("expected", .string r.expected), ("actual", .string r.actual),
     ("diff", Json.optString r.diff)]))

def summaryEntry (timestamp campaign : String) (s : FixtureSet) (rs : List VerificationResult) :
    LogEntry :=
  let passed := (rs.filter (·.passed)).length
  let all := passed == rs.length
  (LogEntry.new timestamp "" (if all then .info else .error) eventRunSummary)
    |>.withOutcome (CaseOutcome.ofPassed all)
    |>.withDetails (.object (Json.sortMembers
      [("campaign", .string campaign), ("family", .string s.family),
       ("total", Json.nat rs.length), ("passed", Json.nat passed),
       ("failed", Json.nat (rs.length - passed))]))

/-- Verifies a set and logs every verdict and then the totals, each entry with the clock's
reading for it. -/
def runLogged (campaign : String) (clock : Clock) (s : FixtureSet) (m : LogEmitter) :
    LogEmitter × List VerificationResult :=
  let rs := run s
  let m := (rs.mapIdx fun k r => caseEntry (clock.read k) r).foldl (fun m e => (m.emitEntry e).1) m
  ((m.emitEntry (summaryEntry (clock.read rs.length) campaign s rs)).1, rs)

end FormatEngine.Runner
