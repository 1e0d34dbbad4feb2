import FormatEngine.Json.Printer
/-!
# Log entries

A log entry is one line of a JSONL log. It always has a timestamp, a trace id, a level and an
event name; a case result also names its case and template, its outcome, the bytes produced or
the error kind, and free-form details. The line writes the fields in that order and leaves out
the optional ones that are absent; the details are written as the value they are.
-/
namespace FormatEngine

inductive LogLevel where
  | trace
  | debug
  | info
  | warn
  | error
deriving DecidableEq, Inhabited

namespace LogLevel

/-- Every level, from the least to the most severe. -/
def all : List LogLevel := [.trace, .debug, .info, .warn, .error]

def name : LogLevel → String
  | .trace => "trace"
  | .debug => "debug"
  | .info => "info"
  | .warn => "warn"
  | .error => "error"

def ofName? (s : String) : Option LogLevel := all.find? (·.name == s)

end LogLevel

/-- Whether a case or a run passed. -/
inductive CaseOutcome where
  | pass
  | fail
deriving DecidableEq, Inhabited

namespace CaseOutcome

def name : CaseOutcome → String
  | .pass => "pass"
  | .fail => "fail"

def ofName? : String → Option CaseOutcome
  | "pass" => some .pass
  | "fail" => some .fail
  | _ => none

/-- The outcome of a pass or a failure. -/
def ofPassed (passed : Bool) : CaseOutcome := if passed then .pass else .fail

end CaseOutcome

def eventCaseResult : String := "case_result"

def eventRunSummary : String := "run_summary"

structure LogEntry where
  timestamp : String
  traceId : String
  level : LogLevel
  event : String
  case : Option String := none
  template : Option String := none
  outcome : Option CaseOutcome := none
  /-- The bytes the formatting call produced. -/
  bytes : Option Nat := none
  /-- The error kind, when the call failed. -/
  error : Option String := none
  details : Option Json := none
deriving Inhabited

namespace LogEntry

/-- An entry with the required fields only. -/
def new (timestamp traceId : String) (level : LogLevel) (event : String) : LogEntry :=
  ⟨timestamp, traceId, level, event, none, none, none, none, none, none⟩

def withCase (e : LogEntry) (c : String) : LogEntry := { e with case := some c }

def withTemplate (e : LogEntry) (t : String) : LogEntry := { e with template := some t }

def withOutcome (e : LogEntry) (o : CaseOutcome) : LogEntry := { e with outcome := some o }

def withBytes (e : LogEntry) (n : Nat) : LogEntry := { e with bytes := some n }

def withError (e : LogEntry) (kind : String) : LogEntry := { e with error := some kind }

def withDetails (e : LogEntry) (d : Json) : LogEntry := { e with details := some d }

/-- The optional members that are present, in order. -/
def optionalMembers : List (String × Option Json) → List (String × Json)
  | [] => []
  | (k, some v) :: rest => (k, v) :: optionalMembers rest
  | (_, none) :: rest => optionalMembers rest

/-- The entry as an object with its fields in order. -/
def toJson (e : LogEntry) : Json :=
  .object ([("timestamp", .string e.timestamp), ("trace_id", .string e.traceId),
    ("level", .string e.level.name), ("event", .string e.event)] ++ optionalMembers
    [("case", e.case.map .string), ("template", e.template.map .string),
     ("outcome", e.outcome.map fun o => .string o.name), ("bytes", e.bytes.map Json.nat),
     ("error", e.error.map .string), ("details", e.details)])

def toJsonl (e : LogEntry) : String := Json.compact e.toJson

end LogEntry
end FormatEngine
