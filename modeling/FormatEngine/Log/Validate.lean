import FormatEngine.Log.Entry
import FormatEngine.Json.Decode
import FormatEngine.Text.Integer
/-!
# Validating log lines

A line is checked in stages. It must be JSON, and the JSON must be an object. Then every schema
rule is checked and all the violations are reported together, in a fixed order: the four
required fields, a known level, a known outcome, the case and outcome that a case result needs,
and a trace id of the form `<run id>::<sequence>`. Only a line that breaks no rule is decoded
as an entry, and a decoding failure is reported alone. A file is checked line by line, each
line trimmed first; blank lines are skipped but still counted in the line numbers.
-/
namespace FormatEngine

/-- A violation found on a line. -/
structure LogValidationError where
  lineNumber : Nat
  field : String
  message : String
deriving DecidableEq, Inhabited

def LogValidationError.display (e : LogValidationError) : String :=
  "line " ++ toString e.lineNumber ++ ": field '" ++ e.field ++ "': " ++ e.message

namespace Json

/-- How a value describes itself in a refusal. -/
def unexpected : Json → Unexpected
  | .null => .null
  | .bool b => .bool b
  | .number n => n.unexpected
  | .string s => .str s
  | .array _ => .seq
  | .object _ => .map

end Json

namespace LogEntry
open Json.Decode

def typeError (v : Json) (exp : String) : String := (invalidType v.unexpected exp).code.text

def stringOf (v : Json) : Except String String :=
  match v with
  | .string s => .ok s
  | _ => .error (typeError v "a string")

/-- An optional field: `null` is absent. -/
def optionOf {α : Type} (f : Json → Except String α) : Json → Except String (Option α)
  | .null => .ok none
  | v => some <$> f v

/-- A unit variant named by a string or by an object of one member whose value is `null`. -/
def variantOf {α : Type} (names : List String) (find : String → Option α) (v : Json) :
    Except String α :=
  let known := fun (k : String) =>
    match find k with
    | some a => .ok a
    | none => .error (unknownVariant k names).code.text
  match v with
  | .string s => known s
  | .object [(k, u)] => do
    let a ← known k
    match u with
    | .null => .ok a
    | _ => .error (typeError u "unit variant")
  | .object _ => .error (invalidValue .map "map with a single key").code.text
  | _ => .error (typeError v "string or map")

def sizeOf (v : Json) : Except String Nat :=
  match v with
  | .number (.natural n) => .ok n
  | .number (.negative n) => .error (invalidValue (.signed n) "usize").code.text
  | _ => .error (typeError v "usize")

/-- An entry as its members arrive. -/
structure Partial where
  timestamp : Option String := none
  traceId : Option String := none
  level : Option LogLevel := none
  event : Option String := none
  case : Option String := none
  template : Option String := none
  outcome : Option CaseOutcome := none
  bytes : Option Nat := none
  error : Option String := none
  details : Option Json := none

/-- Takes one member; unknown keys are ignored. -/
def takeMember (p : Partial) : String × Json → Except String Partial
  | ("timestamp", v) => do return { p with timestamp := some (← stringOf v) }
  | ("trace_id", v) => do return { p with traceId := some (← stringOf v) }
  | ("level", v) => do
    return { p with level := some (← variantOf (LogLevel.all.map LogLevel.name) LogLevel.ofName? v) }
  | ("event", v) => do return { p with event := some (← stringOf v) }
  | ("case", v) => do return { p with case := ← optionOf stringOf v }
  | ("template", v) => do return { p with template := ← optionOf stringOf v }
  | ("outcome", v) => do
    return { p with outcome := ← optionOf (variantOf ["pass", "fail"] CaseOutcome.ofName?) v }
  | ("bytes", v) => do return { p with bytes := ← optionOf sizeOf v }
  | ("error", v) => do return { p with error := ← optionOf stringOf v }
  | ("details", v) => return { p with details := match v with | .null => none | d => some d }
  | _ => .ok p

/-- Decodes an entry from a JSON value, member by member in key order. -/
def ofJson? (v : Json) : Except String LogEntry := do
  match v with
  | .object ms =>
    let p ← ms.foldlM takeMember {}
    match p.timestamp, p.traceId, p.level, p.event with
    | some t, some i, some l, some e => .ok ⟨t, i, l, e, p.case, p.template, p.outcome, p.bytes, p.error, p.details⟩
    | none, _, _, _ => .error "missing field `timestamp`"
    | some _, none, _, _ => .error "missing field `trace_id`"
    | some _, some _, none, _ => .error "missing field `level`"
    | some _, some _, some _, none => .error "missing field `event`"
  | _ => .error (typeError v "struct LogEntry")

end LogEntry

namespace LogValidation

/-- The fields every entry has. -/
def requiredFields : List String := ["timestamp", "trace_id", "level", "event"]

def hasSeparator : List Char → Bool
  | ':' :: ':' :: _ => true
  | _ :: rest => hasSeparator rest
  | [] => false

/-- The schema violations of an object, in the order they are checked. -/
def schemaErrors (n : Nat) (v : Json) (ms : List (String × Json)) : List LogValidationError :=
  let has := fun (k : String) => ms.any (·.1 == k)
  let text := fun (k : String) => (v.get? k).bind Json.str?
  let missing := (requiredFields.filter (! has ·)).map fun f => ⟨n, f, "required field missing"⟩
  let level := match text "level" with
    | some l => if (LogLevel.ofName? l).isNone then [⟨n, "level", "invalid level: '" ++ l ++ "'"⟩] else []
    | none => []
  let outcome := match text "outcome" with
    | some o =>
      if (CaseOutcome.ofName? o).isNone then [⟨n, "outcome", "invalid outcome: '" ++ o ++ "'"⟩]
      else []
    | none => []
  let caseResult :=
    if text "event" == some eventCaseResult then
      (["case", "outcome"].filter (! has ·)).map fun f =>
        ⟨n, f, "case_result events must include this field"⟩
    else []
  let trace := match text "trace_id" with
    | some t =>
      if hasSeparator t.toList then []
      else [⟨n, "trace_id", "trace_id should follow <run_id>::<seq> format, got: '" ++ t ++ "'"⟩]
    | none => []
  missing ++ level ++ outcome ++ caseResult ++ trace

/-- Checks one line, numbered `n`: the entry it holds, or every violation found. -/
def line (text : String) (n : Nat) : Except (List LogValidationError) LogEntry :=
  match Json.parse text with
  | .error e => .error [⟨n, "<json>", "invalid JSON: " ++ (e.place text).render⟩]
  | .ok v =>
    match v with
    | .object ms =>
      match schemaErrors n v ms with
      | [] =>
        match LogEntry.ofJson? v with
        | .ok e => .ok e
        | .error m => .error [⟨n, "<deserialization>", "failed to deserialize: " ++ m⟩]
      | errs => .error errs
    | _ => .error [⟨n, "<root>", "expected JSON object"⟩]

/-- The lines of a text: split after each line feed, a final empty part dropped. -/
def lines (s : String) : List String :=
  let parts := s.splitOn "\n"
  if s.endsWith "\n" || s.isEmpty then parts.dropLast else parts

/-- Checks every line of a file's content: the count of non-blank lines and every violation. -/
def file (content : String) : Nat × List LogValidationError :=
  let numbered := (lines content).zipIdx 1
  numbered.foldl (fun (acc : Nat × List LogValidationError) (l, n) =>
    let t := Space.trim l
    if t.isEmpty then acc
    else
      match line t n with
      | .ok _ => (acc.1 + 1, acc.2)
      | .error errs => (acc.1 + 1, acc.2 ++ errs)) (0, [])

end LogValidation
end FormatEngine
