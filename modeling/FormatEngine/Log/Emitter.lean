import FormatEngine.Log.Entry
import FormatEngine.Numeral
/-!
# Log emitters

An emitter writes entries as lines and numbers them. Each entry it writes advances its sequence
by one; an entry without a trace id gets `<run id>::<sequence>`, the sequence written with at
least three digits. An entry that already has a trace id keeps it but still takes its number,
so the sequence always counts the entries written.
-/
namespace FormatEngine

/-- An emitter: its run id, the entries written so far, and their lines in order. -/
structure LogEmitter where
  runId : String
  seq : Nat
  lines : List String

namespace LogEmitter

def new (runId : String) : LogEmitter := ⟨runId, 0, []⟩

def emitted (m : LogEmitter) : Nat := m.seq

def padded (n : Nat) : String :=
  let ds := Numeral.text 10 false n
  String.ofList ((List.replicate (3 - ds.length) '0') ++ ds.map fun b => Char.ofNat b.toNat)

/-- The trace id of the entry numbered `n`. -/
def traceIdOf (runId : String) (n : Nat) : String := runId ++ "::" ++ padded n

/-- Writes an entry, filling in an empty trace id; gives the entry as written. -/
def emitEntry (m : LogEmitter) (e : LogEntry) : LogEmitter × LogEntry :=
  let n := m.seq + 1
  let e := if e.traceId.isEmpty then { e with traceId := traceIdOf m.runId n } else e
  (⟨m.runId, n, m.lines ++ [e.toJsonl]⟩, e)

def emit (m : LogEmitter) (timestamp : String) (level : LogLevel) (event : String) :
    LogEmitter × LogEntry :=
  m.emitEntry (LogEntry.new timestamp "" level event)

theorem emitEntry_seq (m : LogEmitter) (e : LogEntry) : (m.emitEntry e).1.seq = m.seq + 1 := rfl

theorem emitEntry_lines (m : LogEmitter) (e : LogEntry) :
    (m.emitEntry e).1.lines = m.lines ++ [(m.emitEntry e).2.toJsonl] := rfl

end LogEmitter
end FormatEngine
