import FormatEngine.Argument
import FormatEngine.Room
/-!
# Formatting errors

Why a formatting call fails: the arena has less room than the scratch slice asks for, a
directive finds no argument left or one of another kind, a converter lacks room in the scratch
slice, or the sink refuses a write. `FmtError.message` holds every message text, and
`FmtError.kind` the short name of each cause.
-/
namespace FormatEngine

/-- The cause of a failed formatting call. -/
inductive FmtError where
  /-- The arena had `remaining` bytes and the call asked for `requested`. -/
  | arenaExhausted (requested remaining : Nat)
  /-- The directive taking argument `index` found none left. -/
  | missingArgument (index : Nat) (expected : ArgKind)
  /-- The directive taking argument `index` found one of another kind. -/
  | argumentMismatch (index : Nat) (expected found : ArgKind)
  /-- A converter needed `needed` bytes of scratch and had `capacity`. -/
  | scratchOverflow (needed capacity : Nat)
  /-- The sink refused a write. -/
  | io (message : String)
deriving DecidableEq, Inhabited

namespace FmtError

def kind : FmtError → String
  | .arenaExhausted .. => "arena_exhausted"
  | .missingArgument .. => "missing_argument"
  | .argumentMismatch .. => "argument_mismatch"
  | .scratchOverflow .. => "scratch_overflow"
  | .io _ => "io"

def message : FmtError → String
  | .arenaExhausted r m => s!"scratch arena exhausted: requested {r} bytes, {m} remaining"
  | .missingArgument i k =>
    s!"argument {i}: directive expects {k.name}, but no argument remains"
  | .argumentMismatch i k f => s!"argument {i}: directive expects {k.name}, found {f.name}"
  | .scratchOverflow n c => s!"conversion needs {n} bytes but the buffer holds {c}"
  | .io m => s!"io: {m}"

/-- A converter's lack of room as a formatting error. -/
def ofOverflow (o : Overflow) : FmtError := .scratchOverflow o.needed o.capacity

end FmtError
end FormatEngine
