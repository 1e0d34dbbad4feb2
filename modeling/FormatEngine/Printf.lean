import FormatEngine.Sink
import FormatEngine.Arena
/-!
# Formatting calls

`fprintf` takes the scratch slice from the arena before anything else, even for a template with
no directives; when the arena lacks room the call fails and nothing is written. It then renders
the template's plan with the slice's room and sends it to the sink. `sprintf` does the same into
a fresh buffer and gives the bytes, or only the error.

An `Engine` holds an arena and a configuration and formats with both, so its calls share the
arena until it is reset.
-/
namespace FormatEngine

/-- The result of a formatting call into a sink. -/
structure Outcome where
  arena : Arena
  delivery : Delivery
  result : Except FmtError Nat
deriving Inhabited

/-- Formats a template with arguments into a sink that already holds `d`, taking the scratch
slice from the arena. -/
def fprintf (a : Arena) (c : FormatConfig) (s : Sink) (d : Delivery) (t : Bytes)
    (args : List Arg) : Outcome :=
  match a.alloc c.scratchSize with
  | .error e => ⟨a, d, .error e⟩
  | .ok (_, a') =>
    let (d', r) := s.run (Template.plan c c.scratchSize t args) d
    ⟨a', d', r⟩

/-- Formats into a fresh buffer: the bytes, or the error alone. -/
def sprintf (a : Arena) (c : FormatConfig) (t : Bytes) (args : List Arg) :
    Arena × Except FmtError Bytes :=
  let o := fprintf a c .unbounded .empty t args
  (o.arena, o.result.map fun _ => o.delivery.bytes)

/-- Formats each request in turn on one arena: calls that take the arena's lock one at a time
run exactly so, whatever order they arrive in. -/
def sprintfAll (a : Arena) (c : FormatConfig) :
    List (Bytes × List Arg) → Arena × List (Except FmtError Bytes)
  | [] => (a, [])
  | (t, args) :: rest =>
    let (a, r) := sprintf a c t args
    let (a, rs) := sprintfAll a c rest
    (a, r :: rs)

/-- A formatter that owns an arena and a configuration. -/
structure Engine where
  arena : Arena
  config : FormatConfig
deriving Inhabited

namespace Engine

def new (a : Arena) (c : FormatConfig) : Engine := ⟨a, c⟩

/-- An engine over an arena of the default capacity. -/
def withConfig (c : FormatConfig) : Engine := ⟨Arena.new Arena.defaultCapacity, c⟩

def default : Engine := withConfig {}

/-- Formats into a sink with the engine's arena and configuration. -/
def fprintf (e : Engine) (s : Sink) (d : Delivery) (t : Bytes) (args : List Arg) :
    Engine × Outcome :=
  let o := FormatEngine.fprintf e.arena e.config s d t args
  ({ e with arena := o.arena }, o)

def sprintf (e : Engine) (t : Bytes) (args : List Arg) : Engine × Except FmtError Bytes :=
  let (a, r) := FormatEngine.sprintf e.arena e.config t args
  ({ e with arena := a }, r)

def resetArena (e : Engine) : Engine := { e with arena := e.arena.reset }

end Engine
end FormatEngine
