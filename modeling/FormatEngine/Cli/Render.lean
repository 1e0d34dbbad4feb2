import FormatEngine.Printf
import FormatEngine.Fixture.Arg
/-!
# Rendering one template

A render request names a template, its arguments in the `kind:value` form and optional
overrides of the width policy, the float style and the precision. The configuration is settled
first, from the environment's defaults with the overrides applied; then the arguments are read in
order, and the first one that cannot be read ends the request; only then is the template
formatted, with a fresh arena of the default capacity.
-/
namespace FormatEngine

/-- Why a render request stops before formatting. -/
inductive RenderError where
  | config (e : ConfigError)
  | badArg (e : BadArg)
deriving DecidableEq, Inhabited

namespace Render

/-- The base configuration with the given overrides: the policies are read loosely and the
precision is validated. -/
def buildConfig (base : FormatConfig) (width float : Option String) (precision : Option Nat) :
    Except ConfigError FormatConfig :=
  let c := match width with
    | some w => { base with width := WidthPolicy.ofText w }
    | none => base
  let c := match float with
    | some f => { c with floatStyle := FloatStyle.ofText f }
    | none => c
  match precision with
  | some p => c.withPrecision p
  | none => .ok c

/-- Reads every argument, stopping at the first that cannot be read. -/
def parseArgs : List String → Except BadArg (List FixtureArg)
  | [] => .ok []
  | raw :: rest => do
    let a ← FixtureArg.parse raw
    let as ← parseArgs rest
    return a :: as

/-- Settles the request, then formats it into an unbounded sink. -/
def run (base : FormatConfig) (template : Bytes) (args : List String)
    (width float : Option String) (precision : Option Nat) : Except RenderError Outcome := do
  let c ← (buildConfig base width float precision).mapError RenderError.config
  let parsed ← (parseArgs args).mapError RenderError.badArg
  let (_, o) := (Engine.withConfig c).fprintf .unbounded .empty template (parsed.map FixtureArg.toArg)
  return o

end Render
end FormatEngine
