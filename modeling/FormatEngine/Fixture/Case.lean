import FormatEngine.Fixture.Arg
import FormatEngine.Config
import FormatEngine.Json.Reader
import FormatEngine.IoError
/-!
# Fixture cases

A fixture set is a family of test cases. Each case names a template, its arguments, optional
overrides of the configuration and of the arena, and what it expects: an output, or the kind of
the error the call ends with. A case that names both expects the error.

The overrides build the configuration the way a caller would: the two policies are read loosely,
then the precision and the scratch size are set in that order, each checked with the whole
configuration, so the first one out of range is the one reported.
-/
namespace FormatEngine

/-- A case's overrides of the default configuration and arena. -/
structure ConfigOverrides where
  width : Option String := none
  float : Option String := none
  precision : Option Nat := none
  scratchSize : Option Nat := none
  /-- The arena's capacity in bytes; the default capacity otherwise. -/
  arenaCapacity : Option Nat := none
  /-- How many times the template runs on one arena; the last call is the one checked. -/
  repeatCount : Option Nat := none
deriving DecidableEq, Inhabited

def ConfigOverrides.toConfig (o : ConfigOverrides) : Except ConfigError FormatConfig := do
  let c : FormatConfig := {}
  let c := match o.width with
    | some w => { c with width := WidthPolicy.ofText w }
    | none => c
  let c := match o.float with
    | some f => { c with floatStyle := FloatStyle.ofText f }
    | none => c
  let c ← match o.precision with
    | some p => c.withPrecision p
    | none => pure c
  match o.scratchSize with
  | some s => c.withScratchSize s
  | none => pure c

structure FixtureCase where
  name : String
  template : String
  args : List FixtureArg := []
  config : Option ConfigOverrides := none
  expectedOutput : Option String := none
  /-- The kind of the error the call is expected to end with. -/
  expectedError : Option String := none
deriving DecidableEq, Inhabited

/-- What a case expects, written as a result is reported: `error:<kind>` for an error. -/
def FixtureCase.expected (c : FixtureCase) : String :=
  match c.expectedOutput, c.expectedError with
  | _, some kind => "error:" ++ kind
  | some out, none => out
  | none, none => ""

structure FixtureSet where
  version : String
  family : String
  cases : List FixtureCase
deriving DecidableEq, Inhabited

/-- Why fixtures could not be loaded or used. -/
inductive FixtureError where
  | io (e : IoError)
  | json (e : Json.PlacedError)
  | badArg (e : BadArg)
  | config (e : ConfigError)
deriving DecidableEq, Inhabited

def FixtureError.display : FixtureError → String
  | .io e => "io: " ++ e.display
  | .json e => "invalid fixture json: " ++ e.render
  | .badArg e => e.message
  | .config e => "invalid config: " ++ e.message

end FormatEngine
