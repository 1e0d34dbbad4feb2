import FormatEngine.Fixture.Case
import FormatEngine.Json.Printer
/-!
# Writing fixture sets

A fixture set is written as pretty JSON with its fields in declaration order. The arguments are
always written; an absent configuration, override or expectation is left out. A `double` that
is not finite has no JSON number and is written `null`.
-/
namespace FormatEngine

def FixtureArg.toJson : FixtureArg → Json
  | .int v => .object [("int", Json.int v.toInt)]
  | .uint v => .object [("uint", Json.nat v.toNat)]
  | .double x =>
    .object [("double", match x.classify with
      | .finite .. => .number (.float x)
      | _ => .null)]
  | .str s => .object [("str", .string s)]
  | .char c => .object [("char", .string (String.ofList [c]))]
  | .ptr p => .object [("ptr", Json.nat p.toNat)]

/-- The members present among optional ones, in order. -/
def presentMembers : List (String × Option Json) → List (String × Json)
  | [] => []
  | (k, some v) :: rest => (k, v) :: presentMembers rest
  | (_, none) :: rest => presentMembers rest

/-- The overrides that are set. -/
def ConfigOverrides.toJson (o : ConfigOverrides) : Json :=
  .object (presentMembers
    [("width", o.width.map .string), ("float", o.float.map .string),
     ("precision", o.precision.map Json.nat), ("scratch_size", o.scratchSize.map Json.nat),
     ("arena_capacity", o.arenaCapacity.map Json.nat), ("repeat", o.repeatCount.map Json.nat)])

def FixtureCase.toJson (c : FixtureCase) : Json :=
  .object ([("name", .string c.name), ("template", .string c.template),
    ("args", .array (c.args.map FixtureArg.toJson))] ++ presentMembers
    [("config", c.config.map ConfigOverrides.toJson),
     ("expected_output", c.expectedOutput.map .string),
     ("expected_error", c.expectedError.map .string)])

def FixtureSet.toJson (s : FixtureSet) : Json :=
  .object [("version", .string s.version), ("family", .string s.family),
    ("cases", .array (s.cases.map FixtureCase.toJson))]

def FixtureSet.toText (s : FixtureSet) : String := Json.pretty s.toJson

end FormatEngine
