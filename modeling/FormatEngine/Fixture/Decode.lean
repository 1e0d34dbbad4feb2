import FormatEngine.Fixture.Case
import FormatEngine.Json.Decode
/-!
# Reading fixture sets

A fixture set is read from its JSON text by the typed readers, field by field as the text gives
them. An argument is an object with one key naming its kind; the arguments, the configuration
and the two expectations may be left out; every other field is required. Keys that are not
fields are skipped.
-/
namespace FormatEngine.Fixture
open Json Json.Decode

/-- The kinds an argument may name. -/
def argKinds : List String := ["int", "uint", "double", "str", "char", "ptr"]

def char : Reader Char := stringWith "a character" fun s =>
  match s.toList with
  | [c] => .ok c
  | _ => .error (invalidValue (.str s) "a character")

def arg : Reader FixtureArg := tagged argKinds fun
  | "int" => FixtureArg.int <$> int32
  | "uint" => FixtureArg.uint <$> uint32
  | "double" => FixtureArg.double <$> float
  | "str" => FixtureArg.str <$> string
  | "char" => FixtureArg.char <$> char
  | _ => (fun n => FixtureArg.ptr n.toUInt64) <$> size

/-- Records a field, refusing one seen before. -/
def once {σ β : Type} (name : String) (r : Reader β) (put : β → σ → σ) :
    List String × σ → Option (Reader (List String × σ)) :=
  fun (seen, s) => some do
    let v ← fieldValue name (seen.contains name) r
    return (name :: seen, put v s)

/-- The overrides written as an object. -/
def overridesField (key : String) : List String × ConfigOverrides →
    Option (Reader (List String × ConfigOverrides)) :=
  match key with
  | "width" => once key (option string) fun v o => { o with width := v }
  | "float" => once key (option string) fun v o => { o with float := v }
  | "precision" => once key (option size) fun v o => { o with precision := v }
  | "scratch_size" => once key (option size) fun v o => { o with scratchSize := v }
  | "arena_capacity" => once key (option size) fun v o => { o with arenaCapacity := v }
  | "repeat" => once key (option size) fun v o => { o with repeatCount := v }
  | _ => fun _ => none

/-- An optional item of a struct written as an array. -/
def optionalItem {α : Type} (first : Bool) (r : Reader (Option α)) : Reader (Option α) := do
  return (← element first r).getD none

def overrides : Reader ConfigOverrides :=
  struct "struct ConfigOverrides"
    (do
      let width ← optionalItem true (option string)
      let float ← optionalItem false (option string)
      let precision ← optionalItem false (option size)
      let scratchSize ← optionalItem false (option size)
      let arenaCapacity ← optionalItem false (option size)
      let repeatCount ← optionalItem false (option size)
      return ⟨width, float, precision, scratchSize, arenaCapacity, repeatCount⟩)
    (do
      let (_, o) ← members overridesField (fuelFor (← get)) true ([], {})
      return o)

/-- A case as its fields arrive: the two required ones may still be missing. -/
structure PartialCase where
  name : Option String := none
  template : Option String := none
  args : List FixtureArg := []
  config : Option ConfigOverrides := none
  expectedOutput : Option String := none
  expectedError : Option String := none

/-- The fields of a case written as an object. -/
def caseField (key : String) : List String × PartialCase →
    Option (Reader (List String × PartialCase)) :=
  match key with
  | "name" => once key string fun v c => { c with name := some v }
  | "template" => once key string fun v c => { c with template := some v }
  | "args" => once key (seq arg) fun v c => { c with args := v }
  | "config" => once key (option overrides) fun v c => { c with config := v }
  | "expected_output" => once key (option string) fun v c => { c with expectedOutput := v }
  | "expected_error" => once key (option string) fun v c => { c with expectedError := v }
  | _ => fun _ => none

/-- A case once its object is read, or the first required field it lacks. -/
def PartialCase.finish (c : PartialCase) : Except ReadError FixtureCase :=
  match c.name, c.template with
  | some n, some t => .ok ⟨n, t, c.args, c.config, c.expectedOutput, c.expectedError⟩
  | none, _ => .error (missingField "name")
  | some _, none => .error (missingField "template")

def case : Reader FixtureCase :=
  let exp := "struct FixtureCase with 6 elements"
  struct "struct FixtureCase"
    (do
      let name ← required exp 0 string
      let template ← required exp 1 string
      let args := (← element false (seq arg)).getD []
      let config ← optionalItem false (option overrides)
      let expectedOutput ← optionalItem false (option string)
      let expectedError ← optionalItem false (option string)
      return ⟨name, template, args, config, expectedOutput, expectedError⟩)
    (do
      let (_, c) ← members caseField (fuelFor (← get)) true ([], {})
      match c.finish with
      | .ok a => return a
      | .error e => throw e)

/-- A set as its fields arrive. -/
structure PartialSet where
  version : Option String := none
  family : Option String := none
  cases : Option (List FixtureCase) := none

/-- The fields of a set written as an object. -/
def setField (key : String) : List String × PartialSet →
    Option (Reader (List String × PartialSet)) :=
  match key with
  | "version" => once key string fun v s => { s with version := some v }
  | "family" => once key string fun v s => { s with family := some v }
  | "cases" => once key (seq case) fun v s => { s with cases := some v }
  | _ => fun _ => none

/-- A set once its object is read, or the first required field it lacks. -/
def PartialSet.finish (s : PartialSet) : Except ReadError FixtureSet :=
  match s.version, s.family, s.cases with
  | some v, some f, some cs => .ok ⟨v, f, cs⟩
  | none, _, _ => .error (missingField "version")
  | some _, none, _ => .error (missingField "family")
  | some _, some _, none => .error (missingField "cases")

def set : Reader FixtureSet :=
  let exp := "struct FixtureSet with 3 elements"
  struct "struct FixtureSet"
    (do
      let version ← required exp 0 string
      let family ← required exp 1 string
      let cases ← required exp 2 (seq case)
      return ⟨version, family, cases⟩)
    (do
      let (_, s) ← members setField (fuelFor (← get)) true ([], {})
      match s.finish with
      | .ok a => return a
      | .error e => throw e)

end FormatEngine.Fixture

namespace FormatEngine.FixtureSet

/-- Reads a fixture set from its JSON text. -/
def ofJson (text : String) : Except FixtureError FixtureSet :=
  match Json.run Fixture.set text with
  | .ok s => .ok s
  | .error e => .error (.json (e.place text))

end FormatEngine.FixtureSet
