import FormatEngine.Cli.Parse
import FormatEngine.Cli.Files
import FormatEngine.Cli.Render
import FormatEngine.Demo
import FormatEngine.Fixture.Decode
import FormatEngine.Log.Run
/-!
# Running a command

A command line is read first: a help text is printed to standard output with status 0, a
refusal to standard error with status 2. A command that fails prints `Error: ` and the debug
form of its failure to standard error, with status 1.

* `demo` prints the demonstration lines with the environment's policies and any overrides.
* `render` formats one template; what was written before a failing directive stays printed.
* `verify` loads a fixture file, or every `.json` entry of a directory in name order (an entry
  that fails to load is skipped with a note), runs every case, and reports each failing case
  with its difference, then the totals. With a log path it first makes the log's directory and
  the empty log, and writes every verdict and each set's totals there. It fails when a case
  failed.

The file operations go through `MonadFiles`, so a run can be reasoned about over a file tree
held as a value.
-/
namespace FormatEngine

/-- The name of a kind as its debug form writes it. -/
def ArgKind.debugName : ArgKind → String
  | .int => "Int"
  | .uint => "Uint"
  | .double => "Double"
  | .str => "Str"
  | .ptr => "Ptr"

def FmtError.debug : FmtError → String
  | .arenaExhausted r m => "ArenaExhausted \x7b requested: " ++ toString r ++ ", remaining: " ++
      toString m ++ " \x7d"
  | .missingArgument i k => "MissingArgument \x7b index: " ++ toString i ++ ", expected: " ++
      k.debugName ++ " \x7d"
  | .argumentMismatch i k f => "ArgumentMismatch \x7b index: " ++ toString i ++ ", expected: " ++
      k.debugName ++ ", found: " ++ f.debugName ++ " \x7d"
  | .scratchOverflow n c => "ScratchOverflow \x7b needed: " ++ toString n ++ ", capacity: " ++
      toString c ++ " \x7d"
  | .io m => "Io(" ++ Text.debugQuote m ++ ")"

def ConfigError.debug : ConfigError → String
  | .precisionTooLarge p m => "PrecisionTooLarge \x7b requested: " ++ toString p ++ ", max: " ++
      toString m ++ " \x7d"
  | .scratchTooSmall s m => "ScratchTooSmall \x7b requested: " ++ toString s ++ ", min: " ++
      toString m ++ " \x7d"

def FixtureError.debug : FixtureError → String
  | .io e => "Io(" ++ e.debug ++ ")"
  | .json e => "Json(" ++ e.debug ++ ")"
  | .badArg e => "BadArg \x7b raw: " ++ Text.debugQuote e.raw ++ ", reason: " ++
      Text.debugQuote e.reason ++ " \x7d"
  | .config e => "Config(" ++ e.debug ++ ")"

namespace Cli

/-- What a run reads besides its arguments: the two policy variables of the environment, the
address the demonstration's pointer shows, and the time its log entries carry. -/
structure Environment where
  width : Option String := none
  float : Option String := none
  address : UInt64 := 0
  timestamp : String := ""

/-- What a run leaves: its exit status and what it printed. -/
structure Report where
  status : Nat
  stdout : Bytes
  stderr : String
deriving DecidableEq, Inhabited

inductive Failure where
  | format (e : FmtError)
  | config (e : ConfigError)
  | fixture (e : FixtureError)
  | io (e : IoError)
  | message (text : String)
deriving DecidableEq, Inhabited

def Failure.debug : Failure → String
  | .format e => e.debug
  | .config e => e.debug
  | .fixture e => e.debug
  | .io e => e.debug
  | .message t => Text.debugQuote t

/-- A failed command's report: what it printed, then the failure. -/
def failedWith (stdout : Bytes) (said : String) (f : Failure) : Report :=
  ⟨1, stdout, said ++ "Error: " ++ f.debug ++ "\n"⟩

/-- The campaign and run id of a verification. -/
def campaign : String := "fixture-verify"

/-- The path of a directory entry, as a listing names it. -/
def joinPath (dir name : String) : String :=
  if dir.isEmpty || dir.endsWith "/" then dir ++ name else dir ++ "/" ++ name

/-- The path of the directory holding a path, read from its text; empty when it is the working
directory. -/
def parentPath (p : String) : String := (FileTree.parentPath p).getD ""

/-- The extension of a file name: the text after its last dot, when the dot does not begin the
name. -/
def extension? (name : String) : Option String :=
  match (name.splitOn ".").reverse with
  | ext :: before@(_ :: _) => if ".".intercalate before.reverse == "" then none else some ext
  | _ => none

/-- The text of the entries a listing keeps, in name order. -/
def fixtureNames (names : List String) : List String :=
  (names.filter fun n => extension? n == some "json").mergeSort fun a b => decide (a ≤ b)

section Commands

variable {m : Type → Type} [Monad m] [MonadFiles m]

def loadFile (p : String) : m (Except FixtureError FixtureSet) := do
  match ← MonadFiles.readText p with
  | .error e => return .error (.io e)
  | .ok text => return FixtureSet.ofJson text

/-- Loads the sets a path names, with the notes of the entries skipped. -/
def loadSets (path : String) : m (List String × Except Failure (List FixtureSet)) := do
  if ← MonadFiles.isFile path then
    return ([], ((← loadFile path).map fun s => [s]).mapError Failure.fixture)
  else
    match ← MonadFiles.listDir path with
    | .error e => return ([], .error (.io e))
    | .ok names =>
      let (notes, sets) ← (fixtureNames names).foldlM
        (fun (acc : List String × List FixtureSet) n => do
          let p := joinPath path n
          match ← loadFile p with
          | .ok s => return (acc.1, acc.2 ++ [s])
          | .error e => return (acc.1 ++ ["Skipping " ++ p ++ ": " ++ e.display], acc.2)) ([], [])
      if sets.isEmpty then
        return (notes, .error (.message ("No fixture JSON files found in " ++ path)))
      else return (notes, .ok sets)

/-- Runs the sets with a log at `p`: makes its directory and the empty log, runs every set
with one emitter, and writes the entries. -/
def runWithLog (timestamp p : String) (sets : List FixtureSet) :
    m (Except IoError (List VerificationResult)) := do
  let parent := parentPath p
  let made ← if parent.isEmpty then pure (.ok ()) else MonadFiles.createDirAll parent
  match made with
  | .error e => return .error e
  | .ok () =>
    match ← MonadFiles.writeText p "" with
    | .error e => return .error e
    | .ok () =>
      let (em, rs) := sets.foldl (fun (acc : LogEmitter × List VerificationResult) s =>
        let (em, rs) := Runner.runLogged campaign timestamp s acc.1
        (em, acc.2 ++ rs)) (LogEmitter.new campaign, [])
      match ← MonadFiles.writeText p (String.join (em.lines.map (· ++ "\n"))) with
      | .error e => return .error e
      | .ok () => return .ok rs

/-- The report lines of the failing cases. -/
def failureLines (rs : List VerificationResult) : String :=
  String.join ((rs.filter (!·.passed)).map fun r =>
    "FAIL " ++ r.caseName ++ "\n" ++ match r.diff with
      | some d => d ++ "\n"
      | none => "")

/-- Verifies the sets a path names, logging them when a log path is given. -/
def verify (timestamp fixture : String) (log : Option String) : m Report := do
  let (notes, loaded) ← loadSets fixture
  let said := "Verifying against fixtures in " ++ fixture ++ "\n" ++ String.join (notes.map (· ++ "\n"))
  match loaded with
  | .error f => return failedWith [] said f
  | .ok sets =>
    let ran : Except IoError (List VerificationResult × String) ← match log with
      | none => pure (.ok (sets.flatMap Runner.run, ""))
      | some p => do
        let r ← runWithLog timestamp p sets
        pure (r.map fun rs => (rs, "Wrote structured log to " ++ p ++ "\n"))
    match ran with
    | .error e => return failedWith [] said (.io e)
    | .ok (rs, note) =>
      let s := VerificationSummary.ofResults rs
      let said := said ++ note ++ failureLines rs ++ "Verification complete: total=" ++
        toString s.total ++ ", passed=" ++ toString s.passed ++ ", failed=" ++ toString s.failed ++ "\n"
      if s.allPassed then return ⟨0, [], said⟩
      else return failedWith [] said (.message "Conformance verification failed")

end Commands

def demo (env : Environment) (width float : Option String) : Report :=
  let base := FormatConfig.ofEnvironment env.width env.float
  match Render.buildConfig base width float none with
  | .error e => failedWith [] "" (.config e)
  | .ok c =>
    match Demo.run env.address c .unbounded with
    | (d, .ok _) => ⟨0, d.bytes, ""⟩
    | (d, .error e) => failedWith d.bytes "" (.format e)

def render (env : Environment) (template : String) (args : List String) (width float : Option String)
    (precision : Option Nat) : Report :=
  let base := FormatConfig.ofEnvironment env.width env.float
  match Render.run base (Bytes.ofString template) args width float precision with
  | .error (.config e) => failedWith [] "" (.config e)
  | .error (.badArg b) => failedWith [] "" (.fixture (.badArg b))
  | .ok o =>
    match o.result with
    | .ok _ => ⟨0, o.delivery.bytes, ""⟩
    | .error e => failedWith o.delivery.bytes "" (.format e)

def execute {m : Type → Type} [Monad m] [MonadFiles m] (env : Environment) (argv : List String) :
    m Report :=
  match parse argv with
  | .help text => pure ⟨0, Bytes.ofString text, ""⟩
  | .refused text => pure ⟨2, [], text⟩
  | .run (.demo width float) => pure (demo env width float)
  | .run (.render template args width float precision) =>
    pure (render env template args width float precision)
  | .run (.verify fixture log) => verify env.timestamp fixture log

end Cli
end FormatEngine
