import FormatEngine.Cli.Run
import Std.Time.DateTime.Timestamp
/-!
# The command-line program

The program reads its arguments and the two policy variables of its environment, runs the
command line with the files of the operating system, prints what the run printed, and exits
with its status. Log entries carry the time the run started, in UTC.

The file operations the commands need are made here through `IO`. A file is taken to be one
when it can be read. A directory's entries cannot be listed from here, so a directory given as
the fixture path is refused with the system's "not implemented" error; fixture files are named
one at a time.
-/
namespace FormatEngine.Cli

/-- The error an `IO` failure stands for: the system's number when it has one. -/
def ioErrorOf : IO.Error → IoError
  | .alreadyExists _ c _ => .os c.toNat
  | .otherError c _ => .os c.toNat
  | .resourceBusy c _ => .os c.toNat
  | .resourceVanished c _ => .os c.toNat
  | .unsupportedOperation c _ => .os c.toNat
  | .hardwareFault c _ => .os c.toNat
  | .unsatisfiedConstraints c _ => .os c.toNat
  | .illegalOperation c _ => .os c.toNat
  | .protocolError c _ => .os c.toNat
  | .timeExpired c _ => .os c.toNat
  | .interrupted _ c _ => .os c.toNat
  | .noFileOrDirectory _ c _ => .os c.toNat
  | .invalidArgument _ c _ => .os c.toNat
  | .permissionDenied _ c _ => .os c.toNat
  | .resourceExhausted _ c _ => .os c.toNat
  | .inappropriateType _ c _ => .os c.toNat
  | .noSuchThing _ c _ => .os c.toNat
  | .unexpectedEof => .simple "UnexpectedEof" "failed to fill whole buffer"
  | .userError m => .simple "Other" m

/-- Runs an action, answering its failure as an error value. -/
def attemptIo {α : Type} (act : IO α) : IO (Except IoError α) := do
  try return .ok (← act) catch e => return .error (ioErrorOf e)

/-- The files of the operating system. -/
instance : MonadFiles IO where
  isFile p := do
    match ← attemptIo (IO.FS.readBinFile p) with
    | .ok _ => return true
    | .error _ => return false
  listDir _ := return .error (.os 38)
  readText p := do
    match ← attemptIo (IO.FS.readBinFile p) with
    | .ok b =>
      match String.fromUTF8? b with
      | some s => return .ok s
      | none => return .error IoError.invalidUtf8
    | .error e => return .error e
  createDirAll p := attemptIo (IO.FS.createDirAll p)
  writeText p text := attemptIo (IO.FS.writeFile p text)

/-- The address the demonstration's pointer line shows. -/
def pointerAddress : UInt64 := 0x555555556000

end FormatEngine.Cli

/-- Runs the command line and exits with its status. -/
def main (args : List String) : IO UInt32 := do
  let width ← IO.getEnv "BUMPFMT_WIDTH"
  let float ← IO.getEnv "BUMPFMT_FLOAT"
  let now ← Std.Time.Timestamp.now
  let ms := now.toMillisecondsSinceUnixEpoch.val.toNat
  let env : FormatEngine.Cli.Environment :=
    ⟨width, float, FormatEngine.Cli.pointerAddress, FormatEngine.Clock.formatUtc (ms / 1000) (ms % 1000)⟩
  let r ← FormatEngine.Cli.execute env args
  let out ← IO.getStdout
  out.write (ByteArray.mk r.stdout.toArray)
  out.flush
  let err ← IO.getStderr
  err.putStr r.stderr
  err.flush
  return r.status.toUInt32
