/-!
# Input and output errors

An input or output error as a program reports it. Most are the operating system's, known by
their number: the number decides the kind the error falls under and the system's message. A
few a program raises itself, with a kind and a fixed message. The display of a system error is
its message with the number; the debug form names the number, the kind and the message.
-/
namespace FormatEngine

inductive IoError where
  /-- An error the operating system reported by its number. -/
  | os (code : Nat)
  /-- An error of a kind with a fixed message. -/
  | simple (kind message : String)
deriving DecidableEq, Inhabited

namespace IoError

/-- The kind and the message of a system error number. -/
def describe : Nat → String × String
  | 1 => ("PermissionDenied", "Operation not permitted")
  | 2 => ("NotFound", "No such file or directory")
  | 5 => ("Uncategorized", "Input/output error")
  | 6 => ("Uncategorized", "No such device or address")
  | 12 => ("OutOfMemory", "Cannot allocate memory")
  | 13 => ("PermissionDenied", "Permission denied")
  | 16 => ("ResourceBusy", "Device or resource busy")
  | 17 => ("AlreadyExists", "File exists")
  | 18 => ("CrossesDevices", "Invalid cross-device link")
  | 20 => ("NotADirectory", "Not a directory")
  | 21 => ("IsADirectory", "Is a directory")
  | 22 => ("InvalidInput", "Invalid argument")
  | 24 => ("Uncategorized", "Too many open files")
  | 26 => ("ExecutableFileBusy", "Text file busy")
  | 27 => ("FileTooLarge", "File too large")
  | 28 => ("StorageFull", "No space left on device")
  | 30 => ("ReadOnlyFilesystem", "Read-only file system")
  | 31 => ("TooManyLinks", "Too many links")
  | 36 => ("InvalidFilename", "File name too long")
  | 38 => ("Unsupported", "Function not implemented")
  | 39 => ("DirectoryNotEmpty", "Directory not empty")
  | 40 => ("FilesystemLoop", "Too many levels of symbolic links")
  | 122 => ("QuotaExceeded", "Disk quota exceeded")
  | n => ("Uncategorized", "Unknown error " ++ toString n)

def notFound : IoError := .os 2

def notADirectory : IoError := .os 20

def isADirectory : IoError := .os 21

def alreadyExists : IoError := .os 17

/-- A path, or one name in it, longer than the system takes. -/
def nameTooLong : IoError := .os 36

def storageFull : IoError := .os 28

def noDevice : IoError := .os 6

def invalidUtf8 : IoError := .simple "InvalidData" "stream did not contain valid UTF-8"

def kind : IoError → String
  | .os n => (describe n).1
  | .simple k _ => k

def message : IoError → String
  | .os n => (describe n).2
  | .simple _ m => m

def display : IoError → String
  | .os n => (describe n).2 ++ " (os error " ++ toString n ++ ")"
  | .simple _ m => m

def debug : IoError → String
  | .os n => "Os \x7b code: " ++ toString n ++ ", kind: " ++ (describe n).1 ++ ", message: \"" ++
      (describe n).2 ++ "\" \x7d"
  | .simple k m => "Error \x7b kind: " ++ k ++ ", message: \"" ++ m ++ "\" \x7d"

end IoError
end FormatEngine
