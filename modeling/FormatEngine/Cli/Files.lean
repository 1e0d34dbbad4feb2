import FormatEngine.IoError
import FormatEngine.Cli.SystemTree
/-!
# Files

The file operations a command performs, as a class over the monad it runs in: whether a path
names a file, the names in a directory, reading and writing a file's text, and creating a
directory with all its parents. One instance answers from a file tree held as a value, which is
what the commands are reasoned about with; another makes the calls of the operating system.

In the tree a path is walked from the working directory piece by piece, as the system does: an
empty piece and `.` stay, `..` goes up, and every piece before the last must lead to a
directory. A path starting with `/` is walked from the root, where the system's directories,
devices and links are known (`SystemTree`); each step follows a link it lands on. The empty
path names nothing, and a path ending in `/`, `.` or `..` can name only a directory. A
directory exists when it was made, or when anything lies below it; the working directory always
exists. The operations fail as the system's do: a path of 4096 bytes or more, or a name of more
than 255 bytes met on the way, is too long; a path through a file or a device is not a
directory, a directory cannot be read or written as a file, a file cannot be made in a
directory that does not exist, and a directory cannot be made where a file is. A device is
neither a file nor a directory, and what writing to it does is its kind.
-/
namespace FormatEngine

/-- File operations over paths. -/
class MonadFiles (m : Type → Type) where
  /-- Whether a path names a file. -/
  isFile : String → m Bool
  /-- The names of the entries of a directory. -/
  listDir : String → m (Except IoError (List String))
  /-- The text of a file. -/
  readText : String → m (Except IoError String)
  /-- Makes a directory and every missing parent. -/
  createDirAll : String → m (Except IoError Unit)
  /-- Makes or empties a file and writes the text into it. -/
  writeText : String → String → m (Except IoError Unit)

/-- The longest name a directory takes, in bytes. -/
def nameMax : Nat := 255

/-- The bytes a path must stay below. -/
def pathMax : Nat := 4096

/-- A file tree: files by their path components with their text, the directories made, and the
system around them. -/
structure FileTree where
  files : List (List String × String) := []
  dirs : List (List String) := []
  system : SystemTree := SystemTree.standard
deriving Inhabited

namespace FileTree

/-- The pieces of a path between slashes, empty ones dropped. -/
def pieces (p : String) : List String := (p.splitOn "/").filter (· ≠ "")

/-- The components of a path that names no `..`: its pieces other than `.`. -/
def components (p : String) : List String := (pieces p).filter (· ≠ ".")

/-- The text of the file at the components, if there is one. -/
def fileAt? (t : FileTree) (cs : List String) : Option String := (t.files.find? (·.1 == cs)).map (·.2)

def isDeviceAt (t : FileTree) (cs : List String) : Bool := (t.system.deviceAt? cs).isSome

/-- Every place the tree and the system know, save the directories made. -/
def knownPlaces (t : FileTree) : List (List String) :=
  t.files.map (·.1) ++ t.system.dirs ++ t.system.devices.map (·.1) ++ t.system.links.map (·.1)

/-- Whether the components name a directory. Besides the directories of the tree and of the
system, the working directory, the directories above it (`..`, `../..`, …) and the root `/`
are directories, and so is every directory anything known lies in; nothing else is known to lie
above the working directory. -/
def isDirAt (t : FileTree) (cs : List String) : Bool :=
  cs.isEmpty || cs == ["/"] || cs.all (· == "..") || (t.dirs ++ t.system.dirs).any (cs <+: ·) ||
    t.knownPlaces.any fun f => cs <+: f && cs != f

/-- Whether the components name something that is not a directory: a file or a device. -/
def isLeafAt (t : FileTree) (cs : List String) : Bool := (t.fileAt? cs).isSome || t.isDeviceAt cs

/-- The names directly below a directory, without repeats, in first-seen order. -/
def childrenAt (t : FileTree) (cs : List String) : List String :=
  let below := (t.knownPlaces ++ t.dirs).filterMap fun p =>
    if cs <+: p then (p.drop cs.length).head? else none
  below.foldl (fun acc n => if acc.contains n then acc else acc ++ [n]) []

/-- Where one piece leads from a directory: `.` stays, `..` goes up, a name goes down. Above the
working directory the places are written with `..` pieces, and the root `/` is its own parent. -/
def stepPiece (cur : List String) (piece : String) : List String :=
  if piece == "." then cur
  else if piece == ".." then
    if cur == ["/"] then cur
    else if cur.isEmpty || cur.getLast? == some ".." then cur ++ [".."]
    else cur.dropLast
  else cur ++ [piece]

/-- Whether a piece is a name longer than a directory takes. -/
def tooLong (piece : String) : Bool := nameMax < piece.utf8ByteSize

/-- Walks pieces from a directory. A name is looked up in the directory reached, which refuses
one that is too long; a link landed on is followed. Every piece but the last must lead to a
directory: to a file or a device it fails as not a directory, to nothing as not found. -/
def walk (t : FileTree) : List String → List String → Except IoError (List String)
  | cur, [] => .ok cur
  | cur, piece :: rest =>
    if tooLong piece then .error .nameTooLong
    else
      let next := t.system.follow (stepPiece cur piece)
      match rest with
      | [] => .ok next
      | _ :: _ =>
        if t.isDirAt next then walk t next rest
        else if t.isLeafAt next then .error .notADirectory
        else .error .notFound

/-- Whether a path can only name a directory: it ends in `/`, or its last piece is `.` or `..`. -/
def namesDirOnly (p : String) : Bool :=
  p.endsWith "/" || (pieces p).getLast? == some "." || (pieces p).getLast? == some ".."

/-- Where a path is walked from: the root for a path starting with `/`, else the working
directory. -/
def origin (p : String) : List String := if p.startsWith "/" then ["/"] else []

/-- Where a path leads, and whether it can only name a directory. The empty path leads nowhere,
and one of `pathMax` bytes or more is refused before any of it is walked. -/
def resolve (t : FileTree) (p : String) : Except IoError (List String × Bool) :=
  if p.isEmpty then .error .notFound
  else if pathMax ≤ p.utf8ByteSize then .error .nameTooLong
  else (t.walk (origin p) (pieces p)).map fun cs => (cs, namesDirOnly p)

/-- The directory the last piece of a path lies in: every piece before the last must lead to a
directory, and the last is not looked up. -/
def resolveIn (t : FileTree) (p : String) : Except IoError (List String) :=
  if pathMax ≤ p.utf8ByteSize then .error .nameTooLong
  else t.walk (origin p) ((pieces p).dropLast ++ ["."])

def isFileAt (t : FileTree) (p : String) : Bool :=
  match t.resolve p with
  | .ok (cs, false) => (t.fileAt? cs).isSome
  | _ => false

def isDirPath (t : FileTree) (p : String) : Bool :=
  match t.resolve p with
  | .ok (cs, _) => t.isDirAt cs
  | .error _ => false

/-- Reads a file; a device gives no text. -/
def read (t : FileTree) (p : String) : Except IoError String := do
  let (cs, dirOnly) ← t.resolve p
  match t.fileAt? cs with
  | some s => if dirOnly then .error .notADirectory else .ok s
  | none =>
    if t.isDeviceAt cs then (if dirOnly then .error .notADirectory else .ok "")
    else if t.isDirAt cs then .error .isADirectory else .error .notFound

def list (t : FileTree) (p : String) : Except IoError (List String) := do
  let (cs, _) ← t.resolve p
  if t.isDirAt cs then .ok (t.childrenAt cs)
  else if t.isLeafAt cs then .error .notADirectory
  else .error .notFound

/-- Makes one directory; a name already taken is refused. -/
def mkdir (t : FileTree) (p : String) : Except IoError FileTree := do
  let (cs, _) ← t.resolve p
  if t.isDirAt cs || t.isLeafAt cs then .error .alreadyExists
  else .ok { t with dirs := t.dirs ++ [cs] }

/-- The directory a path lies in, read from its text: the path without its last piece (`.`
pieces dropped, a leading `/` kept); none when there is no piece. -/
def parentPath (p : String) : Option String :=
  let cs := components p
  let root := if p.startsWith "/" then "/" else ""
  if cs.isEmpty then none else some (root ++ "/".intercalate cs.dropLast)

/-- Makes a directory with every missing parent: it tries the directory; when a parent is
missing it makes the parent first and tries again; a directory already there is success. The
empty path is already there. -/
def mkdirAll (t : FileTree) (p : String) : Except IoError FileTree :=
  go (components p).length t p
where
  /-- The attempt, with one unit of fuel for each parent still above. -/
  go : Nat → FileTree → String → Except IoError FileTree
    | fuel, t, p =>
      if p.isEmpty then .ok t
      else
        match t.mkdir p, fuel, parentPath p with
        | .ok t', _, _ => .ok t'
        | .error e, fuel + 1, some q =>
          if e == .notFound then do
            let t ← go fuel t q
            match t.mkdir p with
            | .ok t' => .ok t'
            | .error e => if t.isDirPath p then .ok t else .error e
          else if t.isDirPath p then .ok t else .error e
        | .error e, _, _ => if t.isDirPath p then .ok t else .error e

/-- Makes or empties a file and writes the text. A path that can only name a directory is
refused as a directory once the directory it lies in is reached, whatever its last piece names,
since no file is made under such a name. A sink device or a stream takes the text and the tree
keeps nothing; a full device can be opened but refuses any text, and a missing terminal cannot
be opened. -/
def write (t : FileTree) (p : String) (text : String) : Except IoError FileTree := do
  if namesDirOnly p then
    let _ ← t.resolveIn p
    .error .isADirectory
  else
    let (cs, _) ← t.resolve p
    match t.system.deviceAt? cs with
    | some .sink | some .stream => .ok t
    | some .full => if text.isEmpty then .ok t else .error .storageFull
    | some .noTerminal => .error .noDevice
    | none =>
      if t.isDirAt cs then .error .isADirectory
      else .ok { t with files := (t.files.filter (·.1 != cs)) ++ [(cs, text)] }

end FileTree

/-- The file tree as the state of the commands. -/
instance : MonadFiles (StateM FileTree) where
  isFile p := return (← get).isFileAt p
  listDir p := return (← get).list p
  readText p := return (← get).read p
  createDirAll p := do
    match (← get).mkdirAll p with
    | .ok t => set t; return .ok ()
    | .error e => return .error e
  writeText p text := do
    match (← get).write p text with
    | .ok t => set t; return .ok ()
    | .error e => return .error e

end FormatEngine
