/-!
# The system around the working directory

What a command can reach outside its working directory: the directories every system has, its
character devices, and the links that lead back into known places. Places are written as path
components from the working directory, which is `[]`; the root is `["/"]`, and the places
below it start with `"/"`.

* `SystemTree.standard` — the directories of the root and of `/dev` and `/proc`, the usual
  devices with the process's three standard streams, and the links `/proc/self/cwd` (the
  working directory), `/proc/self/root` (the root), `/dev/fd` and the streams of `/dev`.
* `SystemTree.follow` — where a place leads once the links are followed.

No file is known to lie in these directories.
-/
namespace FormatEngine

/-- What a character device does with what is written to it. -/
inductive DeviceKind where
  /-- Takes everything and keeps nothing. -/
  | sink
  /-- Is always full: it can be opened, but refuses every byte. -/
  | full
  /-- The terminal of a process that has none: it cannot be opened. -/
  | noTerminal
  /-- A standard stream of the process: what is written goes out on it, which the tree does
  not record. -/
  | stream
deriving DecidableEq, Inhabited

/-- The parts of the file system outside the working directory: directories, devices with what
they do, and links with the place each leads to. -/
structure SystemTree where
  dirs : List (List String)
  devices : List (List String × DeviceKind)
  links : List (List String × List String)
deriving Inhabited

namespace SystemTree

/-- The directories directly below the root. -/
def rootDirs : List String :=
  ["bin", "boot", "dev", "etc", "home", "lib", "media", "mnt", "opt", "proc", "root", "run", "sbin",
    "srv", "sys", "tmp", "usr", "var"]

/-- The names of the standard streams in `/dev`, in the order of their descriptors. -/
def streamNames : List String := ["stdin", "stdout", "stderr"]

/-- The system every command runs on. -/
def standard : SystemTree where
  dirs := rootDirs.map (["/", ·]) ++
    [["/", "dev", "pts"], ["/", "dev", "shm"], ["/", "dev", "mqueue"], ["/", "proc", "self", "fd"]]
  devices :=
    [(["/", "dev", "null"], .sink), (["/", "dev", "zero"], .sink), (["/", "dev", "random"], .sink),
      (["/", "dev", "urandom"], .sink), (["/", "dev", "ptmx"], .sink), (["/", "dev", "full"], .full),
      (["/", "dev", "tty"], .noTerminal)] ++
    streamNames.zipIdx.map fun (_, i) => (["/", "proc", "self", "fd", toString i], .stream)
  links :=
    [(["/", "proc", "self", "cwd"], []), (["/", "proc", "self", "root"], ["/"]),
      (["/", "dev", "fd"], ["/", "proc", "self", "fd"])] ++
    streamNames.zipIdx.map fun (n, i) => (["/", "dev", n], ["/", "proc", "self", "fd", toString i])

/-- Where a place leads: the target of the link it is, or the place itself. No link leads to a
link, so one step is all there is. -/
def follow (s : SystemTree) (place : List String) : List String :=
  match s.links.find? (·.1 == place) with
  | some (_, target) => target
  | none => place

/-- What the device at a place does, when there is one. -/
def deviceAt? (s : SystemTree) (place : List String) : Option DeviceKind :=
  (s.devices.find? (·.1 == place)).map (·.2)

end SystemTree

end FormatEngine
