import ChipEight.RomError

/-! A directory of files, and the paths that lead to them. Of what lies outside of the
directory little is known: directories that every system has, and devices, which swallow what
is written to them.
-/

namespace ChipEight

/-- The files of a directory, each with its name. -/
structure FileTree where
  files : List (String × Array UInt8) := []
  deriving DecidableEq, Repr

/-- Where a path leads. -/
inductive Place where
  /-- The directory itself. -/
  | inside
  /-- Another directory by its names, from the innermost one to the one in the root. -/
  | outside (names : List String)
  /-- A device, which has no size, and so no content. -/
  | device
  | file (data : Array UInt8)
  deriving DecidableEq, Repr

namespace Place

/-- The root of all directories. -/
def root : Place := .outside []

/-- Files can be found behind the place. -/
def isDirectory : Place → Bool
  | .inside | .outside _ => true
  | .device | .file _ => false

/-- The directory around a directory; that of the files is one for passing things. -/
def around : Place → Place
  | .outside (_ :: names) => .outside names
  | .outside [] => root
  | _ => .outside ["tmp"]

/-- The directories that every system has, each with those in it. -/
def systemDirectories : List (String × List String) :=
  [("", ["boot", "dev", "etc", "home", "media", "mnt", "opt", "proc", "root", "run", "srv",
      "sys", "tmp", "usr", "var"]),
   ("dev", ["pts", "shm"]),
   ("etc", ["alternatives", "apt", "cron.daily", "default", "dpkg", "init.d", "kernel",
      "ld.so.conf.d", "logrotate.d", "opt", "pam.d", "profile.d", "security", "selinux", "skel",
      "ssl", "systemd", "terminfo"]),
   ("proc", ["bus", "fs", "irq", "net", "self", "sys", "tty"]),
   ("proc/self", ["fd", "fdinfo", "net", "ns", "task"]),
   ("run", ["lock"]),
   ("sys", ["block", "bus", "class", "dev", "devices", "firmware", "fs", "kernel", "module",
      "power"]),
   ("usr", ["bin", "games", "include", "lib", "lib64", "libexec", "local", "sbin", "share",
      "src"]),
   ("usr/local", ["bin", "etc", "games", "include", "lib", "sbin", "share", "src"]),
   ("var", ["backups", "cache", "lib", "local", "log", "mail", "opt", "spool", "tmp"])]

/-- Other names of directories. -/
def links : List (String × String) :=
  [("bin", "usr/bin"), ("sbin", "usr/sbin"), ("lib", "usr/lib"), ("lib64", "usr/lib64"),
   ("dev/fd", "proc/self/fd"), ("usr/local/man", "usr/local/share/man"), ("var/run", "run"),
   ("var/lock", "run/lock")]

/-- Devices that can be read; the standard input has nothing. -/
def devices : List String :=
  ["dev/null", "dev/zero", "dev/full", "dev/random", "dev/urandom", "dev/stdin",
   "proc/self/fd/0"]

/-- A path without its leading slash by the names on it, the last one first. -/
def pathOf (names : List String) : String :=
  "/".intercalate names.reverse

/-- What is known to be in a directory outside under a name. -/
def known? (names : List String) (name : String) : Option Place :=
  let path := pathOf (name :: names)
  match links.lookup path with
  | some target => some (.outside (target.splitOn "/").reverse)
  | none =>
    if path ∈ devices then some .device
    else if name ∈ (systemDirectories.lookup (pathOf names)).getD [] then
      some (.outside (name :: names))
    else none

end Place

namespace FileTree

/-- The longest name of a file in bytes. -/
def maxNameSize : Nat := 255

/-- The longest path in bytes. -/
def maxPathSize : Nat := 4095

/-- The content of a file. -/
def find? (tree : FileTree) (name : String) : Option (Array UInt8) :=
  tree.files.lookup name

/-- Put a file into the directory; an earlier one of that name is replaced. -/
def insert (tree : FileTree) (name : String) (data : Array UInt8) : FileTree :=
  { files := (name, data) :: tree.files.filter fun file => file.1 != name }

/-- What a directory holds under a name. -/
def entry? (tree : FileTree) (directory : Place) (name : String) : Option Place :=
  match directory with
  | .inside => (tree.find? name).map .file
  | .outside names => Place.known? names name
  | .device | .file _ => none

/-- Follow one component of a path. -/
def follow (tree : FileTree) (place : Place) (name : String) : Except OsError Place :=
  if !place.isDirectory then
    .error .notDirectory
  else if name = "" ∨ name = "." then
    .ok place
  else if name = ".." then
    .ok place.around
  else if maxNameSize < name.utf8ByteSize then
    .error .nameTooLong
  else
    match tree.entry? place name with
    | some found => .ok found
    | none => .error .notFound

/-- Follow several components of a path. -/
def followAll (tree : FileTree) (place : Place) : List String → Except OsError Place
  | [] => .ok place
  | name :: rest =>
    match tree.follow place name with
    | .error e => .error e
    | .ok next => tree.followAll next rest

/-- Where paths start: those with a leading slash at the root of all directories. -/
def origin (path : String) : Place :=
  if path.startsWith "/" then .root else .inside

/-- A path that no directory can have. -/
def pathDefect? (path : String) : Option OsError :=
  if path.contains '\x00' then some .endInName
  else if maxPathSize < path.utf8ByteSize then some .nameTooLong
  else none

/-- The content of the file that a path leads to. -/
def read (tree : FileTree) (path : String) : Except OsError (Array UInt8) :=
  match pathDefect? path with
  | some e => .error e
  | none =>
    match tree.followAll (origin path) (path.splitOn "/") with
    | .error e => .error e
    | .ok (.file data) => .ok data
    | .ok .device => .ok #[]
    | .ok _ => .error .isDirectory

/-- Create an empty file, or empty the file that a path leads to. A path with a slash at its
end asks for a directory.
-/
def create (tree : FileTree) (path : String) : Except OsError FileTree :=
  match pathDefect? path with
  | some e => .error e
  | none =>
    let names := path.splitOn "/"
    match names.reverse.dropWhile (· == "") with
    | [] => .error .isDirectory
    | name :: parents =>
      match tree.followAll (origin path) parents.reverse with
      | .error e => .error e
      | .ok directory =>
        if !directory.isDirectory then
          .error .notDirectory
        else if names.getLast? = some "" ∨ name = "." ∨ name = ".." then
          .error .isDirectory
        else if maxNameSize < name.utf8ByteSize then
          .error .nameTooLong
        else
          match directory, tree.entry? directory name with
          | .inside, _ => .ok (tree.insert name #[])
          | _, some found => if found.isDirectory then .error .isDirectory else .ok tree
          | _, none => .ok tree

end FileTree

end ChipEight
