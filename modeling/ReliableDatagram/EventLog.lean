/-!
# Installing the event log

The engine reports its events (segments in and out, state changes) to a process-wide event
log. It can be installed once per process, writing either to standard error at a chosen level
or to a daily file in a given directory.

Installing to a file first opens the file, creating it if needed; that fails when a component
of the directory's path is missing or is not a directory. Installation itself fails when a log
is already installed.

Whether the file can be opened depends on the host's file system, which `Host` describes: the
directories and other files that exist, the links between directories, the directories that
refuse new files, and whether a log is already installed. Paths are resolved component by
component, as the system does; `.` stays, `..` goes up from where a link led, and relative
paths start in the host's working directory. Before that, a path holding a NUL
byte or too long for the system is refused outright.
-/

namespace ReliableDatagram

namespace EventLog

/-- The levels the standard-error log can be installed at. -/
inductive Level where
  | trace
  | debug
  | info
  | warn
  | error
  deriving DecidableEq, Repr

/-- Why a path cannot be opened. -/
inductive PathError where
  /-- A component does not exist. -/
  | notFound
  /-- A component exists but is not a directory. -/
  | notDirectory
  /-- The directory does not allow new files. -/
  | permissionDenied
  /-- The path, or one of its components, is longer than the system accepts. -/
  | nameTooLong
  /-- The path holds a NUL byte, so it cannot be handed to the system at all. -/
  | nulByte
  deriving DecidableEq, Repr

/-- The system's explanation of a path error. -/
def PathError.text : PathError → String
  | .notFound => "No such file or directory (os error 2)"
  | .notDirectory => "Not a directory (os error 20)"
  | .permissionDenied => "Permission denied (os error 13)"
  | .nameTooLong => "File name too long (os error 36)"
  | .nulByte => "file name contained an unexpected NUL byte"

/-- Why the log was not installed. -/
inductive InstallError where
  /-- The log file could not be opened, for the given reason. -/
  | file (reason : String)
  /-- A log is already installed in this process. -/
  | alreadyInstalled
  deriving DecidableEq, Repr

namespace InstallError

/-- The name of the error's kind. -/
def name : InstallError → String
  | file _ => "File"
  | alreadyInstalled => "AlreadyInstalled"

/-- The sentence that explains the error. -/
def message : InstallError → String
  | file reason => "Could not open the log file: " ++ reason
  | alreadyInstalled => "A global subscriber is already installed"

end InstallError

/-- What the host offers: its file system and whether a log is installed. -/
structure Host where
  /-- Absolute paths of the existing directories. -/
  directories : List String
  /-- Absolute paths of existing entries that are not directories. -/
  files : List String
  /-- Symbolic links, with the absolute path each one stands for; the first entry for a path
  counts. -/
  links : List (String × String)
  /-- Directories in and beneath which no file can be created, with the reason. -/
  closed : List (String × PathError)
  /-- Directories in and beneath which an overlong name is simply not found, rather than
  refused for its length. -/
  unchecked : List String
  /-- The absolute path relative paths start from. -/
  workingDirectory : String
  /-- Whether a log is already installed in this process. -/
  installed : Bool
  deriving DecidableEq, Repr

/-- The longest path, in bytes, the system accepts is one less than this. -/
def pathLimit : Nat := 4096

/-- The longest file name, in bytes, a directory accepts. -/
def nameLimit : Nat := 255

/-- The length in bytes of the daily file's name, `<name>-yy-mm-dd.log`. -/
def fileNameLength : Nat := 17

/-- The absolute path of a list of components. -/
def pathOf (components : List String) : String :=
  "/" ++ "/".intercalate components

/-- The components of an absolute path. -/
def componentsOf (path : String) : List String :=
  (path.splitOn "/").filter (· ≠ "")

/-- The reason the directory given by its components refuses new files, when it lies in or
beneath a closed directory. -/
def closedReason? (host : Host) (dir : List String) : Option PathError :=
  (host.closed.find? fun (root, _) ↦ (componentsOf root).isPrefixOf dir).map Prod.snd

/-- Whether the directory given by its components refuses names that are too long. -/
def checksNames (host : Host) (dir : List String) : Bool :=
  !host.unchecked.any fun root ↦ (componentsOf root).isPrefixOf dir

/-- Walks the components of a path from `current`, a directory given by its components, and
yields the directory reached. `.` stays, `..` goes to the parent of the directory actually
reached, a link is replaced by what it stands for, and a name too long for a directory is
refused by that directory if it checks names. -/
def walk (host : Host) (current : List String) : List String → Except PathError (List String)
  | [] => .ok current
  | c :: rest =>
    if c = "" || c = "." then walk host current rest
    else if c = ".." then walk host current.dropLast rest
    else if checksNames host current && c.utf8ByteSize > nameLimit then
      .error .nameTooLong
    else
      let next := current ++ [c]
      let next := match host.links.lookup (pathOf next) with
        | some target => componentsOf target
        | none => next
      if host.directories.contains (pathOf next) then walk host next rest
      else if host.files.contains (pathOf next) then .error .notDirectory
      else .error .notFound

/-- The length in bytes of the path of the daily file in `directory`: a separator is put
between the two unless the directory is empty or already ends in one. -/
def targetLength (directory : String) : Nat :=
  let separator := if directory.isEmpty || directory.endsWith "/" then 0 else 1
  directory.utf8ByteSize + separator + fileNameLength

/-- Whether a new file can be opened in `directory`, or why not. A NUL byte is refused before
the system sees the path, and a path too long before any component is looked up. -/
def openIn (host : Host) (directory : String) : Except PathError Unit :=
  if directory.contains (Char.ofNat 0) then .error .nulByte
  else if targetLength directory ≥ pathLimit then .error .nameTooLong
  else do
    let start := if directory.startsWith "/" then [] else componentsOf host.workingDirectory
    let reached ← walk host start (directory.splitOn "/")
    match closedReason? host reached with
    | some e => .error e
    | none => .ok ()

/-- Installs the log to a daily file in `directory`: the file is opened first. -/
def installFile (host : Host) (directory : String) : Except InstallError Unit :=
  match openIn host directory with
  | .error e => .error (.file e.text)
  | .ok _ => if host.installed then .error .alreadyInstalled else .ok ()

/-- Installs the log to standard error at `level`. -/
def installStderr (host : Host) (_level : Level) : Except InstallError Unit :=
  if host.installed then .error .alreadyInstalled else .ok ()

end EventLog

end ReliableDatagram
