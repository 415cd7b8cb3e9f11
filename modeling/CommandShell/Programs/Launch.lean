import CommandShell.Programs.Cat
import CommandShell.Programs.PosixShell.Program
import CommandShell.Programs.Tr

set_option autoImplicit false

namespace CommandShell.Programs

abbrev Installed := List (Location × Program)

def maxInterpreters : Nat := 5

def defaultPath : Text := "/bin:/usr/bin".toList

def maxDepth : Nat := 32

def maxFirstLine : Nat := 256

def isSpace (b : UInt8) : Bool := b == 0x20 || b == 0x09

-- The interpreter that the first line of a file names, and the argument it gives it. A line that is not
-- read to its end still counts if the interpreter's name is.
def interpreter? (content : Bytes) : Option (Text × List Text) :=
  match content.take maxFirstLine with
  | 0x23 :: 0x21 :: head =>
    let ends := content.length < maxFirstLine || head.contains 0x0A
    let line := ((head.takeWhile (· ≠ 0x0A)).take (maxFirstLine - 3)).dropWhile isSpace
    let (path, rest) := line.span fun b => !isSpace b && b != 0
    let option := ((rest.dropWhile isSpace).takeWhile (· ≠ 0)).reverse.dropWhile isSpace
    if path.isEmpty || (!ends && rest.isEmpty) then none
    else some (Bytes.lossyText path, if option.isEmpty then [] else [Bytes.lossyText option.reverse])
  | _ => none

structure Loaded where
  program : Program
  name : Text
  arguments : List Text

def load (installed : Installed) (files : FileSystem) : Nat → (path name : Text) → List Text →
    Except LaunchError Loaded
  | 0, _, _, _ => .error (.access .tooManyLinks)
  | times + 1, path, name, arguments =>
    match files.locate path with
    | .error e => .error (.access e)
    | .ok place =>
      match files.entry? place with
      | some (.file content true) =>
        match installed.lookup place, interpreter? content with
        | some program, _ => .ok { program, name, arguments }
        | none, some (interpreter, option) =>
          load installed files times interpreter interpreter (option ++ path :: arguments)
        | none, none => .error .notAProgram
      | _ => .error (.access .permissionDenied)

def loadOrScript (installed : Installed) (files : FileSystem) (path name : Text) (arguments : List Text) :
    Except LaunchError Loaded :=
  let shell := "/bin/sh".toList
  match load installed files (maxInterpreters + 1) path name arguments with
  | .error .notAProgram => load installed files (maxInterpreters + 1) shell shell (path :: arguments)
  | result => result

-- Loads the first program of this name in the directories of a search path. Where none is found, a file
-- that may not be run is the reason if there was one, else what was wrong in the last directory.
def search (installed : Installed) (files : FileSystem) (name : Text) (arguments : List Text) :
    FileError → List Text → Except LaunchError Loaded
  | reason, [] => .error (.access reason)
  | reason, place :: rest =>
    let path := if place.isEmpty then name else place ++ '/' :: name
    match loadOrScript installed files path name arguments with
    | .error (.access e) =>
      if e = .notFound ∨ e = .notADirectory ∨ e = .permissionDenied then
        search installed files name arguments (if reason = .permissionDenied then reason else e) rest
      else .error (.access e)
    | result => result

def loadNamed (installed : Installed) (files : FileSystem) (environment : Variables) (i : Invocation) :
    Except LaunchError Loaded :=
  if i.path.contains '/' then load installed files (maxInterpreters + 1) i.path i.name i.arguments
  else if i.path.isEmpty then .error (.access .notFound)
  else
    let places := Text.splitAt ':' ((environment.get? "PATH".toList).getD defaultPath)
    search installed files i.path i.arguments .notFound places

def maxArgumentBytes : Nat := 131071

def isOversized (i : Invocation) : Bool :=
  (i.arguments ++ i.environment.map fun (name, value) => name ++ '=' :: value).any
    (maxArgumentBytes < Text.byteLength ·)

def visible (environment : List (Text × Text)) : Variables :=
  .ofList <| environment.map fun (name, value) =>
    match name.span (· ≠ '=') with
    | (name, _ :: rest) => (name, rest ++ '=' :: value)
    | (name, []) => (name, value)

def start (installed : Installed) (files : FileSystem) (i : Invocation) (input : Bytes) :
    Except LaunchError Ending := do
  if i.texts.any (·.contains '\x00') then throw .nulInText
  let here ← (files.locate i.directory).mapError .access
  if files.entry? here ≠ some .directory then throw (.access .notADirectory)
  if isOversized i then throw .argumentTooLong
  let files := { files with here }
  let environment := visible i.environment
  let loaded ← loadNamed installed files environment i
  return loaded.program
    { files, name := loaded.name, arguments := loaded.arguments, environment, streams := i.streams } input

def binary (name : String) : Location := ["usr".toList, "bin".toList, name.toList]

def installed (launch : PosixShell.Launcher) : Installed :=
  [(binary "sh", PosixShell.program launch), (binary "cat", Cat.program), (binary "tr", Translate.program)]

def launchWithin : Nat → PosixShell.Launcher
  | 0 => fun _ _ _ => .error (.access .notFound)
  | depth + 1 => fun files => start (installed (launchWithin depth)) files

def launch : PosixShell.Launcher := launchWithin maxDepth

def host : Host := { launch }

def files : FileSystem :=
  let empty : FileSystem := {}
  let places := (installed launch).map Prod.fst
  let fs := places.foldl (fun fs place => fs.put place (.file [] true)) empty
  (fs.put ["bin".toList] (.link "usr/bin".toList)).put ["dev".toList, "null".toList] .null

end CommandShell.Programs
