import CommandShell.Files.FileSystem

set_option autoImplicit false

namespace CommandShell

inductive Port where
  | closed
  -- Why no byte passes, if none does; the file behind the stream, and where its next byte is.
  | opened (fault : Option FileError) (file : Option (Location × Nat))
deriving DecidableEq, Repr

namespace Port

def isClosed (p : Port) : Bool := p == closed

def fault : Port → Option FileError
  | closed => some .badDescriptor
  | opened fault _ => fault

def file : Port → Option (Location × Nat)
  | closed => none
  | opened _ file => file

end Port

structure Streams where
  input : Port := .opened none none
  output : Port := .opened none none
deriving DecidableEq, Repr

structure Invocation where
  path : Text
  name : Text
  arguments : List Text
  environment : List (Text × Text)
  directory : Text
  streams : Streams := {}
deriving DecidableEq, Repr

namespace Invocation

def texts (i : Invocation) : List Text :=
  i.path :: i.name :: i.directory :: i.arguments ++ i.environment.flatMap fun (name, value) => [name, value]

end Invocation

inductive LaunchError where
  | nulInText
  | access (cause : FileError)
  | argumentTooLong
  | notAProgram
deriving DecidableEq, Repr

namespace LaunchError

def reason : LaunchError → Text × Option Nat
  | nulInText => ("nul byte found in provided data".toList, none)
  | access cause => cause.reason
  | argumentTooLong => ("Argument list too long".toList, some 7)
  | notAProgram => ("Exec format error".toList, some 8)

def message (e : LaunchError) : Text := FileError.describe e.reason

end LaunchError

inductive OutputStream where
  | output
  | errors
deriving DecidableEq, Repr

structure Ending where
  files : FileSystem
  code : Int := 0
  signal : Option Nat := none
  writes : List (OutputStream × Bytes) := []
  -- How many bytes of its input it took.
  taken : Nat := 0

namespace Ending

def written (e : Ending) (stream : OutputStream) : Bytes :=
  (e.writes.filter (·.1 = stream)).flatMap Prod.snd

def output (e : Ending) : Bytes := e.written .output

def errors (e : Ending) : Bytes := e.written .errors

end Ending

def signalCode (signal : Nat) : Int := 128 + signal

structure Host where
  launch : FileSystem → Invocation → Bytes → Except LaunchError Ending

end CommandShell
