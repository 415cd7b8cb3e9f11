import CommandShell.Execution.Host
import CommandShell.Programs.Options
import CommandShell.Session.Variables
import CommandShell.Text.Octets

set_option autoImplicit false

namespace CommandShell

def deviceDescriptor? (path : Text) : Option Nat :=
  match String.ofList path with
  | "/dev/stdin" => some 0
  | "/dev/stdout" => some 1
  | "/dev/stderr" => some 2
  | _ =>
    let directory := "/dev/fd/".toList
    match path.drop directory.length with
    | [c] => if directory.isPrefixOf path && c.isDigit then some (c.toNat - '0'.toNat) else none
    | _ => none

structure Process where
  files : FileSystem
  name : Text
  arguments : List Text := []
  environment : Variables := {}
  streams : Streams := {}

abbrev Program := Process → Bytes → Ending

namespace Process

def complaint (p : Process) (message : Text) : Bytes :=
  Octets.bytes (Octets.ofText p.name ++ ": ".toList ++ message ++ ['\n'])

def advice (p : Process) : Bytes :=
  Octets.bytes ("Try '".toList ++ Octets.ofText p.name ++ " --help' for more information.\n".toList)

def ending (p : Process) (code : Int) (writes : List (OutputStream × Bytes)) (taken : Nat) : Ending :=
  { files := p.files, code, writes, taken }

def misused (p : Process) (message : Text) : Ending :=
  p.ending 1 [(.errors, p.complaint message ++ p.advice)] 0

end Process

end CommandShell
