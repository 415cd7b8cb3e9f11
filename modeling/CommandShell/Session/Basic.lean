import CommandShell.Calculator.Eval
import CommandShell.Files.FileSystem
import CommandShell.Session.DirectoryStack
import CommandShell.Session.Variables

set_option autoImplicit false

namespace CommandShell

structure Session where
  bindings : Variables := {}
  directories : DirectoryStack
  prompt : Text := []
  home : Text
  scriptPaths : List Text := []
  -- Set by `exit`: no further pipeline or line is to run.
  exiting : Bool := false
  engine : Engine := Calculator.eval

inductive DirectoryError where
  | access (cause : FileError)
  | notDirectory (path : Text)
deriving DecidableEq, Repr

namespace DirectoryError

def message : DirectoryError → Text
  | access cause => cause.message
  | notDirectory path => "not a directory: ".toList ++ path

end DirectoryError

namespace Session

def start (engine : Engine) (bindings : Variables) (directory home : Text) : Session :=
  { engine, bindings, directories := ⟨directory, []⟩, home }

def directory (s : Session) : Text := s.directories.top

def resolveDirectory (s : Session) (fs : FileSystem) (target : Text) : Except DirectoryError Text := do
  let path ← (fs.canonical (Path.join s.directory target)).mapError .access
  if fs.isDirectory path then return path else throw (.notDirectory path)

end Session

end CommandShell
