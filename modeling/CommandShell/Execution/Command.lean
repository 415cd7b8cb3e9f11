import CommandShell.Builtin.Basic
import CommandShell.Files.Search
import CommandShell.Session.Basic

set_option autoImplicit false

namespace CommandShell

inductive Command where
  | builtin (b : Builtin)
  | script (path : Text)
  | program (path : Text)
deriving DecidableEq, Repr

namespace Command

def scriptExtension : Text := ".kash".toList

def scriptName (name : Text) : Text :=
  if scriptExtension.isSuffixOf name then name else name ++ scriptExtension

def builtin? (name : Text) : Option Command := (Builtin.ofName? name).map builtin

def script? (fs : FileSystem) (s : Session) (name : Text) : Option Command :=
  if name.isEmpty then none
  else (fs.inDirectories (scriptName name) (s.directory :: s.scriptPaths)).map script

def program? (fs : FileSystem) (s : Session) (name : Text) : Option Command :=
  (fs.program? (Path.searchEntries (s.bindings.value "PATH".toList)) s.directory name).map program

def find (fs : FileSystem) (s : Session) (name : Text) : Option Command :=
  (builtin? name).or ((script? fs s name).or (program? fs s name))

end Command

end CommandShell
