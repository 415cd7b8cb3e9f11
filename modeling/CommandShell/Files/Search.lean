import CommandShell.Files.FileSystem

set_option autoImplicit false

namespace CommandShell

namespace FileSystem

def file? (fs : FileSystem) (path : Text) : Option Text :=
  if fs.isFile path then some path else none

def inDirectories (fs : FileSystem) (name : Text) (directories : List Text) : Option Text :=
  directories.findSome? fun directory => fs.file? (Path.join directory name)

def program? (fs : FileSystem) (searchPath : List Text) (directory path : Text) : Option Text :=
  if Path.isAbsolute path then fs.file? path
  else match Path.components path with
    | [] => none
    | [.normal name] => fs.inDirectories name searchPath
    | _ => fs.file? (Path.join directory path)

end FileSystem

namespace Path

def searchEntries (searchPath : Text) : List Text :=
  (Text.splitAt ':' searchPath).filter (!·.isEmpty)

end Path

end CommandShell
