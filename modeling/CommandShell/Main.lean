import CommandShell.Interaction.Startup
import CommandShell.Programs.Launch

/-!
The shell as an executable. It reads its input to the end and runs on a snapshot of its working
directory.
-/

set_option autoImplicit false

namespace CommandShell.Outer

partial def readAll (stream : IO.FS.Stream) (before : ByteArray) : IO ByteArray := do
  let block ← stream.read 65536
  if block.isEmpty then return before else readAll stream (before ++ block)

def decodeEnvironment (block : ByteArray) : Variables :=
  .ofList ((Text.splitAt '\x00' (Bytes.lossyText block.toList)).filterMap Builtin.assignment?)

def readEnvironment : IO Variables := do
  let block ← (IO.FS.readBinFile ⟨"/proc/self/environ"⟩).toBaseIO
  return decodeEnvironment (block.toOption.getD .empty)

def isProgram (content : Bytes) : Bool :=
  (Programs.interpreter? content).isSome || content.take 4 == [0x7F, 0x45, 0x4C, 0x46]

def addTree (fs : FileSystem) (place : Location) : Nat → IO FileSystem
  | 0 => return fs
  | depth + 1 => do
    let directory : IO.FS.DirEntry := ⟨⟨String.ofList place.path⟩, ""⟩
    let mut fs := fs
    for found in ← directory.root.readDir do
      let inner := place ++ [found.fileName.toList]
      match (← found.path.symlinkMetadata).type with
      | .dir => fs ← addTree (fs.put inner .directory) inner depth
      | .symlink =>
        try fs := fs.put inner (.link (← IO.FS.realPath found.path).toString.toList) catch _ => pure ()
      | .file =>
        try
          let content := (← IO.FS.readBinFile found.path).toList
          fs := fs.put inner (.file content (isProgram content))
        catch _ => pure ()
      | .other => pure ()
    return fs

def snapshotDepth : Nat := 8

def snapshot : IO FileSystem := do
  let here := Path.parts (← IO.FS.realPath (← IO.currentDir)).toString.toList
  let fs ← addTree (Programs.files.put here .directory) here snapshotDepth
  return { fs with here }

end CommandShell.Outer

open CommandShell in
def main (arguments : List String) : IO UInt32 := do
  let startup : Startup := {
    files := ← Outer.snapshot
    arguments := arguments.map String.toList
    environment := ← Outer.readEnvironment
    input := (← Outer.readAll (← IO.getStdin) .empty).toList }
  let exit := startup.run Programs.host
  (← IO.getStdout).write exit.output.toByteArray
  (← IO.getStderr).write exit.errors.toByteArray
  return exit.code.toUInt32
