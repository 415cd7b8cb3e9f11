import CommandShell.Execution.Outcome
import CommandShell.Session.Basic

set_option autoImplicit false

namespace CommandShell

namespace Session

def evaluate (s : Session) (line : Text) : Outcome :=
  match s.engine line with
  | .ok v => { output := v.output? }
  | .error e => { code := 1, errors := some e.message }

def runScript (s : Session) (fs : FileSystem) (path : Text) : Except FileError Effect := do
  let text ← fs.readText path
  match s.engine text with
  | .ok v => return { writes := v.output?.toList.map fun text => Text.utf8 (text ++ ['\n']) }
  | .error e => return .complain 1 (path ++ ": ".toList ++ e.message)

end Session

end CommandShell
