import CommandShell.Interaction.LogFilter
import CommandShell.Interaction.Loop
import CommandShell.Interaction.Settings
import CommandShell.Text.Quoted

set_option autoImplicit false

namespace CommandShell

structure Startup where
  files : FileSystem
  arguments : List Text := []
  environment : Variables := {}
  accountHome : Text := ['/']
  input : Bytes := []

structure Exit where
  code : Nat := 0
  output : Bytes := []
  errors : Bytes := []
deriving DecidableEq, Repr

namespace Exit

def failed (errors : Text) : Exit := { code := 1, errors := Text.utf8 errors }

-- The system keeps the low eight bits of a code.
def ofWorld (code : Int) (w : World) : Exit where
  code := (code % 256).toNat
  output := w.console.flush.output.bytes
  errors := w.console.errors.bytes

end Exit

namespace Startup

def report (error : Text) (causes : List Text) : Text :=
  let listed := match causes with
    | [] => []
    | [cause] => "\nCaused by:\n    ".toList ++ cause ++ ['\n']
    | _ => "\nCaused by:\n".toList ++
      causes.zipIdx.flatMap fun (cause, n) => "    ".toList ++ Text.ofNat n ++ ": ".toList ++ cause ++ ['\n']
  "Error: ".toList ++ error ++ '\n' :: listed

def home (s : Startup) : Text :=
  let named := s.environment.value "HOME".toList
  if named.isEmpty then s.accountHome else named

def world (s : Startup) (settings : Settings) : World where
  session := settings.apply (.start Calculator.eval s.environment s.files.here.path s.home)
  files := s.files
  console := { waiting := s.input }

-- Terminals that cannot be edited on get a prompt even if the input is none.
def plainTerminals : List Text := ["dumb", "cons25", "emacs"].map String.toList

def showsPrompt (s : Startup) : Bool :=
  plainTerminals.contains ((s.environment.value "TERM".toList).map Char.toLower)

def runCommand (host : Host) (w : World) (line : Text) : Exit :=
  match (runLine host .console line).run w with
  | (.ok outcome, w) => .ofWorld outcome.code (w.display outcome)
  | (.error failure, w) =>
    .ofWorld 1 (w.updateConsole (·.writeErrors (Text.utf8 (report failure.message []))))

-- Each line takes at least one byte, so the number of bytes bounds the lines.
def runLoop (host : Host) (w : World) (showsPrompt : Bool) : Exit :=
  match (Loop.run host showsPrompt (w.console.waiting.length + 1)).run w with
  | (true, w) => .ofWorld 0 w
  | (false, w) =>
    let message := FileError.notUtf8.message
    .ofWorld 1 (w.updateConsole (·.writeErrors (Text.utf8 (report message [message]))))

def run (s : Startup) (host : Host) : Exit :=
  match Settings.signature.parse s.arguments with
  | .error e => .failed (e.message ++ "\nRun kash --help for more information.\n".toList)
  | .ok .help => { output := Text.utf8 (Settings.help ++ ['\n']) }
  | .ok (.run arguments) =>
    let settings := Settings.resolve arguments s.environment
    match LogFilter.fault? settings.logFilter with
    | some fault =>
      .failed (report ("invalid log filter ".toList ++ Text.quoted settings.logFilter) fault.causes)
    | none =>
      let w := s.world settings
      match settings.command with
      | some line => runCommand host w line
      | none => runLoop host w s.showsPrompt

end Startup

end CommandShell
