import CommandShell.Interaction.Prompt
import CommandShell.Text.Cluster

set_option autoImplicit false

namespace CommandShell

namespace World

def updateConsole (f : Console → Console) (w : World) : World := { w with console := f w.console }

def terminated (text : Text) : Bytes :=
  Text.utf8 (if text.getLast? = some '\n' then text else text ++ ['\n'])

def display (o : Outcome) (w : World) : World :=
  let console := (o.output.map fun text => w.console.write (terminated text)).getD w.console
  { w with console := (o.errors.map fun text => console.writeErrors (terminated text)).getD console }

end World

namespace Loop

def clean (line : Text) : Text :=
  Text.applyBackspaces <| match line.reverse with
    | '\n' :: '\r' :: rest => rest.reverse
    | '\n' :: rest => rest.reverse
    | _ => line

def runShown (host : Host) (line : Text) : StateM World Unit := do
  match ← (runLine host .console line).run with
  | .ok outcome => modify (World.display outcome)
  | .error failure =>
    modify (World.updateConsole (·.writeErrors (Text.utf8 ("kash: ".toList ++ failure.message ++ ['\n']))))

-- The prompt is computed before every line, whether or not it is shown.
def prepare (host : Host) (showsPrompt : Bool) : StateM World Unit := do
  let prompt ← Prompt.text host
  if showsPrompt then modify (World.updateConsole fun c => (c.write (Text.utf8 prompt)).flush)

-- Runs at most `lines` lines. The answer is whether all input that was read is UTF-8.
def run (host : Host) (showsPrompt : Bool) : Nat → StateM World Bool
  | 0 => return true
  | lines + 1 => do
    if (← get).session.exiting then return true
    prepare host showsPrompt
    let (line, console) := (← get).console.takeLine
    modify fun w => { w with console }
    if line.isEmpty then return true
    match Bytes.text? line with
    | none => return false
    | some text =>
      runShown host (clean text)
      run host showsPrompt lines

end Loop

end CommandShell
