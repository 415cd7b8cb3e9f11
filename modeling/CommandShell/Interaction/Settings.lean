import CommandShell.Arguments.Basic
import CommandShell.Files.Search
import CommandShell.Session.Basic

set_option autoImplicit false

namespace CommandShell

structure Settings where
  command : Option Text := none
  prompt : Text := []
  scriptPaths : List Text := []
  logFilter : Text
deriving DecidableEq, Repr

namespace Settings

def commandFlag : Flag := ⟨"command".toList, ["-c".toList, "--command".toList], .single⟩

def promptFlag : Flag := ⟨"prompt".toList, ["--prompt".toList], .single⟩

def scriptPathFlag : Flag := ⟨"script-path".toList, ["--script-path".toList], .repeated⟩

def logLevelFlag : Flag := ⟨"log-level".toList, ["--log-level".toList], .single⟩

def help : Text :=
  ("Usage: kash [-c <command>] [--prompt <prompt>] [--script-path <script-path...>] " ++
    "[--log-level <log-level>]\n\n" ++
    "A command shell that evaluates what it cannot run.\n\n" ++
    "Options:\n" ++
    "  -c, --command     run one line, print its output and exit with its return\n" ++
    "                    code.\n" ++
    "  --prompt          prompt template. Wrap it in backticks to use a command's\n" ++
    "                    output.\n" ++
    "  --script-path     directory searched for .kash scripts. May be repeated.\n" ++
    "  --log-level       log filter such as `debug` or `kash::runner=trace`.\n" ++
    "  --help, help      display usage information\n").toList

def signature : Signature where
  help := help
  flags := [commandFlag, promptFlag, scriptPathFlag, logLevelFlag]

def defaultLogFilter : Text := "warn".toList

def resolve (a : Arguments) (environment : Variables) : Settings :=
  let given (flag : Flag) := (a.values? flag.name).head?
  let scriptPaths := a.values? scriptPathFlag.name
  let searchPath := Path.searchEntries (environment.value "KASH_PATH".toList)
  { command := given commandFlag
    prompt := ((given promptFlag).or (environment.get? "KASH_PROMPT".toList)).getD []
    scriptPaths := if scriptPaths.isEmpty then searchPath else scriptPaths
    logFilter := ((given logLevelFlag).or (environment.get? "KASH_LOG".toList)).getD defaultLogFilter }

def apply (settings : Settings) (s : Session) : Session :=
  { s with prompt := settings.prompt, scriptPaths := settings.scriptPaths }

end Settings

end CommandShell
