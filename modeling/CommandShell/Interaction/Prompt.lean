import CommandShell.Execution.Line

set_option autoImplicit false

namespace CommandShell

namespace Prompt

def green : Text := "\x1b[32m".toList

def reset : Text := "\x1b[0m".toList

def shortPath (directory : Text) : Text :=
  let names := Path.names directory
  if 2 < names.length then Text.join ['/'] (names.drop (names.length - 2)) else directory

def standard (directory : Text) : Text := shortPath directory ++ green ++ "$ ".toList ++ reset

def command? : Text → Option Text
  | '`' :: rest => if rest.getLast? = some '`' then some rest.dropLast else none
  | _ => none

def failed (template reason : Text) : Text :=
  "Error running command ".toList ++ template ++ ": '".toList ++ reason ++ "'  ".toList

def ofOutcome (template : Text) (o : Outcome) : Text :=
  if o.code = 0 then Text.dropEndWhile (· == '\n') (o.output.getD [])
  else failed template (Text.trimEnd (o.errors.getD []))

def text (host : Host) : StateM World Text := do
  let s := (← get).session
  if Text.isAllBlank s.prompt then return standard s.directory
  else match command? s.prompt with
    | none => return s.prompt
    | some line =>
      match ← (runLine host .capture line).run with
      | .ok outcome => return ofOutcome s.prompt outcome
      | .error failure => return failed s.prompt failure.message

end Prompt

end CommandShell
