import CommandShell.Programs.PosixShell.Condition
import CommandShell.Programs.PosixShell.Describe
import CommandShell.Programs.PosixShell.Directory
import CommandShell.Programs.PosixShell.Jobs
import CommandShell.Programs.PosixShell.Output
import CommandShell.Programs.PosixShell.Parameters

set_option autoImplicit false

namespace CommandShell.PosixShell

namespace Shell

def exit {α : Type} (arguments : List Text) : Shell α := do
  match arguments with
  | [] => pure ()
  | text :: _ =>
    let status ← number text
    modifyOwn fun o => { o with status, trapStatus := o.trapStatus.map fun _ => status }
  throw .exit

def leave (arguments : List Text) : Shell Int := do
  let status ← match arguments with
    | [] => pure (← own).status
    | text :: _ => number text
  modifyOwn fun o => { o with skip := some (.leaveFunction !arguments.isEmpty) }
  return status

def leaveLoops (skip : Nat → Skip) (arguments : List Text) : Shell Int := do
  let n ← match arguments with
    | [] => pure 1
    | text :: _ =>
      let n ← number text
      if n ≤ 0 then failNumber text
      pure n.toNat
  let n := min n (← own).loops
  if 0 < n then modifyOwn fun o => { o with skip := some (skip n) }
  return 0

def test (arguments : List Text) : Shell Int := do
  match Condition.holds (← files) arguments with
  | .ok true => return 0
  | .ok false => return 1
  | .error reason => fail reason

def bracket (arguments : List Text) : Shell Int := do
  if arguments.getLast? ≠ some [']'] then fail "missing ]".toList
  test arguments.dropLast

-- The time that is used is not measured.
def times : Shell Int := do
  let line := "0m0.000000s 0m0.000000s".toList
  printLine line
  printLine line
  return 0

-- Nothing is limited, and a limit that is set has no effect.
def limit (arguments : List Text) : Shell Int := do
  match (← options (Options.plain "HSatfdscmlpnvwr") arguments).2 with
  | [] => printLine "unlimited".toList
  | [text] => if text ≠ "unlimited".toList && !text.all Char.isDigit then fail "bad number".toList
  | _ => fail "too many arguments".toList
  return 0

end Shell

namespace Runner

open Shell

def eval (r : Runner) (standing : Standing) (arguments : List Text) : Shell Int :=
  if arguments.isEmpty then return 0
  else r.runText { isTested := standing.isTested } (Text.join [' '] arguments)

def findCommands (name : Text) : Shell Text := do
  if name.contains '/' then return name
  let fs ← files
  let paths := (← places none).map (pathIn · name)
  match paths.find? fun path => fs.isFile (Octets.text path) with
  | some path => return path
  | none => fail (name ++ ": not found".toList)

def readCommands (path : Text) : Shell Text := do
  match ← openFile .read path with
  | .error e => fail ("cannot open ".toList ++ path ++ ": ".toList ++ describeAccess "No such file" e)
  | .ok number =>
    let data := ((← get).shared.system.unread number).toOption.getD []
    return (Octets.ofBytes data).filter (· ≠ '\x00')

def runCommands (r : Runner) (arguments : List Text) : Shell Int := do
  match (← options [] arguments).2 with
  | [] => return 0
  | name :: _ =>
    let path ← findCommands name
    let text ← readCommands path
    modifyOwn fun o => { o with command := some path }
    r.runFile text

def exec (r : Runner) (arguments : List Text) : Shell Int := do
  if arguments.isEmpty then return 0 else r.becomeNamed arguments 0 none

def runUtility (r : Runner) (standing : Standing) (u : Utility) (arguments : List Text) : Shell Int :=
  match u with
  | .dot => r.runCommands arguments
  | .colon | .success => return 0
  | .failure => return 1
  | .bracket => bracket arguments
  | .aliases => aliases arguments
  | .background | .foreground => moveJob arguments
  | .leaveLoop => leaveLoops .leaveLoops arguments
  | .changeDirectory => changeDirectory arguments
  | .command => command arguments
  | .nextRound => leaveLoops .nextRound arguments
  | .echo => echo arguments
  | .eval => r.eval standing arguments
  | .exec => r.exec arguments
  | .exit => exit arguments
  | .export => exportVariables arguments
  | .getopts => getopts arguments
  | .hash => hash arguments
  | .jobs => jobs arguments
  | .kill => kill arguments
  | .local => localVariables arguments
  | .printf => printf arguments
  | .workingDirectory => workingDirectory arguments
  | .read => read arguments
  | .readonly => protectVariables arguments
  | .leave => leave arguments
  | .set => setParameters arguments
  | .shift => shift arguments
  | .test => test arguments
  | .times => times
  | .trap => trap arguments
  | .type => describeEach arguments 0
  | .limit => limit arguments
  | .mask => mask arguments
  | .unsetAliases => unsetAliases arguments
  | .unset => unset arguments
  | .wait => r.wait arguments

end Runner

end CommandShell.PosixShell
