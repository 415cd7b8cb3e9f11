import CommandShell.Builtin.Run
import CommandShell.Execution.Command
import CommandShell.Execution.Host
import CommandShell.Execution.Script
import CommandShell.Execution.Stream
import CommandShell.Expansion.Words
import CommandShell.Syntax.CommandList

set_option autoImplicit false

namespace CommandShell

structure World where
  session : Session
  files : FileSystem
  console : Console := {}

abbrev LineRunner := Sink → Text → Run World Outcome

inductive CommandError where
  | script (path : Text) (cause : FileError)
  | program (path : Text) (cause : LaunchError)
deriving DecidableEq, Repr

namespace CommandError

def message : CommandError → Text
  | script path cause => "can't read script ".toList ++ path ++ ": ".toList ++ cause.message
  | program path cause => "can't run ".toList ++ path ++ ": ".toList ++ cause.message

end CommandError

namespace World

def updateSession (f : Session → Session) (w : World) : World := { w with session := f w.session }

def input (w : World) : Source → List Bytes
  | .console => w.console.unread
  | .input i => i.unread.pieces

def consume (w : World) : Source → World
  | .console => { w with console := w.console.consume }
  | .input _ => w

-- Delivers what the shell wrote; what is captured is left in the effect.
def deliver (w : World) (stdout stderr : Sink) (e : Effect) : Effect × World :=
  let (writes, console) := match stdout with
    | .console => ([], e.writes.foldl Console.write w.console)
    | .capture => (e.writes, w.console)
  let (errors, console) := match stderr with
    | .console => ([], console.writeErrors e.errors)
    | .capture => (e.errors, console)
  ({ code := e.code, writes, errors }, { w with console })

def runBuiltin (w : World) (b : Builtin) (arguments : List Text) (source : Source) : Effect × World :=
  let reads := b.consumesInput arguments
  let (effect, session) := b.run w.files arguments (if reads then w.input source else []) w.session
  (effect, { (if reads then w.consume source else w) with session })

def invocation (w : World) (path : Text) (arguments : List Text) : Invocation where
  path := path
  name := path
  arguments := arguments
  environment := w.session.bindings.entries
  directory := w.session.directory

-- The world with the files a program left; a program does not move the shell's own directory.
def withFiles (w : World) (files : FileSystem) : World :=
  { w with files := { files with here := w.files.here } }

-- Runs a program. One that shares the console sees only the input that the shell has not taken.
def runProgram (w : World) (host : Host) (path : Text) (arguments : List Text) (source : Source)
    (stdout : Sink) : Except LaunchError (Effect × World) := do
  let invocation := w.invocation path arguments
  let (ending, console) ← match source with
    | .console => do
      let ending ← host.launch w.files invocation w.console.waiting
      pure (ending, { w.console with waiting := w.console.waiting.drop ending.taken })
    | .input i => do
      let ending ← host.launch w.files invocation i.unread
      pure (ending, w.console)
  let (writes, console) := match stdout with
    | .console => ([], console.writeThrough ending.output)
    | .capture => ([ending.output], console)
  return ({ code := ending.code, writes, errors := ending.errors },
    { w.withFiles ending.files with console })

def runCommand (w : World) (host : Host) (command : Command) (arguments : List Text) (source : Source)
    (stdout : Sink) : Except CommandError (Effect × World) :=
  match command with
  | .builtin b => .ok (w.runBuiltin b arguments source)
  | .script path => do
    let effect ← (w.session.runScript w.files path).mapError (.script path)
    return (effect, w)
  | .program path => (w.runProgram host path arguments source stdout).mapError (.program path)

def notFoundCode : Int := 127

def runNamed (w : World) (host : Host) (name : Text) (arguments : List Text) (source : Source)
    (stdout : Sink) : Effect × World :=
  match Command.find w.files w.session name with
  | none => (.complain notFoundCode ("kash: command not found: ".toList ++ name), w)
  | some command =>
    match w.runCommand host command arguments source stdout with
    | .ok done => done
    | .error e => (.complain 1 (name ++ ": ".toList ++ e.message), w)

def runSimple (w : World) (host : Host) (source : Source) (stdout stderr : Sink) :
    List Text → Effect × World
  | [] => ({}, w)
  | name :: arguments =>
    let (effect, w) := w.runNamed host name arguments source stdout
    w.deliver stdout stderr effect

end World

-- Runs a sub-shell, which does not read what the stage before it wrote. `exit` ends the sub-shell only.
def runSubshell (nested : LineRunner) (body : Text) (stdout stderr : Sink) : Run World Effect := do
  let exiting := (← get).session.exiting
  let restore := World.updateSession fun s => { s with exiting }
  let outcome ← tryCatch (nested stdout body) fun failure => do modify restore; throw failure
  modify restore
  modifyGet fun w => w.deliver stdout stderr outcome.effect

def runStage (host : Host) (nested : LineRunner) (source : Source) (stdout stderr : Sink) :
    Stage Text → Run World Effect
  | .simple words => modifyGet fun w => w.runSimple host source stdout stderr words
  | .subshell body => runSubshell nested body stdout stderr

def runStages (host : Host) (nested : LineRunner) (sink : Sink) (source : Source) :
    Stage Text → List (Stage Text) → Run World Effect
  | last, [] => runStage host nested source sink sink last
  | stage, next :: rest => do
    let effect ← runStage host nested source .capture sink stage
    let others ← runStages host nested sink (.input ⟨effect.output⟩) next rest
    return { others with errors := effect.errors ++ others.errors }

-- The first stage reads the console if the pipeline writes to it, and nothing otherwise.
def firstSource : Sink → Source
  | .console => .console
  | .capture => .input {}

def runPipeline (host : Host) (nested : LineRunner) (sink : Sink) (p : Pipeline Text) :
    Run World Outcome := do
  let effect ← runStages host nested sink (firstSource sink) p.first p.rest
  return effect.outcome

def runPipelines (host : Host) (nested : LineRunner) (sink : Sink) :
    Outcome → List (Pipeline Text) → Run World Outcome
  | done, [] => return done
  | done, p :: rest => do
    let done := done.followedBy (← runPipeline host nested sink p)
    if (← get).session.exiting then return done
    else runPipelines host nested sink done rest

def expandCommand (nested : LineRunner) (words : List Word) : Run World (List Text) := do
  let expanded ← Expansion.expandWords ⟨World.session, World.files, nested .capture⟩ words
  return expanded.map Word.text

-- Expands the words of all commands, in order, before any of them runs.
def expandList (nested : LineRunner) (list : CommandList Word) : Run World (CommandList Text) :=
  list.mapWordsM (expandCommand nested)

def isUnknown (w : World) : List (Pipeline Text) → Bool
  | ⟨.simple [], _⟩ :: _ => true
  | ⟨.simple (name :: _), _⟩ :: _ => (Command.find w.files w.session name).isNone
  | _ => false

def evaluateLine (line : Text) : Run World Outcome := do
  return (← get).session.evaluate line

-- Runs a line with `nested` for the lines inside it. What a background line does is not observed.
def runLineWith (host : Host) (nested : LineRunner) : LineRunner := fun sink line =>
  match CommandList.ofLine line with
  | .error _ => evaluateLine line
  | .ok list =>
    if list.pipelines.isEmpty then return {}
    else do
      let list ← expandList nested list
      if isUnknown (← get) list.pipelines then evaluateLine line
      else if list.background then return {}
      else runPipelines host nested sink {} list.pipelines

def runLine (host : Host) (sink : Sink) (line : Text) : Run World Outcome :=
  runLineWith host
    (fun sink inner => if inner.length < line.length then runLine host sink inner else return {}) sink line
termination_by line.length

end CommandShell
