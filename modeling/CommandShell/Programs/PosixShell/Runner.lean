import CommandShell.Programs.PosixShell.Redirect

/-!
What running a command rests on: text is read and run one complete command at a time, a shell comes to its
end, and processes are started beside it. How a single command is run is a parameter.

Processes take turns. One that is waited for runs to its end at once; one in the background runs when
something is waited for.
-/

set_option autoImplicit false

namespace CommandShell.PosixShell

structure Standing where
  isTested : Bool := false
  isLast : Bool := false
deriving DecidableEq, Repr

namespace Standing

def inside (s : Standing) : Standing := { s with isLast := false }

def tested : Standing := { isTested := true }

def last : Standing := { isLast := true }

end Standing

structure Runner where
  launch : Launcher
  run : Standing → Command → Shell Int
  substitute : Substitute

-- How many complete commands a text has at most, and how many rounds all loops have.
def maxRounds : Nat := 200000

namespace Own

def child (o : Own) (process : Nat) : Own :=
  { o with
    process
    ancestors := o.process :: o.ancestors
    traps := o.traps.filter (·.2.isEmpty)
    skip := none
    loops := 0
    jobs := []
    jobOrder := []
    arrived := []
    trapStatus := none
    unwritten := []
    hasLost := false }

def death (o : Own) : Death := ⟨o.status % 256, none⟩

def hasTraps (o : Own) : Bool := o.traps.any (!·.2.isEmpty)

def settle (o : Own) (stop : Stop) : Own :=
  let keeps := stop = .exit || o.skip == some (.leaveFunction false)
  let status := match o.trapStatus with
    | some status => if keeps then status else o.status
    | none => o.status
  { o with status, trapStatus := none, skip := none, loops := 0, unwritten := [], isTracing := false }

end Own

namespace Shell

def receive (signal : Nat) : Shell Unit := do
  match (← own).traps.lookup signal with
  | some action =>
    if Signal.isForced signal then throw (.killed signal)
    if action.isEmpty then return
    modifyOwn fun o => { o with arrived := (o.arrived.filter (· ≠ signal) ++ [signal]).mergeSort (· ≤ ·) }
  | none => if Signal.isFatal signal then throw (.killed signal)

def receiveAll : List Nat → Shell Unit
  | [] => return
  | signal :: rest => do
    receive signal
    receiveAll rest

def receiveSent : Shell Unit := do
  let s ← get
  let (sent, others) := s.shared.signals.partition (·.1 = s.own.process)
  if sent.isEmpty then return
  set { s with shared := { s.shared with signals := others } }
  receiveAll (sent.map Prod.snd)

def reportDeath (death : Death) : Shell Unit := do
  match death.signal with
  | some signal => if Signal.isReported signal then writeErrors (Signal.description signal ++ ['\n'])
  | none => return

def newProcess : Shell Nat := do
  let s ← get
  set { s with shared := { s.shared with nextProcess := s.shared.nextProcess + 1 } }
  return s.shared.nextProcess

def takePlace : Shell Nat := do
  let o ← own
  let isFree (place : Nat) : Bool := match o.jobs.lookup place with
    | some known => known.isWaited
    | none => true
  let place := ((List.range (o.jobs.length + 1)).find? isFree).getD o.jobs.length
  modifyOwn fun o => { o with
    jobs := o.jobs.filter (·.1 ≠ place)
    jobOrder := o.jobOrder.filter (· ≠ place) }
  return place

end Shell

namespace Runner

open Shell

def passed (before after : Reader) : Text :=
  let rest (r : Reader) : Text := (r.sources.getLast?.map Source.rest).getD []
  (rest before).take ((rest before).length - (rest after).length)

def firstLines (text : Text) : (count : Nat) → Text
  | 0 => []
  | count + 1 =>
    let (line, rest) := text.span (· ≠ '\n')
    line ++ rest.take 1 ++ firstLines rest.tail count

def showRead (isFile : Bool) (text : Text) : Shell Unit := do
  if isFile && (← own).has .verbose then writeErrors text

def runAll (r : Runner) (standing : Standing) (isFile : Bool) : (rounds : Nat) → Reader → Int → Shell Int
  | 0, _, status => return status
  | rounds + 1, reader, status => do
    let o ← own
    let current : Reader := { reader with aliases := o.aliases, documents := o.documents }
    match Reader.takeComplete current with
    | .error fault =>
      let lines := passed reader { reader with sources := [] }
      showRead isFile (firstLines lines (fault.line + 1 - reader.line))
      modifyOwn fun o => { o with line := fault.line }
      fail ("Syntax error: ".toList ++ fault.reason)
    | .ok (.finished, after) =>
      showRead isFile (passed reader after)
      return status
    | .ok (.command body, after) =>
      showRead isFile (passed reader after)
      modifyOwn fun o => { o with documents := after.documents }
      let isEnd := after.isPending && after.token = .endOfFile
      let status ← match body with
        | some command => r.run { standing with isLast := standing.isLast && isEnd } command
        | none => pure status
      if (← own).skip.isSome then return status
      r.runAll standing isFile rounds after status

def expandPrompt (r : Runner) (text : Text) : Shell Text := do
  let place : Place := { closing := .document, isQuoted := true, inDocument := true }
  let pieces := Reader.takePieces (Reader.innerCommands Reader.maxSteps) Reader.maxSteps place []
  match pieces (.ofText text) with
  | .ok (pieces, _) => expandDocument r.substitute pieces
  | .error _ => return text

def runText (r : Runner) (standing : Standing) (text : Text) : Shell Int :=
  r.runAll standing false maxRounds (.ofText text) 0

def runFile (r : Runner) (text : Text) : Shell Int := do
  let status ← r.runAll {} true maxRounds (.ofText text) 0
  modifyOwn fun o => { o with skip := o.skip.filter fun skip => match skip with
    | .leaveFunction _ => false
    | _ => true }
  return status

-- Does what is to be done on signals. The status stays what it was, unless a function is left with one.
def runActions (r : Runner) (status : Int) : List Nat → Shell Unit
  | [] => return
  | signal :: rest => do
    let o ← own
    if o.skip.isSome then modifyOwn fun o => { o with arrived := signal :: rest ++ o.arrived }
    else
      match o.traps.lookup signal with
      | some action =>
        let _ ← r.runText {} action
        if (← own).skip ≠ some (.leaveFunction true) then setStatus status
      | none => pure ()
      r.runActions status rest

def runTraps (r : Runner) : Shell Unit := do
  let o ← own
  if o.arrived.isEmpty then return
  let status := o.trapStatus.getD o.status
  modifyOwn fun o => { o with trapStatus := some status, arrived := [] }
  r.runActions status o.arrived
  modifyOwn fun before => { before with trapStatus := o.trapStatus }

def settle (stop : Stop) : StateM State (Option Death) := do
  match stop with
  | .killed signal => return some ⟨signalCode signal, some signal⟩
  | .replaced death => return some death
  | _ =>
    modify fun s => { s with own := s.own.settle stop }
    return none

-- Does what is to be done at the end of a shell. Unless that ends it otherwise its status stays.
def runEnd (r : Runner) : StateM State Death := do
  let o := (← get).own
  match o.traps.lookup 0 with
  | none => return o.death
  | some action =>
    let traps := o.traps.filter (·.1 ≠ 0)
    modify fun s => { s with own := { o with traps, trapStatus := some o.status, skip := none } }
    match ← (r.runText {} action).run with
    | .ok _ => return o.death
    | .error stop => match ← settle stop with
      | some death => return death
      | none => return (← get).own.death

def runToEnd (r : Runner) (body : Shell Unit) : StateM State Death := do
  match ← body.run with
  | .ok _ => r.runEnd
  | .error stop => match ← settle stop with
    | some death => return death
    | none => r.runEnd

def runJobs (r : Runner) : (rounds : Nat) → StateM State Unit
  | 0 => return
  | rounds + 1 => do
    let s ← get
    match s.shared.waiting with
    | [] => return
    | job :: rest =>
      set { own := job.own, shared := { s.shared with waiting := rest } : State }
      let death ← r.runToEnd do
        receiveSent
        applyAll r.substitute false [] job.redirections
        discard <| r.run .last job.body
      modify fun after =>
        let ended := (job.own.process, death) :: after.shared.ended
        { own := s.own, shared := { after.shared with ended } }
      r.runJobs rounds

def catchUp (r : Runner) : Shell Unit := do
  r.runJobs maxRounds
  receiveSent

def fork (r : Runner) (body : Shell Unit) : Shell Death := do
  r.catchUp
  let _ ← takePlace
  let process ← newProcess
  let before ← get
  set { before with own := before.own.child process }
  let death ← r.runToEnd body
  modify fun s => { s with own := before.own }
  receiveSent
  return death

end Runner

end CommandShell.PosixShell
