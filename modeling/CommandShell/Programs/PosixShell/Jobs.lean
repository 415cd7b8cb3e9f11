import CommandShell.Programs.PosixShell.Options
import CommandShell.Programs.PosixShell.Runner

set_option autoImplicit false

namespace CommandShell.PosixShell

namespace Shell

def death? (process : Nat) : Shell (Option Death) := do
  return (← get).shared.ended.lookup process

def jobPlace (o : Own) (name : Text) : Except Text Nat :=
  let unknown := "No such job: %".toList ++ name
  match String.ofList name with
  | "" | "+" | "%" => (o.jobOrder.head?.map .ok).getD (.error "No current job".toList)
  | "-" => (o.jobOrder[1]?.map .ok).getD (.error "No previous job".toList)
  | _ =>
    if name.all Char.isDigit then
      let n := (Arithmetic.takeDigits 10 0 name).1
      if n ≠ 0 && (o.jobs.lookup (n - 1)).isSome then .ok (n - 1) else .error unknown
    else .error unknown

def job (argument : Text) : Shell Nat := do
  match argument with
  | '%' :: name => match jobPlace (← own) name with
    | .ok place => return place
    | .error reason => fail reason
  | _ => fail ("No such job: ".toList ++ argument)

def deathText (death : Death) : Text :=
  match death.signal with
  | some signal => Signal.description signal
  | none => if death.code = 0 then "Done".toList else "Done(".toList ++ Text.ofInt death.code ++ [')']

def jobColumn : Nat := 33

def showJob (withProcess onlyProcess : Bool) (place : Nat) : Shell Unit := do
  let o ← own
  let process := ((o.jobs.lookup place).map Known.process).getD 0
  if onlyProcess then printLine (Text.ofNat process)
  else
    let death? ← death? process
    let mark :=
      if o.jobOrder.head? = some place then '+' else if o.jobOrder[1]? = some place then '-' else ' '
    let text := '[' :: Text.ofNat (place + 1) ++ "] ".toList ++ mark :: ' ' ::
      (if withProcess then Text.ofNat process ++ [' '] else []) ++
      ((death?.map deathText).getD "Running".toList)
    printLine (text ++ List.replicate (max 1 (jobColumn - text.length)) ' ')
    if death?.isSome then
      modifyOwn fun o => { o with
        jobs := o.jobs.filter (·.1 ≠ place), jobOrder := o.jobOrder.filter (· ≠ place) }

def showJobs (withProcess onlyProcess : Bool) : List Nat → Shell Unit
  | [] => return
  | place :: rest => do
    showJob withProcess onlyProcess place
    showJobs withProcess onlyProcess rest

def jobs (arguments : List Text) : Shell Int := do
  let (given, arguments) ← options (Options.plain "lp") arguments
  let last := given.getLast?.map Prod.fst
  let show' (places : List Nat) := showJobs (last == some 'l') (last == some 'p') places
  if arguments.isEmpty then show' (← own).jobOrder
  else
    for argument in arguments do
      show' [← job argument]
  return 0

-- Moving jobs needs a terminal that the shell controls.
def moveJob (arguments : List Text) : Shell Int := do
  let name := arguments.head?
  let _ ← job (name.getD ['%'])
  fail ("job ".toList ++ name.getD "(null)".toList ++ " not created under job control".toList)

def send (signal : Nat) (process : Nat) : Shell Bool := do
  let s ← get
  if process = s.own.process then
    if signal ≠ 0 then receive signal
    return true
  else if s.own.ancestors.contains process || s.shared.waiting.any (·.own.process = process) then
    if signal ≠ 0 then
      set { s with shared := { s.shared with signals := s.shared.signals ++ [(process, signal)] } }
    return true
  else return s.own.jobs.any fun (_, known) => known.process = process && !known.isWaited

def sendEach (signal : Nat) : List Text → (status : Int) → Shell Int
  | [], status => return status
  | argument :: rest, status => do
    let process? : Option Nat ← match argument with
      | '%' :: _ => do
        let _ ← job argument
        pure none
      | '-' :: group => do
        let _ ← number group
        pure none
      | _ => do pure (some (← number argument).toNat)
    let isSent ← match process? with
      | some process => send signal process
      | none => pure false
    if isSent then sendEach signal rest status
    else
      complain "No such process\n".toList
      sendEach signal rest 1

def killUsage : Text :=
  "Usage: kill [-s sigspec | -signum | -sigspec] [pid | job]... or\nkill -l [exitstatus]".toList

def nameSignal (argument : Text) : Shell Unit := do
  let n ← number argument
  let n := if 128 < n then n - 128 else n
  if 0 < n && n ≤ Signal.lastNumber then printLine (Signal.name n.toNat)
  else fail ("invalid signal number or exit status: ".toList ++ argument)

def listSignals : Shell Unit := do
  printLine ['0']
  for n in List.range Signal.lastNumber do
    printLine (Signal.name (n + 1))

def signalOption? : List Text → Option Nat
  | ('-' :: name) :: _ =>
    if name.map Char.toUpper = Signal.endName then none else Signal.ofText? name
  | _ => none

def givenSignal? : List Options.Given → Shell (Option Nat)
  | [] => return none
  | ('s', some name) :: rest => do
    match if name.map Char.toUpper = Signal.endName then none else Signal.ofText? name with
    | some signal => return some ((← givenSignal? rest).getD signal)
    | none => fail ("invalid signal number or name: ".toList ++ name)
  | _ :: rest => givenSignal? rest

def kill (arguments : List Text) : Shell Int := do
  if arguments.isEmpty then fail killUsage
  match signalOption? arguments with
  | some signal =>
    if arguments.tail.isEmpty then fail killUsage
    sendEach signal arguments.tail 0
  | none =>
    let startsOptions := arguments.head?.bind List.head? == some '-'
    let (given, arguments) ← if startsOptions then options [('l', false), ('s', true)] arguments
      else pure ([], arguments)
    let signal? ← givenSignal? given
    if given.any (·.1 = 'l') then
      if signal?.isSome && !arguments.isEmpty then fail killUsage
      match arguments with
      | [] => listSignals
      | argument :: _ => nameSignal argument
      return 0
    else
      if arguments.isEmpty then fail killUsage
      sendEach (signal?.getD 15) arguments 0

def setTraps : (action : Option Text) → List Text → Shell Int
  | _, [] => return 0
  | action, name :: rest => do
    match Signal.ofText? name with
    | none =>
      writeErrors ("trap: ".toList ++ name ++ ": bad trap\n".toList)
      return 1
    | some signal =>
      let action := action.filter (· ≠ ['-'])
      modifyOwn fun o =>
        let others := o.traps.filter (·.1 ≠ signal)
        { o with traps := match action with
          | some action => (signal, action) :: others
          | none => others }
      setTraps action rest

def trap (arguments : List Text) : Shell Int := do
  match (← options [] arguments).2 with
  | [] =>
    let o ← own
    for signal in List.range (Signal.lastNumber + 1) do
      match o.traps.lookup signal with
      | some action => printLine ("trap -- ".toList ++ quoted action ++ ' ' :: Signal.name signal)
      | none => pure ()
    return 0
  | first :: rest =>
    let isNumber := !first.isEmpty && first.all Char.isDigit && (Signal.ofText? first).isSome
    if rest.isEmpty || isNumber then setTraps none (first :: rest) else setTraps (some first) rest

end Shell

namespace Runner

open Shell

def deathStatus (process : Nat) : Shell Int := do
  return ((← death? process).map Death.code).getD 127

def waitFor (r : Runner) (argument : Text) : Shell Int := do
  let place? : Option Nat ←
    if argument.head? = some '%' then do pure (some (← job argument))
    else do
      let n ← number argument
      pure (((← own).jobs.find? fun job => (job.2.process : Int) = n).map Prod.fst)
  let o ← own
  match place?.bind (fun place => o.jobs.lookup place), place? with
  | some known, some place =>
    let isRunning := (← death? known.process).isNone
    r.catchUp
    match (← own).arrived with
    | signal :: _ => if isRunning then return signalCode signal
    | [] => pure ()
    if isRunning then
      match ← death? known.process with
      | some death => reportDeath death
      | none => pure ()
    modifyOwn fun o => { o with
      jobs := o.jobs.map fun (other, known) =>
        (other, if other = place then { known with isWaited := true } else known) }
    deathStatus known.process
  | _, _ => return 127

def waitEach (r : Runner) : List Text → (status : Int) → Shell Int
  | [], status => return status
  | argument :: rest, _ => do
    let status ← r.waitFor argument
    r.waitEach rest status

def wait (r : Runner) (arguments : List Text) : Shell Int := do
  match (← options [] arguments).2 with
  | [] =>
    r.catchUp
    match (← own).arrived with
    | signal :: _ => return signalCode signal
    | [] =>
      modifyOwn fun o => { o with
        jobs := o.jobs.map fun (place, known) => (place, { known with isWaited := true }) }
      return 0
  | arguments => r.waitEach arguments 127

end Runner

end CommandShell.PosixShell
