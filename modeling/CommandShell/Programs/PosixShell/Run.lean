import CommandShell.Programs.PosixShell.Simple

set_option autoImplicit false

namespace CommandShell.PosixShell

namespace Shell

def endRound : Shell (Option Skip) := do
  let setSkip (skip : Option Skip) : Shell Unit := modifyOwn fun o => { o with skip }
  match (← own).skip with
  | some (.leaveLoops n) =>
    setSkip (if n ≤ 1 then none else some (.leaveLoops (n - 1)))
    return some (.leaveLoops n)
  | some (.nextRound n) =>
    if n ≤ 1 then
      setSkip none
      return some (.nextRound 1)
    else
      setSkip (some (.nextRound (n - 1)))
      return some (.leaveLoops n)
  | other => return other

def endsLoop : Option Skip → Bool
  | none | some (.nextRound _) => false
  | _ => true

def isSkipping : Shell Bool := do return (← own).skip.isSome

def setLine (line : Nat) : Shell Unit := modifyOwn fun o => { o with line }

def inLoop (body : Shell Int) : Shell Int := do
  let loops := (← own).loops
  modifyOwn fun o => { o with loops := loops + 1 }
  let status ← body
  modifyOwn fun o => { o with loops }
  return status

end Shell

-- Whether a shell that stops at failures stops at that of a command itself, not only at that of a part.
def Command.isChecked : Command → Bool
  | simple _ _ _ _ | pipe _ _ | background _ _ _ | subshell _ _ _ => true
  | _ => false

namespace Runner

open Shell

-- Counts a round of a loop. What has no end is ended like a writer that nobody reads from.
def countRound : Shell Unit := do
  let s ← get
  if maxRounds ≤ s.shared.rounds then throw (.killed 13)
  set { s with shared := { s.shared with rounds := s.shared.rounds + 1 } }

def runLoop (r : Runner) (standing : Standing) (isUntil : Bool) (test body : Command) :
    (rounds : Nat) → (status : Int) → Shell Int
  | 0, _ => throw (.killed 13)
  | rounds + 1, status => do
    countRound
    let tested ← r.run .tested test
    match ← endRound with
    | some skip =>
      let status := if skip = .leaveFunction true then tested else status
      if endsLoop (some skip) then return status else r.runLoop standing isUntil test body rounds status
    | none =>
      if decide (tested = 0) = isUntil then return status
      let status ← r.run standing.inside body
      if endsLoop (← endRound) then return status
      r.runLoop standing isUntil test body rounds status

def runItems (r : Runner) (standing : Standing) (name : Text) (body : Command) :
    List Text → (status : Int) → Shell Int
  | [], status => return status
  | item :: rest, _ => do
    setValue name item false
    let status ← r.run standing.inside body
    if endsLoop (← endRound) then return status
    r.runItems standing name body rest status

def matchesAny (r : Runner) (subject : Text) : List (List Piece) → Shell Bool
  | [] => return false
  | word :: rest => do
    let pattern ← expandPattern r.substitute word
    if Pattern.isMatch (Pattern.ofText pattern) subject then return true
    r.matchesAny subject rest

def runCases (r : Runner) (standing : Standing) (subject : Text) : List Case → Shell Int
  | [] => return 0
  | .mk patterns body :: rest => do
    if ← isSkipping then return 0
    if ← r.matchesAny subject patterns then
      match body with
      | some command => if ← isSkipping then return 0 else r.run standing command
      | none => return 0
    else r.runCases standing subject rest

def runSequence (r : Runner) (standing : Standing) : List Command → Shell Unit
  | [] => return
  | [last] => do setStatus (← r.run standing last)
  | first :: rest => do
    let _ ← r.run standing.inside first
    if ← isSkipping then return
    r.runSequence standing rest

def rememberStage : Command → Shell Unit
  | .simple _ _ (word :: _) _ =>
    match Piece.plain? word with
    | some name => if isName name then discard <| meaning {} name else return
    | none => return
  | _ => return

def runStages (r : Runner) (standing : Standing) : (input : Option Nat) → List Command → Death → Shell Death
  | _, [], death => return death
  | input, stage :: rest, _ => do
    rememberStage stage
    let output ← if rest.isEmpty then pure none else do pure (some (← addChannel (.pipe [] [])))
    let death ← r.fork do
      match input with
      | some number => setDescriptor 0 number
      | none => pure ()
      match output with
      | some number => setDescriptor 1 number
      | none => pure ()
      discard <| r.run { standing with isLast := true } stage
    reportDeath death
    r.runStages standing output rest death

def startBackground (r : Runner) (body : Command) (redirections : List Redirection) : Shell Unit := do
  let redirections ← prepareAll r.substitute redirections
  let place ← takePlace
  let process ← newProcess
  let number ← addChannel .null
  let s ← get
  let child := s.own.child process
  let job : Job := { body, redirections, own := { child with descriptors := child.descriptors.set 0 number } }
  set { s with shared := { s.shared with waiting := s.shared.waiting ++ [job] } }
  modifyOwn fun o => { o with
    jobs := o.jobs ++ [(place, { process })]
    jobOrder := place :: o.jobOrder
    lastBackground := some process }

def runSubshell (r : Runner) (standing : Standing) (body : Command) (redirections : List Redirection) :
    Shell Int := do
  let redirections ← prepareAll r.substitute redirections
  let run : Shell Unit := do
    applyAll r.substitute false [] redirections
    discard <| r.run { standing with isLast := true } body
  if standing.isLast && !(← own).hasTraps then
    run
    return (← own).status
  else
    let death ← r.fork run
    reportDeath death
    return death.code

def runParts (r : Runner) (standing : Standing) : Command → Shell Unit
  | .simple line assignments words redirections => do
    setLine line
    setStatus (← r.runSimple standing assignments words redirections)
  | .pipe stages false => do setStatus (← r.runStages standing none stages ⟨0, none⟩).code
  | .pipe stages true => do
    r.startBackground (.pipe stages false) []
    setStatus 0
  | .negated body => do
    let status ← r.run .tested body
    setStatus (if ← isSkipping then status else if status = 0 then 1 else 0)
  | .both first second => do
    let status ← r.run .tested first
    if status ≠ 0 || (← isSkipping) then return
    setStatus (← r.run standing second)
  | .either first second => do
    let status ← r.run .tested first
    if status = 0 || (← isSkipping) then return
    setStatus (← r.run standing second)
  | .sequence commands => r.runSequence standing commands
  | .background _ body redirections => do
    r.startBackground body redirections
    setStatus 0
  | .subshell line body redirections => do
    setLine line
    setStatus (← r.runSubshell standing body redirections)
  | .redirected line body redirections => do
    setLine line
    setStatus (← r.redirected redirections false (pure 2) (r.run standing.inside body))
  | .conditional test body otherwise => do
    let status ← r.run .tested test
    if ← isSkipping then return
    if status = 0 then setStatus (← r.run standing body)
    else match otherwise with
      | some other => setStatus (← r.run standing other)
      | none => setStatus 0
  | .loop isUntil test body => do
    setStatus (← inLoop (r.runLoop standing isUntil test body maxRounds 0))
  | .forEach line name items body => do
    setLine line
    let items ← r.expandArguments false items
    setStatus (← inLoop (r.runItems standing name body items 0))
  | .choice line subject cases => do
    setLine line
    let subject ← expandText r.substitute .start subject
    setStatus (← r.runCases standing subject cases)
  | .define name body => do
    modifyOwn fun o => { o with functions := (name, body) :: o.functions.filter (·.1 ≠ name) }
    setStatus 0

def runCommand (r : Runner) (standing : Standing) (c : Command) : Shell Int := do
  let isIdle := (← own).has .noexec
  if !isIdle then
    r.runTraps
    r.runParts standing c
  let hasFailed := (← own).status ≠ 0
  r.runTraps
  let stops := !isIdle && hasFailed && !standing.isTested && c.isChecked && (← own).has .errexit
  if stops || standing.isLast then throw .finished
  return (← own).status

def substituteCommand (r : Runner) : Substitute
  | none => return []
  | some body => do
    let number ← addChannel (.pipe [] [])
    let death ← r.fork do
      setDescriptor 1 number
      discard <| r.run .last body
    reportDeath death
    modifyOwn fun o => { o with innerStatus := death.code }
    let data := ((← get).shared.system.unread number).toOption.getD []
    modifySystem (·.consume number data.length)
    return (((Octets.ofBytes data).filter (· ≠ '\x00')).reverse.dropWhile (· = '\n')).reverse

def within (launch : Launcher) : (depth : Nat) → Runner
  | 0 => { launch, run := fun _ _ => throw (.killed 11), substitute := fun _ => throw (.killed 11) }
  | depth + 1 => {
      launch
      run := fun standing command => (within launch depth).runCommand standing command
      substitute := fun command => (within launch depth).substituteCommand command }

def maxDepth : Nat := 20000

end Runner

end CommandShell.PosixShell
