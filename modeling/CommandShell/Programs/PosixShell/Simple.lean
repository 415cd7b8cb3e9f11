import CommandShell.Programs.PosixShell.Builtins

set_option autoImplicit false

namespace CommandShell.PosixShell

def maxFunctionDepth : Nat := 1000

def maxNamingWords : Nat := 100000

structure Naming where
  passed : List Text := []
  words : List Text
  rest : List (List Piece)
  mode : LookupMode := {}
  utility : Option Utility := none
  isSpecial : Bool := false

namespace Naming

def name (n : Naming) : Text := n.words.head?.getD []

def backTo (before n : Naming) : Naming :=
  { before with words := n.passed.drop before.passed.length ++ n.words, rest := n.rest }

end Naming

namespace Runner

open Shell

def fill (r : Runner) : List (List Piece) → Shell (List Text × List (List Piece))
  | [] => return ([], [])
  | word :: rest => do
    let fields ← expandFields r.substitute word
    if fields.isEmpty then r.fill rest else return (fields, rest)

def passWord (r : Runner) (n : Naming) : Shell (Bool × Naming) := do
  match n.words with
  | first :: next :: others =>
    return (true, { n with passed := n.passed ++ [first], words := next :: others })
  | words =>
    let (fields, rest) ← r.fill n.rest
    if fields.isEmpty then return (false, { n with rest })
    return (true, { n with passed := n.passed ++ words, words := fields, rest })

def passOptions (r : Runner) : (fuel : Nat) → Naming → Shell (Bool × Naming)
  | 0, n => return (false, n)
  | fuel + 1, n => do
    let (hasNext, n) ← r.passWord n
    if !hasNext then return (false, n)
    match n.name with
    | ['-', '-'] => r.passWord n
    | '-' :: letter :: letters =>
      if (letter :: letters).all (· = 'p') then
        r.passOptions fuel { n with mode := { n.mode with searchPath := some standardPath } }
      else return (false, n)
    | _ => return (true, n)

def identify (r : Runner) : (fuel : Nat) → Naming → Shell Naming
  | 0, n => return n
  | fuel + 1, n => do
    match ← innerMeaning? n.mode n.name with
    | some (.utility u) =>
      let isSpecial := if n.utility.isNone then u.isSpecial else n.isSpecial
      let n := { n with utility := some u, isSpecial }
      if u ≠ .command then return n
      let (isPassed, next) ← r.passOptions maxNamingWords n
      if isPassed then r.identify fuel { next with mode := { next.mode with skipsFunctions := true } }
      else return n.backTo next
    | _ => return n

def expandArguments (r : Runner) (assigns : Bool) : List (List Piece) → Shell (List Text)
  | [] => return []
  | word :: rest => do
    let fields ←
      if assigns && (Piece.assigned? word).isSome then pure [← expandText r.substitute .assignment word]
      else expandFields r.substitute word
    return fields ++ (← r.expandArguments assigns rest)

def assign (r : Runner) (isLocal exports : Bool) : List (List Piece) → Shell (List Text)
  | [] => return []
  | word :: rest => do
    let text ← expandText r.substitute .assignment word
    match splitAssignment text with
    | some (name, value) =>
      if isLocal then makeLocal name
      setValue name value (isLocal || exports)
    | none => pure ()
    return text :: (← r.assign isLocal exports rest)

def trace (r : Runner) (errors : Option Nat) (texts : List Text) : Shell Unit := do
  let o ← own
  if !o.has .xtrace || o.isTracing then return
  modifyOwn fun o => { o with isTracing := true }
  let start ← r.expandPrompt (o.value "PS4".toList)
  modifyOwn fun o => { o with isTracing := false }
  match errors with
  | none => return
  | some number =>
    let line := Octets.bytes (start ++ Text.join [' '] texts ++ ['\n'])
    match (← get).shared.system.write? number line with
    | some system => modifySystem fun _ => system
    | none => return

-- Runs a function. Its arguments are its own; where it is left by a failure, so are they.
def callFunction (r : Runner) (standing : Standing) (body : Command) (arguments : List Text) : Shell Int := do
  let before ← own
  if maxFunctionDepth ≤ before.depth then
    fail ("Maximum function recursion depth (".toList ++ Text.ofNat maxFunctionDepth ++ ") reached".toList)
  let restore : Shell Unit := modifyOwn fun o => { o with
    arguments := before.arguments
    depth := before.depth
    loops := before.loops
    optionIndex := before.optionIndex
    optionOffset := before.optionOffset }
  modifyOwn fun o => { o with
    arguments, depth := before.depth + 1, loops := 0, optionIndex := 1, optionOffset := none }
  let _ ← tryCatch (r.run { isTested := standing.isTested } body) fun stop => do
    restore
    throw stop
  restore
  modifyOwn fun o => { o with skip := o.skip.filter fun skip => match skip with
    | .leaveFunction _ => false
    | _ => true }
  return (← own).status

def callUtility (r : Runner) (standing : Standing) (u : Utility) (words : List Text) : Shell Int := do
  let before := (← own).command
  let name := words.head?.getD []
  let leave : Shell Unit := modifyOwn fun o => { o with command := before, unwritten := [], hasLost := false }
  modifyOwn fun o => { o with command := some name }
  let body : Shell Int := do
    let status ← r.runUtility standing u words.tail
    flush
    if !(← own).hasLost then return status
    complain (name ++ ": I/O error".toList)
    return if status % 2 = 0 then status + 1 else status
  let status ← tryCatch body fun stop => do
    leave
    throw stop
  leave
  setStatus status
  return status

def call (r : Runner) (standing : Standing) (n : Naming) (words : List Text) : Shell Int := do
  match words with
  | [] => return (← own).innerStatus
  | name :: arguments =>
    match ← meaning n.mode name with
    | .unknown cause =>
      complain (name ++ ": ".toList ++ describeExec cause)
      return 127
    | .function body => r.callFunction standing body arguments
    | .utility u =>
      if n.isSpecial then r.callUtility standing u words
      else
        let scopes := (← own).saved.length
        tryCatch (r.callUtility standing u words) fun stop => do
          if stop ≠ .failed then throw stop
          closeScopes scopes
          return (← own).status
    | .program index =>
      let index := index.getD 0
      if standing.isLast && !(← own).hasTraps then r.becomeNamed words index n.mode.searchPath
      else r.runAndWait words index n.mode.searchPath

def restoreDescriptors (before : Descriptors) : List Nat → Descriptors → Descriptors
  | [], d => d
  | fd :: rest, d => match before.get? fd with
    | some number => restoreDescriptors before rest (d.set fd number)
    | none => restoreDescriptors before rest (d.close fd)

def redirected (r : Runner) (redirections : List Redirection) (keeps : Bool) (failed body : Shell Int) :
    Shell Int := do
  let prepared ← prepareAll r.substitute redirections
  let before := (← own).descriptors
  let restore : Shell Unit := modifyOwn fun o =>
    { o with descriptors := restoreDescriptors before (prepared.map Prepared.fd) o.descriptors }
  let whole : Shell Int := do
    if ← redirectSafely r.substitute prepared then body else failed
  let status ← tryCatch whole fun stop => do
    restore
    throw stop
  if !keeps then restore
  return status

def runSimple (r : Runner) (standing : Standing) (assignments words : List (List Piece))
    (redirections : List Redirection) : Shell Int := do
  modifyOwn fun o => { o with innerStatus := 0 }
  let (fields, rest) ← r.fill words
  let isEmpty := fields.isEmpty
  let start : Naming := { words := fields, rest }
  let n ← if isEmpty then pure start else r.identify maxNamingWords start
  let others ← r.expandArguments (n.utility.any Utility.assigns) n.rest
  let words := n.words ++ others
  let isExec := n.utility == some .exec
  let isLocal := !isEmpty && !n.isSpecial
  let scopes := (← own).saved.length
  if isLocal then openScope
  let errors ← channelNumber? 2
  let failed : Shell Int := do
    setStatus 2
    if n.isSpecial then throw .failed
    return 2
  let status ← r.redirected redirections isExec failed do
    let texts ← r.assign isLocal (isExec && words.length > 1) assignments
    r.trace errors (texts ++ n.passed ++ words)
    r.call standing n words
  if isLocal then closeScopes scopes
  return status

end Runner

end CommandShell.PosixShell
