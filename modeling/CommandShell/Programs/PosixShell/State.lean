import CommandShell.Programs.Basic
import CommandShell.Programs.PosixShell.Descriptor
import CommandShell.Programs.PosixShell.Grammar
import CommandShell.Programs.PosixShell.Signal

set_option autoImplicit false

namespace CommandShell.PosixShell

inductive Switch where
  | errexit
  | noglob
  | ignoreeof
  | interactive
  | monitor
  | noexec
  | stdin
  | xtrace
  | verbose
  | vi
  | emacs
  | noclobber
  | allexport
  | notify
  | nounset
  | privileged
  | nolog
  | debug
deriving DecidableEq, Repr

namespace Switch

def table : List (Switch × String × Option Char) :=
  [(errexit, "errexit", some 'e'), (noglob, "noglob", some 'f'), (ignoreeof, "ignoreeof", some 'I'),
   (interactive, "interactive", some 'i'), (monitor, "monitor", some 'm'), (noexec, "noexec", some 'n'),
   (stdin, "stdin", some 's'), (xtrace, "xtrace", some 'x'), (verbose, "verbose", some 'v'),
   (vi, "vi", some 'V'), (emacs, "emacs", some 'E'), (noclobber, "noclobber", some 'C'),
   (allexport, "allexport", some 'a'), (notify, "notify", some 'b'), (nounset, "nounset", some 'u'),
   (privileged, "privileged", some 'p'), (nolog, "nolog", none), (debug, "debug", none)]

def ofLetter? (c : Char) : Option Switch := (table.find? (·.2.2 = some c)).map Prod.fst

def ofName? (name : Text) : Option Switch := (table.find? (·.2.1.toList = name)).map Prod.fst

end Switch

structure Variable where
  -- A variable may be exported, or kept from changing, before it has a value.
  value : Option Text := none
  isExported : Bool := false
  isReadOnly : Bool := false
deriving DecidableEq, Repr

inductive Saved where
  | variable (name : Text) (before : Option Variable)
  | switches (before : List Switch)

inductive Skip where
  | leaveLoops (n : Nat)
  | nextRound (n : Nat)
  | leaveFunction (isGiven : Bool)
deriving DecidableEq, Repr

structure Death where
  code : Int
  signal : Option Nat := none
deriving DecidableEq, Repr

structure Remembered where
  index : Nat
  isStale : Bool := false
deriving DecidableEq, Repr

structure Known where
  process : Nat
  isWaited : Bool := false
deriving DecidableEq, Repr

structure Own where
  name : Text
  arguments : List Text := []
  bindings : List (Text × Variable) := []
  functions : List (Text × Command) := []
  aliases : List (Text × Text) := []
  switches : List Switch := []
  traps : List (Nat × Text) := []
  descriptors : Descriptors := []
  here : Location
  directory : Text
  mask : Nat := 18
  status : Int := 0
  innerStatus : Int := 0
  skip : Option Skip := none
  loops : Nat := 0
  depth : Nat := 0
  -- What the commands being run put back, the innermost first.
  saved : List (List Saved) := []
  line : Nat := 0
  command : Option Text := none
  found : List (Text × Remembered) := []
  optionIndex : Nat := 1
  optionOffset : Option Nat := none
  documents : Array (List Piece) := #[]
  process : Nat
  ancestors : List Nat := []
  lastBackground : Option Nat := none
  jobs : List (Nat × Known) := []
  jobOrder : List Nat := []
  isTracing : Bool := false
  -- What builtins have written and not handed on, the last piece first.
  unwritten : List Text := []
  hasLost : Bool := false
  arrived : List Nat := []
  trapStatus : Option Int := none

inductive Prepared where
  | file (fd : Nat) (mode : FileMode) (path : Text)
  | copy (fd : Nat) (source : Option Nat)
  | document (fd number : Nat)
deriving DecidableEq, Repr

namespace Prepared

def fd : Prepared → Nat
  | file fd _ _ | copy fd _ | document fd _ => fd

end Prepared

structure Job where
  body : Command
  redirections : List Prepared
  own : Own

structure Shared where
  system : System
  waiting : List Job := []
  ended : List (Nat × Death) := []
  nextProcess : Nat
  signals : List (Nat × Nat) := []
  rounds : Nat := 0

structure State where
  own : Own
  shared : Shared

inductive Stop where
  | exit
  -- Its last command is done, or one has failed that must not.
  | finished
  -- Something is wrong that only a builtin which is not special survives.
  | failed
  | killed (signal : Nat)
  -- Another program took its place, and has ended.
  | replaced (death : Death)
deriving DecidableEq, Repr

abbrev Shell := ExceptT Stop (StateM State)

abbrev Launcher := FileSystem → Invocation → Bytes → Except LaunchError Ending

def mainProcess : Nat := 4242

namespace Own

def has (o : Own) (s : Switch) : Bool := o.switches.contains s

def entry? (o : Own) (name : Text) : Option Variable := o.bindings.lookup name

def value? (o : Own) (name : Text) : Option Text := (o.entry? name).bind Variable.value

def value (o : Own) (name : Text) : Text := (o.value? name).getD []

def insertVariable (name : Text) (v : Variable) : List (Text × Variable) → List (Text × Variable)
  | [] => [(name, v)]
  | (other, w) :: rest =>
    if name < other then (name, v) :: (other, w) :: rest
    else if name = other then (name, v) :: rest
    else (other, w) :: insertVariable name v rest

def setVariable (o : Own) (name : Text) (v : Variable) : Own :=
  { o with bindings := insertVariable name v o.bindings }

def restore (o : Own) (name : Text) : Option Variable → Own
  | some v => o.setVariable name v
  | none => { o with bindings := o.bindings.filter (·.1 ≠ name) }

def noticeChange (o : Own) (name value : Text) : Own :=
  if name = "OPTIND".toList then
    let index := (value.takeWhile Char.isDigit).foldl (fun n c => n * 10 + (c.toNat - '0'.toNat)) 0
    { o with optionIndex := max 1 index, optionOffset := none }
  else if name = "PATH".toList then { o with found := [] }
  else o

def separators (o : Own) : Text := (o.value? "IFS".toList).getD " \t\n".toList

def joint (o : Own) : Text := o.separators.take 1

def environment (o : Own) : List (Text × Text) :=
  o.bindings.filterMap fun (name, v) => if v.isExported then v.value.map (name, ·) else none

end Own

namespace Shell

def own : Shell Own := do return (← get).own

def modifyOwn (f : Own → Own) : Shell Unit := modify fun s => { s with own := f s.own }

def modifySystem (f : System → System) : Shell Unit :=
  modify fun s => { s with shared := { s.shared with system := f s.shared.system } }

def files : Shell FileSystem := do
  let s ← get
  return { s.shared.system.files with here := s.own.here }

def setStatus (status : Int) : Shell Unit := modifyOwn fun o => { o with status }

def channelNumber? (fd : Nat) : Shell (Option Nat) := do
  return (← own).descriptors.get? fd

def write (fd : Nat) (data : Bytes) : Shell Bool := do
  match ← channelNumber? fd with
  | none => return false
  | some number =>
    match (← get).shared.system.write? number data with
    | some system =>
      modifySystem fun _ => system
      return true
    | none => return false

def writeErrors (text : Text) : Shell Unit := do
  let _ ← write 2 (Octets.bytes text)

def complain (message : Text) : Shell Unit := do
  let o ← own
  let place := o.name ++ ": ".toList ++ Text.ofNat o.line ++ ": ".toList
  let command := (o.command.map (· ++ ": ".toList)).getD []
  writeErrors (place ++ command ++ message ++ ['\n'])

def print (text : Text) : Shell Unit := modifyOwn fun o => { o with unwritten := text :: o.unwritten }

def flush : Shell Unit := do
  let pieces := (← own).unwritten
  if pieces.isEmpty then return
  modifyOwn fun o => { o with unwritten := [] }
  let data := Octets.bytes pieces.reverse.flatten
  if data.isEmpty then return
  if !(← write 1 data) then modifyOwn fun o => { o with hasLost := true }

def failWith {α : Type} (status : Int) (message : Text) : Shell α := do
  complain message
  flush
  setStatus status
  throw .failed

def fail {α : Type} (message : Text) : Shell α := failWith 2 message

def setValue (name value : Text) (exports : Bool) : Shell Unit := do
  if !isName name then fail (name ++ ": bad variable name".toList)
  let o ← own
  let before := (o.entry? name).getD {}
  if before.isReadOnly then fail (name ++ ": is read only".toList)
  let isExported := before.isExported || exports || o.has .allexport
  modifyOwn (·.setVariable name { before with value := some value, isExported })
  modifyOwn (·.noticeChange name value)

-- Variables that every shell has; what is known of one of them besides its value stays when it is unset.
def fixedNames : List Text :=
  ["IFS", "MAIL", "MAILPATH", "PATH", "PS1", "PS2", "PS4", "OPTIND"].map String.toList

def unsetVariable (name : Text) : Shell Unit := do
  let o ← own
  match o.entry? name with
  | none => return
  | some v =>
    if v.isReadOnly then fail (name ++ ": is read only".toList)
    let isLocal := o.saved.any (·.any fun saved => match saved with
      | .variable other _ => other == name
      | .switches _ => false)
    let isKept := isLocal || fixedNames.contains name
    modifyOwn (·.restore name (if isKept then some { v with value := none } else none))
    modifyOwn (·.noticeChange name [])

def openScope : Shell Unit := modifyOwn fun o => { o with saved := [] :: o.saved }

def makeLocal (name : Text) : Shell Unit := modifyOwn fun o =>
  match o.saved with
  | [] => o
  | scope :: rest => { o with saved := (.variable name (o.entry? name) :: scope) :: rest }

def closeScopes (left : Nat) : Shell Unit := modifyOwn fun o =>
  let closing := o.saved.take (o.saved.length - left)
  let restored := closing.flatten.foldl (fun (o : Own) saved => match saved with
    | .switches before => { o with switches := before }
    | .variable name before =>
      (o.restore name before).noticeChange name ((before.bind Variable.value).getD [])) o
  { restored with saved := o.saved.drop closing.length }

end Shell

end CommandShell.PosixShell
