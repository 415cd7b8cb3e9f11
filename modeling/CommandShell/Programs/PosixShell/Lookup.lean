import CommandShell.Programs.PosixShell.Runner
import CommandShell.Programs.PosixShell.Utility

set_option autoImplicit false

namespace CommandShell.PosixShell

inductive Meaning where
  | function (body : Command)
  | utility (u : Utility)
  | program (index : Option Nat)
  | unknown (cause : FileError)

structure LookupMode where
  skipsFunctions : Bool := false
  searchPath : Option Text := none
deriving DecidableEq, Repr

def standardPath : Text := "/usr/local/sbin:/usr/local/bin:/usr/sbin:/usr/bin:/sbin:/bin".toList

def pathIn (place name : Text) : Text := if place.isEmpty then name else place ++ '/' :: name

def describeExec (e : FileError) : Text :=
  if e = .notFound ∨ e = .notADirectory then "not found".toList else e.reason.1

-- The number of the first directory that has a program of this name. What went wrong in the last one that is
-- worth a word is the cause if none has.
def findProgram (fs : FileSystem) (name : Text) : (index : Nat) → FileError → List Text → Except FileError Nat
  | _, cause, [] => .error cause
  | index, cause, place :: rest =>
    match fs.open? (Octets.text (pathIn place name)) with
    | .ok (.file _ true) => .ok index
    | .ok _ => findProgram fs name (index + 1) .permissionDenied rest
    | .error e =>
      findProgram fs name (index + 1) (if e = .notFound ∨ e = .notADirectory then cause else e) rest

namespace Shell

def places (searchPath : Option Text) : Shell (List Text) := do
  return Text.splitAt ':' (searchPath.getD ((← own).value "PATH".toList))

def remember (name : Text) (index : Nat) : Shell Unit := modifyOwn fun o =>
  let known : Remembered := { index }
  { o with found :=
      if (o.found.lookup name).isSome then
        o.found.map fun (other, before) => (other, if other = name then known else before)
      else o.found ++ [(name, known)] }

def forget (name : Text) : Shell Unit := modifyOwn fun o => { o with found := o.found.filter (·.1 ≠ name) }

def innerMeaning? (mode : LookupMode) (name : Text) : Shell (Option Meaning) := do
  let o ← own
  match if mode.skipsFunctions then none else o.functions.lookup name with
  | some body => return some (.function body)
  | none => return (Utility.ofName? name).map .utility

def meaning (mode : LookupMode) (name : Text) : Shell Meaning := do
  if name.contains '/' then return .program none
  match ← innerMeaning? mode name with
  | some found => return found
  | none =>
    let o ← own
    let remembered? : Option Remembered := if mode.searchPath.isSome then none else o.found.lookup name
    match remembered? with
    | some ⟨index, false⟩ => return .program (some index)
    | _ =>
      match findProgram (← files) name 0 .notFound (← places mode.searchPath) with
      | .ok index =>
        if mode.searchPath.isNone then remember name index
        return .program (some index)
      | .error cause =>
        if mode.searchPath.isNone then forget name
        return .unknown cause

end Shell

namespace Runner

open Shell

def streams : Shell Streams := do
  let descriptors := (← own).descriptors
  let system := (← get).shared.system
  let port (fd : Nat) (fault : Nat → Option FileError) : Port :=
    match descriptors.get? fd with
    | some number => .opened (fault number) (system.file? number)
    | none => .closed
  return {
    input := port 0 fun number => match system.unread number with
      | .ok _ => none
      | .error e => some e
    output := port 1 system.writeFault? }

def replay : List (OutputStream × Bytes) → Shell Unit
  | [] => return
  | (stream, data) :: rest => do
    let _ ← write (if stream = .output then 1 else 2) data
    replay rest

def runProgram (r : Runner) (path : Text) (words : List Text) : Shell (Except LaunchError Death) := do
  let o ← own
  let number? := o.descriptors.get? 0
  let system := (← get).shared.system
  let input := (number?.map fun number => (system.unread number).toOption.getD []).getD []
  let invocation : Invocation := {
    path := Octets.text (if path.contains '/' then path else '.' :: '/' :: path)
    name := Octets.text (words.head?.getD [])
    arguments := words.tail.map Octets.text
    environment := o.environment.map fun (name, value) => (Octets.text name, Octets.text value)
    directory := o.here.path
    streams := ← streams }
  match r.launch (← files) invocation input with
  | .error e => return .error e
  | .ok ending =>
    modifySystem fun s =>
      let read := match number? with
        | some number => s.consume number ending.taken
        | none => s
      { read with files := { ending.files with here := s.files.here } }
    replay ending.writes
    return .ok ⟨ending.code % 256, ending.signal⟩

def runFileOrScript (r : Runner) (path : Text) (words : List Text) : Shell (Except LaunchError Death) := do
  let shell := "/bin/sh".toList
  match ← r.runProgram path words with
  | .error .notAProgram => r.runProgram shell (shell :: path :: words.tail)
  | result => return result

-- Runs the first program that starts. What went wrong with the last one that is worth a word is the cause
-- if none does.
def runFirst (r : Runner) (words : List Text) : (cause : LaunchError) → (paths : List Text) →
    Shell (Except LaunchError Death)
  | cause, [] => return .error cause
  | cause, path :: rest => do
    match ← r.runFileOrScript path words with
    | .ok death => return .ok death
    | .error e =>
      r.runFirst words (if e = .access .notFound ∨ e = .access .notADirectory then cause else e) rest

def describeLaunch : LaunchError → Text
  | .access e => describeExec e
  | e => e.reason.1

def launchStatus : LaunchError → Int
  | .access .notFound | .access .notADirectory | .access .tooManyLinks | .access .nameTooLong => 127
  | _ => 126

def runNamed (r : Runner) (words : List Text) (index : Nat) (searchPath : Option Text) :
    Shell (Except Int Death) := do
  let name := words.head?.getD []
  let places ← places searchPath
  let paths := if name.contains '/' then [name] else (places.drop index).map (pathIn · name)
  match ← r.runFirst words (.access .notFound) paths with
  | .ok death => return .ok death
  | .error e =>
    complain (name ++ ": ".toList ++ describeLaunch e)
    return .error (launchStatus e)

def becomeNamed {α : Type} (r : Runner) (words : List Text) (index : Nat) (searchPath : Option Text) :
    Shell α := do
  match ← r.runNamed words index searchPath with
  | .ok death => throw (.replaced death)
  | .error status =>
    setStatus status
    throw .finished

def runAndWait (r : Runner) (words : List Text) (index : Nat) (searchPath : Option Text) : Shell Int := do
  r.catchUp
  let _ ← takePlace
  match ← r.runNamed words index searchPath with
  | .ok death =>
    receiveSent
    reportDeath death
    return death.code
  | .error status => return status

end Runner

end CommandShell.PosixShell
