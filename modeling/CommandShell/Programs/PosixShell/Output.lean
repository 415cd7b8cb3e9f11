import CommandShell.Programs.PosixShell.Format
import CommandShell.Programs.PosixShell.Options

set_option autoImplicit false

namespace CommandShell.PosixShell

structure FormatState where
  arguments : List Text
  status : Int := 0
  isStopped : Bool := false

namespace Shell

def echoArguments : List Text → Shell Bool
  | [] => return false
  | [last] => do
    let (text, ends) := Escape.replaceAll last
    print text
    return ends
  | first :: rest => do
    let (text, ends) := Escape.replaceAll first
    print text
    if ends then return true
    print [' ']
    echoArguments rest

def echo (arguments : List Text) : Shell Int := do
  let (arguments, ending) : List Text × Text := match arguments with
    | ['-', 'n'] :: rest => (rest, [])
    | _ => (arguments, ['\n'])
  if !(← echoArguments arguments) then print ending
  return 0

def noteFault (s : FormatState) (argument : Text) : Option NumberFault → Shell FormatState
  | none => return s
  | some fault => do
    complain (fault.message argument)
    return { s with status := 1 }

def nextArgument (s : FormatState) : Text × FormatState :=
  (s.arguments.head?.getD [], { s with arguments := s.arguments.tail })

-- A count that is an argument is cut to a word of 32 bits.
def wordSize : Nat := 0x100000000

def countOf (s : FormatState) : Count → Shell (Int × FormatState)
  | .given n => return (n, s)
  | .argument => do
    let (argument, s) := nextArgument s
    let (n, fault) := FormatArgument.signed argument
    return (n.bmod wordSize, ← noteFault s argument fault)

def writeDirective (s : FormatState) (d : Directive) : Shell FormatState := do
  let (width, s) ← countOf s d.width
  let (precision, s) ← match d.precision with
    | none => pure (none, s)
    | some count => do
      let (n, s) ← countOf s count
      pure (if n < 0 then none else some n.toNat, s)
  let layout : Layout := { flags := d.flags, width, precision }
  if !"bcsdiouxXaAeEfFgG".toList.contains d.letter then fail (d.spelling ++ ": invalid directive".toList)
  let (argument, s) := nextArgument s
  match d.letter with
  | 'b' =>
    let (text, ends) := Escape.replaceAll argument
    print (layout.string text)
    return { s with isStopped := ends }
  | 'c' =>
    print (layout.fill false [] [argument.head?.getD '\x00'])
    return s
  | 's' =>
    print (layout.string argument)
    return s
  | letter =>
    if letter = 'd' || letter = 'i' then
      let (n, fault) := FormatArgument.signed argument
      let s ← noteFault s argument fault
      print (layout.integer n)
      return s
    else if "ouxX".toList.contains letter then
      let (n, fault) := FormatArgument.natural argument
      let s ← noteFault s argument fault
      print (layout.natural letter n)
      return s
    else
      let (value, fault) := FormatArgument.real argument
      let s ← noteFault s argument fault
      print (layout.real letter value)
      return s

def writeParts (s : FormatState) : List FormatPart → Shell FormatState
  | [] => return s
  | .char c :: rest => do
    print [c]
    writeParts s rest
  | .directive d :: rest => do
    let s ← writeDirective s d
    if s.isStopped then return s
    writeParts s rest
  | .incomplete :: _ => fail "missing format character".toList

def writeFormat (parts : List FormatPart) : (rounds : Nat) → FormatState → Shell Int
  | 0, s => return s.status
  | rounds + 1, s => do
    let after ← writeParts s parts
    if after.isStopped || after.arguments.isEmpty || after.arguments.length = s.arguments.length then
      return after.status
    writeFormat parts rounds after

def printf (arguments : List Text) : Shell Int := do
  match (← options [] arguments).2 with
  | [] => fail "usage: printf format [arg ...]".toList
  | format :: arguments => writeFormat (FormatPart.ofText format) (arguments.length + 1) { arguments }

end Shell

end CommandShell.PosixShell
