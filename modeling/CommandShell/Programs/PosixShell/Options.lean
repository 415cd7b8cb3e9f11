import CommandShell.Programs.PosixShell.Arithmetic
import CommandShell.Programs.PosixShell.State

set_option autoImplicit false

namespace CommandShell.PosixShell

namespace Options

abbrev Letters := List (Char × Bool)

def plain (letters : String) : Letters := letters.toList.map (·, false)

abbrev Given := Char × Option Text

inductive Fault where
  | illegal (letter : Char)
  | noArgument (letter : Char)
deriving DecidableEq, Repr

def Fault.message : Fault → Text
  | illegal letter => "Illegal option -".toList ++ [letter]
  | noArgument letter => "No arg for -".toList ++ letter :: " option".toList

def ofCluster (letters : Letters) : Text → List Text → Except Fault (List Given × List Text)
  | [], rest => .ok ([], rest)
  | c :: others, rest =>
    match letters.lookup c with
    | none => .error (.illegal c)
    | some false => do
      let (given, rest) ← ofCluster letters others rest
      return ((c, none) :: given, rest)
    | some true =>
      match others, rest with
      | _ :: _, _ => .ok ([(c, some others)], rest)
      | [], argument :: rest => .ok ([(c, some argument)], rest)
      | [], [] => .error (.noArgument c)

def split (letters : Letters) : (count : Nat) → List Text → Except Fault (List Given × List Text)
  | 0, arguments => .ok ([], arguments)
  | count + 1, arguments =>
    match arguments with
    | ['-', '-'] :: rest => .ok ([], rest)
    | ('-' :: c :: cluster) :: rest => do
      let (first, rest) ← ofCluster letters (c :: cluster) rest
      let (given, rest) ← split letters count rest
      return (first ++ given, rest)
    | _ => .ok ([], arguments)

end Options

def quoted (text : Text) : Text := go text.length text
where
  go : (length : Nat) → Text → Text
    | 0, _ => "''".toList
    | length + 1, text =>
      let (plain, rest) := text.span (· ≠ '\'')
      let (quotes, rest) := rest.span (· = '\'')
      let front := '\'' :: plain ++ ['\'']
      let back := if quotes.isEmpty then [] else '"' :: quotes ++ ['"']
      front ++ back ++ if rest.isEmpty then [] else go length rest

def maxNumber : Int := 0x7FFFFFFF

def number? (text : Text) : Option Int :=
  match Arithmetic.takeInteger (Arithmetic.takeDigits 10 0) text with
  | some (n, rest) => if Arithmetic.inRange n && rest.all Arithmetic.isBlank then some n else none
  | none => none

namespace Shell

def failNumber {α : Type} (text : Text) : Shell α := fail ("Illegal number: ".toList ++ text)

def number (text : Text) : Shell Int := do
  match number? text with
  | some n => if 0 ≤ n && n ≤ maxNumber then return n else failNumber text
  | none => failNumber text

def integer (text : Text) : Shell Int := do
  match number? text with
  | some n => return n
  | none => failNumber text

def options (letters : Options.Letters) (arguments : List Text) :
    Shell (List Options.Given × List Text) := do
  match Options.split letters (arguments.length + 1) arguments with
  | .ok result => return result
  | .error fault => fail fault.message

def printLine (text : Text) : Shell Unit := print (text ++ ['\n'])

end Shell

end CommandShell.PosixShell
