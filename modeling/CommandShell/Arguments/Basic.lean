import CommandShell.Text.Number

set_option autoImplicit false

namespace CommandShell

inductive FlagKind where
  | switch
  | single
  | repeated
deriving DecidableEq, Repr

structure Flag where
  name : Text
  spellings : List Text
  kind : FlagKind

inductive Positional where
  | none
  -- At most one; `check` says whether it is well formed.
  | one (name : Text) (check : Text → Except NumberError Unit)
  -- Any number; from the first one on, all arguments are values.
  | all

structure Signature where
  help : Text
  flags : List Flag := []
  positional : Positional := .none

inductive ArgumentError where
  | unrecognized (argument : Text)
  | missingValue (flag : Text)
  | duplicate (flag value : Text)
  | malformed (name value : Text) (cause : NumberError)
  | afterHelp
deriving DecidableEq, Repr

namespace ArgumentError

def message : ArgumentError → Text
  | unrecognized argument => "Unrecognized argument: ".toList ++ argument ++ ['\n']
  | missingValue flag => "No value provided for option '".toList ++ flag ++ "'.\n".toList
  | duplicate flag value =>
    "Error parsing option '".toList ++ flag ++ "' with value '".toList ++ value ++
      "': duplicate values provided\n".toList
  | malformed name value cause =>
    "Error parsing positional argument '".toList ++ name ++ "' with value '".toList ++ value ++
      "': ".toList ++ cause.message ++ ['\n']
  | afterHelp => "Trailing arguments are not allowed after `help`.".toList

end ArgumentError

structure Arguments where
  flags : List (Text × Text) := []
  values : List Text := []
deriving DecidableEq, Repr

namespace Arguments

def has (a : Arguments) (flag : Text) : Bool := a.flags.any (·.1 == flag)

def values? (a : Arguments) (flag : Text) : List Text := (a.flags.filter (·.1 == flag)).map (·.2)

def addFlag (flag value : Text) (a : Arguments) : Arguments := { a with flags := (flag, value) :: a.flags }

def addValue (value : Text) (a : Arguments) : Arguments := { a with values := value :: a.values }

end Arguments

inductive Request where
  | help
  | run (arguments : Arguments)
deriving DecidableEq, Repr

namespace Request

def map (f : Arguments → Arguments) : Request → Request
  | help => help
  | run a => run (f a)

end Request

namespace Signature

def flag? (s : Signature) (argument : Text) : Option Flag :=
  s.flags.find? fun flag => flag.spellings.contains argument

structure Progress where
  helpAsked : Bool := false
  flagsEnded : Bool := false
  given : List Text := []
  valueGiven : Bool := false

def parseFrom (s : Signature) (p : Progress) : List Text → Except ArgumentError Request
  | [] => .ok (if p.helpAsked then .help else .run {})
  | argument :: rest =>
    if !p.flagsEnded && (argument = "--help".toList || argument = "help".toList) then
      s.parseFrom { p with helpAsked := true } rest
    else if !p.flagsEnded && argument.head? == some '-' then
      if argument = ['-', '-'] then s.parseFrom { p with flagsEnded := true } rest
      else if p.helpAsked then .error .afterHelp
      else match s.flag? argument with
        | none => .error (.unrecognized argument)
        | some flag =>
          let p' := { p with given := flag.name :: p.given }
          if flag.kind = .switch then (s.parseFrom p' rest).map (.map (.addFlag flag.name []))
          else match rest with
            | [] => .error (.missingValue argument)
            | value :: rest =>
              if flag.kind = .single && p.given.contains flag.name then .error (.duplicate argument value)
              else (s.parseFrom p' rest).map (.map (.addFlag flag.name value))
    else match s.positional with
      | .none => .error (.unrecognized argument)
      | .one name check =>
        if p.valueGiven then .error (.unrecognized argument)
        else match check argument with
          | .error cause => .error (.malformed name argument cause)
          | .ok () => (s.parseFrom { p with valueGiven := true } rest).map (.map (.addValue argument))
      | .all => (s.parseFrom { p with flagsEnded := true } rest).map (.map (.addValue argument))

def parse (s : Signature) (arguments : List Text) : Except ArgumentError Request := s.parseFrom {} arguments

end Signature

end CommandShell
