import CommandShell.Text.Basic

set_option autoImplicit false

namespace CommandShell

structure OptionTable where
  letters : Text
  words : List (Text × Char)
  isMixed : Bool
deriving DecidableEq, Repr

namespace OptionTable

inductive Fault where
  | invalid (letter : Char)
  | unrecognized (argument : Text)
  | argumentGiven (word : Text)
  | ambiguous (argument : Text) (words : List Text)
deriving DecidableEq, Repr

def Fault.message : Fault → Text
  | invalid letter => "invalid option -- '".toList ++ [letter, '\'']
  | unrecognized argument => "unrecognized option '".toList ++ argument ++ ['\'']
  | argumentGiven word => "option '--".toList ++ word ++ "' doesn't allow an argument".toList
  | ambiguous argument words =>
    "option '".toList ++ argument ++ "' is ambiguous; possibilities:".toList ++
      words.flatMap fun word => " '--".toList ++ word ++ ['\'']

def word (t : OptionTable) (argument : Text) : Except Fault Char :=
  let (written, value) := (argument.drop 2).span (· ≠ '=')
  let candidates := t.words.filter fun (name, _) => written.isPrefixOf name
  let exact := candidates.filter (·.1 = written)
  match (if exact.isEmpty then candidates else exact) with
  | [] => .error (.unrecognized argument)
  | (name, letter) :: others =>
    if others.any (·.2 ≠ letter) then .error (.ambiguous argument (candidates.map Prod.fst))
    else if !value.isEmpty then .error (.argumentGiven name)
    else .ok letter

def split (t : OptionTable) : List Text → Except Fault (Text × List Text)
  | [] => .ok ([], [])
  | argument :: rest =>
    match argument with
    | ['-', '-'] => .ok ([], rest)
    | '-' :: '-' :: _ => do
      let letter ← t.word argument
      let (letters, others) ← split t rest
      return (letter :: letters, others)
    | '-' :: c :: cluster =>
      match (c :: cluster).find? fun c => !t.letters.contains c with
      | some letter => .error (.invalid letter)
      | none => do
        let (letters, others) ← split t rest
        return (c :: cluster ++ letters, others)
    | _ =>
      if t.isMixed then do
        let (letters, others) ← split t rest
        return (letters, argument :: others)
      else .ok ([], argument :: rest)

end OptionTable

end CommandShell
