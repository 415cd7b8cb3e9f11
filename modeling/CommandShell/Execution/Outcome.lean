import CommandShell.Text.Blank
import CommandShell.Text.Utf8

set_option autoImplicit false

namespace CommandShell

structure Effect where
  code : Int := 0
  -- Output in the pieces it was written in.
  writes : List Bytes := []
  errors : Bytes := []
deriving DecidableEq, Repr

namespace Effect

def output (e : Effect) : Bytes := e.writes.flatten

def complain (code : Int) (message : Text) : Effect := { code, errors := Text.utf8 (message ++ ['\n']) }

end Effect

-- Texts are present where output was captured and was not empty, or where a value was printed.
structure Outcome where
  code : Int := 0
  output : Option Text := none
  errors : Option Text := none
deriving DecidableEq, Repr

-- Why a line is given up. Failures of the streams and of the system (a closed pipe, no process left) are not modelled.
inductive Failure where
  | reported (text : Text)
  | exited (line : Text) (code : Int)
  | silent (line : Text)
deriving DecidableEq, Repr

namespace Failure

def message : Failure → Text
  | reported text => text
  | exited line code => '`' :: line ++ "` exited with ".toList ++ Text.ofInt code
  | silent line => '`' :: line ++ "` produced no output".toList

def ofErrors (errors : Option Text) (description : Failure) : Failure :=
  match errors with
  | some text => reported (Text.trimEnd text)
  | none => description

end Failure

def Effect.outcome (e : Effect) : Outcome where
  code := e.code
  output := Bytes.written? e.output
  errors := Bytes.written? e.errors

namespace Outcome

-- Texts one after the other; an absent one counts as empty, and an empty whole as absent.
def joinTexts (a b : Option Text) : Option Text :=
  let text := a.getD [] ++ b.getD []
  if text.isEmpty then none else some text

def effect (o : Outcome) : Effect where
  code := o.code
  writes := [Text.utf8 (o.output.getD [])]
  errors := Text.utf8 (o.errors.getD [])

def followedBy (a b : Outcome) : Outcome where
  code := b.code
  output := joinTexts a.output b.output
  errors := joinTexts a.errors b.errors

def substitution (o : Outcome) (line : Text) : Except Failure Text :=
  if o.code ≠ 0 then .error (.ofErrors o.errors (.exited line o.code))
  else match o.output with
    | none => .error (.ofErrors o.errors (.silent line))
    | some text => .ok (Text.trimEnd text)

end Outcome

abbrev Run (σ : Type) := ExceptT Failure (StateM σ)

end CommandShell
