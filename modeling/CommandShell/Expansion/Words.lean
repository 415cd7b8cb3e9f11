import CommandShell.Execution.Outcome
import CommandShell.Expansion.Pattern
import CommandShell.Session.Basic
import CommandShell.Syntax.Word
import CommandShell.Text.WordCharacter

set_option autoImplicit false

namespace CommandShell

namespace Word

def expandHome (home : Text) (w : Word) : Word :=
  if w.isQuoted then w
  else { w with text := w.text.flatMap fun c => if c = '~' then home else [c] }

def hasPattern (w : Word) : Bool :=
  !w.isQuoted && w.text.any fun c => c == '*' || c == '?' || c == '[' || c == ']'

-- A pattern becomes one word per matching name; a directory that cannot be listed has no names.
def expandPattern (names : List Text) (w : Word) : List Word :=
  if w.hasPattern then
    match Pattern.parse? w.text with
    | some pattern => (names.filter (Pattern.matchesName pattern)).map bare
    | none => [w]
  else [w]

end Word

namespace Variables

def reference? (text : Text) : Option (Text × Nat) :=
  let braced := match text with
    | '{' :: rest =>
      let name := rest.takeWhile isWordChar
      let closed := (rest.drop name.length).head? == some '}'
      if !name.isEmpty && closed then some (name, name.length + 2) else none
    | _ => none
  let plain :=
    let name := text.takeWhile isWordChar
    if name.isEmpty then none else some (name, name.length)
  braced.or plain

-- One pass from left to right; the first `skip` characters belong to a reference already replaced.
def expandFrom (vars : Variables) : Nat → Text → Text
  | _, [] => []
  | skip + 1, _ :: rest => expandFrom vars skip rest
  | 0, c :: rest =>
    if c = '$' then
      match reference? rest with
      | some (name, taken) => vars.value name ++ expandFrom vars taken rest
      | none => c :: expandFrom vars 0 rest
    else c :: expandFrom vars 0 rest

def expand (vars : Variables) (text : Text) : Text := expandFrom vars 0 text

end Variables

namespace Word

def expandVariables (vars : Variables) (w : Word) : Word :=
  match w.quote with
  | some .single => w
  | some .backtick => w
  | _ => { w with text := vars.expand w.text }

end Word

-- How a state of type `σ` holds a session and files, and runs a nested line with its output captured.
structure Nested (σ : Type) where
  session : σ → Session
  files : σ → FileSystem
  run : Text → Run σ Outcome

namespace Word

variable {σ : Type}

def expandPiece (nested : Nested σ) : Piece → Run σ Text
  | .plain text => pure text
  | .command line => do
    let outcome ← nested.run line
    match outcome.substitution line with
    | .ok text => pure text
    | .error failure => throw failure

def expandCommands (nested : Nested σ) (w : Word) : Run σ Word :=
  if w.commands.isEmpty then pure w
  else do
    let texts ← w.pieces.mapM (expandPiece nested)
    pure { w with text := texts.flatten, commands := [] }

end Word

namespace Expansion

inductive Step where
  | home
  | pattern
  | command
  | variable
deriving DecidableEq, Repr

def steps : List Step := [.home, .pattern, .command, .variable]

variable {σ : Type}

def applyStep (nested : Nested σ) (step : Step) (words : List Word) : Run σ (List Word) := do
  let state ← get
  let session := nested.session state
  match step with
  | .home => return words.map (Word.expandHome session.home)
  | .pattern =>
    let names := ((nested.files state).list session.directory).toOption.getD []
    return words.flatMap (Word.expandPattern names)
  | .command => words.mapM (Word.expandCommands nested)
  | .variable => return words.map (Word.expandVariables session.bindings)

def applySteps (nested : Nested σ) (steps : List Step) (words : List Word) : Run σ (List Word) :=
  steps.foldlM (fun words step => applyStep nested step words) words

def expandWords (nested : Nested σ) (words : List Word) : Run σ (List Word) :=
  applySteps nested steps words

end Expansion

end CommandShell
