import CommandShell.Builtin.Basic
import CommandShell.Execution.Outcome
import CommandShell.Execution.Stream
import CommandShell.Session.Basic

set_option autoImplicit false

namespace CommandShell

inductive BuiltinError where
  | directory (target : Text) (cause : DirectoryError)
  | stackEmpty
  | notAnAssignment (argument : Text)
  | opening (name : Text) (cause : FileError)
  | reading (cause : FileError)
deriving DecidableEq, Repr

namespace BuiltinError

def message : BuiltinError → Text
  | directory target cause => "can't change to ".toList ++ target ++ ": ".toList ++ cause.message
  | stackEmpty => "directory stack empty".toList
  | notAnAssignment argument => "expected NAME=VALUE, got '".toList ++ argument ++ ['\'']
  | opening name cause => name ++ ": ".toList ++ cause.message
  | reading cause => cause.message

end BuiltinError

structure Counts where
  lines : Nat
  words : Nat
  bytes : Nat
deriving DecidableEq, Repr

namespace Counts

def ofText (text : Text) : Counts := ⟨Text.lineCount text, Text.wordCount text, Text.byteLength text⟩

def text (c : Counts) : Text := Text.join [' '] [Text.ofNat c.lines, Text.ofNat c.words, Text.ofNat c.bytes]

end Counts

namespace Builtin

structure Report where
  writes : List Bytes := []
  ending : Except BuiltinError Int := .ok 0
  session : Session

structure EarlyExit where
  output : Text
  isError : Bool
deriving DecidableEq, Repr

def printLine (s : Session) (text : Text) : Report :=
  { writes := [Text.utf8 (text ++ ['\n'])], session := s }

def printStack (s : Session) : Report := printLine s (Text.join [' '] s.directories.toList)

def targetDirectory (fs : FileSystem) (s : Session) (values : List Text) : Except BuiltinError Text :=
  let target := match values with
    | [] => s.home
    | first :: _ => if first.isEmpty then s.home else first
  (s.resolveDirectory fs target).mapError (.directory target)

def assignment? (argument : Text) : Option (Text × Text) :=
  match argument.span (· ≠ '=') with
  | ([], _) => none
  | (_, []) => none
  | (name, _ :: value) => some (name, value)

def assignAll (s : Session) : List Text → Report
  | [] => { session := s }
  | argument :: rest =>
    match assignment? argument with
    | some (name, value) => assignAll { s with bindings := s.bindings.insert name value } rest
    | none => { ending := .error (.notAnAssignment argument), session := s }

def listing (vars : Variables) : Text :=
  vars.entries.flatMap fun (name, value) => name ++ '=' :: value ++ ['\n']

def overFiles (fs : FileSystem) (s : Session) (write : Text → Bytes → Except BuiltinError (List Bytes)) :
    List Text → List Bytes × Except BuiltinError Int
  | [] => ([], .ok 0)
  | name :: rest =>
    let written : Except BuiltinError (List Bytes) := do
      let entry ← (fs.open? (Path.join s.directory name)).mapError (.opening name)
      write name (← entry.read.mapError .reading)
    match written with
    | .error e => ([], .error e)
    | .ok writes =>
      let (more, ending) := overFiles fs s write rest
      (writes ++ more, ending)

def decode (content : Bytes) : Except BuiltinError Text :=
  match Bytes.text? content with
  | some text => .ok text
  | none => .error (.reading .notUtf8)

def readsInput : Builtin → Arguments → Bool
  | cat, a => a.values.isEmpty
  | wc, a => a.values.isEmpty
  | _, _ => false

-- Runs a builtin on arguments that passed its signature. `input` is what it would read, piece by piece.
def perform (fs : FileSystem) (b : Builtin) (a : Arguments) (input : List Bytes) (s : Session) : Report :=
  match b with
  | echo =>
    let line := Text.join [' '] a.values
    { writes := [Text.utf8 (if a.has noNewline.name then line else line ++ ['\n'])], session := s }
  | pwd => printLine s s.directory
  | cd =>
    match targetDirectory fs s a.values with
    | .ok directory => { session := { s with directories := s.directories.replaceTop directory } }
    | .error e => { ending := .error e, session := s }
  | pushd =>
    match targetDirectory fs s a.values with
    | .ok directory => printStack { s with directories := s.directories.push directory }
    | .error e => { ending := .error e, session := s }
  | popd =>
    match s.directories.pop? with
    | some (_, directories) => printStack { s with directories }
    | none => { ending := .error .stackEmpty, session := s }
  | dirs => printStack s
  | exportVariables =>
    if a.values.isEmpty then { writes := [Text.utf8 (listing s.bindings)], session := s }
    else assignAll s a.values
  | unsetVariables => { session := { s with bindings := a.values.foldl Variables.erase s.bindings } }
  | prompt => { session := { s with prompt := Text.join [' '] a.values } }
  | cat =>
    if a.values.isEmpty then { writes := input, session := s }
    else
      let (writes, ending) := overFiles fs s (fun _ content => .ok content.pieces) a.values
      { writes, ending, session := s }
  | wc =>
    if a.values.isEmpty then
      match decode input.flatten with
      | .ok text => printLine s (Counts.ofText text).text
      | .error e => { ending := .error e, session := s }
    else
      let count (name : Text) (content : Bytes) : Except BuiltinError (List Bytes) := do
        let counts := Counts.ofText (← decode content)
        return [Text.utf8 (counts.text ++ ' ' :: name ++ ['\n'])]
      let (writes, ending) := overFiles fs s count a.values
      { writes, ending, session := s }
  | exit =>
    let code := (a.values.head?.bind fun value => (Number.parse value).toOption).getD 0
    { ending := .ok code, session := { s with exiting := true } }

def notice (text : Text) : Bytes := Text.utf8 (Text.trimEnd text ++ ['\n'])

def Report.effect (b : Builtin) (r : Report) : Effect :=
  match r.ending with
  | .ok code => { code, writes := r.writes }
  | .error e => { Effect.complain 1 (b.name ++ ": ".toList ++ e.message) with writes := r.writes }

-- The answer of the argument parser, with a text where the command is not to run.
def parse (b : Builtin) (arguments : List Text) : Except EarlyExit Arguments :=
  match b.signature.parse arguments with
  | .error e => .error { output := e.message, isError := true }
  | .ok .help => .error { output := b.help, isError := false }
  | .ok (.run a) => .ok a

def EarlyExit.effect (early : EarlyExit) : Effect :=
  if early.isError then { code := 1, errors := notice early.output } else { writes := [notice early.output] }

-- What is done, whatever the arguments are parsed to.
def answer (fs : FileSystem) (b : Builtin) (parsed : Except EarlyExit Arguments) (input : List Bytes) (s : Session) :
    Effect × Session :=
  match parsed with
  | .error early => (early.effect, s)
  | .ok a =>
    let report := b.perform fs a input s
    (report.effect b, report.session)

def run (fs : FileSystem) (b : Builtin) (arguments : List Text) (input : List Bytes) (s : Session) :
    Effect × Session :=
  b.answer fs (b.parse arguments) input s

def consumesInput (b : Builtin) (arguments : List Text) : Bool :=
  match b.signature.parse arguments with
  | .ok (.run a) => b.readsInput a
  | _ => false

end Builtin

end CommandShell
