import CommandShell.Text.Basic

set_option autoImplicit false

namespace CommandShell.PosixShell

inductive Fallback where
  | default
  | assign
  -- None: the word says what is wrong with an unset parameter.
  | complain
  | alternative
deriving DecidableEq, Repr

structure Trim where
  fromEnd : Bool
  longest : Bool
deriving DecidableEq, Repr

inductive FileMode where
  | read
  | write
  | append
  | overwrite
  | readWrite
deriving DecidableEq, Repr

mutual

inductive Piece where
  | text (content : Text) (isQuoted : Bool)
  -- A quotation mark. A word with one is a field even if it is empty.
  | mark
  | parameter (name : Text) (use : Use) (isQuoted : Bool)
  | command (body : Option Command) (isQuoted : Bool)
  | arithmetic (expression : List Piece) (isQuoted : Bool)

inductive Use where
  | value
  | length
  | malformed
  | fallback (kind : Fallback) (orNull : Bool) (word : List Piece)
  | trim (kind : Trim) (pattern : List Piece)

inductive Redirection where
  | file (fd : Nat) (mode : FileMode) (path : List Piece)
  -- `fd` becomes what another descriptor is; `-` closes it.
  | copy (fd : Nat) (target : List Piece)
  | document (fd : Nat) (number : Nat)

inductive Command where
  | simple (line : Nat) (assignments words : List (List Piece)) (redirections : List Redirection)
  | pipe (stages : List Command) (isBackground : Bool)
  | negated (body : Command)
  | both (first second : Command)
  | either (first second : Command)
  | sequence (commands : List Command)
  | background (line : Nat) (body : Command) (redirections : List Redirection)
  | subshell (line : Nat) (body : Command) (redirections : List Redirection)
  | redirected (line : Nat) (body : Command) (redirections : List Redirection)
  | conditional (test body : Command) (otherwise : Option Command)
  | loop (isUntil : Bool) (test body : Command)
  | forEach (line : Nat) (name : Text) (items : List (List Piece)) (body : Command)
  | choice (line : Nat) (subject : List Piece) (cases : List Case)
  | define (name : Text) (body : Command)

inductive Case where
  | mk (patterns : List (List Piece)) (body : Option Command)

end

instance : Inhabited Piece := ⟨.mark⟩

instance : Inhabited Command := ⟨.sequence []⟩

def isNameStart (c : Char) : Bool := c.isAlpha || c == '_'

def isNameChar (c : Char) : Bool := isNameStart c || c.isDigit

def isName : Text → Bool
  | [] => false
  | c :: rest => isNameStart c && rest.all isNameChar

def splitAssignment (text : Text) : Option (Text × Text) :=
  match text.span (· ≠ '=') with
  | (name, _ :: value) => if isName name then some (name, value) else none
  | _ => none

namespace Piece

def plain? : List Piece → Option Text
  | [] => some []
  | [text content false] => some content
  | _ => none

def assigned? : List Piece → Option Text
  | text content false :: _ => (splitAssignment content).map Prod.fst
  | _ => none

end Piece

end CommandShell.PosixShell
