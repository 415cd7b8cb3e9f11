import CommandShell.Text.Utf8

set_option autoImplicit false

namespace CommandShell

inductive Quote where
  | double
  | single
  | backtick
deriving DecidableEq, Repr

namespace Quote

def char : Quote → Char
  | double => '"'
  | single => '\''
  | backtick => '`'

def ofChar? (c : Char) : Option Quote :=
  if c = '"' then some double
  else if c = '\'' then some single
  else if c = '`' then some backtick
  else none

end Quote

-- A range of byte offsets; `stop` is the first offset after it.
structure Span where
  start : Nat
  stop : Nat
deriving DecidableEq, Repr

inductive Piece where
  | plain (text : Text)
  | command (line : Text)
deriving DecidableEq, Repr

namespace Piece

def text : Piece → Text
  | plain t => t
  | command t => t

def command? : Piece → Option Text
  | plain _ => none
  | command t => some t

end Piece

structure Word where
  text : Text
  quote : Option Quote := none
  commands : List Span := []
deriving DecidableEq, Repr

namespace Word

def bare (text : Text) : Word := { text }

def quoted (quote : Quote) (text : Text) : Word where
  text := text
  quote := some quote
  commands := if quote = .backtick then [⟨0, Text.byteLength text⟩] else []

def isQuoted (w : Word) : Bool := w.quote.isSome

-- Cuts `text`, whose first byte has the offset `offset`, at the ranges.
def cut (offset : Nat) (text : Text) : List Span → List Piece
  | [] => [.plain text]
  | span :: rest =>
    let (before, text) := Text.splitBytes (span.start - offset) text
    let (line, text) := Text.splitBytes (span.stop - span.start) text
    .plain before :: .command line :: cut span.stop text rest

def pieces (w : Word) : List Piece := cut 0 w.text w.commands

def lines (w : Word) : List Text := w.pieces.filterMap Piece.command?

end Word

end CommandShell
