import CommandShell.Text.Blank
import CommandShell.Syntax.Word

set_option autoImplicit false

namespace CommandShell

inductive Token where
  | word (w : Word)
  | pipe
  | ampersand
  | semicolon
  | subshell (body : Text)
deriving DecidableEq, Repr

namespace Token

def operator? (c : Char) : Option Token :=
  if c = '|' then some pipe
  else if c = '&' then some ampersand
  else if c = ';' then some semicolon
  else none

end Token

inductive SyntaxError where
  | unfinishedQuote (quote : Quote)
  -- Columns count characters from zero.
  | unbalancedParen (column : Nat)
  | emptyCommand
  | misplacedAmpersand
  | misplacedSubshell
deriving DecidableEq, Repr

namespace SyntaxError

def message : SyntaxError → Text
  | unfinishedQuote q => "unfinished ".toList ++ q.char :: " quote".toList
  | unbalancedParen column => "unbalanced parenthesis at column ".toList ++ Text.ofNat column
  | emptyCommand => "empty command".toList
  | misplacedAmpersand => "'&' is only allowed at the end of a line".toList
  | misplacedSubshell => "a sub-shell must be a whole pipeline stage".toList

end SyntaxError

-- A word being read; text and ranges are newest first.
structure Draft where
  text : Text := []
  quote : Option Quote := none
  commands : List Span := []
deriving DecidableEq, Repr

namespace Draft

def push (d : Draft) (c : Char) : Draft := { d with text := c :: d.text }

def openQuote (d : Draft) (q : Quote) : Draft :=
  let here := Text.byteLength d.text
  { d with
    quote := d.quote.or (some q)
    commands := if q = .backtick then ⟨here, here⟩ :: d.commands else d.commands }

def closeQuote (d : Draft) (q : Quote) : Draft :=
  match q, d.commands with
  | .backtick, span :: older => { d with commands := { span with stop := Text.byteLength d.text } :: older }
  | _, _ => d

def word (d : Draft) : Word := ⟨d.text.reverse, d.quote, d.commands.reverse⟩

end Draft

inductive Mode where
  | between
  | word (d : Draft)
  | quoted (q : Quote) (d : Draft)
  -- Inside the block opened at column `opening`; `body` is read backwards.
  | block (opening depth : Nat) (quote : Option Quote) (body : Text)
deriving DecidableEq, Repr

namespace Mode

-- The mode after `c`, which stands at `column`, and the tokens that `c` completes.
def step (column : Nat) : Mode → Char → Except SyntaxError (Mode × List Token)
  | between, c =>
    if isBlank c then .ok (between, [])
    else if c = '(' then .ok (block column 0 none [], [])
    else if c = ')' then .error (.unbalancedParen column)
    else match Quote.ofChar? c with
      | some q => .ok (quoted q (Draft.openQuote {} q), [])
      | none => match Token.operator? c with
        | some t => .ok (between, [t])
        | none => .ok (word (Draft.push {} c), [])
  | word d, c =>
    if isBlank c then .ok (between, [.word d.word])
    else if c = ')' then .error (.unbalancedParen column)
    else match Quote.ofChar? c with
      | some q => .ok (quoted q (d.openQuote q), [])
      | none => match Token.operator? c with
        | some t => .ok (between, [.word d.word, t])
        | none => .ok (word (d.push c), [])
  | quoted q d, c =>
    if c = q.char then .ok (word (d.closeQuote q), [])
    else .ok (quoted q (d.push c), [])
  | block opening depth (some q) body, c =>
    .ok (block opening depth (if c = q.char then none else some q) (c :: body), [])
  | block opening depth none body, c =>
    match Quote.ofChar? c with
    | some q => .ok (block opening depth (some q) (c :: body), [])
    | none =>
      if c = '(' then .ok (block opening (depth + 1) none (c :: body), [])
      else if c = ')' then match depth with
        | 0 => .ok (between, [.subshell body.reverse])
        | depth + 1 => .ok (block opening depth none (c :: body), [])
      else .ok (block opening depth none (c :: body), [])

def finish : Mode → Except SyntaxError (List Token)
  | between => .ok []
  | word d => .ok [.word d.word]
  | quoted q _ => .error (.unfinishedQuote q)
  | block opening _ _ _ => .error (.unbalancedParen opening)

def read : Mode → Nat → Text → Except SyntaxError (Mode × List Token)
  | m, _, [] => .ok (m, [])
  | m, column, c :: rest => do
    let (m, done) ← m.step column c
    let (m, more) ← read m (column + 1) rest
    return (m, done ++ more)

end Mode

def scan (line : Text) : Except SyntaxError (List Token) := do
  let (m, tokens) ← Mode.between.read 0 line
  return tokens ++ (← m.finish)

end CommandShell
