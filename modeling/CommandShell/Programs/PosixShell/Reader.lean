import CommandShell.Programs.PosixShell.Syntax

set_option autoImplicit false

namespace CommandShell.PosixShell

inductive Keyword where
  | bang
  | caseWord
  | doWord
  | doneWord
  | elifWord
  | elseWord
  | esacWord
  | fiWord
  | forWord
  | ifWord
  | inWord
  | thenWord
  | untilWord
  | whileWord
  | openBrace
  | closeBrace
deriving DecidableEq, Repr

inductive Token where
  | endOfFile
  | newline
  | semicolon
  | background
  | and
  | or
  | pipe
  | openParen
  | closeParen
  | endCase
  | redirection
  | word
  | keyword (k : Keyword)
deriving DecidableEq, Repr

namespace Keyword

def table : List (Text × Keyword) :=
  [("!", bang), ("case", caseWord), ("do", doWord), ("done", doneWord), ("elif", elifWord),
   ("else", elseWord), ("esac", esacWord), ("fi", fiWord), ("for", forWord), ("if", ifWord), ("in", inWord),
   ("then", thenWord), ("until", untilWord), ("while", whileWord), ("\x7b", openBrace),
   ("\x7d", closeBrace)].map fun (name, k) => (name.toList, k)

def spelling (k : Keyword) : Text := ((table.find? (·.2 = k)).map Prod.fst).getD []

def endsList (k : Keyword) : Bool :=
  [doWord, doneWord, elifWord, elseWord, esacWord, fiWord, thenWord, closeBrace].contains k

end Keyword

namespace Token

def describe : Token → Text
  | endOfFile => "end of file".toList
  | newline => "newline".toList
  | redirection => "redirection".toList
  | word => "word".toList
  | semicolon => "\";\"".toList
  | background => "\"&\"".toList
  | and => "\"&&\"".toList
  | or => "\"||\"".toList
  | pipe => "\"|\"".toList
  | openParen => "\"(\"".toList
  | closeParen => "\")\"".toList
  | endCase => "\";;\"".toList
  | keyword k => '"' :: k.spelling ++ ['"']

def endsList : Token → Bool
  | endOfFile | closeParen | endCase => true
  | keyword k => k.endsList
  | _ => false

end Token

structure SyntaxFault where
  line : Nat
  reason : Text
deriving DecidableEq, Repr

structure Source where
  rest : Text
  aliasName : Option Text := none
  endsBlank : Bool := false
  -- Aliases that are in use as long as this one is, since it took the place of the end of their values.
  others : List Text := []
deriving DecidableEq, Repr

structure Awaited where
  number : Nat
  mark : Text
  stripsTabs : Bool
  isLiteral : Bool
deriving DecidableEq, Repr

inductive Opening where
  | file (fd : Nat) (mode : FileMode)
  | copy (fd : Nat)
  | document (fd : Nat) (stripsTabs : Bool)
deriving DecidableEq, Repr

structure Reader where
  sources : List Source
  line : Nat := 1
  aliases : List (Text × Text) := []
  leaving : List Text := []
  mark : Option (Text × Bool) := none
  atMark : Bool := false
  token : Token := .endOfFile
  isPending : Bool := false
  word : List Piece := []
  isQuoted : Bool := false
  opening : Opening := .copy 0
  -- Set where the value of an alias ends in a blank: the next word may be an alias too.
  wantsAlias : Bool := false
  awaited : List Awaited := []
  documents : Array (List Piece) := #[]

abbrev Parse := StateT Reader (Except SyntaxFault)

namespace Reader

def ofText (text : Text) : Reader := { sources := [{ rest := text }] }

def fail {α : Type} (reason : Text) : Parse α := fun r => .error ⟨r.line, reason⟩

def settle (r : Reader) : List Source → Reader
  | [] => { r with sources := [] }
  | [source] => { r with sources := [source] }
  | source :: others =>
    if source.rest.isEmpty then
      let left := { r with
        leaving := source.aliasName.toList ++ source.others ++ r.leaving
        wantsAlias := r.wantsAlias || (source.aliasName.isSome && source.endsBlank) }
      left.settle others
    else { r with sources := source :: others }

def next (r : Reader) : Option Char × Reader :=
  if r.atMark then (none, r)
  else
    let r := { r with leaving := [] }.settle r.sources
    match r.sources with
    | [] => (none, r)
    | source :: others => match source.rest with
      | [] => (none, r)
      | c :: rest => (some c, { r with sources := { source with rest } :: others })

def unread (r : Reader) : Option Char → Reader
  | none => r
  | some c => match r.sources with
    | [] => r
    | source :: others => { r with sources := { source with rest := c :: source.rest } :: others }

def skipJoints : Text → Nat × Text
  | '\\' :: '\n' :: rest =>
    let (joints, rest) := skipJoints rest
    (joints + 1, rest)
  | rest => (0, rest)

def nextJoined (r : Reader) : Option Char × Reader :=
  match r.next with
  | (some '\\', after) => match after.sources with
    | source :: others => match source.rest with
      | '\n' :: rest =>
        let (joints, rest) := skipJoints rest
        ({ after with sources := { source with rest } :: others, line := after.line + joints + 1 }).next
      | _ => (some '\\', after)
    | [] => (some '\\', after)
  | result => result

def afterMark? (mark : Text) (stripsTabs : Bool) (text : Text) : Option Text :=
  let (line, rest) := (if stripsTabs then text.dropWhile (· = '\t') else text).span (· ≠ '\n')
  if line = mark then some rest.tail else none

def startLine (r : Reader) : Reader :=
  match r.mark, r.sources with
  | some (mark, stripsTabs), source :: others =>
    match afterMark? mark stripsTabs source.rest with
    | some rest =>
      { r with sources := { source with rest } :: others, line := r.line + 1, atMark := true }
    | none =>
      let rest := if stripsTabs then source.rest.dropWhile (· = '\t') else source.rest
      { r with sources := { source with rest } :: others }
  | _, _ => r

def countLine (r : Reader) : Reader := { r with line := r.line + 1 }.startLine

def enter (r : Reader) (name text : Text) : Reader :=
  let endsBlank := text.getLast? = some ' ' || text.getLast? = some '\t'
  { r with
    sources := { rest := text, aliasName := some name, endsBlank, others := r.leaving } :: r.sources
    leaving := [] }

def alias? (r : Reader) (name : Text) : Option Text :=
  if r.leaving.contains name || r.sources.any fun s => s.aliasName == some name || s.others.contains name then
    none
  else r.aliases.lookup name

def take : Parse (Option Char) := fun r => .ok r.next

def takeJoined : Parse (Option Char) := fun r => .ok r.nextJoined

def giveBack (c : Option Char) : Parse Unit := modify (·.unread c)

end Reader

end CommandShell.PosixShell
