import CommandShell.Programs.PosixShell.Words

set_option autoImplicit false

namespace CommandShell.PosixShell

structure Expecting where
  newlines : Bool := false
  keywords : Bool := false
  aliases : Bool := false
  mark : Bool := false
deriving DecidableEq, Repr

namespace Expecting

def command : Expecting := { keywords := true, aliases := true }

def commandBelow : Expecting := { newlines := true, keywords := true, aliases := true }

end Expecting

namespace Reader

def unexpected {α : Type} (wanted : Option Token) : Parse α := do
  let found := (← get).token.describe ++ " unexpected".toList
  fail (match wanted with
    | some token => found ++ " (expecting ".toList ++ token.describe ++ [')']
    | none => found)

def putBack : Parse Unit := modify fun r => { r with isPending := true }

def takeDocuments (inner : Inner) (fuel : Nat) : Parse Unit := do
  let awaited := (← get).awaited
  modify fun r => { r with awaited := [] }
  for a in awaited do
    let document ← takeDocument inner fuel a
    modify fun r => { r with documents := r.documents.setIfInBounds a.number document }

def takeRedirection (c : Char) (fd : Option Nat) : Parse Unit := do
  let second ← takeJoined
  let opening ← match c, second with
    | '>', some '>' => pure (.file (fd.getD 1) .append)
    | '>', some '|' => pure (.file (fd.getD 1) .overwrite)
    | '>', some '&' => pure (.copy (fd.getD 1))
    | '>', _ => do
      giveBack second
      pure (Opening.file (fd.getD 1) .write)
    | _, some '<' => do
      let third ← takeJoined
      if third ≠ some '-' then giveBack third
      pure (.document (fd.getD 0) (third = some '-'))
    | _, some '&' => pure (.copy (fd.getD 0))
    | _, some '>' => pure (.file (fd.getD 0) .readWrite)
    | _, _ => do
      giveBack second
      pure (.file (fd.getD 0) .read)
  modify fun r => { r with opening }

def takeWord (inner : Inner) (fuel : Nat) (isMark : Bool) : Parse Token := do
  let pieces ← takePieces inner fuel { closing := .word, isQuoted := false, isMark } []
  let leaving := (← get).leaving
  let after ← takeJoined
  modify fun r => { r with leaving }
  let fd? : Option (Option Nat) := match pieces with
    | [] => some none
    | [.text [c] false] => if c.isDigit then some (some (c.toNat - '0'.toNat)) else none
    | _ => none
  match after, fd? with
  | some '<', some fd =>
    takeRedirection '<' fd
    return .redirection
  | some '>', some fd =>
    takeRedirection '>' fd
    return .redirection
  | _, _ =>
    giveBack after
    modify fun r => { r with word := pieces, isQuoted := Piece.hasQuotes pieces }
    return .word

def takeEither (c : Char) (doubled single : Token) : Parse Token := do
  let after ← takeJoined
  if after = some c then return doubled
  giveBack after
  return single

def dropComment : (fuel : Nat) → Parse Unit
  | 0 => return
  | fuel + 1 => do
    match ← take with
    | some '\n' => giveBack (some '\n')
    | some _ => dropComment fuel
    | none => return

def takeRaw (inner : Inner) (isMark : Bool) : (fuel : Nat) → Parse Token
  | 0 => fail "script too long".toList
  | fuel + 1 => do
    let c ← takeJoined
    match c with
    | none => return .endOfFile
    | some ' ' | some '\t' => takeRaw inner isMark fuel
    | some '#' =>
      dropComment fuel
      takeRaw inner isMark fuel
    | some '\n' =>
      modify fun r => { r with line := r.line + 1 }
      return .newline
    | some '&' => takeEither '&' .and .background
    | some '|' => takeEither '|' .or .pipe
    | some ';' => takeEither ';' .endCase .semicolon
    | some '(' => return .openParen
    | some ')' => return .closeParen
    | some c =>
      giveBack (some c)
      takeWord inner fuel isMark

def takeToken (inner : Inner) (fuel : Nat) (isMark : Bool) : Parse Token := do
  let r ← get
  if r.isPending then
    set { r with isPending := false }
    return r.token
  else
    let token ← takeRaw inner isMark fuel
    modify fun r => { r with token }
    return token

def takeBelow (inner : Inner) : (fuel : Nat) → Token → Parse Token
  | 0, token => return token
  | fuel + 1, token => do
    if token = .newline then
      takeDocuments inner fuel
      takeBelow inner fuel (← takeToken inner fuel false)
    else return token

def nextToken (inner : Inner) : (fuel : Nat) → Expecting → Parse Token
  | 0, _ => fail "script too long".toList
  | fuel + 1, expecting => do
    let first ← takeToken inner fuel expecting.mark
    let token ← if expecting.newlines then takeBelow inner fuel first else pure first
    let r ← get
    let expecting := { expecting with aliases := expecting.aliases || r.wantsAlias }
    set { r with wantsAlias := false }
    if token ≠ .word || r.isQuoted then return token
    match Piece.plain? r.word with
    | none => return token
    | some text =>
      match if expecting.keywords then Keyword.table.lookup text else none with
      | some k =>
        modify fun r => { r with token := .keyword k }
        return .keyword k
      | none => match if expecting.aliases then r.alias? text else none with
        | some value =>
          if !value.isEmpty then modify (·.enter text value)
          nextToken inner fuel expecting
        | none => return token

end Reader

end CommandShell.PosixShell
