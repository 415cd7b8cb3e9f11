import CommandShell.Programs.PosixShell.Reader

set_option autoImplicit false

namespace CommandShell.PosixShell

inductive Closing where
  | word
  | quote
  | brace
  | document
  | parens (depth : Nat)
deriving DecidableEq, Repr

structure Place where
  closing : Closing
  isQuoted : Bool
  inBraces : Bool := false
  inDocument : Bool := false
  isMark : Bool := false
deriving DecidableEq, Repr

structure Inner where
  commands : Parse (Option Command)
  ofText : Text → Parse (Option Command)

namespace Place

def endFault? (p : Place) : Option Text :=
  let unterminated := "Unterminated quoted string".toList
  let brace := "Missing '\x7d'".toList
  match p.closing with
  | .parens _ => some "Missing '))'".toList
  | .quote => some (if p.inDocument then brace else unterminated)
  | .brace => some (if p.isQuoted && !p.inDocument then unterminated else brace)
  | _ => none

def escapes (p : Place) (c : Char) : Bool :=
  !p.isQuoted || c == '\\' || c == '`' || c == '$' || (c == '"' && (p.inBraces || !p.inDocument)) ||
    (c == '}' && p.inBraces)

end Place

namespace Piece

def addText (content : Text) (isQuoted : Bool) : List Piece → List Piece
  | text before sameQuoted :: rest =>
    if sameQuoted = isQuoted then text (content.reverse ++ before) isQuoted :: rest
    else text content.reverse isQuoted :: text before sameQuoted :: rest
  | rest => text content.reverse isQuoted :: rest

def ordered (pieces : List Piece) : List Piece :=
  pieces.reverse.map fun piece => match piece with
    | text content isQuoted => text content.reverse isQuoted
    | other => other

def addAll (gathered : List Piece) (pieces : List Piece) : List Piece :=
  pieces.foldl (fun gathered piece => match piece with
    | text content isQuoted => addText content isQuoted gathered
    | other => other :: gathered) gathered

def hasQuotes (pieces : List Piece) : Bool :=
  pieces.any fun piece => match piece with
    | text _ isQuoted => isQuoted
    | mark => true
    | _ => false

end Piece

namespace Reader

def isSpecialParameter (c : Char) : Bool := "!#$*-?@".toList.contains c || c.isDigit

def endsWord (c : Char) : Bool := " \t\n;&|<>()".toList.contains c

def takeWhile (p : Char → Bool) : (fuel : Nat) → Text → Parse (Text × Option Char)
  | 0, taken => return (taken.reverse, none)
  | fuel + 1, taken => do
    match ← takeJoined with
    | some c => if p c then takeWhile p fuel (c :: taken) else return (taken.reverse, some c)
    | none => return (taken.reverse, none)

def takeSingleQuoted (place : Place) : (fuel : Nat) → Text → Parse Text
  | 0, _ => fail "word too long".toList
  | fuel + 1, taken => do
    match ← take with
    | some '\'' => return taken.reverse
    | some c =>
      if c = '\n' then modify countLine
      takeSingleQuoted place fuel (c :: taken)
    | none =>
      fail (if place.inDocument then "Missing '\x7d'" else "Unterminated quoted string").toList

def takeBackquoted (place : Place) : (fuel : Nat) → Text → Parse Text
  | 0, _ => fail "word too long".toList
  | fuel + 1, taken => do
    match ← takeJoined with
    | none => fail "EOF in backquote substitution".toList
    | some '`' => return taken.reverse
    | some '\\' =>
      match ← take with
      | none => fail "EOF in backquote substitution".toList
      | some c =>
        let drops := c == '\\' || c == '`' || c == '$' || (place.isQuoted && c == '"')
        takeBackquoted place fuel (if drops then c :: taken else c :: '\\' :: taken)
    | some c =>
      if c = '\n' then modify fun r => { r with line := r.line + 1 }
      takeBackquoted place fuel (c :: taken)

inductive Operator where
  | value
  | length
  | malformed
  | fallback (kind : Fallback) (orNull : Bool)
  | trim (kind : Trim)
deriving DecidableEq, Repr

-- Reads the rest of an operator that starts with `c`. Only `value` closes the braces.
def takeOperator (c : Option Char) : Parse Operator := do
  let plain (c : Option Char) (orNull : Bool) : Operator :=
    match c with
    | some '-' => .fallback .default orNull
    | some '=' => .fallback .assign orNull
    | some '?' => .fallback .complain orNull
    | some '+' => .fallback .alternative orNull
    | some '}' => if orNull then .malformed else .value
    | _ => .malformed
  match c with
  | some ':' => return plain (← takeJoined) true
  | some '%' | some '#' =>
    let again ← takeJoined
    if again ≠ c then giveBack again
    return .trim ⟨c = some '%', again = c⟩
  | _ => return plain c false

def takeLengthName (fuel : Nat) (c : Char) : Parse (Text × Operator) := do
  let (name, after) ← takeWhile (if c.isDigit then Char.isDigit else isNameChar) fuel [c]
  giveBack after
  return (name, if after = some '}' then .length else .malformed)

def takeSpecial (fuel : Nat) (c : Option Char) : Parse (Text × Operator) := do
  let after ← takeJoined
  let special (name : Char) (after : Option Char) : Parse (Text × Operator) := do
    if isSpecialParameter name then return ([name], ← takeOperator after)
    else
      giveBack after
      return ([], .malformed)
  match c, after with
  | some '#', some first =>
    if first.isAlphanum || first == '_' then takeLengthName fuel first
    else
      let second ← takeJoined
      giveBack second
      if first = '}' || second ≠ some '}' then special '#' after
      else if isSpecialParameter first then return ([first], .length)
      else return ([], .malformed)
  | some name, _ => special name after
  | none, _ => return ([], .malformed)

def takeBraced (fuel : Nat) : Parse (Text × Operator) := do
  let first ← takeJoined
  match first with
  | some '}' =>
    giveBack first
    return ([], .malformed)
  | some c =>
    if isNameStart c || c.isDigit then
      let (name, after) ← takeWhile (if c.isDigit then Char.isDigit else isNameChar) fuel [c]
      return (name, ← takeOperator after)
    else takeSpecial fuel first
  | none => takeSpecial fuel first

mutual

def takePieces (inner : Inner) (fuel : Nat) (place : Place) (done : List Piece) : Parse (List Piece) := do
  match fuel with
  | 0 => fail "word too long".toList
  | fuel + 1 =>
    let c ← takeJoined
    let literal (text : Text) (isQuoted : Bool) : Parse (List Piece) :=
      takePieces inner fuel place (Piece.addText text isQuoted done)
    match c, place.closing with
    | none, _ => match place.endFault? with
      | some reason => fail reason
      | none => return Piece.ordered done
    | some '\\', _ => match ← take with
      | none => literal ['\\'] true
      | some c => literal (if place.escapes c then [c] else ['\\', c]) true
    | some '"', .quote => return Piece.ordered done
    | some '}', .brace => return Piece.ordered done
    | some '(', .parens depth =>
      takePieces inner fuel { place with closing := .parens (depth + 1) } (Piece.addText ['('] true done)
    | some ')', .parens (depth + 1) =>
      takePieces inner fuel { place with closing := .parens depth } (Piece.addText [')'] true done)
    | some ')', .parens 0 =>
      let after ← takeJoined
      if after = some ')' then return Piece.ordered done
      giveBack after
      literal [')'] true
    | some c, closing =>
      if closing = .word && endsWord c then
        giveBack c
        return Piece.ordered done
      else if c = '\n' then
        modify countLine
        literal [c] place.isQuoted
      else if c = '\'' && !place.isQuoted then
        let text ← takeSingleQuoted place fuel []
        takePieces inner fuel place (.mark :: Piece.addText text true (.mark :: done))
      else if c = '"' && (closing = .word || closing = .brace) then
        let quoted ← takePieces inner fuel { place with closing := .quote, isQuoted := true } []
        takePieces inner fuel place (.mark :: Piece.addAll (.mark :: done) quoted)
      else if c = '`' && !place.isMark then
        let body ← inner.ofText (← takeBackquoted place fuel [])
        takePieces inner fuel place (.command body place.isQuoted :: done)
      else if c = '$' && !place.isMark then
        match ← takeDollar inner fuel place with
        | some piece => takePieces inner fuel place (piece :: done)
        | none => literal ['$'] place.isQuoted
      else literal [c] place.isQuoted

def takeDollar (inner : Inner) (fuel : Nat) (place : Place) : Parse (Option Piece) := do
  match fuel with
  | 0 => fail "word too long".toList
  | fuel + 1 =>
    let c ← takeJoined
    match c with
    | some '(' =>
      let second ← takeJoined
      if second = some '(' then
        let inside := { place with closing := .parens 0, isQuoted := true, inBraces := false }
        return some (.arithmetic (← takePieces inner fuel inside []) place.isQuoted)
      else
        giveBack second
        return some (.command (← inner.commands) place.isQuoted)
    | some '{' =>
      let (name, operator) ← takeBraced fuel
      if operator = .value then return some (.parameter name .value place.isQuoted)
      let isTrim := match operator with
        | .trim _ => true
        | _ => false
      let isQuoted := place.isQuoted && !isTrim
      let word ← takePieces inner fuel { place with closing := .brace, isQuoted, inBraces := true } []
      let use : Use := match operator with
        | .value => .value
        | .length => .length
        | .malformed => .malformed
        | .fallback kind orNull => .fallback kind orNull word
        | .trim kind => .trim kind word
      return some (.parameter name use place.isQuoted)
    | some c =>
      if isNameStart c then
        let (name, after) ← takeWhile isNameChar fuel [c]
        giveBack after
        return some (.parameter name .value place.isQuoted)
      else if isSpecialParameter c then return some (.parameter [c] .value place.isQuoted)
      else
        giveBack c
        return none
    | none => return none

end

def takeDocument (inner : Inner) (fuel : Nat) (awaited : Awaited) : Parse (List Piece) := do
  modify fun r => { r with mark := some (awaited.mark, awaited.stripsTabs) }.startLine
  let pieces ←
    if awaited.isLiteral then pure [.text (← literal fuel []) true]
    else takePieces inner fuel { closing := .document, isQuoted := true, inDocument := true } []
  modify fun r => { r with mark := none, atMark := false }
  return pieces
where
  literal : Nat → Text → Parse Text
    | 0, taken => return taken.reverse
    | fuel + 1, taken => do
      match ← take with
      | none => return taken.reverse
      | some c =>
        if c = '\n' then modify countLine
        literal fuel (c :: taken)

end Reader

end CommandShell.PosixShell
