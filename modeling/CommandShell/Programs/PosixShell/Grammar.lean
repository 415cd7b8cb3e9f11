import CommandShell.Programs.PosixShell.Tokens
import CommandShell.Programs.PosixShell.Utility

set_option autoImplicit false

namespace CommandShell.PosixShell

def namesFunction (name : Text) : Bool := isName name && !(Utility.ofName? name).any Utility.isSpecial

inductive ListKind where
  | complete
  | inner
  | open
deriving DecidableEq, Repr

inductive Reading where
  | finished
  | command (body : Option Command)

namespace Reader

def takeTarget (inner : Inner) (fuel : Nat) : Parse Redirection := do
  let opening := (← get).opening
  let isDocument := match opening with
    | .document _ _ => true
    | _ => false
  let token ← nextToken inner fuel { mark := isDocument }
  if token ≠ .word then unexpected none
  let r ← get
  match opening with
  | .file fd mode => return .file fd mode r.word
  | .copy fd => return .copy fd r.word
  | .document fd stripsTabs =>
    let mark := r.word.flatMap fun piece => match piece with
      | .text content _ => content
      | _ => []
    let number := r.documents.size
    let awaited : Awaited := { number, mark, stripsTabs, isLiteral := r.isQuoted }
    set { r with documents := r.documents.push [], awaited := r.awaited ++ [awaited] }
    return .document fd number

def takeRedirections (inner : Inner) : (fuel : Nat) → Expecting → Parse (List Redirection)
  | 0, _ => return []
  | fuel + 1, expecting => do
    if (← nextToken inner fuel expecting) = .redirection then
      let first ← takeTarget inner fuel
      return first :: (← takeRedirections inner fuel {})
    else
      putBack
      return []

def takeItems (inner : Inner) : (fuel : Nat) → Parse (List (List Piece))
  | 0 => return []
  | fuel + 1 => do
    if (← nextToken inner fuel {}) = .word then
      let word := (← get).word
      return word :: (← takeItems inner fuel)
    else return []

def takePatterns (inner : Inner) : (fuel : Nat) → Parse (List (List Piece))
  | 0 => return []
  | fuel + 1 => do
    let word := (← get).word
    if (← nextToken inner fuel {}) = .pipe then
      let _ ← nextToken inner fuel {}
      return word :: (← takePatterns inner fuel)
    else
      if (← get).token ≠ .closeParen then unexpected (some .closeParen)
      return [word]

def takeClosing (inner : Inner) (fuel : Nat) (closing : Token) : Parse (List Redirection) := do
  if (← nextToken inner fuel {}) ≠ closing then unexpected (some closing)
  takeRedirections inner fuel .command

structure Gathered where
  assignments : List (List Piece) := []
  words : List (List Piece) := []
  redirections : List Redirection := []

def redirect (line : Nat) (body : Command) (redirections : List Redirection) : Command :=
  if redirections.isEmpty then body else .redirected line body redirections

def inBackground : Command → Command
  | .pipe stages _ => .pipe stages true
  | .redirected line body redirections => .background line body redirections
  | body => .background 0 body []

mutual

def innerCommands (fuel : Nat) : Inner :=
  match fuel with
  | 0 => { commands := fail "script too long".toList, ofText := fun _ => fail "script too long".toList }
  | fuel + 1 => {
      commands := do
        let before ← get
        set { before with awaited := [], mark := none, isPending := false }
        let body ← takeList fuel .open
        if (← nextToken (innerCommands fuel) fuel {}) ≠ .closeParen then unexpected (some .closeParen)
        modify fun r => { r with awaited := before.awaited, mark := before.mark, isPending := false }
        return body
      ofText := fun text => do
        let before ← get
        set { Reader.ofText text with aliases := before.aliases, documents := before.documents }
        let body ← takeList fuel .open
        let after ← get
        set { before with documents := after.documents, isPending := false }
        return body }

def takeList (fuel : Nat) (kind : ListKind) : Parse (Option Command) := do
  match fuel with
  | 0 => fail "script too long".toList
  | fuel + 1 =>
    let commands ← takeCommands fuel kind (kind = .inner) []
    match commands with
    | [] => return none
    | [command] => return some command
    | _ => return some (.sequence commands)

def takeCommands (fuel : Nat) (kind : ListKind) (wantsOne : Bool) (done : List Command) :
    Parse (List Command) := do
  match fuel with
  | 0 => fail "script too long".toList
  | fuel + 1 =>
    let inner := innerCommands fuel
    let isWhole := kind = .complete
    let token ← nextToken inner fuel { Expecting.command with newlines := !isWhole }
    if token = .newline then
      takeDocuments inner fuel
      return done.reverse
    else if token = .endOfFile then
      takeDocuments inner fuel
      modify fun r => { r with isPending := true, token := .endOfFile }
      return done.reverse
    else
      putBack
      if !isWhole && !wantsOne && token.endsList then return done.reverse
      let command ← takeAndOr fuel
      let after ← nextToken inner fuel {}
      let done := (if after = .background then inBackground command else command) :: done
      match after with
      | .endOfFile =>
        takeDocuments inner fuel
        modify fun r => { r with isPending := true, token := .endOfFile }
        return done.reverse
      | .newline =>
        putBack
        takeCommands fuel kind false done
      | .background | .semicolon => takeCommands fuel kind false done
      | _ =>
        if isWhole then unexpected none
        putBack
        return done.reverse

def takeAndOr (fuel : Nat) : Parse Command := do
  match fuel with
  | 0 => fail "script too long".toList
  | fuel + 1 => takeAlternatives fuel (← takePipeline fuel {})

def takeAlternatives (fuel : Nat) (first : Command) : Parse Command := do
  match fuel with
  | 0 => fail "script too long".toList
  | fuel + 1 =>
    let token ← nextToken (innerCommands fuel) fuel {}
    if token = .and then takeAlternatives fuel (.both first (← takePipeline fuel .commandBelow))
    else if token = .or then takeAlternatives fuel (.either first (← takePipeline fuel .commandBelow))
    else
      putBack
      return first

def takePipeline (fuel : Nat) (expecting : Expecting) : Parse Command := do
  match fuel with
  | 0 => fail "script too long".toList
  | fuel + 1 =>
    let inner := innerCommands fuel
    let isNegated := (← nextToken inner fuel expecting) = .keyword .bang
    if !isNegated then putBack
    let first ← takeCommand fuel (if isNegated then .command else {})
    let stages ← takeStages fuel
    let body := if stages.isEmpty then first else .pipe (first :: stages) false
    return if isNegated then .negated body else body

def takeStages (fuel : Nat) : Parse (List Command) := do
  match fuel with
  | 0 => fail "script too long".toList
  | fuel + 1 =>
    if (← nextToken (innerCommands fuel) fuel {}) = .pipe then
      let stage ← takeCommand fuel .commandBelow
      return stage :: (← takeStages fuel)
    else
      putBack
      return []

def takeCommand (fuel : Nat) (expecting : Expecting) : Parse Command := do
  match fuel with
  | 0 => fail "script too long".toList
  | fuel + 1 =>
    let inner := innerCommands fuel
    let line := (← get).line
    match ← nextToken inner fuel expecting with
    | .keyword .ifWord =>
      let body ← takeConditional fuel
      return redirect line body (← takeClosing inner fuel (.keyword .fiWord))
    | .keyword .whileWord => takeLoop fuel line false
    | .keyword .untilWord => takeLoop fuel line true
    | .keyword .forWord => takeFor fuel line
    | .keyword .caseWord =>
      if (← nextToken inner fuel {}) ≠ .word then unexpected (some .word)
      let subject := (← get).word
      let follower ← nextToken inner fuel .commandBelow
      if follower ≠ .keyword .inWord then unexpected (some (.keyword .inWord))
      let cases ← takeCases fuel
      return redirect line (.choice line subject cases) (← takeRedirections inner fuel .command)
    | .openParen =>
      let body ← takeBody fuel
      return .subshell line body (← takeClosing inner fuel .closeParen)
    | .keyword .openBrace =>
      let body ← takeBody fuel
      return redirect line body (← takeClosing inner fuel (.keyword .closeBrace))
    | .word | .redirection =>
      putBack
      let line := (← get).line
      takeSimple fuel line {}
    | _ => unexpected none

def takeBody (fuel : Nat) : Parse Command := do
  match fuel with
  | 0 => fail "script too long".toList
  | fuel + 1 => return (← takeList fuel .inner).getD (.sequence [])

def takeConditional (fuel : Nat) : Parse Command := do
  match fuel with
  | 0 => fail "script too long".toList
  | fuel + 1 =>
    let inner := innerCommands fuel
    let test ← takeBody fuel
    if (← nextToken inner fuel {}) ≠ .keyword .thenWord then unexpected (some (.keyword .thenWord))
    let body ← takeBody fuel
    match ← nextToken inner fuel {} with
    | .keyword .elifWord => return .conditional test body (some (← takeConditional fuel))
    | .keyword .elseWord => return .conditional test body (some (← takeBody fuel))
    | _ =>
      putBack
      return .conditional test body none

def takeLoop (fuel line : Nat) (isUntil : Bool) : Parse Command := do
  match fuel with
  | 0 => fail "script too long".toList
  | fuel + 1 =>
    let inner := innerCommands fuel
    let test ← takeBody fuel
    if (← nextToken inner fuel {}) ≠ .keyword .doWord then unexpected (some (.keyword .doWord))
    let body ← takeBody fuel
    return redirect line (.loop isUntil test body) (← takeClosing inner fuel (.keyword .doneWord))

def takeFor (fuel line : Nat) : Parse Command := do
  match fuel with
  | 0 => fail "script too long".toList
  | fuel + 1 =>
    let inner := innerCommands fuel
    let token ← nextToken inner fuel {}
    let name := (Piece.plain? (← get).word).getD []
    if token ≠ .word || (← get).isQuoted || !isName name then fail "Bad for loop variable".toList
    let follower ← nextToken inner fuel .commandBelow
    let items ← if follower = .keyword .inWord then do
        let items ← takeItems inner fuel
        let last := (← get).token
        if last ≠ .newline && last ≠ .semicolon then unexpected none
        pure items
      else do
        if follower ≠ .semicolon then putBack
        pure [[Piece.mark, .parameter ['@'] .value true, .mark]]
    if (← nextToken inner fuel .commandBelow) ≠ .keyword .doWord then unexpected (some (.keyword .doWord))
    let body ← takeBody fuel
    return redirect line (.forEach line name items body) (← takeClosing inner fuel (.keyword .doneWord))

def takeCases (fuel : Nat) : Parse (List Case) := do
  match fuel with
  | 0 => fail "script too long".toList
  | fuel + 1 =>
    let inner := innerCommands fuel
    let start : Expecting := { newlines := true, keywords := true }
    let token ← nextToken inner fuel start
    if token = .keyword .esacWord then return []
    if token = .openParen then
      let _ ← nextToken inner fuel {}
    let patterns ← takePatterns inner fuel
    let body ← takeList fuel .open
    let after ← nextToken inner fuel start
    if after = .keyword .esacWord then return [.mk patterns body]
    if after ≠ .endCase then unexpected (some .endCase)
    return .mk patterns body :: (← takeCases fuel)

def takeSimple (fuel line : Nat) (gathered : Gathered) : Parse Command := do
  match fuel with
  | 0 => fail "script too long".toList
  | fuel + 1 =>
    let inner := innerCommands fuel
    let isEarly := gathered.words.isEmpty
    match ← nextToken inner fuel { aliases := isEarly } with
    | .word =>
      let word := (← get).word
      takeSimple fuel line <|
        if isEarly && (Piece.assigned? word).isSome then
          { gathered with assignments := word :: gathered.assignments }
        else { gathered with words := word :: gathered.words }
    | .redirection =>
      let redirection ← takeTarget inner fuel
      takeSimple fuel line { gathered with redirections := redirection :: gathered.redirections }
    | .openParen =>
      match gathered with
      | ⟨[], [word], []⟩ =>
        if (← nextToken inner fuel {}) ≠ .closeParen then unexpected (some .closeParen)
        let name := (Piece.plain? word).getD []
        if !namesFunction name then fail "Bad function name".toList
        return .define name (← takeCommand fuel .commandBelow)
      | _ =>
        putBack
        return finish gathered
    | _ =>
      putBack
      return finish gathered
where
  finish (g : Gathered) : Command :=
    .simple line g.assignments.reverse g.words.reverse g.redirections.reverse

end

def maxSteps : Nat := 100000000

def takeComplete : Parse Reading := do
  let body ← takeList maxSteps .complete
  if body.isNone && (← get).token = .endOfFile then return .finished
  return .command body

end Reader

end CommandShell.PosixShell
