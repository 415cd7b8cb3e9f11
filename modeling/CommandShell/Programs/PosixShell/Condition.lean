import CommandShell.Programs.PosixShell.Glob
import CommandShell.Programs.PosixShell.Options

set_option autoImplicit false

namespace CommandShell.PosixShell

namespace Condition

inductive Unary where
  | isEmpty
  | isNotEmpty
  | isTerminal
  | exists
  | isFile
  | isDirectory
  | isLink
  | isCharacterDevice
  | isBlockDevice
  | isPipe
  | isSocket
  | isReadable
  | isWritable
  | isExecutable
  | hasContent
  | hasUserBit
  | hasGroupBit
  | isSticky
  | isOwned
  | isOfGroup
deriving DecidableEq, Repr

inductive Binary where
  | same
  | different
  | before
  | after
  | equal
  | notEqual
  | greater
  | greaterEqual
  | less
  | lessEqual
  | newer
  | older
  | sameFile
deriving DecidableEq, Repr

inductive Word where
  | unary (o : Unary)
  | binary (o : Binary)
  | not
  | and
  | or
  | openParen
  | closeParen
  | operand
  | finish
deriving DecidableEq, Repr

def table : List (Text × Word) :=
  let unary : List (String × Unary) :=
    [("-r", .isReadable), ("-w", .isWritable), ("-x", .isExecutable), ("-e", .exists), ("-f", .isFile),
     ("-d", .isDirectory), ("-c", .isCharacterDevice), ("-b", .isBlockDevice), ("-p", .isPipe),
     ("-u", .hasUserBit), ("-g", .hasGroupBit), ("-k", .isSticky), ("-s", .hasContent), ("-t", .isTerminal),
     ("-z", .isEmpty), ("-n", .isNotEmpty), ("-h", .isLink), ("-O", .isOwned), ("-G", .isOfGroup),
     ("-L", .isLink), ("-S", .isSocket)]
  let binary : List (String × Binary) :=
    [("=", .same), ("!=", .different), ("<", .before), (">", .after), ("-eq", .equal), ("-ne", .notEqual),
     ("-gt", .greater), ("-ge", .greaterEqual), ("-lt", .less), ("-le", .lessEqual), ("-nt", .newer),
     ("-ot", .older), ("-ef", .sameFile)]
  let others : List (String × Word) :=
    [("!", .not), ("-a", .and), ("-o", .or), ("(", .openParen), (")", .closeParen)]
  unary.map (fun (name, o) => (name.toList, .unary o)) ++
    binary.map (fun (name, o) => (name.toList, .binary o)) ++ others.map (fun (name, w) => (name.toList, w))

def isBinary (text : Text) : Bool :=
  match table.lookup text with
  | some (.binary _) => true
  | _ => false

-- What the first of some words is. One after which an operand is missing is an operand itself.
def word : List Text → Word
  | [] => .finish
  | text :: rest =>
    match table.lookup text with
    | some (.unary o) =>
      let isOperand := match rest with
        | [] => true
        | [_] => false
        | next :: _ => isBinary next
      if isOperand then .operand else .unary o
    | some .openParen => if rest.isEmpty then .operand else .openParen
    | some other => other
    | none => .operand

abbrev Check := StateT (List Text) (Except Text)

def fail {α : Type} (reason : Text) : Check α := fun _ => .error reason

def advance (n : Nat) : Check Unit := modify fun words => words.drop n

def integer (text : Text) : Check Int := do
  match number? text with
  | some n => return n
  | none => fail ("Illegal number: ".toList ++ text)

def found? (fs : FileSystem) (path : Text) : Option (Location × Entry) :=
  (fs.locate (Octets.text path)).toOption.map fun place => (place, (fs.entry? place).getD .directory)

def isLink (fs : FileSystem) (path : Text) : Bool :=
  match path.reverse.span (· ≠ '/') with
  | ([], _) => false
  | (name, above) =>
    match fs.locate (if above.isEmpty then ['.'] else Octets.text above.reverse) with
    | .ok place => match fs.entry? (place ++ [Octets.text name.reverse]) with
      | some (.link _) => true
      | _ => false
    | .error _ => false

-- All files belong to whoever asks, and nothing but the right to run a file is ever withheld.
def checkFile (fs : FileSystem) (o : Unary) (path : Text) : Bool :=
  match o, found? fs path with
  | .isLink, _ => isLink fs path
  | _, none => false
  | .isFile, some (_, .file _ _) => true
  | .isDirectory, some (_, .directory) => true
  | .isCharacterDevice, some (_, .null) => true
  | .isExecutable, some (_, .directory) => true
  | .isExecutable, some (_, .file _ executable) => executable
  | .hasContent, some (_, .directory) => true
  | .hasContent, some (_, .file content _) => !content.isEmpty
  | .exists, _ | .isReadable, _ | .isWritable, _ | .isOwned, _ | .isOfGroup, _ => true
  | _, _ => false

def checkUnary (fs : FileSystem) (o : Unary) (text : Text) : Check Bool := do
  match o with
  | .isEmpty => return text.isEmpty
  | .isNotEmpty => return !text.isEmpty
  | .isTerminal =>
    let _ ← integer text
    return false
  | _ => return checkFile fs o text

def checkBinary (fs : FileSystem) (o : Binary) (a b : Text) : Check Bool := do
  let numbers (p : Int → Int → Bool) : Check Bool := do
    let a ← integer a
    let b ← integer b
    return p a b
  match o with
  | .same => return a == b
  | .different => return a != b
  | .before => return a < b
  | .after => return b < a
  | .equal => numbers (· == ·)
  | .notEqual => numbers (· != ·)
  | .greater => numbers fun a b => b < a
  | .greaterEqual => numbers fun a b => b ≤ a
  | .less => numbers fun a b => a < b
  | .lessEqual => numbers fun a b => a ≤ b
  | .newer | .older => return false
  | .sameFile => return match found? fs a, found? fs b with
    | some (a, _), some (b, _) => a == b
    | _, _ => false

def spelling (w : Word) : Text := ((table.find? (·.2 = w)).map Prod.fst).getD []

mutual

def either (fs : FileSystem) (fuel : Nat) (w : Word) : Check Bool := do
  match fuel with
  | 0 => return false
  | fuel + 1 =>
    let first ← both fs fuel w
    let words ← get
    if word words.tail ≠ .or then return first
    advance 2
    let second ← either fs fuel (word (words.drop 2))
    return first || second

def both (fs : FileSystem) (fuel : Nat) (w : Word) : Check Bool := do
  match fuel with
  | 0 => return false
  | fuel + 1 =>
    let first ← negated fs fuel w
    let words ← get
    if word words.tail ≠ .and then return first
    advance 2
    let second ← both fs fuel (word (words.drop 2))
    return first && second

def negated (fs : FileSystem) (fuel : Nat) (w : Word) : Check Bool := do
  match fuel with
  | 0 => return false
  | fuel + 1 =>
    if w ≠ .not then primary fs fuel w
    else
      let next := word (← get).tail
      if next ≠ .finish then advance 1
      return !(← negated fs fuel next)

def primary (fs : FileSystem) (fuel : Nat) (w : Word) : Check Bool := do
  match fuel with
  | 0 => return false
  | fuel + 1 =>
    match w with
    | .finish => return false
    | .openParen =>
      advance 1
      let next := word (← get)
      if next = .closeParen then return false
      let result ← either fs fuel next
      advance 1
      if word (← get) ≠ .closeParen then fail "closing paren expected".toList
      return result
    | .unary o =>
      advance 1
      match ← get with
      | [] => fail (spelling w ++ ": argument expected".toList)
      | text :: _ => checkUnary fs o text
    | _ =>
      match ← get with
      | a :: operator :: rest =>
        match word (operator :: rest) with
        | .binary o =>
          advance 2
          match rest with
          | b :: _ => checkBinary fs o a b
          | [] => fail (operator ++ ": argument expected".toList)
        | _ => return !a.isEmpty
      | [a] => return !a.isEmpty
      | [] => return false

end

def whole (fs : FileSystem) (w : Word) (words : List Text) : Except Text Bool := do
  let (result, rest) ← (either fs (4 * words.length + 4) w).run words
  match rest with
  | operator :: _ :: _ =>
    throw (if operator.isEmpty then "unexpected operator".toList
      else operator ++ ": unexpected operator".toList)
  | _ => return result

-- Whether words hold, or do not if `isNegated`. With three words an operator between two operands comes
-- first. Negations before three or two words count as one.
def judge (fs : FileSystem) (isNegated : Bool) : List Text → Except Text Bool
  | [] => .ok isNegated
  | first :: rest =>
    let words := first :: rest
    let isShort := words.length = 3 || words.length = 4
    let binds := words.length = 3 && isBinary (rest.head?.getD [])
    if !binds && isShort && first = ['!'] then judge fs true rest
    else
      let result :=
        if !binds && isShort && first = ['('] && words.getLast? = some [')'] then
          whole fs (word rest.dropLast) rest.dropLast
        else whole fs (if binds then .operand else word words) words
      result.map (· != isNegated)

def holds (fs : FileSystem) (words : List Text) : Except Text Bool := judge fs false words

end Condition

end CommandShell.PosixShell
