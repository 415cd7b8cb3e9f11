import CommandShell.Programs.PosixShell.Syntax

set_option autoImplicit false

namespace CommandShell.PosixShell

namespace Arithmetic

inductive Operation where
  | multiply
  | divide
  | remainder
  | add
  | subtract
  | shiftLeft
  | shiftRight
  | less
  | lessEqual
  | greater
  | greaterEqual
  | equal
  | different
  | bitAnd
  | bitXor
  | bitOr
deriving DecidableEq, Repr

inductive Token where
  | number (n : Int64)
  | name (text : Text)
  | operation (o : Operation)
  | assign (o : Option Operation)
  | not
  | complement
  | and
  | or
  | question
  | colon
  | openParen
  | closeParen
  | bad
deriving DecidableEq, Repr

inductive Fault where
  | wantsPrimary
  | wantsEnd
  | wantsParen
  | wantsColon
  | divisionByZero
  | illegalNumber (value : Text)
  | overflow
deriving DecidableEq, Repr

def minValue : Int := -0x8000000000000000

def maxValue : Int := 0x7FFFFFFFFFFFFFFF

def digitValue? (base : Nat) (c : Char) : Option Nat :=
  let value :=
    if c.isDigit then c.toNat - '0'.toNat
    else if c.isAlpha then c.toLower.toNat - 'a'.toNat + 10
    else base
  if value < base then some value else none

def takeDigits (base : Nat) : Nat → Text → Nat × Text
  | value, [] => (value, [])
  | value, c :: rest => match digitValue? base c with
    | some d => takeDigits base (value * base + d) rest
    | none => (value, c :: rest)

def takeNatural (text : Text) : Nat × Text :=
  match text with
  | '0' :: x :: c :: rest =>
    if (x = 'x' ∨ x = 'X') ∧ (digitValue? 16 c).isSome then takeDigits 16 0 (c :: rest)
    else takeDigits 8 0 text
  | '0' :: _ => takeDigits 8 0 text
  | _ => takeDigits 10 0 text

def isBlank (c : Char) : Bool := c == ' ' || ('\t' ≤ c && c ≤ '\r')

def takeInteger (takeNatural : Text → Nat × Text) (text : Text) : Option (Int × Text) :=
  let inner := text.dropWhile isBlank
  let (isNegative, digits) := match inner with
    | '-' :: rest => (true, rest)
    | '+' :: rest => (false, rest)
    | _ => (false, inner)
  match digits with
  | c :: _ =>
    if c.isDigit then
      let (value, rest) := takeNatural digits
      some (if isNegative then -value else value, rest)
    else none
  | [] => none

def clamp (n : Int) : Int64 := Int64.ofInt (max minValue (min n maxValue))

def inRange (n : Int) : Bool := minValue ≤ n && n ≤ maxValue

def ofValue (value : Text) : Except Fault Int64 :=
  match takeInteger takeNatural value with
  | some (n, rest) =>
    if inRange n && rest.all isBlank then .ok (Int64.ofInt n) else .error (.illegalNumber value)
  | none => if value.all isBlank then .ok 0 else .error (.illegalNumber value)

def spellings : List (Text × Token) :=
  let assigning : List (String × Operation) :=
    [("<<", .shiftLeft), (">>", .shiftRight), ("*", .multiply), ("/", .divide), ("%", .remainder),
     ("+", .add), ("-", .subtract), ("&", .bitAnd), ("^", .bitXor), ("|", .bitOr)]
  let plain : List (String × Token) :=
    [("<=", .operation .lessEqual), (">=", .operation .greaterEqual), ("==", .operation .equal),
     ("!=", .operation .different), ("||", .or), ("&&", .and), ("<<", .operation .shiftLeft),
     (">>", .operation .shiftRight), ("<", .operation .less), (">", .operation .greater),
     ("=", .assign none), ("!", .not), ("(", .openParen), (")", .closeParen), ("~", .complement),
     ("?", .question), (":", .colon)]
  assigning.map (fun (text, o) => (text.toList ++ ['='], .assign (some o))) ++
    plain.map (fun (text, token) => (text.toList, token)) ++
    assigning.map (fun (text, o) => (text.toList, .operation o))

def tokens : (length : Nat) → Text → List Token
  | 0, _ => []
  | _ + 1, [] => []
  | length + 1, c :: rest =>
    if c = ' ' ∨ c = '\t' ∨ c = '\n' then tokens length rest
    else if c.isDigit then
      let (value, after) := takeNatural (c :: rest)
      .number (clamp value) :: tokens length after
    else if isNameStart c then
      let (name, after) := rest.span isNameChar
      .name (c :: name) :: tokens length after
    else match spellings.find? fun (spelling, _) => spelling.isPrefixOf (c :: rest) with
      | some (spelling, token) => token :: tokens length ((c :: rest).drop spelling.length)
      | none => [.bad]

-- Operations of a lower rank bind closer.
def Operation.rank : Operation → Nat
  | multiply | divide | remainder => 0
  | add | subtract => 1
  | shiftLeft | shiftRight => 2
  | less | lessEqual | greater | greaterEqual => 3
  | equal | different => 4
  | bitAnd => 5
  | bitXor => 6
  | bitOr => 7

def maxRank : Nat := 8

def truth (b : Bool) : Int64 := if b then 1 else 0

def Operation.apply (o : Operation) (a b : Int64) : Except Fault Int64 :=
  match o with
  | multiply => .ok (a * b)
  | divide =>
    if b = 0 then .error .divisionByZero
    else if a = Int64.minValue ∧ b = -1 then .error .overflow
    else .ok (a / b)
  | remainder =>
    if b = 0 then .error .divisionByZero
    else if a = Int64.minValue ∧ b = -1 then .error .overflow
    else .ok (a % b)
  | add => .ok (a + b)
  | subtract => .ok (a - b)
  | shiftLeft => .ok (a <<< b)
  | shiftRight => .ok (a >>> b)
  | less => .ok (truth (a < b))
  | lessEqual => .ok (truth (a ≤ b))
  | greater => .ok (truth (b < a))
  | greaterEqual => .ok (truth (b ≤ a))
  | equal => .ok (truth (a == b))
  | different => .ok (truth (a != b))
  | bitAnd => .ok (a &&& b)
  | bitXor => .ok (a ^^^ b)
  | bitOr => .ok (a ||| b)

structure Progress where
  rest : List Token
  assigned : List (Text × Int64) := []

abbrev Evaluation := StateT Progress (Except Fault)

def fail {α : Type} (fault : Fault) : Evaluation α := fun _ => .error fault

def peek : Evaluation (Option Token) := do return (← get).rest.head?

def skip : Evaluation Unit := modify fun p => { p with rest := p.rest.tail }

def valueOf (lookup : Text → Text) (name : Text) : Evaluation Int64 := do
  match (← get).assigned.lookup name with
  | some value => return value
  | none => match ofValue (lookup name) with
    | .ok value => return value
    | .error fault => fail fault

def combine (o : Operation) (a b : Int64) : Evaluation Int64 :=
  match o.apply a b with
  | .ok value => return value
  | .error fault => fail fault

mutual

-- Evaluates an assignment or a choice. Where `isIdle` holds the form is checked and nothing is done.
def assignment (lookup : Text → Text) (fuel : Nat) (isIdle : Bool) : Evaluation Int64 := do
  match fuel with
  | 0 => fail .wantsPrimary
  | fuel + 1 =>
    match (← get).rest with
    | .name name :: .assign operation :: rest =>
      modify fun p => { p with rest }
      let value ← assignment lookup fuel isIdle
      if isIdle then return value
      let value ← match operation with
        | none => pure value
        | some o => combine o (← valueOf lookup name) value
      modify fun p => { p with assigned := (name, value) :: p.assigned }
      return value
    | _ => choice lookup fuel isIdle

def choice (lookup : Text → Text) (fuel : Nat) (isIdle : Bool) : Evaluation Int64 := do
  match fuel with
  | 0 => fail .wantsPrimary
  | fuel + 1 =>
    let test ← disjunction lookup fuel isIdle
    if (← peek) ≠ some .question then return test
    skip
    let first ← assignment lookup fuel (isIdle || test == 0)
    if (← peek) ≠ some .colon then fail .wantsColon
    skip
    let second ← choice lookup fuel (isIdle || test != 0)
    return if test != 0 then first else second

def disjunction (lookup : Text → Text) (fuel : Nat) (isIdle : Bool) : Evaluation Int64 := do
  match fuel with
  | 0 => fail .wantsPrimary
  | fuel + 1 =>
    let first ← conjunction lookup fuel isIdle
    if (← peek) ≠ some .or then return first
    skip
    let second ← disjunction lookup fuel (isIdle || first != 0)
    return truth (first != 0 || second != 0)

def conjunction (lookup : Text → Text) (fuel : Nat) (isIdle : Bool) : Evaluation Int64 := do
  match fuel with
  | 0 => fail .wantsPrimary
  | fuel + 1 =>
    let first ← operations lookup fuel maxRank (← primary lookup fuel isIdle) isIdle
    if (← peek) ≠ some .and then return first
    skip
    let second ← conjunction lookup fuel (isIdle || first == 0)
    return truth (first != 0 && second != 0)

def operations (lookup : Text → Text) (fuel rank : Nat) (value : Int64) (isIdle : Bool) :
    Evaluation Int64 := do
  match fuel with
  | 0 => fail .wantsPrimary
  | fuel + 1 =>
    match ← peek with
    | some (.operation o) =>
      if o.rank < rank then
        skip
        let second ← operations lookup fuel o.rank (← primary lookup fuel isIdle) isIdle
        let value ← if isIdle then pure second else combine o value second
        operations lookup fuel rank value isIdle
      else return value
    | _ => return value

def primary (lookup : Text → Text) (fuel : Nat) (isIdle : Bool) : Evaluation Int64 := do
  match fuel with
  | 0 => fail .wantsPrimary
  | fuel + 1 =>
    let token ← peek
    skip
    match token with
    | some .openParen =>
      let value ← assignment lookup fuel isIdle
      if (← peek) ≠ some .closeParen then fail .wantsParen
      skip
      return value
    | some (.number n) => return n
    | some (.name name) => if isIdle then return 0 else valueOf lookup name
    | some (.operation .add) => primary lookup fuel isIdle
    | some (.operation .subtract) => return -(← primary lookup fuel isIdle)
    | some .not => return truth ((← primary lookup fuel isIdle) == 0)
    | some .complement => return ~~~(← primary lookup fuel isIdle)
    | _ => fail .wantsPrimary

end

def evaluate (lookup : Text → Text) (text : Text) : Except Fault (Int × List (Text × Int)) := do
  let rest := tokens text.length text
  let (value, after) ← (assignment lookup (10 * rest.length + 10) false).run { rest }
  if !after.rest.isEmpty then throw .wantsEnd
  return (value.toInt, after.assigned.reverse.map fun (name, n) => (name, n.toInt))

def Fault.message (text : Text) : Fault → Option Text
  | wantsPrimary => some (inExpression "expecting primary")
  | wantsEnd => some (inExpression "expecting EOF")
  | wantsParen => some (inExpression "expecting ')'")
  | wantsColon => some (inExpression "expecting ':'")
  | divisionByZero => some (inExpression "division by zero")
  | illegalNumber value => some ("Illegal number: ".toList ++ value)
  | overflow => none
where
  inExpression (reason : String) : Text :=
    "arithmetic expression: ".toList ++ reason.toList ++ ": \"".toList ++ text ++ ['"']

end Arithmetic

end CommandShell.PosixShell
