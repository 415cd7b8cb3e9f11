import CommandShell.Text.Basic

set_option autoImplicit false

namespace CommandShell

inductive Value where
  | unit
  | int (n : Int64)
  | str (text : Text)
deriving DecidableEq

namespace Value

inductive Kind where
  | unit
  | int
  | str
deriving DecidableEq, Repr

def Kind.name : Kind → Text
  | unit => "unit".toList
  | int => "int".toList
  | str => "string".toList

def kind : Value → Kind
  | .unit => .unit
  | .int _ => .int
  | .str _ => .str

def text : Value → Text
  | .unit => []
  | .int n => Text.ofInt n.toInt
  | .str t => t

def output? : Value → Option Text
  | .unit => none
  | v => some v.text

end Value

inductive Operator where
  | add
  | sub
  | mul
  | div
  | rem
deriving DecidableEq, Repr

namespace Operator

def char : Operator → Char
  | add => '+'
  | sub => '-'
  | mul => '*'
  | div => '/'
  | rem => '%'

def additive? (c : Char) : Option Operator :=
  if c = '+' then some add else if c = '-' then some sub else none

def multiplicative? (c : Char) : Option Operator :=
  if c = '*' then some mul else if c = '/' then some div else if c = '%' then some rem else none

end Operator

inductive Fault where
  | unexpected (c : Char)
  | unexpectedEnd
  | expectedParen
  | unterminatedString
deriving DecidableEq, Repr

namespace Fault

def message : Fault → Text
  | unexpected c => "unexpected '".toList ++ [c, '\'']
  | unexpectedEnd => "unexpected end of input".toList
  | expectedParen => "expected ')'".toList
  | unterminatedString => "unterminated string".toList

end Fault

inductive EvalError where
  -- Positions count bytes. The faults are those of the calculator, so an evaluator with other texts is not modelled.
  | malformed (position : Nat) (fault : Fault)
  | divisionByZero
  | overflow
  -- A sign has no left operand.
  | mismatch (operator : Char) (left : Option Value.Kind) (right : Value.Kind)
deriving DecidableEq, Repr

namespace EvalError

def message : EvalError → Text
  | malformed position fault =>
    "syntax error at ".toList ++ Text.ofNat position ++ ": ".toList ++ fault.message
  | divisionByZero => "division by zero".toList
  | overflow => "arithmetic overflow".toList
  | mismatch op left right =>
    "cannot apply '".toList ++ [op] ++ "' to ".toList ++ (left.map Value.Kind.name).getD [] ++
      " and ".toList ++ right.name

end EvalError

namespace Value

def minInt : Int := -0x8000000000000000

def maxInt : Int := 0x7FFFFFFFFFFFFFFF

def ofInt (n : Int) : Except EvalError Value :=
  if minInt ≤ n ∧ n ≤ maxInt then .ok (.int (Int64.ofInt n)) else .error .overflow

-- Division truncates toward zero. A remainder needs its quotient to fit.
def arithmetic (op : Operator) (a b : Int) : Except EvalError Value :=
  match op with
  | .add => ofInt (a + b)
  | .sub => ofInt (a - b)
  | .mul => ofInt (a * b)
  | .div => if b = 0 then .error .divisionByZero else ofInt (a.tdiv b)
  | .rem => if b = 0 then .error .divisionByZero else do
    let _ ← ofInt (a.tdiv b)
    ofInt (a.tmod b)

def combine (op : Operator) : Value → Value → Except EvalError Value
  | .int a, .int b => arithmetic op a.toInt b.toInt
  | .str a, b =>
    if op = .add then .ok (.str (a ++ b.text)) else .error (.mismatch op.char (some .str) b.kind)
  | a, b => .error (.mismatch op.char (some a.kind) b.kind)

def negate : Value → Except EvalError Value
  | .int n => ofInt (-n.toInt)
  | v => .error (.mismatch '-' none v.kind)

end Value

end CommandShell
