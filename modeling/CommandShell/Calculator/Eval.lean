import CommandShell.Text.Blank
import CommandShell.Calculator.Value

/-!
    sum     := product (('+' | '-') product)*
    product := signed (('*' | '/' | '%') signed)*
    signed  := '-' signed | primary
    primary := '(' sum ')' | '"' text '"' | digits

Blanks may stand around tokens. The reader computes while it reads, so of a bad operation and a later
malformed part the operation is reported. An operation runs when the character after its right operand
shows that the operand is complete.
-/

set_option autoImplicit false

namespace CommandShell

abbrev Engine := Text → Except EvalError Value

namespace Calculator

-- What waits for an operand inside one parenthesis: a sum, a product and minus signs, outermost first.
structure Level where
  sum : Option (Value × Operator) := none
  product : Option (Value × Operator) := none
  minuses : Nat := 0

inductive Phase where
  | operand
  | number (n : Nat)
  -- A string whose text starts at byte `start`, read backwards.
  | string (start : Nat) (read : Text)
  | operator (term : Value)

structure Reader where
  phase : Phase := .operand
  level : Level := {}
  outer : List Level := []

def negateTimes : Nat → Value → Except EvalError Value
  | 0, v => .ok v
  | n + 1, v => do negateTimes n (← v.negate)

def settle (waiting : Option (Value × Operator)) (right : Value) : Except EvalError Value :=
  match waiting with
  | none => .ok right
  | some (left, op) => left.combine op right

namespace Level

def complete (l : Level) (v : Value) : Except EvalError Value := do
  settle l.product (← negateTimes l.minuses v)

end Level

namespace Reader

def supply (r : Reader) (v : Value) : Except EvalError Reader := do
  let term ← r.level.complete v
  return { r with phase := .operator term, level := { sum := r.level.sum } }

def operator (r : Reader) (term : Value) (position : Nat) (c : Char) : Except EvalError Reader :=
  if isBlank c then .ok { r with phase := .operator term }
  else match Operator.multiplicative? c with
    | some op => .ok { r with phase := .operand, level := { r.level with product := some (term, op) } }
    | none => do
      let total ← settle r.level.sum term
      match Operator.additive? c, r.outer with
      | some op, _ => return { r with phase := .operand, level := { sum := some (total, op) } }
      | none, [] => .error (.malformed position (.unexpected c))
      | none, level :: outer =>
        if c = ')' then supply { phase := .operand, level, outer } total
        else .error (.malformed (position + c.utf8Size) .expectedParen)

def operand (r : Reader) (position : Nat) (c : Char) : Except EvalError Reader :=
  if isBlank c then .ok r
  else if c = '-' then .ok { r with level := { r.level with minuses := r.level.minuses + 1 } }
  else if c = '(' then .ok { phase := .operand, level := {}, outer := r.level :: r.outer }
  else if c = '"' then .ok { r with phase := .string (position + 1) [] }
  else match digit? c with
    | some d => .ok { r with phase := .number d }
    | none => .error (.malformed position (.unexpected c))

def step (r : Reader) (position : Nat) (c : Char) : Except EvalError Reader :=
  match r.phase with
  | .operand => r.operand position c
  | .number n =>
    match digit? c with
    | some d => .ok { r with phase := .number (n * 10 + d) }
    | none => do
      let term ← r.level.complete (← Value.ofInt n)
      operator { r with level := { sum := r.level.sum } } term position c
  | .string start read =>
    if c = '"' then r.supply (.str read.reverse)
    else .ok { r with phase := .string start (c :: read) }
  | .operator term => r.operator term position c

def total (r : Reader) (term : Value) (position : Nat) : Except EvalError Value := do
  let v ← settle r.level.sum term
  if r.outer.isEmpty then return v else .error (.malformed position .expectedParen)

def finish (r : Reader) (position : Nat) : Except EvalError Value :=
  match r.phase with
  | .operand => .error (.malformed position .unexpectedEnd)
  | .number n => do r.total (← r.level.complete (← Value.ofInt n)) position
  | .string start _ => .error (.malformed start .unterminatedString)
  | .operator term => r.total term position

def read (r : Reader) (position : Nat) : Text → Except EvalError Value
  | [] => r.finish position
  | c :: rest => do
    let r ← r.step position c
    r.read (position + c.utf8Size) rest

end Reader

def eval : Engine := fun text =>
  if Text.isAllBlank text then .ok .unit else Reader.read {} 0 text

end Calculator

end CommandShell
