import CommandShell.Calculator.Value
import CommandShell.Text.Blank
import Mathlib.Algebra.Group.Int.Defs

/-!
Expressions, the texts that are derived from them, and what they denote, said without the reader:

    sum     := product | sum ('+' | '-') product
    product := signed | product ('*' | '/' | '%') signed
    signed  := primary | '-' signed
    primary := '(' sum ')' | '"' text '"' | digits
-/

set_option autoImplicit false

namespace CommandShell

namespace Calculator

-- Parentheses and blanks leave no trace in a tree.
inductive Expr where
  | number (n : Nat)
  | text (t : Text)
  | negate (operand : Expr)
  | binary (op : Operator) (left right : Expr)
deriving DecidableEq, Repr

inductive Rank where
  | sum
  | product
  | signed
  | primary
deriving DecidableEq, Repr

def IsDigit (c : Char) : Prop := '0' ≤ c ∧ c ≤ '9'

instance (c : Char) : Decidable (IsDigit c) := inferInstanceAs (Decidable (_ ∧ _))

def decimal (digits : Text) : Nat := digits.foldl (fun n c => n * 10 + (c.toNat - '0'.toNat)) 0

def Additive (op : Operator) : Prop := op = .add ∨ op = .sub

def Multiplicative (op : Operator) : Prop := op = .mul ∨ op = .div ∨ op = .rem

-- `Derives rank e t`: the text `t` can be read as the tree `e` where the grammar asks for `rank`. The blanks around
-- an operator are those of its operands.
inductive Derives : Rank → Expr → Text → Prop where
  | sumOne (e : Expr) (t : Text) (only : Derives .product e t) : Derives .sum e t
  | sumMore (op : Operator) (left right : Expr) (t u : Text) (additive : Additive op)
      (before : Derives .sum left t) (after : Derives .product right u) :
      Derives .sum (.binary op left right) (t ++ op.char :: u)
  | productOne (e : Expr) (t : Text) (only : Derives .signed e t) : Derives .product e t
  | productMore (op : Operator) (left right : Expr) (t u : Text) (multiplicative : Multiplicative op)
      (before : Derives .product left t) (after : Derives .signed right u) :
      Derives .product (.binary op left right) (t ++ op.char :: u)
  | signedOne (e : Expr) (t : Text) (only : Derives .primary e t) : Derives .signed e t
  | minus (e : Expr) (lead t : Text) (blank : lead.isAllBlank = true) (operand : Derives .signed e t) :
      Derives .signed (.negate e) (lead ++ '-' :: t)
  | group (e : Expr) (lead t trail : Text) (blankLead : lead.isAllBlank = true) (blankTrail : trail.isAllBlank = true)
      (inner : Derives .sum e t) : Derives .primary e (lead ++ '(' :: (t ++ ')' :: trail))
  | text (lead t trail : Text) (blankLead : lead.isAllBlank = true) (blankTrail : trail.isAllBlank = true)
      (inside : '"' ∉ t) : Derives .primary (.text t) (lead ++ '"' :: (t ++ '"' :: trail))
  | number (lead digits trail : Text) (blankLead : lead.isAllBlank = true) (blankTrail : trail.isAllBlank = true)
      (nonempty : digits ≠ []) (each : ∀ c ∈ digits, IsDigit c) :
      Derives .primary (.number (decimal digits)) (lead ++ digits ++ trail)

def exact (n : Int) : Except EvalError Value :=
  if -2 ^ 63 ≤ n ∧ n < 2 ^ 63 then .ok (.int (Int64.ofInt n)) else .error .overflow

-- Quotients are truncated toward zero, and a remainder has the sign of the dividend. The remainder that belongs to
-- the one quotient that does not fit is an overflow too.
def operate (op : Operator) (a b : Int) : Except EvalError Value :=
  match op with
  | .add => exact (a + b)
  | .sub => exact (a - b)
  | .mul => exact (a * b)
  | .div => if b = 0 then .error .divisionByZero else exact (a.tdiv b)
  | .rem =>
    if b = 0 then .error .divisionByZero
    else if a = -2 ^ 63 ∧ b = -1 then .error .overflow
    else exact (a.tmod b)

def apply : Operator → Value → Value → Except EvalError Value
  | op, .int a, .int b => operate op a.toInt b.toInt
  | .add, .str t, v => .ok (.str (t ++ v.text))
  | op, a, b => .error (.mismatch op.char (some a.kind) b.kind)

def opposite : Value → Except EvalError Value
  | .int n => exact (-n.toInt)
  | v => .error (.mismatch '-' none v.kind)

-- The left operand, the right operand, then the operator: the first error is that of the whole.
def Expr.denote : Expr → Except EvalError Value
  | number n => exact n
  | text t => .ok (.str t)
  | negate operand => operand.denote >>= opposite
  | binary op left right => left.denote >>= fun a => right.denote >>= fun b => apply op a b

theorem of_int_eq_exact (n : Int) : Value.ofInt n = exact n := by
  have same : (Value.minInt ≤ n ∧ n ≤ Value.maxInt) ↔ (-2 ^ 63 ≤ n ∧ n < 2 ^ 63) := by
    simp only [Value.minInt, Value.maxInt]
    omega
  simp only [Value.ofInt, exact, same]

theorem int64_range (n : Int64) : -2 ^ 63 ≤ n.toInt ∧ n.toInt < 2 ^ 63 := ⟨n.le_toInt, n.toInt_lt⟩

theorem quotient_range (a b : Int) (low : -2 ^ 63 ≤ a) (high : a < 2 ^ 63) (nonzero : b ≠ 0) :
    (-2 ^ 63 ≤ a.tdiv b ∧ a.tdiv b < 2 ^ 63) ↔ ¬ (a = -2 ^ 63 ∧ b = -1) := by
  by_cases one : b = 1
  · subst one
    rw [Int.tdiv_one]
    omega
  · by_cases minusOne : b = -1
    · subst minusOne
      rw [Int.tdiv_neg, Int.tdiv_one]
      omega
    · -- the quotient is at most half the dividend
      have size : (a.tdiv b).natAbs = a.natAbs / b.natAbs := Int.natAbs_tdiv a b
      have half : a.natAbs / b.natAbs ≤ a.natAbs / 2 := Nat.div_le_div_left (by omega) (by decide)
      omega

theorem arithmetic_eq_operate (op : Operator) (a b : Int) (low : -2 ^ 63 ≤ a) (high : a < 2 ^ 63) :
    Value.arithmetic op a b = operate op a b := by
  cases op with
  | add => exact of_int_eq_exact _
  | sub => exact of_int_eq_exact _
  | mul => exact of_int_eq_exact _
  | div => simp only [Value.arithmetic, operate, of_int_eq_exact]
  | rem =>
      by_cases zero : b = 0
      · simp [Value.arithmetic, operate, zero]
      · have range := quotient_range a b low high zero
        simp only [Value.arithmetic, operate, if_neg zero, of_int_eq_exact]
        by_cases overflows : a = -2 ^ 63 ∧ b = -1
        · rw [if_pos overflows, exact, if_neg fun fits => range.1 fits overflows]
          rfl
        · rw [if_neg overflows, exact, if_pos (range.2 overflows)]
          rfl

theorem combine_eq_apply (op : Operator) (a b : Value) : a.combine op b = apply op a b := by
  cases a with
  | unit => cases op <;> rfl
  | int n =>
      cases b with
      | unit => cases op <;> rfl
      | int m => exact arithmetic_eq_operate op n.toInt m.toInt (int64_range n).1 (int64_range n).2
      | str t => cases op <;> rfl
  | str t => cases op <;> rfl

theorem negate_eq_opposite (v : Value) : v.negate = opposite v := by
  cases v with
  | unit => rfl
  | int n => exact of_int_eq_exact _
  | str t => rfl

inductive IntegerResult : Except EvalError Value → Prop where
  | value (n : Int64) : IntegerResult (.ok (.int n))
  | divisionByZero : IntegerResult (.error .divisionByZero)
  | overflow : IntegerResult (.error .overflow)

theorem exact_integer (n : Int) : IntegerResult (exact n) := by
  unfold exact
  split
  · exact .value _
  · exact .overflow

theorem operate_integer (op : Operator) (a b : Int) : IntegerResult (operate op a b) := by
  cases op with
  | add => exact exact_integer _
  | sub => exact exact_integer _
  | mul => exact exact_integer _
  | div =>
      simp only [operate]
      split
      · exact .divisionByZero
      · exact exact_integer _
  | rem =>
      simp only [operate]
      split
      · exact .divisionByZero
      · split
        · exact .overflow
        · exact exact_integer _

theorem integer_not_unit (result : Except EvalError Value) (integer : IntegerResult result) : result ≠ .ok .unit := by
  cases integer <;> simp

theorem blank_text_append (t u : Text) :
    (t ++ u).isAllBlank = true ↔ t.isAllBlank = true ∧ u.isAllBlank = true := by
  simp [Text.isAllBlank]

theorem blank_text_cons (c : Char) (t : Text) :
    Text.isAllBlank (c :: t) = true ↔ isBlank c = true ∧ t.isAllBlank = true := by
  simp [Text.isAllBlank]

theorem Derives.lead (lead : Text) (blank : lead.isAllBlank = true) (rank : Rank) (e : Expr) (t : Text)
    (derived : Derives rank e t) : Derives rank e (lead ++ t) := by
  have both (inner : Text) (blankInner : inner.isAllBlank = true) : (lead ++ inner).isAllBlank = true :=
    (blank_text_append lead inner).2 ⟨blank, blankInner⟩
  induction derived with
  | sumOne e t only ih => exact .sumOne e _ ih
  | sumMore op left right t u additive before after ihBefore ihAfter =>
      rw [← List.append_assoc]
      exact .sumMore op left right _ u additive ihBefore after
  | productOne e t only ih => exact .productOne e _ ih
  | productMore op left right t u multiplicative before after ihBefore ihAfter =>
      rw [← List.append_assoc]
      exact .productMore op left right _ u multiplicative ihBefore after
  | signedOne e t only ih => exact .signedOne e _ ih
  | minus e inner t blankInner operand ih =>
      rw [← List.append_assoc]
      exact .minus e _ t (both inner blankInner) operand
  | group e inner t trail blankInner blankTrail body ih =>
      rw [← List.append_assoc]
      exact .group e _ t trail (both inner blankInner) blankTrail body
  | text inner t trail blankInner blankTrail inside =>
      rw [← List.append_assoc]
      exact .text _ t trail (both inner blankInner) blankTrail inside
  | number inner digits trail blankInner blankTrail nonempty each =>
      rw [← List.append_assoc, ← List.append_assoc]
      exact .number _ digits trail (both inner blankInner) blankTrail nonempty each

theorem Derives.trail (trail : Text) (blank : trail.isAllBlank = true) (rank : Rank) (e : Expr) (t : Text)
    (derived : Derives rank e t) : Derives rank e (t ++ trail) := by
  have both (inner : Text) (blankInner : inner.isAllBlank = true) : (inner ++ trail).isAllBlank = true :=
    (blank_text_append inner trail).2 ⟨blankInner, blank⟩
  induction derived with
  | sumOne e t only ih => exact .sumOne e _ ih
  | sumMore op left right t u additive before after ihBefore ihAfter =>
      rw [List.append_assoc]
      exact .sumMore op left right t _ additive before ihAfter
  | productOne e t only ih => exact .productOne e _ ih
  | productMore op left right t u multiplicative before after ihBefore ihAfter =>
      rw [List.append_assoc]
      exact .productMore op left right t _ multiplicative before ihAfter
  | signedOne e t only ih => exact .signedOne e _ ih
  | minus e lead t blankLead operand ih =>
      rw [List.append_assoc]
      exact .minus e lead _ blankLead ih
  | group e lead t inner blankLead blankInner body ih =>
      simpa using Derives.group e lead t (inner ++ trail) blankLead (both inner blankInner) body
  | text lead t inner blankLead blankInner inside =>
      simpa using Derives.text lead t (inner ++ trail) blankLead (both inner blankInner) inside
  | number lead digits inner blankLead blankInner nonempty each =>
      rw [List.append_assoc]
      exact .number lead digits _ blankLead (both inner blankInner) nonempty each

theorem Derives.digit (lead trail : Text) (c : Char) (blankLead : lead.isAllBlank = true)
    (blankTrail : trail.isAllBlank = true) (digit : IsDigit c) :
    Derives .primary (.number (decimal [c])) (lead ++ [c] ++ trail) :=
  .number lead [c] trail blankLead blankTrail (List.cons_ne_nil c []) (by simpa using digit)

theorem digit_not_blank (c : Char) (digit : IsDigit c) : isBlank c = false := by
  have low : 0x30 ≤ c.toNat := digit.1
  have high : c.toNat ≤ 0x39 := digit.2
  simp only [isBlank, blankRanges, CodeRanges.has, List.any_cons, List.any_nil]
  grind

theorem Derives.not_blank (rank : Rank) (e : Expr) (t : Text) (derived : Derives rank e t) : t.isAllBlank = false := by
  induction derived with
  | sumOne e t only ih => exact ih
  | sumMore op left right t u additive before after ihBefore ihAfter => simp_all [Text.isAllBlank]
  | productOne e t only ih => exact ih
  | productMore op left right t u multiplicative before after ihBefore ihAfter => simp_all [Text.isAllBlank]
  | signedOne e t only ih => exact ih
  | minus e lead t blankLead operand ih => simp_all [Text.isAllBlank]
  | group e lead t trail blankLead blankTrail inner ih =>
      have sign : isBlank '(' = false := by decide
      simp [Text.isAllBlank, sign]
  | text lead t trail blankLead blankTrail inside =>
      have sign : isBlank '"' = false := by decide
      simp [Text.isAllBlank, sign]
  | number lead digits trail blankLead blankTrail nonempty each =>
      obtain ⟨c, rest, rfl⟩ := List.exists_cons_of_ne_nil nonempty
      have notBlank := digit_not_blank c (each c List.mem_cons_self)
      simp [Text.isAllBlank, notBlank]

end Calculator

end CommandShell
