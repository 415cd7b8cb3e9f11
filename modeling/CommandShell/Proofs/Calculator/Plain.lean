import CommandShell.Proofs.Calculator.Grammar
import CommandShell.Proofs.Syntax.WellFormed

set_option autoImplicit false

namespace CommandShell

namespace Calculator

def Expr.Plain : Expr → Prop
  | number _ => True
  | text _ => False
  | negate operand => operand.Plain
  | binary _ left right => left.Plain ∧ right.Plain

def IsArithmetic (c : Char) : Prop := isBlank c = true ∨ IsDigit c ∨ c ∈ ['+', '-', '*', '/', '%', '(', ')']

instance (c : Char) : Decidable (IsArithmetic c) := inferInstanceAs (Decidable (_ ∨ _))

theorem arithmetic_of_blank (t : Text) (blank : t.isAllBlank = true) : ∀ c ∈ t, IsArithmetic c :=
  fun c member => .inl (List.all_eq_true.1 blank c member)

theorem arithmetic_operator (op : Operator) : IsArithmetic op.char ∧ isBlank op.char = false := by
  cases op <;> decide

theorem arithmetic_append (t u : Text) (front : ∀ c ∈ t, IsArithmetic c) (back : ∀ c ∈ u, IsArithmetic c) :
    ∀ c ∈ t ++ u, IsArithmetic c :=
  fun c member => (List.mem_append.1 member).elim (front c) (back c)

theorem arithmetic_cons (c : Char) (t : Text) (first : IsArithmetic c) (rest : ∀ x ∈ t, IsArithmetic x) :
    ∀ x ∈ c :: t, IsArithmetic x :=
  arithmetic_append [c] t (by simpa using first) rest

theorem arithmetic_no_quote (c : Char) (arithmetic : IsArithmetic c) : Quote.ofChar? c = none := by
  cases found : Quote.ofChar? c with
  | none => rfl
  | some q =>
      obtain rfl := (quote_of_char_some_iff c q).1 found
      have sign : ¬ IsArithmetic q.char := by cases q <;> decide
      exact absurd arithmetic sign

theorem arithmetic_no_operator (c : Char) (arithmetic : IsArithmetic c) : Token.operator? c = none := by
  cases found : Token.operator? c with
  | none => rfl
  | some t =>
      have operators : c = '|' ∨ c = '&' ∨ c = ';' := by grind [Token.operator?]
      have sign : ¬ IsArithmetic c := by rcases operators with rfl | rfl | rfl <;> decide
      exact absurd arithmetic sign

theorem block_step_arithmetic (depth : Nat) (c : Char) (arithmetic : IsArithmetic c) (notOpen : c ≠ '(')
    (notClosing : c ≠ ')') : blockStep (depth, none) c = some (depth, none) :=
  block_step_plain depth c (arithmetic_no_quote c arithmetic) notOpen notClosing

theorem block_arithmetic (depth : Nat) (t : Text) (arithmetic : ∀ c ∈ t, IsArithmetic c) (notOpen : '(' ∉ t)
    (notClosing : ')' ∉ t) : t.foldlM blockStep (depth, none) = some (depth, none) := by
  induction t with
  | nil => rfl
  | cons c rest ih =>
      have step := block_step_arithmetic depth c (arithmetic c List.mem_cons_self)
        (fun same => notOpen (same ▸ List.mem_cons_self)) (fun same => notClosing (same ▸ List.mem_cons_self))
      rw [blocks_cons c rest _ _ step]
      exact ih (fun x member => arithmetic x (List.mem_cons_of_mem c member))
        (fun member => notOpen (List.mem_cons_of_mem c member))
        (fun member => notClosing (List.mem_cons_of_mem c member))

theorem block_blank (depth : Nat) (t : Text) (blank : t.isAllBlank = true) :
    t.foldlM blockStep (depth, none) = some (depth, none) := by
  have not_blank (c : Char) (sign : isBlank c = false) : c ∉ t := fun member => by
    have blankChar : isBlank c = true := List.all_eq_true.1 blank c member
    rw [sign] at blankChar
    cases blankChar
  exact block_arithmetic depth t (arithmetic_of_blank t blank) (not_blank '(' (by decide)) (not_blank ')' (by decide))

theorem block_operator (depth : Nat) (op : Operator) : blockStep (depth, none) op.char = some (depth, none) := by
  cases op <;> rfl

theorem Derives.balanced (rank : Rank) (e : Expr) (t : Text) (derived : Derives rank e t) (plain : e.Plain)
    (depth : Nat) : t.foldlM blockStep (depth + 1, none) = some (depth + 1, none) := by
  induction derived generalizing depth with
  | sumOne e t only ih => exact ih plain depth
  | sumMore op left right t u additive before after ihBefore ihAfter =>
      rw [blocks_append t _ _ _ (ihBefore plain.1 depth), blocks_cons op.char u _ _ (block_operator (depth + 1) op)]
      exact ihAfter plain.2 depth
  | productOne e t only ih => exact ih plain depth
  | productMore op left right t u multiplicative before after ihBefore ihAfter =>
      rw [blocks_append t _ _ _ (ihBefore plain.1 depth), blocks_cons op.char u _ _ (block_operator (depth + 1) op)]
      exact ihAfter plain.2 depth
  | signedOne e t only ih => exact ih plain depth
  | minus e lead t blankLead operand ih =>
      rw [blocks_append lead _ _ _ (block_blank (depth + 1) lead blankLead),
        blocks_cons '-' t _ _ (block_operator (depth + 1) .sub)]
      exact ih plain depth
  | group e lead t trail blankLead blankTrail inner ih =>
      have opens : blockStep (depth + 1, none) '(' = some (depth + 2, none) := rfl
      have closes : blockStep (depth + 2, none) ')' = some (depth + 1, none) := rfl
      rw [blocks_append lead _ _ _ (block_blank (depth + 1) lead blankLead), blocks_cons '(' _ _ _ opens,
        blocks_append t _ _ _ (ih plain (depth + 1)), blocks_cons ')' _ _ _ closes]
      exact block_blank (depth + 1) trail blankTrail
  | text lead t trail blankLead blankTrail inside => exact plain.elim
  | number lead digits trail blankLead blankTrail nonempty each =>
      have digitsKept : digits.foldlM blockStep (depth + 1, none) = some (depth + 1, none) :=
        block_arithmetic (depth + 1) digits (fun c member => .inr (.inl (each c member)))
          (fun member => absurd (each _ member) (by decide)) (fun member => absurd (each _ member) (by decide))
      rw [List.append_assoc, blocks_append lead _ _ _ (block_blank (depth + 1) lead blankLead),
        blocks_append digits _ _ _ digitsKept]
      exact block_blank (depth + 1) trail blankTrail

theorem Derives.arithmetic (rank : Rank) (e : Expr) (t : Text) (derived : Derives rank e t) (plain : e.Plain) :
    ∀ c ∈ t, IsArithmetic c := by
  induction derived with
  | sumOne e t only ih => exact ih plain
  | sumMore op left right t u additive before after ihBefore ihAfter =>
      exact arithmetic_append t _ (ihBefore plain.1) (arithmetic_cons _ u (arithmetic_operator op).1 (ihAfter plain.2))
  | productOne e t only ih => exact ih plain
  | productMore op left right t u multiplicative before after ihBefore ihAfter =>
      exact arithmetic_append t _ (ihBefore plain.1) (arithmetic_cons _ u (arithmetic_operator op).1 (ihAfter plain.2))
  | signedOne e t only ih => exact ih plain
  | minus e lead t blankLead operand ih =>
      exact arithmetic_append lead _ (arithmetic_of_blank lead blankLead) (arithmetic_cons '-' t (by decide) (ih plain))
  | group e lead t trail blankLead blankTrail inner ih =>
      have closing := arithmetic_cons ')' trail (by decide) (arithmetic_of_blank trail blankTrail)
      exact arithmetic_append lead _ (arithmetic_of_blank lead blankLead)
        (arithmetic_cons '(' _ (by decide) (arithmetic_append t _ (ih plain) closing))
  | text lead t trail blankLead blankTrail inside => exact plain.elim
  | number lead digits trail blankLead blankTrail nonempty each =>
      exact arithmetic_append _ trail (arithmetic_append lead digits (arithmetic_of_blank lead blankLead)
        fun c member => .inr (.inl (each c member))) (arithmetic_of_blank trail blankTrail)

-- How the text of `e` begins: with a digit or a sign, or with a group. If only blanks follow the group, it is all of
-- `e`.
inductive Begins (e : Expr) : Text → Prop where
  | sign (lead rest : Text) (c : Char) (blank : lead.isAllBlank = true) (sign : IsDigit c ∨ c = '-') :
      Begins e (lead ++ c :: rest)
  | group (lead body after : Text) (inner : Expr) (blank : lead.isAllBlank = true) (derived : Derives .sum inner body)
      (plain : inner.Plain) (alone : after.isAllBlank = true → inner = e) :
      Begins e (lead ++ '(' :: (body ++ ')' :: after))

theorem begins_binary (op : Operator) (left right : Expr) (t u : Text) (before : Begins left t) :
    Begins (.binary op left right) (t ++ op.char :: u) := by
  cases before with
  | sign lead rest c blank sign => simpa using Begins.sign lead (rest ++ op.char :: u) c blank sign
  | group lead body after inner blank derived plain alone =>
      have notAlone : Text.isAllBlank (after ++ op.char :: u) = true → inner = .binary op left right := by
        simp [Text.isAllBlank, (arithmetic_operator op).2]
      simpa using Begins.group lead body (after ++ op.char :: u) inner blank derived plain notAlone

theorem Derives.begins (rank : Rank) (e : Expr) (t : Text) (derived : Derives rank e t) (plain : e.Plain) :
    Begins e t := by
  induction derived with
  | sumOne e t only ih => exact ih plain
  | sumMore op left right t u additive before after ihBefore ihAfter =>
      exact begins_binary op left right t u (ihBefore plain.1)
  | productOne e t only ih => exact ih plain
  | productMore op left right t u multiplicative before after ihBefore ihAfter =>
      exact begins_binary op left right t u (ihBefore plain.1)
  | signedOne e t only ih => exact ih plain
  | minus e lead t blankLead operand ih => exact .sign lead t '-' blankLead (.inr rfl)
  | group e lead t trail blankLead blankTrail inner ih =>
      exact .group lead t trail e blankLead inner plain fun _ => rfl
  | text lead t trail blankLead blankTrail inside => exact plain.elim
  | number lead digits trail blankLead blankTrail nonempty each =>
      obtain ⟨c, rest, rfl⟩ := List.exists_cons_of_ne_nil nonempty
      simpa using Begins.sign lead (rest ++ trail) c blankLead (.inl (each c List.mem_cons_self))

theorem integer_bind (first : Except EvalError Value) (next : Value → Except EvalError Value)
    (integer : IntegerResult first) (others : ∀ n, IntegerResult (next (.int n))) : IntegerResult (first >>= next) := by
  cases integer with
  | value n => exact others n
  | divisionByZero => exact .divisionByZero
  | overflow => exact .overflow

theorem denote_integer (e : Expr) (plain : e.Plain) : IntegerResult e.denote := by
  induction e with
  | number n => exact exact_integer n
  | text t => exact plain.elim
  | negate operand ih => exact integer_bind _ _ (ih plain) fun n => exact_integer _
  | binary op left right ihLeft ihRight =>
      refine integer_bind _ _ (ihLeft plain.1) fun a => integer_bind _ _ (ihRight plain.2) fun b => ?_
      rw [apply]
      exact operate_integer op a.toInt b.toInt

end Calculator

end CommandShell
