import CommandShell.Proofs.Calculator.Derivations
import CommandShell.Proofs.Calculator.Plain

set_option autoImplicit false

namespace CommandShell

namespace Calculator

def InRange (n : Int) : Prop := -2 ^ 63 ≤ n ∧ n < 2 ^ 63

instance (n : Int) : Decidable (InRange n) := inferInstanceAs (Decidable (_ ∧ _))

def operateExactly (op : Operator) (a b : Int) : Int :=
  match op with
  | .add => a + b
  | .sub => a - b
  | .mul => a * b
  | .div => a.tdiv b
  | .rem => a.tmod b

def HasZeroDivisor (op : Operator) (b : Int) : Prop := (op = .div ∨ op = .rem) ∧ b = 0

instance (op : Operator) (b : Int) : Decidable (HasZeroDivisor op b) := inferInstanceAs (Decidable (_ ∧ _))

-- The remainder is zero, but the quotient it belongs to does not fit.
def IsLowestRemainder (op : Operator) (a b : Int) : Prop := op = .rem ∧ a = -2 ^ 63 ∧ b = -1

instance (op : Operator) (a b : Int) : Decidable (IsLowestRemainder op a b) := inferInstanceAs (Decidable (_ ∧ _))

theorem in_range_word (a : Int) (fits : InRange a) : (Int64.ofInt a).toInt = a :=
  Int64.toInt_ofInt_of_le fits.1 fits.2

theorem exact_in_range (a : Int) (fits : InRange a) : exact a = .ok (.int (Int64.ofInt a)) := if_pos fits

theorem exact_out_of_range (a : Int) (unfit : ¬ InRange a) : exact a = .error .overflow := if_neg unfit

theorem exact_ok_iff (a : Int) (n : Int64) : exact a = .ok (.int n) ↔ InRange a ∧ n.toInt = a := by
  by_cases fits : InRange a
  · have word := in_range_word a fits
    rw [exact_in_range a fits]
    constructor
    · intro same
      obtain rfl : Int64.ofInt a = n := by simpa using same
      exact ⟨fits, word⟩
    · rintro ⟨_, same⟩
      have back : n = Int64.ofInt a := Int64.toInt_inj.1 (same.trans word.symm)
      rw [back]
  · simp [exact_out_of_range a fits, fits]

theorem exact_overflow_iff (a : Int) : exact a = .error .overflow ↔ ¬ InRange a := by
  by_cases fits : InRange a
  · simp [exact_in_range a fits, fits]
  · simp [exact_out_of_range a fits, fits]

theorem operate_cases (op : Operator) (a b : Int) :
    HasZeroDivisor op b ∧ operate op a b = .error .divisionByZero ∨
    ¬ HasZeroDivisor op b ∧ IsLowestRemainder op a b ∧ operate op a b = .error .overflow ∨
    ¬ HasZeroDivisor op b ∧ ¬ IsLowestRemainder op a b ∧ operate op a b = exact (operateExactly op a b) := by
  by_cases zero : HasZeroDivisor op b
  · obtain ⟨rfl | rfl, rfl⟩ := zero <;> simp [HasZeroDivisor, operate]
  · by_cases lowest : IsLowestRemainder op a b
    · obtain ⟨rfl, rfl, rfl⟩ := lowest
      exact .inr (.inl ⟨zero, ⟨rfl, rfl, rfl⟩, rfl⟩)
    · refine .inr (.inr ⟨zero, lowest, ?_⟩)
      cases op with
      | add => rfl
      | sub => rfl
      | mul => rfl
      | div =>
          have nonzero : b ≠ 0 := fun same => zero ⟨.inl rfl, same⟩
          simp only [operate, operateExactly, if_neg nonzero]
      | rem =>
          have nonzero : b ≠ 0 := fun same => zero ⟨.inr rfl, same⟩
          have notLowest : ¬ (a = -2 ^ 63 ∧ b = -1) := fun same => lowest ⟨rfl, same⟩
          simp only [operate, operateExactly, if_neg nonzero, if_neg notLowest]

theorem operate_ok_iff (op : Operator) (a b : Int) (n : Int64) :
    operate op a b = .ok (.int n) ↔
      InRange (operateExactly op a b) ∧ ¬ HasZeroDivisor op b ∧ ¬ IsLowestRemainder op a b ∧
        n.toInt = operateExactly op a b := by
  rcases operate_cases op a b with ⟨zero, result⟩ | ⟨nonzero, lowest, result⟩ | ⟨nonzero, notLowest, result⟩
  · simp [result, zero]
  · simp [result, lowest]
  · rw [result, exact_ok_iff]
    simp [nonzero, notLowest]

theorem operate_overflow_iff (op : Operator) (a b : Int) :
    operate op a b = .error .overflow ↔
      ¬ HasZeroDivisor op b ∧ (¬ InRange (operateExactly op a b) ∨ IsLowestRemainder op a b) := by
  rcases operate_cases op a b with ⟨zero, result⟩ | ⟨nonzero, lowest, result⟩ | ⟨nonzero, notLowest, result⟩
  · simp [result, zero]
  · simp [result, nonzero, lowest]
  · rw [result, exact_overflow_iff]
    simp [nonzero, notLowest]

namespace Expr

-- A string has no value here, and where a divisor is zero the value is of no account.
def exactValue : Expr → Int
  | number n => n
  | text _ => 0
  | negate operand => -operand.exactValue
  | binary op left right => operateExactly op left.exactValue right.exactValue

def operands : Expr → List Expr
  | number _ => []
  | text _ => []
  | negate operand => [operand]
  | binary _ left right => [left, right]

def subexpressions : Expr → List Expr
  | number n => [number n]
  | text t => [text t]
  | negate operand => negate operand :: operand.subexpressions
  | binary op left right => binary op left right :: (left.subexpressions ++ right.subexpressions)

def DividesByZero : Expr → Prop
  | binary op _ right => HasZeroDivisor op right.exactValue
  | _ => False

instance (e : Expr) : Decidable e.DividesByZero :=
  match e with
  | number _ | text _ | negate _ => inferInstanceAs (Decidable False)
  | binary op _ right => inferInstanceAs (Decidable (HasZeroDivisor op right.exactValue))

def LeavesLowestRemainder : Expr → Prop
  | binary op left right => IsLowestRemainder op left.exactValue right.exactValue
  | _ => False

instance (e : Expr) : Decidable e.LeavesLowestRemainder :=
  match e with
  | number _ | text _ | negate _ => inferInstanceAs (Decidable False)
  | binary op left right => inferInstanceAs (Decidable (IsLowestRemainder op left.exactValue right.exactValue))

structure Regular (e : Expr) : Prop where
  inRange : InRange e.exactValue
  nonzero : ¬ e.DividesByZero
  notLowest : ¬ e.LeavesLowestRemainder

instance (e : Expr) : Decidable e.Regular :=
  decidable_of_iff (InRange e.exactValue ∧ ¬ e.DividesByZero ∧ ¬ e.LeavesLowestRemainder)
    ⟨fun ⟨inRange, nonzero, notLowest⟩ => ⟨inRange, nonzero, notLowest⟩,
      fun regular => ⟨regular.inRange, regular.nonzero, regular.notLowest⟩⟩

def Representable (e : Expr) : Prop := ∀ s ∈ e.subexpressions, s.Regular

instance (e : Expr) : Decidable e.Representable := inferInstanceAs (Decidable (∀ s ∈ e.subexpressions, s.Regular))

structure Overflows (e : Expr) : Prop where
  operands : ∀ s ∈ e.operands, s.Representable
  nonzero : ¬ e.DividesByZero
  unfit : ¬ InRange e.exactValue ∨ e.LeavesLowestRemainder

theorem representable_number (n : Nat) : (number n).Representable ↔ InRange n := by
  simp only [Representable, subexpressions, List.forall_mem_singleton]
  exact ⟨fun regular => regular.inRange, fun fits => ⟨fits, id, id⟩⟩

theorem representable_negate (operand : Expr) :
    (negate operand).Representable ↔ InRange (-operand.exactValue) ∧ operand.Representable := by
  simp only [Representable, subexpressions, List.forall_mem_cons]
  exact and_congr_left fun _ => ⟨fun regular => regular.inRange, fun fits => ⟨fits, id, id⟩⟩

theorem representable_binary (op : Operator) (left right : Expr) :
    (binary op left right).Representable ↔
      (binary op left right).Regular ∧ left.Representable ∧ right.Representable := by
  simp only [Representable, subexpressions, List.forall_mem_cons, List.forall_mem_append]

theorem self_subexpression (e : Expr) : e ∈ e.subexpressions := by
  cases e <;> simp [subexpressions]

theorem representable_word (e : Expr) (fits : e.Representable) :
    (Int64.ofInt e.exactValue).toInt = e.exactValue :=
  in_range_word _ (fits e (self_subexpression e)).inRange

end Expr

theorem operand_ok_iff (operand : Expr) (plain : operand.Plain) (next : Value → Except EvalError Value)
    (computes : ∀ m, operand.denote = .ok (.int m) ↔ operand.Representable ∧ m.toInt = operand.exactValue)
    (v : Value) :
    (operand.denote >>= next) = .ok v ↔
      operand.Representable ∧ next (.int (Int64.ofInt operand.exactValue)) = .ok v := by
  refine (except_bind_ok_iff _ _ _).trans ⟨?_, ?_⟩
  · rintro ⟨first, value, rest⟩
    have integer := denote_integer operand plain
    rw [value] at integer
    cases integer with
    | value m =>
        obtain ⟨fits, same⟩ := (computes m).1 value
        rw [← same, Int64.ofInt_toInt]
        exact ⟨fits, rest⟩
  · rintro ⟨fits, rest⟩
    exact ⟨_, (computes _).2 ⟨fits, operand.representable_word fits⟩, rest⟩

theorem denote_ok_iff (e : Expr) (plain : e.Plain) (n : Int64) :
    e.denote = .ok (.int n) ↔ e.Representable ∧ n.toInt = e.exactValue := by
  induction e generalizing n with
  | number m =>
      rw [Expr.representable_number]
      exact exact_ok_iff m n
  | text t => exact plain.elim
  | negate operand ih =>
      rw [Expr.denote, operand_ok_iff operand plain _ (ih plain), Expr.representable_negate]
      constructor
      · rintro ⟨fits, done⟩
        obtain ⟨opposed, value⟩ := (exact_ok_iff _ n).1 done
        rw [operand.representable_word fits] at opposed value
        exact ⟨⟨opposed, fits⟩, value⟩
      · rintro ⟨⟨opposed, fits⟩, value⟩
        refine ⟨fits, (exact_ok_iff _ n).2 ?_⟩
        rw [operand.representable_word fits]
        exact ⟨opposed, value⟩
  | binary op left right ihLeft ihRight =>
      rw [Expr.denote, operand_ok_iff left plain.1 _ (ihLeft plain.1), operand_ok_iff right plain.2 _ (ihRight plain.2),
        Expr.representable_binary]
      constructor
      · rintro ⟨fitsLeft, fitsRight, done⟩
        obtain ⟨inRange, nonzero, notLowest, value⟩ := (operate_ok_iff op _ _ n).1 done
        rw [left.representable_word fitsLeft, right.representable_word fitsRight] at inRange notLowest value
        rw [right.representable_word fitsRight] at nonzero
        exact ⟨⟨⟨inRange, nonzero, notLowest⟩, fitsLeft, fitsRight⟩, value⟩
      · rintro ⟨⟨regular, fitsLeft, fitsRight⟩, value⟩
        refine ⟨fitsLeft, fitsRight, (operate_ok_iff op _ _ n).2 ?_⟩
        rw [left.representable_word fitsLeft, right.representable_word fitsRight]
        exact ⟨regular.inRange, regular.nonzero, regular.notLowest, value⟩

theorem denote_cases (e : Expr) (plain : e.Plain) :
    e.Representable ∧ e.denote = .ok (.int (Int64.ofInt e.exactValue)) ∨ e.denote = .error .divisionByZero ∨
      e.denote = .error .overflow := by
  have integer := denote_integer e plain
  cases result : e.denote with
  | error k =>
      rw [result] at integer
      cases integer <;> simp
  | ok v =>
      rw [result] at integer
      cases integer with
      | value n =>
          obtain ⟨fits, same⟩ := (denote_ok_iff e plain n).1 result
          exact .inl ⟨fits, by rw [← same, Int64.ofInt_toInt]⟩

theorem denote_overflow (e : Expr) (plain : e.Plain) (failed : e.denote = .error .overflow) :
    ∃ s ∈ e.subexpressions, s.Overflows := by
  induction e with
  | number n =>
      have unfit := (exact_overflow_iff n).1 failed
      exact ⟨.number n, List.mem_singleton_self _, by simp [Expr.operands], id, .inl unfit⟩
  | text t => exact plain.elim
  | negate operand ih =>
      rcases denote_cases operand plain with ⟨fits, value⟩ | zero | overflow
      · rw [Expr.denote, value] at failed
        have unfit := (exact_overflow_iff _).1 failed
        rw [operand.representable_word fits] at unfit
        exact ⟨_, List.mem_cons_self, by simpa [Expr.operands] using fits, id, .inl unfit⟩
      · rw [Expr.denote, zero] at failed
        cases failed
      · obtain ⟨s, inside, overflows⟩ := ih plain overflow
        exact ⟨s, List.mem_cons_of_mem _ inside, overflows⟩
  | binary op left right ihLeft ihRight =>
      rcases denote_cases left plain.1 with ⟨fitsLeft, valueLeft⟩ | zero | overflow
      · rcases denote_cases right plain.2 with ⟨fitsRight, valueRight⟩ | zero | overflow
        · rw [Expr.denote, valueLeft, valueRight] at failed
          obtain ⟨nonzero, unfit⟩ := (operate_overflow_iff op _ _).1 failed
          rw [right.representable_word fitsRight] at nonzero
          rw [left.representable_word fitsLeft, right.representable_word fitsRight] at unfit
          exact ⟨_, List.mem_cons_self, by simpa [Expr.operands] using ⟨fitsLeft, fitsRight⟩, nonzero, unfit⟩
        · rw [Expr.denote, valueLeft, zero] at failed
          cases failed
        · obtain ⟨s, inside, overflows⟩ := ihRight plain.2 overflow
          exact ⟨s, List.mem_cons_of_mem _ (List.mem_append_right _ inside), overflows⟩
      · rw [Expr.denote, zero] at failed
        cases failed
      · obtain ⟨s, inside, overflows⟩ := ihLeft plain.1 overflow
        exact ⟨s, List.mem_cons_of_mem _ (List.mem_append_left _ inside), overflows⟩

theorem evaluation_exact (e : Expr) (t : Text) (derived : Derives .sum e t) (plain : e.Plain) :
    (e.Representable → ∃ n, eval t = .ok (.int n) ∧ n.toInt = e.exactValue) ∧
    (∀ n, eval t = .ok (.int n) → e.Representable ∧ n.toInt = e.exactValue) ∧
    (eval t = .error .overflow → ∃ s ∈ e.subexpressions, s.Overflows) := by
  rw [eval_of_derives e t derived]
  refine ⟨fun fits => ?_, fun n => (denote_ok_iff e plain n).1, denote_overflow e plain⟩
  have word := e.representable_word fits
  exact ⟨_, (denote_ok_iff e plain _).2 ⟨fits, word⟩, word⟩

-- The lowest integer is no literal.
def lowest : Expr := .binary .sub (.negate (.number 9223372036854775807)) (.number 1)

theorem lowest_derived : Derives .primary lowest "(-9223372036854775807 - 1) ".toList := by
  have highest := Derives.number [] "9223372036854775807".toList [' '] rfl rfl (by decide) (by simp [IsDigit])
  have one := Derives.digit [' '] [] '1' rfl rfl (by decide)
  have opposed := Derives.minus _ [] _ rfl (.signedOne _ _ highest)
  have difference := Derives.sumMore .sub _ _ _ _ (.inr rfl) (.sumOne _ _ (.productOne _ _ opposed))
    (.productOne _ _ (.signedOne _ _ one))
  exact Derives.group _ [] _ [' '] rfl rfl difference

theorem evaluation_exact_lowest :
    ∃ e, Derives .sum e "(-9223372036854775807 - 1) % 1".toList ∧ e.Plain ∧ e.Representable ∧
      ∃ n, eval "(-9223372036854775807 - 1) % 1".toList = .ok (.int n) ∧ n.toInt = 0 := by
  have one := Derives.digit [' '] [] '1' rfl rfl (by decide)
  have derived := Derives.productMore .rem _ _ _ _ (.inr (.inr rfl)) (.productOne _ _ (.signedOne _ _ lowest_derived))
    (.signedOne _ _ one)
  have plain : (Expr.binary .rem lowest (.number (decimal ['1']))).Plain := ⟨⟨trivial, trivial⟩, trivial⟩
  have fits : (Expr.binary .rem lowest (.number (decimal ['1']))).Representable := by decide
  exact ⟨_, .sumOne _ _ derived, plain, fits, (evaluation_exact _ _ (.sumOne _ _ derived) plain).1 fits⟩

-- By minus one it has one too, which is exactly zero, but the quotient does not fit.
theorem lowest_remainder_overflows :
    ∃ e, Derives .sum e "(-9223372036854775807 - 1) % -1".toList ∧ e.Plain ∧
      (∀ s ∈ e.subexpressions, InRange s.exactValue ∧ ¬ s.DividesByZero) ∧ e.exactValue = 0 ∧
      eval "(-9223372036854775807 - 1) % -1".toList = .error .overflow := by
  have one := Derives.digit [] [] '1' rfl rfl (by decide)
  have minusOne := Derives.minus _ [' '] _ rfl (.signedOne _ _ one)
  have derived := Derives.productMore .rem _ _ _ _ (.inr (.inr rfl)) (.productOne _ _ (.signedOne _ _ lowest_derived))
    minusOne
  have plain : (Expr.binary .rem lowest (.negate (.number (decimal ['1'])))).Plain := ⟨⟨trivial, trivial⟩, trivial⟩
  refine ⟨_, .sumOne _ _ derived, plain, ?_, ?_, ?_⟩
  · decide
  · decide
  · rfl

end Calculator

end CommandShell
