import CommandShell.Proofs.Calculator.Derivations
import CommandShell.Proofs.Calculator.Exactness

set_option autoImplicit false

namespace CommandShell

namespace Calculator

theorem of_nat_digits (n : Nat) : ∀ c ∈ Text.ofNat n, IsDigit c := by
  intro c member
  have digit : c.isDigit = true := Nat.isDigit_of_mem_toDigits (by decide) (by decide) member
  simp only [Char.isDigit, Bool.and_eq_true, decide_eq_true_eq] at digit
  exact digit

theorem decimal_of_nat (n : Nat) : decimal (Text.ofNat n) = n := by
  have back : Nat.ofDigitChars 10 (Text.ofNat n) 0 = n := Nat.ofDigitChars_ten_toDigits
  rw [Nat.ofDigitChars_eq_foldl] at back
  simpa [decimal, Nat.mul_comm] using back

theorem of_nat_derived (n : Nat) : Derives .primary (.number n) (Text.ofNat n) := by
  have derived := Derives.number [] (Text.ofNat n) [] rfl rfl Nat.toDigits_ne_nil (of_nat_digits n)
  rw [decimal_of_nat] at derived
  simpa using derived

-- The tree of a printed integer: the sign is no part of the literal.
def printedExpr : Int → Expr
  | .ofNat n => .number n
  | .negSucc n => .negate (.number (n + 1))

theorem of_int_derived (n : Int) : Derives .sum (printedExpr n) (Text.ofInt n) := by
  apply Derives.sumOne
  apply Derives.productOne
  cases n with
  | ofNat n => exact .signedOne _ _ (of_nat_derived n)
  | negSucc n => exact .minus _ [] _ rfl (.signedOne _ _ (of_nat_derived (n + 1)))

theorem exact_word (n : Int64) : exact n.toInt = .ok (.int n) := by
  rw [exact_in_range n.toInt (int64_range n), Int64.ofInt_toInt]

theorem printed_denote (n : Int64) :
    (printedExpr n.toInt).denote = if n.toInt = -2 ^ 63 then .error .overflow else .ok (.int n) := by
  have word := exact_word n
  have range := int64_range n
  generalize n.toInt = m at word range
  cases m with
  | ofNat m =>
      have notLowest : Int.ofNat m ≠ -2 ^ 63 := by
        intro same
        have positive : 0 ≤ Int.ofNat m := Int.natCast_nonneg m
        omega
      rw [if_neg notLowest]
      exact word
  | negSucc m =>
      have opposed : -((m + 1 : Nat) : Int) = Int.negSucc m := rfl
      rw [printedExpr, Expr.denote, Expr.denote]
      by_cases lowest : Int.negSucc m = -2 ^ 63
      · have unfit : ¬ InRange ((m + 1 : Nat) : Int) := by
          intro fits
          have high := fits.2
          omega
        rw [if_pos lowest, exact_out_of_range _ unfit]
        rfl
      · have fits : InRange ((m + 1 : Nat) : Int) := by
          constructor <;> omega
        rw [if_neg lowest, exact_in_range _ fits]
        change exact (-(Int64.ofInt ((m + 1 : Nat) : Int)).toInt) = _
        rw [in_range_word _ fits, opposed]
        exact word

theorem integer_read_back (n : Int64) :
    eval (Value.int n).text = if n.toInt = -2 ^ 63 then .error .overflow else .ok (.int n) := by
  have derived := of_int_derived n.toInt
  rw [Value.text, eval_of_derives _ _ derived]
  exact printed_denote n

theorem of_int_unquoted (n : Int) : '"' ∉ Text.ofInt n := by
  have digits (m : Nat) : '"' ∉ Text.ofNat m := by
    intro member
    exact absurd (of_nat_digits m '"' member) (by decide)
  cases n with
  | ofNat n => exact digits n
  | negSucc n => simp [Text.ofInt, digits]

theorem integer_unquoted (result : Except EvalError Value) (integer : IntegerResult result) (v : Value)
    (done : result = .ok v) : '"' ∉ v.text := by
  cases integer with
  | value n =>
      obtain rfl : .int n = v := by simpa using done
      exact of_int_unquoted n.toInt
  | divisionByZero => cases done
  | overflow => cases done

theorem apply_unquoted (op : Operator) (a b v : Value) (left : '"' ∉ a.text) (right : '"' ∉ b.text)
    (done : apply op a b = .ok v) : '"' ∉ v.text := by
  cases a with
  | unit => simp [apply] at done
  | int n =>
      cases b with
      | unit => simp [apply] at done
      | str t => simp [apply] at done
      | int m => exact integer_unquoted _ (operate_integer op n.toInt m.toInt) v done
  | str t =>
      cases op with
      | add =>
          obtain rfl : .str (t ++ b.text) = v := by simpa [apply] using done
          intro member
          rcases List.mem_append.1 member with first | second
          · exact left first
          · exact right second
      | sub => simp [apply] at done
      | mul => simp [apply] at done
      | div => simp [apply] at done
      | rem => simp [apply] at done

theorem opposite_unquoted (v w : Value) (done : opposite v = .ok w) : '"' ∉ w.text := by
  cases v with
  | unit => simp [opposite] at done
  | int n => exact integer_unquoted _ (exact_integer _) w done
  | str t => simp [opposite] at done

theorem binary_unquoted (op : Operator) (left right : Expr) (v : Value)
    (leftUnquoted : ∀ a, left.denote = .ok a → '"' ∉ a.text) (rightUnquoted : ∀ b, right.denote = .ok b → '"' ∉ b.text)
    (done : (Expr.binary op left right).denote = .ok v) : '"' ∉ v.text := by
  obtain ⟨a, leftDone, rest⟩ := (except_bind_ok_iff _ _ _).1 done
  obtain ⟨b, rightDone, applied⟩ := (except_bind_ok_iff _ _ _).1 rest
  exact apply_unquoted op a b v (leftUnquoted a leftDone) (rightUnquoted b rightDone) applied

theorem Derives.denote_unquoted (rank : Rank) (e : Expr) (t : Text) (derived : Derives rank e t) (v : Value)
    (done : e.denote = .ok v) : '"' ∉ v.text := by
  induction derived generalizing v with
  | sumOne e t only ih => exact ih v done
  | sumMore op left right t u additive before after ihBefore ihAfter =>
      exact binary_unquoted op left right v ihBefore ihAfter done
  | productOne e t only ih => exact ih v done
  | productMore op left right t u multiplicative before after ihBefore ihAfter =>
      exact binary_unquoted op left right v ihBefore ihAfter done
  | signedOne e t only ih => exact ih v done
  | minus e lead t blank operand ih =>
      obtain ⟨w, _, opposed⟩ := (except_bind_ok_iff _ _ _).1 done
      exact opposite_unquoted w v opposed
  | group e lead t trail blankLead blankTrail inner ih => exact ih v done
  | text lead t trail blankLead blankTrail inside =>
      obtain rfl : .str t = v := by simpa [Expr.denote] using done
      exact inside
  | number lead digits trail blankLead blankTrail nonempty each =>
      exact integer_unquoted _ (exact_integer (decimal digits)) v done

theorem eval_unquoted (t : Text) (v : Value) (done : eval t = .ok v) : '"' ∉ v.text := by
  by_cases blank : t.isAllBlank = true
  · rw [eval, if_pos blank] at done
    cases done
    simp [Value.text]
  · obtain ⟨e, derived, value⟩ := derives_of_eval t v (by simpa using blank) done
    exact derived.denote_unquoted .sum e t v value

theorem string_read_back (s : Text) (unquoted : '"' ∉ s) : eval ('"' :: (s ++ ['"'])) = .ok (.str s) := by
  have literal := Derives.text [] s [] rfl rfl unquoted
  have derived := Derives.sumOne _ _ (.productOne _ _ (.signedOne _ _ literal))
  exact eval_of_derives (.text s) _ derived

theorem printed_read_back (t : Text) :
    (∀ n, eval t = .ok (.int n) →
      eval (Value.int n).text = if n.toInt = -2 ^ 63 then .error .overflow else .ok (.int n)) ∧
    (∀ s, eval t = .ok (.str s) → '"' ∉ s ∧ eval ('"' :: (s ++ ['"'])) = .ok (.str s)) := by
  constructor
  · intro n _
    exact integer_read_back n
  · intro s done
    have unquoted := eval_unquoted t (.str s) done
    exact ⟨unquoted, string_read_back s unquoted⟩

theorem printed_read_back_appended :
    (eval "3 - 10".toList = .ok (.int (-7)) ∧ (Value.int (-7)).text = "-7".toList ∧
      eval "-7".toList = .ok (.int (-7))) ∧
    (eval "\"a\" + (3 - 10)".toList = .ok (.str "a-7".toList) ∧ '"' ∉ "a-7".toList ∧
      eval "\"a-7\"".toList = .ok (.str "a-7".toList)) := by
  have difference : eval "3 - 10".toList = .ok (.int (-7)) := rfl
  have appended : eval "\"a\" + (3 - 10)".toList = .ok (.str "a-7".toList) := rfl
  obtain ⟨integers, _⟩ := printed_read_back "3 - 10".toList
  obtain ⟨_, strings⟩ := printed_read_back "\"a\" + (3 - 10)".toList
  exact ⟨⟨difference, rfl, integers (-7) difference⟩, appended, strings "a-7".toList appended⟩

theorem lowest_not_read_back :
    eval "-9223372036854775807 - 1".toList = .ok (.int Int64.minValue) ∧
      (Value.int Int64.minValue).text = "-9223372036854775808".toList ∧
      eval (Value.int Int64.minValue).text = .error .overflow := ⟨rfl, rfl, rfl⟩

end Calculator

end CommandShell
