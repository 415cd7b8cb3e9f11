import CommandShell.Calculator.Eval
import CommandShell.Proofs.Calculator.Grammar
import CommandShell.Proofs.Text.Offsets

set_option autoImplicit false

namespace CommandShell

namespace Calculator

open Text

theorem digit_some_iff (c : Char) (d : Nat) : digit? c = some d ↔ IsDigit c ∧ d = c.toNat - '0'.toNat := by
  grind [digit?, IsDigit]

theorem digit_none_iff (c : Char) : digit? c = none ↔ ¬ IsDigit c := by
  grind [digit?, IsDigit]

def NoDigit (rest : Text) : Prop := ∀ c ∈ rest.head?, ¬ IsDigit c

theorem operator_no_digit (op : Operator) (rest : Text) : NoDigit (op.char :: rest) := by
  have sign : ¬ IsDigit op.char := by cases op <;> decide
  simpa [NoDigit] using sign

theorem blank_no_digit (trail rest : Text) (blank : trail.isAllBlank = true) (ends : NoDigit rest) :
    NoDigit (trail ++ rest) := by
  cases trail with
  | nil => exact ends
  | cons c more =>
      have notDigit : ¬ IsDigit c := fun digit => by
        simp [digit_not_blank c digit, blank_text_cons] at blank
      simpa [NoDigit] using notDigit

namespace Reader

theorem read_cons (r : Reader) (position : Nat) (c : Char) (rest : Text) :
    r.read position (c :: rest) = r.step position c >>= fun next => next.read (position + c.utf8Size) rest := rfl

theorem read_step (r next : Reader) (position : Nat) (c : Char) (rest : Text) (steps : r.step position c = .ok next) :
    r.read position (c :: rest) = next.read (position + c.utf8Size) rest := by
  rw [read_cons, steps]
  rfl

theorem skip_blank (r : Reader) (phase : r.phase = .operand ∨ ∃ term, r.phase = .operator term) (lead rest : Text)
    (position : Nat) (blank : lead.isAllBlank = true) :
    r.read position (lead ++ rest) = r.read (position + byteLength lead) rest := by
  induction lead generalizing position with
  | nil => rfl
  | cons c more ih =>
      obtain ⟨first, others⟩ := (blank_text_cons c more).1 blank
      have stays : r.step position c = .ok r := by
        obtain ⟨phase', level, outer⟩ := r
        rcases phase with rfl | ⟨term, rfl⟩
        · simp [step, operand, first]
        · simp [step, operator, first]
      rw [List.cons_append, read_step r r position c _ stays, ih _ others, byteLength, Nat.add_assoc]

def resume (level : Level) (outer : List Level) (position : Nat) (rest : Text) (v : Value) : Except EvalError Value :=
  level.complete v >>= fun term => read ⟨.operator term, { sum := level.sum }, outer⟩ position rest

theorem resume_blank (level : Level) (outer : List Level) (position : Nat) (trail rest : Text) (v : Value)
    (blank : trail.isAllBlank = true) :
    resume level outer position (trail ++ rest) v = resume level outer (position + byteLength trail) rest v := by
  refine bind_congr fun term => ?_
  exact skip_blank _ (.inr ⟨term, rfl⟩) trail rest position blank

theorem read_more_digits (n : Nat) (level : Level) (outer : List Level) (position : Nat) (digits rest : Text)
    (each : ∀ c ∈ digits, IsDigit c) :
    read ⟨.number n, level, outer⟩ position (digits ++ rest) =
      read ⟨.number (digits.foldl (fun n c => n * 10 + (c.toNat - '0'.toNat)) n), level, outer⟩
        (position + byteLength digits) rest := by
  induction digits generalizing n position with
  | nil => rfl
  | cons c more ih =>
      have digit := (digit_some_iff c _).2 ⟨each c List.mem_cons_self, rfl⟩
      have goesOn : step ⟨.number n, level, outer⟩ position c =
          .ok ⟨.number (n * 10 + (c.toNat - '0'.toNat)), level, outer⟩ := by simp [step, digit]
      rw [List.cons_append, read_step _ _ position c _ goesOn,
        ih _ _ fun x member => each x (List.mem_cons_of_mem c member), byteLength, Nat.add_assoc]
      rfl

theorem number_ends (n : Nat) (level : Level) (outer : List Level) (position : Nat) (rest : Text)
    (ends : NoDigit rest) :
    read ⟨.number n, level, outer⟩ position rest = exact n >>= resume level outer position rest := by
  rw [← of_int_eq_exact]
  cases rest with
  | nil => rfl
  | cons c more =>
      have noDigit := (digit_none_iff c).2 (ends c rfl)
      have ended : step ⟨.number n, level, outer⟩ position c =
          Value.ofInt n >>= fun v => level.complete v >>= fun term =>
            operator ⟨.operator term, { sum := level.sum }, outer⟩ term position c := by
        simp only [step, noDigit]
        rfl
      rw [read_cons, ended, bind_assoc]
      refine bind_congr fun v => ?_
      rw [bind_assoc]
      rfl

theorem reads_number (level : Level) (outer : List Level) (position : Nat) (digits rest : Text) (nonempty : digits ≠ [])
    (each : ∀ c ∈ digits, IsDigit c) (ends : NoDigit rest) :
    read ⟨.operand, level, outer⟩ position (digits ++ rest) =
      exact (decimal digits) >>= resume level outer (position + byteLength digits) rest := by
  obtain ⟨c, more, rfl⟩ := List.exists_cons_of_ne_nil nonempty
  have isDigit := each c List.mem_cons_self
  have digit := (digit_some_iff c _).2 ⟨isDigit, rfl⟩
  have begins : step ⟨.operand, level, outer⟩ position c = .ok ⟨.number (c.toNat - '0'.toNat), level, outer⟩ := by
    have notSign : c ≠ '-' ∧ c ≠ '(' ∧ c ≠ '"' := by
      refine ⟨?_, ?_, ?_⟩ <;> rintro rfl <;> revert isDigit <;> decide
    simp [step, operand, digit_not_blank c isDigit, digit, notSign]
  rw [List.cons_append, read_step _ _ position c _ begins,
    read_more_digits _ level outer _ more rest fun x member => each x (List.mem_cons_of_mem c member),
    number_ends _ _ _ _ _ ends]
  simp [decimal, byteLength, Nat.add_assoc]

theorem read_inside (start : Nat) (readBefore : Text) (level : Level) (outer : List Level) (position : Nat)
    (t rest : Text) (inside : '"' ∉ t) :
    read ⟨.string start readBefore, level, outer⟩ position (t ++ rest) =
      read ⟨.string start (t.reverse ++ readBefore), level, outer⟩ (position + byteLength t) rest := by
  induction t generalizing readBefore position with
  | nil => rfl
  | cons c more ih =>
      obtain ⟨notQuote, others⟩ : '"' ≠ c ∧ '"' ∉ more := by simpa using inside
      have goesOn : step ⟨.string start readBefore, level, outer⟩ position c =
          .ok ⟨.string start (c :: readBefore), level, outer⟩ := by simp [step, Ne.symm notQuote]
      rw [List.cons_append, read_step _ _ position c _ goesOn, ih _ _ others]
      simp [byteLength, Nat.add_assoc]

theorem reads_string (level : Level) (outer : List Level) (position : Nat) (t rest : Text) (inside : '"' ∉ t) :
    read ⟨.operand, level, outer⟩ position ('"' :: (t ++ '"' :: rest)) =
      resume level outer (position + byteLength ('"' :: (t ++ ['"']))) rest (.str t) := by
  have begins : step ⟨.operand, level, outer⟩ position '"' = .ok ⟨.string (position + 1) [], level, outer⟩ := rfl
  have ended (at' : Nat) : step ⟨.string (position + 1) (t.reverse ++ []), level, outer⟩ at' '"' =
      level.complete (.str t) >>= fun term => .ok ⟨.operator term, { sum := level.sum }, outer⟩ := by
    simp [step, supply, pure, Except.pure]
  rw [read_step _ _ position '"' _ begins, read_inside _ _ level outer _ t _ inside, read_cons, ended, bind_assoc]
  have last : position + byteLength ('"' :: (t ++ ['"'])) = position + '"'.utf8Size + byteLength t + '"'.utf8Size := by
    simp only [byteLength, byte_length_append]
    omega
  rw [last]
  rfl

end Reader

def ReadsOperand (e : Expr) (t : Text) : Prop :=
  ∀ level outer position rest, NoDigit rest → Reader.read ⟨.operand, level, outer⟩ position (t ++ rest) =
    e.denote >>= Reader.resume level outer (position + byteLength t) rest

def ReadsProduct (e : Expr) (t : Text) : Prop :=
  ∀ sum outer position rest, NoDigit rest → Reader.read ⟨.operand, { sum }, outer⟩ position (t ++ rest) =
    e.denote >>= fun v => Reader.read ⟨.operator v, { sum }, outer⟩ (position + byteLength t) rest

-- The last sum of a text is formed only when the next character is seen, so `last` is what waits for it.
def ReadsSum (e : Expr) (t : Text) : Prop :=
  ∃ last : Except EvalError (Option (Value × Operator) × Value), (last >>= fun p => settle p.1 p.2) = e.denote ∧
    ∀ outer position rest, NoDigit rest → Reader.read ⟨.operand, {}, outer⟩ position (t ++ rest) =
      last >>= fun p => Reader.read ⟨.operator p.2, { sum := p.1 }, outer⟩ (position + byteLength t) rest

def Reads : Rank → Expr → Text → Prop
  | .sum => ReadsSum
  | .product => ReadsProduct
  | .signed | .primary => ReadsOperand

theorem position_after (position : Nat) (t : Text) (c : Char) (u : Text) :
    position + byteLength t + c.utf8Size + byteLength u = position + byteLength (t ++ c :: u) := by
  simp only [byte_length_append, byteLength]
  omega

theorem reads_product_one (e : Expr) (t : Text) (only : ReadsOperand e t) : ReadsProduct e t := by
  intro sum outer position rest ends
  exact only { sum } outer position rest ends

theorem reads_product_more (op : Operator) (left right : Expr) (t u : Text)
    (multiplicative : Multiplicative op) (before : ReadsProduct left t) (after : ReadsOperand right u) :
    ReadsProduct (.binary op left right) (t ++ op.char :: u) := by
  intro sum outer position rest ends
  have sign (a : Value) (at' : Nat) : Reader.step ⟨.operator a, { sum }, outer⟩ at' op.char =
      .ok ⟨.operand, { sum, product := some (a, op) }, outer⟩ := by
    rcases multiplicative with rfl | rfl | rfl <;> rfl
  rw [List.append_assoc, List.cons_append, before sum outer position _ (operator_no_digit op _), Expr.denote,
    bind_assoc]
  refine bind_congr fun a => ?_
  rw [Reader.read_step _ _ _ _ _ (sign a _), after _ outer _ rest ends, bind_assoc]
  refine bind_congr fun b => ?_
  rw [← combine_eq_apply, position_after]
  rfl

theorem reads_sum_one (e : Expr) (t : Text) (only : ReadsProduct e t) : ReadsSum e t := by
  refine ⟨e.denote >>= fun v => pure (none, v), ?_, fun outer position rest ends => ?_⟩
  · rw [bind_assoc]
    exact bind_pure e.denote
  · rw [bind_assoc]
    exact only none outer position rest ends

theorem reads_sum_more (op : Operator) (left right : Expr) (t u : Text) (additive : Additive op)
    (before : ReadsSum left t) (after : ReadsProduct right u) :
    ReadsSum (.binary op left right) (t ++ op.char :: u) := by
  obtain ⟨last, settled, reading⟩ := before
  refine ⟨left.denote >>= fun a => right.denote >>= fun b => pure (some (a, op), b), ?_,
    fun outer position rest ends => ?_⟩
  · simp only [bind_assoc, pure_bind, Expr.denote, settle, combine_eq_apply]
  · have sign (waiting : Option (Value × Operator)) (term : Value) (at' : Nat) :
        Reader.step ⟨.operator term, { sum := waiting }, outer⟩ at' op.char =
          settle waiting term >>= fun a => .ok ⟨.operand, { sum := some (a, op) }, outer⟩ := by
      rcases additive with rfl | rfl <;> rfl
    rw [List.append_assoc, List.cons_append, reading outer position _ (operator_no_digit op _), ← settled]
    simp only [bind_assoc]
    refine bind_congr fun p => ?_
    rw [Reader.read_cons, sign, bind_assoc]
    refine bind_congr fun a => ?_
    have others := after (some (a, op)) outer (position + byteLength t + op.char.utf8Size) rest ends
    rw [position_after] at others
    exact others

theorem reads_minus (e : Expr) (lead t : Text) (blank : lead.isAllBlank = true) (operand : ReadsOperand e t) :
    ReadsOperand (.negate e) (lead ++ '-' :: t) := by
  intro level outer position rest ends
  have sign (at' : Nat) : Reader.step ⟨.operand, level, outer⟩ at' '-' =
      .ok ⟨.operand, { level with minuses := level.minuses + 1 }, outer⟩ := rfl
  -- one more sign waits, so the operand is negated before the others apply
  have complete (v : Value) :
      Level.complete { level with minuses := level.minuses + 1 } v = v.negate >>= fun w => level.complete w := by
    simp only [Level.complete, negateTimes, bind_assoc]
  rw [List.append_assoc, List.cons_append, Reader.skip_blank _ (.inl rfl) lead _ position blank,
    Reader.read_step _ _ _ _ _ (sign _), operand _ outer _ rest ends, Expr.denote, bind_assoc, position_after]
  refine bind_congr fun v => ?_
  rw [Reader.resume, complete, ← negate_eq_opposite, bind_assoc]
  rfl

theorem reads_group (e : Expr) (lead t trail : Text) (blankLead : lead.isAllBlank = true)
    (blankTrail : trail.isAllBlank = true) (inner : ReadsSum e t) :
    ReadsOperand e (lead ++ '(' :: (t ++ ')' :: trail)) := by
  intro level outer position rest ends
  obtain ⟨last, settled, reading⟩ := inner
  have opens (at' : Nat) : Reader.step ⟨.operand, level, outer⟩ at' '(' = .ok ⟨.operand, {}, level :: outer⟩ := rfl
  have closes (waiting : Option (Value × Operator)) (term : Value) (at' : Nat) :
      Reader.step ⟨.operator term, { sum := waiting }, level :: outer⟩ at' ')' = settle waiting term >>= fun v =>
        level.complete v >>= fun whole => .ok ⟨.operator whole, { sum := level.sum }, outer⟩ := rfl
  have afterGroup : NoDigit (')' :: (trail ++ rest)) := by
    have sign : ¬ IsDigit ')' := by decide
    simpa [NoDigit] using sign
  have position' : position + byteLength lead + '('.utf8Size + byteLength t + ')'.utf8Size + byteLength trail =
      position + byteLength (lead ++ '(' :: (t ++ ')' :: trail)) := by
    simp only [byte_length_append, byteLength]
    omega
  rw [← settled, List.append_assoc, List.cons_append, List.append_assoc, List.cons_append,
    Reader.skip_blank _ (.inl rfl) lead _ position blankLead, Reader.read_step _ _ _ _ _ (opens _),
    reading _ _ _ afterGroup, bind_assoc, ← position']
  refine bind_congr fun p => ?_
  rw [Reader.read_cons, closes, bind_assoc]
  refine bind_congr fun v => ?_
  rw [← Reader.resume_blank level outer _ trail rest v blankTrail, bind_assoc]
  rfl

theorem reads_text (lead t trail : Text) (blankLead : lead.isAllBlank = true) (blankTrail : trail.isAllBlank = true)
    (inside : '"' ∉ t) : ReadsOperand (.text t) (lead ++ '"' :: (t ++ '"' :: trail)) := by
  intro level outer position rest ends
  have position' : position + byteLength lead + byteLength ('"' :: (t ++ ['"'])) + byteLength trail =
      position + byteLength (lead ++ '"' :: (t ++ '"' :: trail)) := by
    simp only [byte_length_append, byteLength]
    omega
  rw [List.append_assoc, List.cons_append, List.append_assoc, List.cons_append,
    Reader.skip_blank _ (.inl rfl) lead _ position blankLead, Reader.reads_string level outer _ t _ inside,
    Reader.resume_blank level outer _ trail rest _ blankTrail, position']
  rfl

theorem reads_digits (lead digits trail : Text) (blankLead : lead.isAllBlank = true)
    (blankTrail : trail.isAllBlank = true) (nonempty : digits ≠ []) (each : ∀ c ∈ digits, IsDigit c) :
    ReadsOperand (.number (decimal digits)) (lead ++ digits ++ trail) := by
  intro level outer position rest ends
  have position' : position + byteLength lead + byteLength digits + byteLength trail =
      position + byteLength (lead ++ digits ++ trail) := by
    simp only [byte_length_append]
    omega
  rw [List.append_assoc, List.append_assoc, Reader.skip_blank _ (.inl rfl) lead _ position blankLead,
    Reader.reads_number level outer _ digits _ nonempty each (blank_no_digit trail rest blankTrail ends), ← position']
  refine bind_congr fun v => ?_
  exact Reader.resume_blank level outer _ trail rest v blankTrail

theorem reads_of_derives (rank : Rank) (e : Expr) (t : Text) (derived : Derives rank e t) : Reads rank e t := by
  induction derived with
  | sumOne e t only ih => exact reads_sum_one e t ih
  | sumMore op left right t u additive before after ihBefore ihAfter =>
      exact reads_sum_more op left right t u additive ihBefore ihAfter
  | productOne e t only ih => exact reads_product_one e t ih
  | productMore op left right t u multiplicative before after ihBefore ihAfter =>
      exact reads_product_more op left right t u multiplicative ihBefore ihAfter
  | signedOne e t only ih => exact ih
  | minus e lead t blank operand ih => exact reads_minus e lead t blank ih
  | group e lead t trail blankLead blankTrail inner ih => exact reads_group e lead t trail blankLead blankTrail ih
  | text lead t trail blankLead blankTrail inside => exact reads_text lead t trail blankLead blankTrail inside
  | number lead digits trail blankLead blankTrail nonempty each =>
      exact reads_digits lead digits trail blankLead blankTrail nonempty each

theorem eval_of_derives (e : Expr) (t : Text) (derived : Derives .sum e t) : eval t = e.denote := by
  obtain ⟨last, settled, reading⟩ := reads_of_derives .sum e t derived
  have whole := reading [] 0 [] (by simp [NoDigit])
  have finished (p : Option (Value × Operator) × Value) (position : Nat) :
      Reader.read ⟨.operator p.2, { sum := p.1 }, []⟩ position [] = settle p.1 p.2 := bind_pure _
  simp only [List.append_nil, finished, settled] at whole
  rw [eval, if_neg (by simp [derived.not_blank])]
  exact whole

end Calculator

end CommandShell
