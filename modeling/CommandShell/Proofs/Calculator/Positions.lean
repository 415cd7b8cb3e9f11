import CommandShell.Proofs.Calculator.Derivations
import CommandShell.Proofs.Calculator.Descent
import CommandShell.Proofs.Text.Decoding

set_option autoImplicit false

namespace CommandShell

namespace Calculator

open Text

def Computed {α : Type} (result : Except EvalError α) : Prop :=
  ∀ p fault, result ≠ .error (.malformed p fault)

theorem bind_malformed {α β : Type} (first : Except EvalError α) (next : α → Except EvalError β) (p : Nat)
    (fault : Fault) (computed : Computed first) (failed : (first >>= next) = .error (.malformed p fault)) :
    ∃ a, first = .ok a ∧ next a = .error (.malformed p fault) := by
  cases first with
  | ok a => exact ⟨a, rfl, failed⟩
  | error e =>
      obtain rfl : e = .malformed p fault := Except.error.inj failed
      exact absurd rfl (computed p fault)

theorem computed_bind {α β : Type} (first : Except EvalError α) (next : α → Except EvalError β)
    (computed : Computed first) (others : ∀ a, Computed (next a)) : Computed (first >>= next) := by
  intro p fault failed
  obtain ⟨a, _, later⟩ := bind_malformed first next p fault computed failed
  exact others a p fault later

theorem computed_ok {α : Type} (a : α) : Computed (.ok a) := by
  intro p fault failed
  cases failed

theorem computed_integer (result : Except EvalError Value) (integer : IntegerResult result) : Computed result := by
  intro p fault failed
  cases integer <;> cases failed

theorem computed_of_int (n : Int) : Computed (Value.ofInt n) := by
  rw [of_int_eq_exact]
  exact computed_integer _ (exact_integer n)

theorem computed_apply (op : Operator) (a b : Value) : Computed (apply op a b) := by
  cases a with
  | unit => simp [Computed, apply]
  | str t => cases op <;> simp [Computed, apply]
  | int n =>
      cases b with
      | unit => simp [Computed, apply]
      | str t => simp [Computed, apply]
      | int m => exact computed_integer _ (operate_integer op n.toInt m.toInt)

theorem computed_opposite (v : Value) : Computed (opposite v) := by
  cases v with
  | unit => simp [Computed, opposite]
  | str t => simp [Computed, opposite]
  | int n => exact computed_integer _ (exact_integer _)

theorem computed_negate_times (n : Nat) (v : Value) : Computed (negateTimes n v) := by
  induction n generalizing v with
  | zero => exact computed_ok v
  | succ n ih =>
      apply computed_bind
      · rw [negate_eq_opposite]
        exact computed_opposite v
      · exact ih

theorem computed_settle (waiting : Option (Value × Operator)) (right : Value) : Computed (settle waiting right) := by
  cases waiting with
  | none => exact computed_ok right
  | some pair =>
      rw [settle, combine_eq_apply]
      exact computed_apply pair.2 pair.1 right

theorem computed_complete (level : Level) (v : Value) : Computed (level.complete v) :=
  computed_bind _ _ (computed_negate_times level.minuses v) (computed_settle level.product)

theorem computed_supply (r : Reader) (v : Value) : Computed (r.supply v) :=
  computed_bind _ _ (computed_complete r.level v) fun _ => computed_ok _

-- A character that is not expected, or one that is expected to be a parenthesis.
def Refused (c : Char) (position q : Nat) (fault : Fault) : Prop :=
  isBlank c = false ∧ (fault = .unexpected c ∧ q = position ∨
    fault = .expectedParen ∧ q = position + c.utf8Size ∧ c ≠ ')')

theorem operand_refuses (r : Reader) (position q : Nat) (c : Char) (fault : Fault)
    (failed : r.operand position c = .error (.malformed q fault)) :
    Refused c position q fault ∧ fault = .unexpected c := by
  unfold Reader.operand at failed
  by_cases blank : isBlank c = true
  · simp [blank] at failed
  · have notBlank : isBlank c = false := by simpa using blank
    rw [if_neg blank] at failed
    by_cases sign : c = '-'
    · simp [sign] at failed
    · rw [if_neg sign] at failed
      by_cases opens : c = '('
      · simp [opens] at failed
      · rw [if_neg opens] at failed
        by_cases quotes : c = '"'
        · simp [quotes] at failed
        · rw [if_neg quotes] at failed
          cases digit : digit? c with
          | some d => simp [digit] at failed
          | none =>
              obtain ⟨rfl, rfl⟩ : position = q ∧ .unexpected c = fault := by simpa [digit] using failed
              exact ⟨⟨notBlank, .inl ⟨rfl, rfl⟩⟩, rfl⟩

theorem operator_refuses (r : Reader) (term : Value) (position q : Nat) (c : Char) (fault : Fault)
    (failed : r.operator term position c = .error (.malformed q fault)) :
    Refused c position q fault ∧ ∃ total, settle r.level.sum term = .ok total ∧
      (fault = .expectedParen → r.outer ≠ []) := by
  unfold Reader.operator at failed
  by_cases blank : isBlank c = true
  · simp [blank] at failed
  · have notBlank : isBlank c = false := by simpa using blank
    rw [if_neg blank] at failed
    cases times : Operator.multiplicative? c with
    | some op => simp [times] at failed
    | none =>
        simp only [times] at failed
        obtain ⟨total, settled, rest⟩ := bind_malformed _ _ q fault (computed_settle r.level.sum term) failed
        cases plus : Operator.additive? c with
        | some op => simp [plus, pure, Except.pure] at rest
        | none =>
            simp only [plus] at rest
            cases around : r.outer with
            | nil =>
                obtain ⟨rfl, rfl⟩ : position = q ∧ .unexpected c = fault := by simpa [around] using rest
                refine ⟨⟨notBlank, .inl ⟨rfl, rfl⟩⟩, total, settled, ?_⟩
                intro same
                cases same
            | cons level outer =>
                by_cases closes : c = ')'
                · rw [around] at rest
                  simp only [if_pos closes] at rest
                  exact absurd rest (computed_supply _ total q fault)
                · obtain ⟨rfl, rfl⟩ : position + c.utf8Size = q ∧ .expectedParen = fault := by
                    simpa [around, closes] using rest
                  exact ⟨⟨notBlank, .inr ⟨rfl, rfl, closes⟩⟩, total, settled, fun _ => List.cons_ne_nil _ _⟩

theorem number_refuses (n : Nat) (level : Level) (outer : List Level) (position q : Nat) (c : Char) (fault : Fault)
    (failed : Reader.step ⟨.number n, level, outer⟩ position c = .error (.malformed q fault)) :
    ∃ v term, Value.ofInt n = .ok v ∧ level.complete v = .ok term ∧
      Reader.operator ⟨.number n, { sum := level.sum }, outer⟩ term position c = .error (.malformed q fault) := by
  cases digit : digit? c with
  | some d => simp [Reader.step, digit] at failed
  | none =>
      simp only [Reader.step, digit] at failed
      obtain ⟨v, value, rest⟩ := bind_malformed _ _ q fault (computed_of_int n) failed
      obtain ⟨term, completed, last⟩ := bind_malformed _ _ q fault (computed_complete level v) rest
      exact ⟨v, term, value, completed, last⟩

theorem string_refuses_nothing (start : Nat) (read : Text) (level : Level) (outer : List Level) (position : Nat)
    (c : Char) : Computed (Reader.step ⟨.string start read, level, outer⟩ position c) := by
  by_cases closes : c = '"'
  · simp only [Reader.step, if_pos closes]
    exact computed_supply _ _
  · simp only [Reader.step, if_neg closes]
    exact computed_ok _

theorem step_refuses (r : Reader) (position q : Nat) (c : Char) (fault : Fault)
    (failed : r.step position c = .error (.malformed q fault)) : Refused c position q fault := by
  obtain ⟨phase, level, outer⟩ := r
  cases phase with
  | operand => exact (operand_refuses _ position q c fault failed).1
  | operator term => exact (operator_refuses _ term position q c fault failed).1
  | string start read => exact absurd failed (string_refuses_nothing start read level outer position c q fault)
  | number n =>
      obtain ⟨_, term, _, _, last⟩ := number_refuses n level outer position q c fault failed
      exact (operator_refuses _ term position q c fault last).1

def Awaits (t : Text) : Prop := ∃ front body e, t = front ++ '(' :: body ∧ Derives .sum e body

theorem awaits_of_reads (waiting : Option (Value × Operator)) (outer : List Level) (before inside : Text)
    (term total : Value) (around : outer ≠ []) (outerReads : OuterReads outer before)
    (reads : TermReads waiting term inside) (settled : settle waiting term = .ok total) : Awaits (before ++ inside) := by
  obtain ⟨level, others, rfl⟩ := List.exists_cons_of_ne_nil around
  obtain ⟨front, opened, rfl, _, _⟩ := outerReads
  obtain ⟨sum, product, e, rfl, waits, derived, value⟩ := reads
  obtain ⟨whole, derivedWhole, _⟩ :=
    settle_reads .sum .product Additive .sumOne .sumMore _ sum product e term total waits derived value settled
  exact ⟨front ++ opened, sum ++ product, whole, by simp, derivedWhole⟩

theorem step_awaits (r : Reader) (t : Text) (position q : Nat) (c : Char) (reads : HasRead r t)
    (failed : r.step position c = .error (.malformed q .expectedParen)) : Awaits t := by
  obtain ⟨phase, level, outer⟩ := r
  obtain ⟨before, inside, rfl, outerReads, phaseReads⟩ := reads
  cases phase with
  | operand =>
      obtain ⟨_, same⟩ := operand_refuses _ position q c _ failed
      cases same
  | string start read => exact absurd failed (string_refuses_nothing start read level outer position c q _)
  | operator term =>
      obtain ⟨_, total, settled, around⟩ := operator_refuses _ term position q c _ failed
      exact awaits_of_reads level.sum outer before inside term total (around rfl) outerReads phaseReads.2.2 settled
  | number n =>
      obtain ⟨v, term, value, completed, last⟩ := number_refuses n level outer position q c _ failed
      obtain ⟨_, total, settled, around⟩ := operator_refuses _ term position q c _ last
      have termReads := number_term_reads n level inside v term phaseReads value completed
      exact awaits_of_reads level.sum outer before inside term total (around rfl) outerReads termReads settled

theorem total_refuses (r : Reader) (term : Value) (position q : Nat) (fault : Fault)
    (failed : r.total term position = .error (.malformed q fault)) :
    fault = .expectedParen ∧ q = position ∧ r.outer ≠ [] ∧ ∃ total, settle r.level.sum term = .ok total := by
  obtain ⟨total, settled, rest⟩ := bind_malformed _ _ q fault (computed_settle r.level.sum term) failed
  cases around : r.outer with
  | nil => simp [around, pure, Except.pure] at rest
  | cons level outer =>
      obtain ⟨rfl, rfl⟩ : position = q ∧ .expectedParen = fault := by simpa [around] using rest
      exact ⟨rfl, rfl, List.cons_ne_nil _ _, total, settled⟩

def Opened (r : Reader) (t : Text) : Prop :=
  ∀ start read, r.phase = .string start read →
    ∃ before, t = before ++ '"' :: read.reverse ∧ start = byteLength before + 1 ∧ '"' ∉ read

def Unfinished (t : Text) (q : Nat) : Fault → Prop
  | .unexpected _ => False
  | .unexpectedEnd => q = byteLength t
  | .unterminatedString => ∃ before after, t = before ++ '"' :: after ∧ q = byteLength before + 1 ∧ '"' ∉ after
  | .expectedParen => q = byteLength t ∧ Awaits t

theorem finish_refuses (r : Reader) (t : Text) (q : Nat) (fault : Fault) (reads : HasRead r t) (opened : Opened r t)
    (failed : r.finish (byteLength t) = .error (.malformed q fault)) : Unfinished t q fault := by
  obtain ⟨phase, level, outer⟩ := r
  obtain ⟨before, inside, rfl, outerReads, phaseReads⟩ := reads
  cases phase with
  | operand =>
      obtain ⟨rfl, rfl⟩ : byteLength (before ++ inside) = q ∧ .unexpectedEnd = fault := by
        simpa only [Reader.finish, Except.error.injEq, EvalError.malformed.injEq] using failed
      rfl
  | string start read =>
      obtain ⟨rfl, rfl⟩ : start = q ∧ .unterminatedString = fault := by
        simpa only [Reader.finish, Except.error.injEq, EvalError.malformed.injEq] using failed
      obtain ⟨front, whole, position, unquoted⟩ := opened start read rfl
      exact ⟨front, read.reverse, whole, position, by simpa using unquoted⟩
  | operator term =>
      obtain ⟨rfl, rfl, around, total, settled⟩ := total_refuses _ term _ q fault failed
      exact ⟨rfl, awaits_of_reads level.sum outer before inside term total around outerReads phaseReads.2.2 settled⟩
  | number n =>
      obtain ⟨v, value, rest⟩ := bind_malformed _ _ q fault (computed_of_int n) failed
      obtain ⟨term, completed, last⟩ := bind_malformed _ _ q fault (computed_complete level v) rest
      obtain ⟨rfl, rfl, around, total, settled⟩ := total_refuses _ term _ q fault last
      have termReads := number_term_reads n level inside v term phaseReads value completed
      exact ⟨rfl, awaits_of_reads level.sum outer before inside term total around outerReads termReads settled⟩

theorem supply_phase (r next : Reader) (v : Value) (supplied : r.supply v = .ok next) :
    ∃ term, next.phase = .operator term := by
  obtain ⟨term, _, same⟩ := (except_bind_ok_iff _ _ _).1 supplied
  obtain rfl := Except.ok.inj same
  exact ⟨term, rfl⟩

theorem operator_phase (r next : Reader) (term : Value) (position : Nat) (c : Char)
    (stepped : r.operator term position c = .ok next) :
    next.phase = .operand ∨ ∃ term, next.phase = .operator term := by
  unfold Reader.operator at stepped
  by_cases blank : isBlank c = true
  · obtain rfl : _ = next := by simpa [blank] using stepped
    exact .inr ⟨term, rfl⟩
  · rw [if_neg blank] at stepped
    cases times : Operator.multiplicative? c with
    | some op =>
        obtain rfl : _ = next := by simpa [times] using stepped
        exact .inl rfl
    | none =>
        simp only [times] at stepped
        obtain ⟨total, _, rest⟩ := (except_bind_ok_iff _ _ _).1 stepped
        cases plus : Operator.additive? c with
        | some op =>
            obtain rfl : _ = next := by simpa [plus, pure, Except.pure] using rest
            exact .inl rfl
        | none =>
            cases around : r.outer with
            | nil => simp [plus, around] at rest
            | cons level outer =>
                by_cases closes : c = ')'
                · simp only [plus, around, if_pos closes] at rest
                  exact .inr (supply_phase _ next total rest)
                · simp [plus, around, closes] at rest

theorem opened_of_phase (r : Reader) (t : Text) (phase : r.phase = .operand ∨ ∃ term, r.phase = .operator term) :
    Opened r t := by
  intro start read same
  rcases phase with operand | ⟨term, operator⟩
  · rw [operand] at same
    cases same
  · rw [operator] at same
    cases same

theorem operand_opened (level : Level) (outer : List Level) (t : Text) (c : Char) (next : Reader)
    (stepped : Reader.operand ⟨.operand, level, outer⟩ (byteLength t) c = .ok next) : Opened next (t ++ [c]) := by
  unfold Reader.operand at stepped
  by_cases blank : isBlank c = true
  · obtain rfl : _ = next := by simpa [blank] using stepped
    exact opened_of_phase _ _ (.inl rfl)
  · rw [if_neg blank] at stepped
    by_cases sign : c = '-'
    · obtain rfl : _ = next := by simpa [sign] using stepped
      exact opened_of_phase _ _ (.inl rfl)
    · rw [if_neg sign] at stepped
      by_cases opens : c = '('
      · obtain rfl : _ = next := by simpa [opens] using stepped
        exact opened_of_phase _ _ (.inl rfl)
      · rw [if_neg opens] at stepped
        by_cases quotes : c = '"'
        · subst quotes
          obtain rfl := Except.ok.inj stepped
          rintro start read ⟨⟩
          exact ⟨t, rfl, rfl, by simp⟩
        · rw [if_neg quotes] at stepped
          cases digit : digit? c with
          | none => simp [digit] at stepped
          | some d =>
              obtain rfl : _ = next := by simpa [digit] using stepped
              rintro start read ⟨⟩

theorem step_opened (r next : Reader) (t : Text) (c : Char) (opened : Opened r t)
    (stepped : r.step (byteLength t) c = .ok next) : Opened next (t ++ [c]) := by
  obtain ⟨phase, level, outer⟩ := r
  cases phase with
  | operand => exact operand_opened level outer t c next stepped
  | operator term => exact opened_of_phase _ _ (operator_phase _ next term _ c stepped)
  | string start read =>
      by_cases closes : c = '"'
      · simp only [Reader.step, if_pos closes] at stepped
        exact opened_of_phase _ _ (.inr (supply_phase _ next _ stepped))
      · obtain rfl : _ = next := by simpa [Reader.step, closes] using stepped
        obtain ⟨before, rfl, position, unquoted⟩ := opened start read rfl
        rintro start read ⟨⟩
        refine ⟨before, by simp, position, ?_⟩
        intro member
        rcases List.mem_cons.1 member with same | inside
        · exact closes same.symm
        · exact unquoted inside
  | number n =>
      cases digit : digit? c with
      | some d =>
          obtain rfl : _ = next := by simpa [Reader.step, digit] using stepped
          rintro start read ⟨⟩
      | none =>
          simp only [Reader.step, digit] at stepped
          obtain ⟨v, _, rest⟩ := (except_bind_ok_iff _ _ _).1 stepped
          obtain ⟨term, _, last⟩ := (except_bind_ok_iff _ _ _).1 rest
          exact opened_of_phase _ _ (operator_phase _ next term _ c last)

theorem read_refuses (r : Reader) (t rest : Text) (q : Nat) (fault : Fault) (reads : HasRead r t) (opened : Opened r t)
    (failed : r.read (byteLength t) rest = .error (.malformed q fault)) :
    (∃ last : Reader, HasRead last (t ++ rest) ∧ Opened last (t ++ rest) ∧
      last.finish (byteLength (t ++ rest)) = .error (.malformed q fault)) ∨
    ∃ before c tail, ∃ last : Reader, rest = before ++ c :: tail ∧ HasRead last (t ++ before) ∧
      last.step (byteLength (t ++ before)) c = .error (.malformed q fault) ∧
      ∀ other, r.read (byteLength t) (before ++ other) = last.read (byteLength (t ++ before)) other := by
  induction rest generalizing r t with
  | nil =>
      rw [List.append_nil]
      exact .inl ⟨r, reads, opened, failed⟩
  | cons c more ih =>
      cases stepped : r.step (byteLength t) c with
      | error e =>
          rw [Reader.read_cons, stepped] at failed
          obtain rfl : e = .malformed q fault := Except.error.inj failed
          exact .inr ⟨[], c, more, r, rfl, by simpa using reads, by simpa using stepped, by simp⟩
      | ok next =>
          have position : byteLength t + c.utf8Size = byteLength (t ++ [c]) := by simp [byteLength]
          rw [Reader.read_step r next _ c more stepped, position] at failed
          have others := ih next (t ++ [c]) (step_reads r next t _ c reads stepped)
            (step_opened r next t c opened stepped) failed
          rw [List.append_assoc, List.singleton_append] at others
          rcases others with ended | ⟨before, d, tail, last, rfl, readsLast, refused, same⟩
          · exact .inl ended
          · rw [List.append_assoc, List.singleton_append] at readsLast refused same
            refine .inr ⟨c :: before, d, tail, last, rfl, readsLast, refused, fun other => ?_⟩
            rw [List.cons_append, Reader.read_step r next _ c _ stepped, position]
            exact same other

-- Where the faults of `t` are: the position is that of the character that is not expected, and no text with the same
-- bytes up to its end has another result; or that of the end; or the one behind a double quote that no other follows;
-- or, where an expression in an open parenthesis is complete, that of the end or the one behind the next character.
def FoundAt (t : Text) (p : Nat) : Fault → Prop
  | .unexpected c => (∃ before after, t = before ++ c :: after ∧ p = byteLength before) ∧
      ∀ u, (Text.utf8 u).take (p + c.utf8Size) = (Text.utf8 t).take (p + c.utf8Size) →
        eval u = .error (.malformed p (.unexpected c))
  | .unexpectedEnd => p = byteLength t
  | .unterminatedString => ∃ before after, t = before ++ '"' :: after ∧ p = byteLength before + 1 ∧ '"' ∉ after
  | .expectedParen => p = byteLength t ∧ Awaits t ∨
      ∃ before c after, t = before ++ c :: after ∧ p = byteLength (before ++ [c]) ∧ c ≠ ')' ∧ Awaits before

theorem found_at_end (t : Text) (p : Nat) (fault : Fault) (unfinished : Unfinished t p fault) : FoundAt t p fault := by
  cases fault with
  | unexpected c => exact unfinished.elim
  | unexpectedEnd => exact unfinished
  | unterminatedString => exact unfinished
  | expectedParen => exact .inl unfinished

theorem found_at_boundary (t : Text) (p : Nat) (fault : Fault) (found : FoundAt t p fault) : t.IsBoundary p := by
  have atEnd : t.IsBoundary (byteLength t) := ⟨t, [], by simp, rfl⟩
  cases fault with
  | unexpected c =>
      obtain ⟨⟨before, after, rfl, rfl⟩, _⟩ := found
      exact ⟨before, c :: after, rfl, rfl⟩
  | unexpectedEnd =>
      obtain rfl : p = byteLength t := found
      exact atEnd
  | unterminatedString =>
      obtain ⟨before, after, rfl, rfl, _⟩ := found
      exact ⟨before ++ ['"'], after, by simp, byte_length_append before ['"']⟩
  | expectedParen =>
      rcases found with ⟨rfl, _⟩ | ⟨before, c, after, rfl, rfl, _, _⟩
      · exact atEnd
      · exact ⟨before ++ [c], after, by simp, rfl⟩

theorem not_all_blank (before after : Text) (c : Char) (notBlank : isBlank c = false) :
    ¬ Text.isAllBlank (before ++ c :: after) = true := by
  simp [isAllBlank, notBlank]

theorem same_start (before after u : Text) (c : Char)
    (same : (Text.utf8 u).take (byteLength before + c.utf8Size) =
      (Text.utf8 (before ++ c :: after)).take (byteLength before + c.utf8Size)) :
    ∃ other, u = before ++ c :: other := by
  have length : byteLength before + c.utf8Size = (Text.utf8 (before ++ [c])).length := by
    rw [length_utf8, byte_length_append]
    rfl
  have bytes : Text.utf8 (before ++ c :: after) = Text.utf8 (before ++ [c]) ++ Text.utf8 after := by
    simp [Text.utf8]
  rw [bytes, length, List.take_left] at same
  have split := List.take_append_drop (Text.utf8 (before ++ [c])).length (Text.utf8 u)
  rw [same] at split
  obtain ⟨other, rfl⟩ := starts_of_utf8 (before ++ [c]) u _ split.symm
  exact ⟨other, by simp⟩

theorem found_at_step (before after : Text) (c : Char) (last : Reader) (p : Nat) (fault : Fault)
    (reads : HasRead last before) (refused : last.step (byteLength before) c = .error (.malformed p fault))
    (reaches : ∀ other, Reader.read {} 0 (before ++ other) = last.read (byteLength before) other) :
    FoundAt (before ++ c :: after) p fault := by
  obtain ⟨notBlank, ⟨rfl, rfl⟩ | ⟨rfl, rfl, notClosing⟩⟩ := step_refuses last _ p c fault refused
  · refine ⟨⟨before, after, rfl, rfl⟩, fun u same => ?_⟩
    obtain ⟨other, rfl⟩ := same_start before after u c same
    rw [eval, if_neg (not_all_blank before other c notBlank), reaches, Reader.read_cons, refused]
    rfl
  · refine .inr ⟨before, c, after, rfl, ?_, notClosing, step_awaits last before _ _ c reads refused⟩
    rw [byte_length_append]
    rfl

theorem evaluation_stays_in_text (t : Text) :
    Cursor.evaluate t = some (eval t) ∧
    ∀ p fault, eval t = .error (.malformed p fault) →
      t.IsBoundary p ∧ p ≤ byteLength t ∧ FoundAt t p fault := by
  refine ⟨Cursor.evaluate_eq t, fun p fault failed => ?_⟩
  have start : HasRead {} [] := ⟨[], [], rfl, rfl, level_start⟩
  have notBlank : ¬ t.isAllBlank = true := by
    intro blank
    rw [eval, if_pos blank] at failed
    cases failed
  have found : FoundAt t p fault := by
    rw [eval, if_neg notBlank] at failed
    rcases read_refuses {} [] t p fault start (opened_of_phase _ _ (.inl rfl)) failed with
      ⟨last, reads, opened, refused⟩ | ⟨before, c, after, last, rfl, reads, refused, reaches⟩
    · exact found_at_end t p fault (finish_refuses last t p fault reads opened refused)
    · exact found_at_step before after c last p fault reads refused reaches
  have boundary := found_at_boundary t p fault found
  exact ⟨boundary, boundary_le t p boundary, found⟩

theorem evaluation_stays_in_text_group :
    eval "(\"é\" 3) + 1".toList = .error (.malformed 7 .expectedParen) ∧
      Text.IsBoundary "(\"é\" 3) + 1".toList 7 ∧ FoundAt "(\"é\" 3) + 1".toList 7 .expectedParen ∧
    eval "\"é\" é".toList = .error (.malformed 5 (.unexpected 'é')) ∧
      eval "\"é\" é\" + (".toList = .error (.malformed 5 (.unexpected 'é')) := by
  have group : eval "(\"é\" 3) + 1".toList = .error (.malformed 7 .expectedParen) := rfl
  have letter : eval "\"é\" é".toList = .error (.malformed 5 (.unexpected 'é')) := rfl
  obtain ⟨_, groupFaults⟩ := evaluation_stays_in_text "(\"é\" 3) + 1".toList
  obtain ⟨_, letterFaults⟩ := evaluation_stays_in_text "\"é\" é".toList
  obtain ⟨boundary, _, found⟩ := groupFaults 7 _ group
  obtain ⟨_, _, _, stable⟩ := letterFaults 5 _ letter
  exact ⟨group, boundary, found, letter, stable _ rfl⟩

end Calculator

end CommandShell
